import DeviceBus.Node.Basic
import DeviceBus.Proofs.Registry.Listing
import Mathlib.Data.List.Induction

/-!
# A registry is a list

A roster is a list of entries under their handles, oldest first, and nothing else but a note of the
slots that entries left. A new entry goes to its end under the lowest slot that nobody holds, an
entry that is taken out leaves the others in their order. The slots, generations and order of a
registry do the same: whatever is done to the two of them, they give the same answers and show the
same entries.

## Main results

* `Simulates.perform`, `simulates_after`: one action, and then any number of them, keep a registry
  and a roster alike.
* `mirrors`: what every registry shows, and what it answers next, is read off the list.
-/

namespace DeviceBus

/-- What can be done to a registry. -/
inductive RegistryAction (α : Type) where
  | insert (entry : α)
  | remove (handle : Handle)
  | modify (handle : Handle) (change : α → α)

/-- What comes of it. -/
inductive RegistryAnswer (α : Type) where
  /-- There is no room for the entry. -/
  | refused (error : BusError)
  /-- The entry is stored under a new handle. -/
  | stored (handle : Handle)
  /-- The entry that the handle stood for, if it stood for one. -/
  | found (entry : Option α)
  deriving DecidableEq, Repr

/-- A list of entries under their handles, oldest first. -/
structure Roster (α : Type) where
  capacity : Nat
  pairs : List (Handle × α)
  /-- The slots of the entries that were taken out. -/
  vacated : List Nat

namespace Roster

variable {α : Type}

/-- A roster without entries. -/
def empty (capacity : Nat) : Roster α := ⟨min capacity 65535, [], []⟩

/-- The slots that are held. -/
def slots (roster : Roster α) : List Nat := roster.pairs.map (·.1.slot)

theorem mem_slots_iff {roster : Roster α} {slot : Nat} :
    slot ∈ roster.slots ↔ ∃ pair ∈ roster.pairs, pair.1.slot = slot := List.mem_map

/-- The lowest number that a list lacks. -/
def lowestFree (slots : List Nat) : Nat := (List.range slots.length).findIdx (· ∉ slots)

/-- A slot's generation counts, in 16 bits, the entries that left it. -/
def generation (roster : Roster α) (slot : Nat) : UInt16 := UInt16.ofNat (roster.vacated.count slot)

/-- The handle of the next entry. -/
def nextHandle (roster : Roster α) : Handle :=
  ⟨lowestFree roster.slots, roster.generation (lowestFree roster.slots)⟩

/-- The roster after something was done to it, and what came of that. -/
def perform (roster : Roster α) : RegistryAction α → RegistryAnswer α × Roster α
  | .insert entry =>
    if roster.pairs.length = roster.capacity then (.refused (.registryFull roster.capacity), roster)
    else
      (.stored roster.nextHandle, { roster with pairs := roster.pairs ++ [(roster.nextHandle, entry)] })
  | .remove handle =>
    match roster.pairs.lookup handle with
    | some entry =>
      (.found (some entry),
        { roster with
          pairs := roster.pairs.filter (·.1 ≠ handle)
          vacated := handle.slot :: roster.vacated })
    | none => (.found none, roster)
  | .modify handle change =>
    (.found (roster.pairs.lookup handle),
      { roster with
        pairs := roster.pairs.map fun pair =>
          if pair.1 = handle then (handle, change pair.2) else pair })

/-- The roster that a history leaves behind. -/
def after (capacity : Nat) (history : List (RegistryAction α)) : Roster α :=
  history.foldl (fun roster action => (roster.perform action).2) (empty capacity)

theorem capacity_perform (roster : Roster α) (action : RegistryAction α) :
    (roster.perform action).2.capacity = roster.capacity := by
  unfold perform
  split
  · split <;> rfl
  · split <;> rfl
  · rfl

theorem capacity_after (capacity : Nat) (history : List (RegistryAction α)) :
    (after capacity history).capacity = min capacity 65535 := by
  induction history using List.reverseRecOn with
  | nil => rfl
  | append_singleton history action ih =>
    unfold after at ih ⊢
    rw [List.foldl_append, List.foldl_cons, List.foldl_nil, capacity_perform, ih]

/-! ## The lowest free slot -/

theorem lowestFree_le_length (slots : List Nat) : lowestFree slots ≤ slots.length := by
  have h : lowestFree slots ≤ (List.range slots.length).length := List.findIdx_le_length
  rwa [List.length_range] at h

theorem mem_of_lt_lowestFree {slots : List Nat} {slot : Nat} (h : slot < lowestFree slots) :
    slot ∈ slots := by
  have hnot := List.not_of_lt_findIdx h
  simpa using hnot

/-- Some number up to the length of a list is missing in it. -/
theorem lowestFree_notMem (slots : List Nat) : lowestFree slots ∉ slots := by
  intro hmem
  rcases Nat.lt_or_eq_of_le (lowestFree_le_length slots) with hlt | heq
  · have hplace : lowestFree slots < (List.range slots.length).length := by
      rwa [List.length_range]
    have hfound : decide ((List.range slots.length)[lowestFree slots] ∉ slots) = true :=
      List.findIdx_getElem (p := (· ∉ slots)) (w := hplace)
    rw [List.getElem_range, decide_eq_true_eq] at hfound
    exact hfound hmem
  · -- Every number up to the length would be there, and these are more than there are places.
    have hsubset : List.range (slots.length + 1) ⊆ slots := by
      intro slot hslot
      rw [List.mem_range, Nat.lt_succ_iff] at hslot
      rcases Nat.lt_or_eq_of_le hslot with hbelow | rfl
      · exact mem_of_lt_lowestFree (heq ▸ hbelow)
      · exact heq ▸ hmem
    have hlength := (List.nodup_range.subperm hsubset).length_le
    rw [List.length_range] at hlength
    omega

/-- A free slot above none but held ones is the lowest. -/
theorem eq_lowestFree {slots : List Nat} {slot : Nat} (hfree : slot ∉ slots)
    (hbelow : ∀ lower < slot, lower ∈ slots) : slot = lowestFree slots := by
  rcases Nat.lt_trichotomy slot (lowestFree slots) with hlt | heq | hgt
  · exact absurd (mem_of_lt_lowestFree hlt) hfree
  · exact heq
  · exact absurd (hbelow _ hgt) (lowestFree_notMem slots)

end Roster

namespace Registry

variable {α : Type}

/-- The registry after something was done to it, and what came of that. An entry that is refused
and a handle that stands for nothing leave it as it is. -/
def perform (registry : Registry α) : RegistryAction α → RegistryAnswer α × Registry α
  | .insert entry =>
    match registry.insert entry with
    | .error e => (.refused e, registry)
    | .ok (handle, after) => (.stored handle, after)
  | .remove handle =>
    match registry.remove handle with
    | some (entry, after) => (.found (some entry), after)
    | none => (.found none, registry)
  | .modify handle change => (.found (registry.get? handle), registry.modify handle change)

/-- The registry that a history leaves behind. -/
def after (capacity : Nat) (history : List (RegistryAction α)) : Registry α :=
  history.foldl (fun registry action => (registry.perform action).2) (empty capacity)

theorem WellFormed.freeSlot_eq_lowestFree {registry : Registry α} (wf : registry.WellFormed) :
    registry.freeSlot = Roster.lowestFree registry.order :=
  Roster.eq_lowestFree wf.freeSlot_notMem_order fun _ => wf.mem_order_of_lt_freeSlot

/-- What is refused, and what finds no entry, changes nothing. -/
theorem perform_of_refused (registry : Registry α) (action : RegistryAction α)
    (h : (∃ e, (registry.perform action).1 = .refused e) ∨
      (registry.perform action).1 = .found none) : (registry.perform action).2 = registry := by
  cases action with
  | insert entry =>
    simp only [perform] at h ⊢
    cases hinsert : registry.insert entry with
    | error e => rfl
    | ok result => simp [hinsert] at h
  | remove handle =>
    simp only [perform] at h ⊢
    cases hremove : registry.remove handle with
    | none => rfl
    | some result => simp [hremove] at h
  | modify handle change =>
    have hnone : registry.get? handle = none := by simpa [perform] using h
    simp only [perform, Registry.modify, hnone]

/-! ## Registries that are like a roster -/

/-- A registry is like a roster: it lists the same entries, and its slots are in the generations
that the roster counts. -/
structure Simulates (registry : Registry α) (roster : Roster α) : Prop where
  capacity : registry.capacity = roster.capacity
  wf : registry.WellFormed
  toList : registry.toList = roster.pairs
  generation : ∀ slot, (registry.handleAt slot).generation = roster.generation slot
  length_slots_le : registry.slots.length ≤ registry.capacity

theorem simulates_empty (capacity : Nat) :
    Simulates (empty capacity : Registry α) (Roster.empty capacity) where
  capacity := rfl
  wf := .empty capacity
  toList := rfl
  generation _ := rfl
  length_slots_le := Nat.zero_le _

namespace Simulates

variable {registry : Registry α} {roster : Roster α} (h : Simulates registry roster)

include h in
theorem order : registry.order = roster.slots := by
  rw [h.wf.order_eq_map, h.toList]
  rfl

include h in
theorem size : registry.size = roster.pairs.length := by
  rw [Registry.size, h.order, Roster.slots, List.length_map]

include h in
theorem get? (handle : Handle) : registry.get? handle = roster.pairs.lookup handle := by
  rw [← h.toList, h.wf.lookup_toList]

include h in
/-- A registry never holds more than its capacity. -/
theorem full_iff :
    registry.capacity ≤ registry.size ↔ roster.pairs.length = roster.capacity := by
  have hle := Nat.le_trans h.wf.size_le_length_slots h.length_slots_le
  rw [← h.size, ← h.capacity]
  omega

include h in
theorem nextHandle : registry.handleAt registry.freeSlot = roster.nextHandle := by
  have hslot : registry.freeSlot = Roster.lowestFree roster.slots := by
    rw [h.wf.freeSlot_eq_lowestFree, h.order]
  rw [Roster.nextHandle, ← hslot, ← h.generation]
  rfl

include h in
theorem insert (entry : α) :
    (registry.perform (.insert entry)).1 = (roster.perform (.insert entry)).1 ∧
      Simulates (registry.perform (.insert entry)).2 (roster.perform (.insert entry)).2 := by
  by_cases hfull : roster.pairs.length = roster.capacity
  · have herror : registry.insert entry = .error (.registryFull registry.capacity) :=
      insert_eq_error_iff.2 ⟨h.full_iff.2 hfull, rfl⟩
    simp only [perform, Roster.perform, herror, if_pos hfull, h.capacity]
    exact ⟨trivial, h⟩
  · cases hinsert : registry.insert entry with
    | error e => exact absurd (h.full_iff.1 (insert_eq_error_iff.1 hinsert).1) hfull
    | ok result =>
      obtain ⟨handle, after⟩ := result
      obtain ⟨hhandle, hcapacity, hslots, hlength⟩ := slots_of_insert hinsert
      rw [h.nextHandle] at hhandle
      subst hhandle
      simp only [perform, Roster.perform, hinsert, if_neg hfull]
      refine ⟨trivial, ?_⟩
      constructor
      case capacity => exact hcapacity.trans h.capacity
      case wf => exact h.wf.insert hinsert
      case toList => rw [h.wf.toList_of_insert hinsert, h.toList]
      case generation =>
        intro slot
        rw [hslots]
        exact h.generation slot
      case length_slots_le =>
        -- The free slot is at most as high as there are entries, and there is room for one more.
        have hfree := Roster.lowestFree_le_length registry.order
        rw [← h.wf.freeSlot_eq_lowestFree] at hfree
        have hroom := (not_congr h.full_iff).2 hfull
        have hle := h.length_slots_le
        rw [hlength, hcapacity]
        unfold Registry.size at hroom
        omega

include h in
theorem remove (handle : Handle) :
    (registry.perform (.remove handle)).1 = (roster.perform (.remove handle)).1 ∧
      Simulates (registry.perform (.remove handle)).2 (roster.perform (.remove handle)).2 := by
  have hget := h.get? handle
  cases hremove : registry.remove handle with
  | none =>
    rw [remove_eq_none_iff.1 hremove] at hget
    simp only [perform, Roster.perform, hremove, ← hget]
    exact ⟨trivial, h⟩
  | some result =>
    obtain ⟨entry, after⟩ := result
    obtain ⟨hcapacity, hlength, hgeneration⟩ := slots_of_remove hremove
    rw [(get?_of_remove hremove).1] at hget
    simp only [perform, Roster.perform, hremove, ← hget]
    refine ⟨trivial, ?_⟩
    constructor
    case capacity => exact hcapacity.trans h.capacity
    case wf => exact h.wf.remove hremove
    case toList => rw [h.wf.toList_of_remove hremove, h.toList]
    case generation =>
      intro slot
      rw [hgeneration, h.generation, Roster.generation, Roster.generation, List.count_cons]
      by_cases hslot : slot = handle.slot
      · subst hslot
        simp
      · simp [hslot, Ne.symm hslot]
    case length_slots_le =>
      rw [hlength, hcapacity]
      exact h.length_slots_le

include h in
theorem modify (handle : Handle) (change : α → α) :
    (registry.perform (.modify handle change)).1 = (roster.perform (.modify handle change)).1 ∧
      Simulates (registry.perform (.modify handle change)).2
        (roster.perform (.modify handle change)).2 := by
  obtain ⟨hcapacity, hlength, hslots⟩ := slots_modify registry handle change
  simp only [perform, Roster.perform, h.get?]
  refine ⟨trivial, ?_⟩
  constructor
  case capacity => exact hcapacity.trans h.capacity
  case wf => exact h.wf.modify handle change
  case toList => rw [h.wf.toList_modify, h.toList]
  case generation =>
    intro slot
    rw [hslots]
    exact h.generation slot
  case length_slots_le =>
    rw [hlength, hcapacity]
    exact h.length_slots_le

include h in
/-- What is done to both of them has the same answer and leaves them alike. -/
theorem perform (action : RegistryAction α) :
    (registry.perform action).1 = (roster.perform action).1 ∧
      Simulates (registry.perform action).2 (roster.perform action).2 := by
  cases action with
  | insert entry => exact h.insert entry
  | remove handle => exact h.remove handle
  | modify handle change => exact h.modify handle change

end Simulates

/-- After any history a registry is like a roster that went through the same. -/
theorem simulates_after (capacity : Nat) (history : List (RegistryAction α)) :
    Simulates (after capacity history) (Roster.after capacity history) := by
  induction history using List.reverseRecOn with
  | nil => exact simulates_empty capacity
  | append_singleton history action ih =>
    unfold after Roster.after
    rw [List.foldl_append, List.foldl_append]
    exact (ih.perform action).2

/-! ## The contract -/

/-- What a registry shows and answers is read off a list of entries under their handles. -/
structure Mirrors (capacity : Nat) (registry : Registry Entry) (roster : Roster Entry) : Prop where
  /-- Whatever is done next has the answer that the list gives. -/
  answers : ∀ action, (registry.perform action).1 = (roster.perform action).1
  /-- An entry is refused exactly if the registry is full. -/
  refused : ∀ entry e, registry.insert entry = .error e ↔
    roster.pairs.length = min capacity 65535 ∧ e = .registryFull (min capacity 65535)
  /-- A new entry goes to the end, under the lowest slot that nobody holds. -/
  stored : ∀ entry handle after, registry.insert entry = .ok (handle, after) →
    after.toList = roster.pairs ++ [(handle, entry)] ∧
      (∀ pair ∈ roster.pairs, pair.1.slot ≠ handle.slot) ∧
      ∀ slot < handle.slot, ∃ pair ∈ roster.pairs, pair.1.slot = slot
  /-- What is taken out was listed, and the others stay in their order. -/
  taken : ∀ handle entry after, registry.remove handle = some (entry, after) →
    (handle, entry) ∈ roster.pairs ∧ after.toList = roster.pairs.filter (·.1 ≠ handle)
  /-- Only a handle that is not listed has nothing to take out. -/
  stale : ∀ handle, registry.remove handle = none ↔ ∀ pair ∈ roster.pairs, pair.1 ≠ handle
  /-- What is refused, and what finds no entry, changes nothing. -/
  unchanged : ∀ action, ((∃ e, (registry.perform action).1 = .refused e) ∨
    (registry.perform action).1 = .found none) → (registry.perform action).2 = registry
  toList : registry.toList = roster.pairs
  handles : registry.handles = roster.pairs.map (·.1)
  size : registry.size = roster.pairs.length
  isEmpty : registry.isEmpty = roster.pairs.isEmpty
  get? : ∀ handle, registry.get? handle = roster.pairs.lookup handle
  /-- What is found is the first entry of the list with the property. -/
  findStatus? : ∀ matching, registry.findStatus? matching =
    (roster.pairs.find? fun pair => matching pair.2.status).map (·.1)
  standsFor : ∀ address serial, registry.standsFor address serial = true ↔
    ∃ pair ∈ roster.pairs, pair.2.status.address = address ∧ pair.2.status.serial = serial
  isInUse : ∀ address, registry.isInUse address = true ↔
    ∃ pair ∈ roster.pairs, pair.2.status.address = address
  /-- No handle is listed twice. -/
  nodup : (roster.pairs.map (·.1)).Nodup
  /-- Every slot in the order is there and holds an entry, and its number fits 16 bits. -/
  occupied : ∀ slot ∈ registry.order, slot < 65535 ∧
    ∃ generation entry, registry.slots[slot]? = some ⟨generation, some entry⟩

/-- **A registry is a list**, whatever was done to it. -/
theorem mirrors (capacity : Nat) (history : List (RegistryAction Entry)) :
    Mirrors capacity (after capacity history) (Roster.after capacity history) := by
  have h := simulates_after capacity history
  have hcapacity := Roster.capacity_after capacity history
  constructor
  case answers => exact fun action => (h.perform action).1
  case refused =>
    intro entry e
    rw [insert_eq_error_iff, h.full_iff, h.capacity, hcapacity]
  case stored =>
    intro entry handle after hinsert
    have hfree : handle.slot = Roster.lowestFree (Roster.after capacity history).slots := by
      rw [(slots_of_insert hinsert).1, h.nextHandle]
      rfl
    rw [hfree]
    refine ⟨by rw [h.wf.toList_of_insert hinsert, h.toList], fun pair hpair heq => ?_,
      fun slot hslot => ?_⟩
    · exact Roster.lowestFree_notMem _ (Roster.mem_slots_iff.2 ⟨pair, hpair, heq⟩)
    · exact Roster.mem_slots_iff.1 (Roster.mem_of_lt_lowestFree hslot)
  case taken =>
    intro handle entry after hremove
    rw [← h.toList]
    exact ⟨h.wf.mem_toList_iff.2 (get?_of_remove hremove).1, h.wf.toList_of_remove hremove⟩
  case stale =>
    intro handle
    rw [remove_eq_none_iff, h.get?, List.lookup_eq_none_iff]
    simp only [bne_iff_ne, ne_comm]
  case unchanged => exact perform_of_refused _
  case toList => exact h.toList
  case handles => rw [← h.wf.map_fst_toList, h.toList]
  case size => exact h.size
  case isEmpty => rw [isEmpty, h.order, Roster.slots, List.isEmpty_map]
  case get? => exact h.get?
  case findStatus? =>
    intro matching
    rw [Registry.findStatus?, find?, h.toList]
  case standsFor =>
    intro address serial
    rw [Registry.standsFor, Registry.findStatus?, find?, h.toList]
    simp
  case isInUse =>
    intro address
    rw [Registry.isInUse, Registry.findStatus?, find?, h.toList]
    simp
  case nodup =>
    rw [← h.toList, h.wf.map_fst_toList]
    exact h.wf.nodup_handles
  case occupied =>
    intro slot hslot
    have hlt := Nat.lt_of_lt_of_le (h.wf.lt_length_of_mem_order hslot) h.length_slots_le
    rw [h.capacity, hcapacity] at hlt
    exact ⟨Nat.lt_of_lt_of_le hlt (Nat.min_le_right ..), (h.wf.mem_order_iff slot).1 hslot⟩

/-- The slot of an entry that left goes to the next one, under a handle of its own and at the end
of the order. -/
example :
    let history : List (RegistryAction Nat) := [.insert 7, .insert 8, .remove ⟨0, 0⟩, .insert 9]
    (after 2 history).toList = [(⟨1, 0⟩, 8), (⟨0, 1⟩, 9)] ∧
      ((after 2 history).perform (.remove ⟨0, 0⟩)).1 = .found none := by
  decide

end Registry

end DeviceBus
