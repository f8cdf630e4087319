import DeviceBus.Proofs.Registry.Roster

/-!
# Generations

A slot's generation counts, in 16 bits, how often an entry was taken out of it, and a handle stands
for whatever is in its slot while the generation is the handle's. So a handle that an insertion gave
out stands for its entry until that is taken out, and for nothing until the slot has been emptied
65536 times: then the count is back, and the next entry of the slot has the same handle.

The entries that leave a slot are counted along a history. In between, a handle that stands for an
entry stands for what the changes under it made of the entry.

## Main results

* `generation_performAll`: the generation of a slot is what it was, plus the entries that left.
* `get?_performAll`: while none leaves, a handle stands for the same entry.
* `origin_of_get?_performAll`: how a handle came to stand for something.
* `departures_eq_vacates`: where entries do not both come and go, the ends tell how many left.
* `lapses_of_get?`: what is left of a handle that was given out.
-/

namespace DeviceBus

namespace RegistryAction

variable {α : Type}

/-- Whether an entry comes by the action. -/
def isInsert : RegistryAction α → Bool
  | insert _ => true
  | _ => false

/-- Whether an entry may go by the action. -/
def isRemove : RegistryAction α → Bool
  | remove _ => true
  | _ => false

end RegistryAction

namespace Registry

variable {α : Type}

/-- What is in a slot. -/
def occupant? (registry : Registry α) (slot : Nat) : Option α :=
  registry.slots[slot]?.bind (·.entry)

/-- The registry that a history makes of another. -/
def performAll (registry : Registry α) (history : List (RegistryAction α)) : Registry α :=
  history.foldl (fun registry action => (registry.perform action).2) registry

/-- How many entries an action takes out of a slot. -/
def leaves (registry : Registry α) (slot : Nat) : RegistryAction α → Nat
  | .remove handle => if handle.slot = slot ∧ (registry.get? handle).isSome then 1 else 0
  | .insert _ | .modify _ _ => 0

/-- How many entries a history takes out of a slot. -/
def departures (slot : Nat) : Registry α → List (RegistryAction α) → Nat
  | _, [] => 0
  | registry, action :: rest =>
    registry.leaves slot action + departures slot (registry.perform action).2 rest

/-- What an action makes of the entry of a handle. -/
def changedBy (handle : Handle) (entry : α) : RegistryAction α → α
  | .modify other change => if handle = other then change entry else entry
  | .insert _ | .remove _ => entry

/-- What the changes of a history make of the entry of a handle. -/
def changed (handle : Handle) (history : List (RegistryAction α)) (entry : α) : α :=
  history.foldl (changedBy handle) entry

variable {registry : Registry α} {handle : Handle} {action : RegistryAction α} {entry found : α}

theorem performAll_append (earlier later : List (RegistryAction α)) :
    registry.performAll (earlier ++ later) = (registry.performAll earlier).performAll later :=
  List.foldl_append

theorem departures_append (slot : Nat) (earlier later : List (RegistryAction α)) :
    registry.departures slot (earlier ++ later) =
      registry.departures slot earlier + (registry.performAll earlier).departures slot later := by
  induction earlier generalizing registry with
  | nil => exact (Nat.zero_add _).symm
  | cons action earlier ih =>
    simp only [List.cons_append, departures, ih, Nat.add_assoc]
    rfl

/-! ## One action -/

/-- A handle stands for what is in its slot, if the slot is in the handle's generation. -/
theorem get?_eq_ite (registry : Registry α) (handle : Handle) :
    registry.get? handle =
      if (registry.handleAt handle.slot).generation = handle.generation
      then registry.occupant? handle.slot else none := by
  unfold get? occupant? handleAt
  cases registry.slots[handle.slot]? with
  | none => simp
  | some slot => rfl

theorem occupant?_of_get? (h : registry.get? handle = some entry) :
    registry.occupant? handle.slot = some entry := by
  unfold occupant?
  rw [get?_eq_some_iff.1 h]
  rfl

/-- What is in a slot is found under the handle that the slot is listed as. -/
theorem get?_handleAt (registry : Registry α) (slot : Nat) :
    registry.get? (registry.handleAt slot) = registry.occupant? slot := by
  rw [get?_eq_ite]
  exact if_pos rfl

/-- Only an entry that leaves moves the generation of a slot. -/
theorem generation_perform (registry : Registry α) (slot : Nat) (action : RegistryAction α) :
    ((registry.perform action).2.handleAt slot).generation =
      (registry.handleAt slot).generation + UInt16.ofNat (registry.leaves slot action) := by
  have hnone : ∀ generation : UInt16, generation + UInt16.ofNat 0 = generation := UInt16.add_zero
  cases action with
  | insert entry =>
    simp only [perform, leaves, hnone]
    split
    · rfl
    · rename_i hinsert
      exact congrArg (·.generation) ((slots_of_insert hinsert).2.2.1 slot)
  | remove handle =>
    simp only [perform, leaves]
    split
    · rename_i entry after hremove
      rw [(slots_of_remove hremove).2.2, (get?_of_remove hremove).1]
      by_cases hslot : slot = handle.slot
      · simp [hslot]
      · simp [hslot, Ne.symm hslot]
    · rename_i hremove
      simp [remove_eq_none_iff.1 hremove]
  | modify handle change =>
    simp only [perform, leaves, hnone]
    exact congrArg (·.generation) ((slots_modify registry handle change).2.2 slot)

/-- While no entry leaves its slot, a handle stands for the same entry. -/
theorem get?_perform (h : registry.get? handle = some entry)
    (hstays : registry.leaves handle.slot action = 0) :
    (registry.perform action).2.get? handle = some (changedBy handle entry action) := by
  cases action with
  | insert newcomer =>
    simp only [perform, changedBy]
    split
    · exact h
    · rename_i fresh after hinsert
      obtain ⟨hnone, hget⟩ := get?_of_insert hinsert
      have hne : handle ≠ fresh := by
        rintro rfl
        rw [h] at hnone
        cases hnone
      rw [hget, if_neg hne, h]
  | remove other =>
    simp only [perform, changedBy]
    split
    · rename_i gone after hremove
      obtain ⟨hfound, hget⟩ := get?_of_remove hremove
      have hne : handle ≠ other := by
        rintro rfl
        simp [leaves, hfound] at hstays
      rw [hget, if_neg hne, h]
    · exact h
  | modify other change =>
    simp only [perform, changedBy]
    rw [get?_modify]
    split
    · rename_i heq
      rw [← heq, h]
      rfl
    · exact h

/-- An action empties a slot that had an entry, or none leaves. -/
theorem leaves_cases (registry : Registry α) (slot : Nat) (action : RegistryAction α) :
    registry.leaves slot action = 0 ∨
      registry.leaves slot action = 1 ∧ (registry.occupant? slot).isSome ∧
        (registry.perform action).2.occupant? slot = none := by
  cases action with
  | remove handle =>
    by_cases hleaves : handle.slot = slot ∧ (registry.get? handle).isSome
    · refine .inr ⟨if_pos hleaves, ?_⟩
      obtain ⟨rfl, hsome⟩ := hleaves
      obtain ⟨gone, hgone⟩ := Option.isSome_iff_exists.1 hsome
      refine ⟨Option.isSome_of_eq_some (occupant?_of_get? hgone), ?_⟩
      simp only [perform]
      split
      · rename_i hremove
        unfold remove at hremove
        rw [hgone] at hremove
        cases hremove
        simp [occupant?, slot_lt_of_get? hgone]
      · rename_i hremove
        cases (remove_eq_none_iff.1 hremove).symm.trans hgone
    · exact .inl (if_neg hleaves)
  | insert | modify => exact .inl rfl

/-- If an entry leaves its slot, a handle stands for nothing. -/
theorem get?_perform_of_leaves (hleaves : registry.leaves handle.slot action ≠ 0) :
    (registry.perform action).2.get? handle = none := by
  rcases registry.leaves_cases handle.slot action with hstays | ⟨-, -, hfree⟩
  · exact absurd hstays hleaves
  · rw [Option.eq_none_iff_forall_ne_some]
    intro found hfound
    cases (occupant?_of_get? hfound).symm.trans hfree

/-- A handle that stood for nothing stands for something only if it was just given out. -/
theorem insert_of_get?_perform (h : registry.get? handle = none)
    (hfound : (registry.perform action).2.get? handle = some found) :
    action = .insert found ∧ registry.insert found = .ok (handle, (registry.perform action).2) := by
  cases action with
  | insert newcomer =>
    simp only [perform] at hfound ⊢
    cases hinsert : registry.insert newcomer with
    | error e => simp [hinsert, h] at hfound
    | ok result =>
      obtain ⟨fresh, after⟩ := result
      rw [hinsert, (get?_of_insert hinsert).2] at hfound
      by_cases heq : handle = fresh
      · rw [if_pos heq] at hfound
        cases hfound
        exact ⟨rfl, heq ▸ hinsert⟩
      · rw [if_neg heq, h] at hfound
        cases hfound
  | remove other =>
    simp only [perform] at hfound
    cases hremove : registry.remove other with
    | none => simp [hremove, h] at hfound
    | some result =>
      rw [hremove, (get?_of_remove hremove).2, h, ite_self] at hfound
      cases hfound
  | modify other change =>
    simp only [perform] at hfound
    rw [get?_modify] at hfound
    split at hfound
    · rename_i heq
      rw [← heq, h] at hfound
      cases hfound
    · rw [h] at hfound
      cases hfound

/-! ## Any history -/

/-- **A slot's generation counts the entries that left it.** -/
theorem generation_performAll (registry : Registry α) (slot : Nat)
    (history : List (RegistryAction α)) :
    ((registry.performAll history).handleAt slot).generation =
      (registry.handleAt slot).generation + UInt16.ofNat (registry.departures slot history) := by
  induction history generalizing registry with
  | nil => exact (UInt16.add_zero _).symm
  | cons action rest ih =>
    have hlater := ih (registry.perform action).2
    rw [generation_perform, UInt16.add_assoc, ← UInt16.ofNat_add] at hlater
    exact hlater

/-- **While no entry leaves its slot, a handle stands for the same entry**, as the changes under the
handle made it. -/
theorem get?_performAll {history : List (RegistryAction α)}
    (h : registry.get? handle = some entry)
    (hstays : registry.departures handle.slot history = 0) :
    (registry.performAll history).get? handle = some (changed handle history entry) := by
  induction history generalizing registry entry with
  | nil => exact h
  | cons action rest ih =>
    obtain ⟨hfirst, hrest⟩ := Nat.add_eq_zero_iff.1 hstays
    exact ih (get?_perform h hfirst) hrest

/-- **How a handle came to stand for something.** Either it has all along, for the same entry, or it
was given out on the way, and no entry has left its slot since. -/
theorem origin_of_get?_performAll {history : List (RegistryAction α)}
    (h : (registry.performAll history).get? handle = some found) :
    (∃ first, registry.get? handle = some first ∧ registry.departures handle.slot history = 0 ∧
      found = changed handle history first) ∨
    ∃ earlier second rest after, history = earlier ++ .insert second :: rest ∧
      (registry.performAll earlier).insert second = .ok (handle, after) ∧
      after.departures handle.slot rest = 0 ∧ found = changed handle rest second := by
  induction history generalizing registry with
  | nil => exact .inl ⟨found, h, rfl, rfl⟩
  | cons action rest ih =>
    rcases ih h with ⟨mid, hmid, hstays, hfound⟩ |
      ⟨earlier, second, later, after, rfl, hinsert, hstays, hfound⟩
    · cases hget : registry.get? handle with
      | none =>
        obtain ⟨rfl, hinsert⟩ := insert_of_get?_perform hget hmid
        exact .inr ⟨[], mid, rest, _, rfl, hinsert, hstays, hfound⟩
      | some first =>
        have hfirst : registry.leaves handle.slot action = 0 := by
          by_contra hleaves
          rw [get?_perform_of_leaves hleaves] at hmid
          cases hmid
        rw [get?_perform hget hfirst] at hmid
        cases hmid
        refine .inl ⟨first, rfl, ?_, hfound⟩
        rw [departures, hfirst, hstays]
    · exact .inr ⟨action :: earlier, second, later, after, rfl, hinsert, hstays, hfound⟩

/-! ## Slots that were emptied -/

variable {slot : Nat}

/-- How many entries left a slot of which only the ends are seen: one, if it is free at last. -/
def vacates (slot : Nat) (before after : Registry α) : Nat :=
  if (before.occupant? slot).isSome ∧ after.occupant? slot = none then 1 else 0

/-- A slot that has an entry keeps one while none leaves. -/
theorem isSome_occupant?_performAll {history : List (RegistryAction α)}
    (h : (registry.occupant? slot).isSome) (hstays : registry.departures slot history = 0) :
    ((registry.performAll history).occupant? slot).isSome := by
  obtain ⟨entry, hentry⟩ := Option.isSome_iff_exists.1 h
  rw [← get?_handleAt] at hentry
  exact Option.isSome_of_eq_some (occupant?_of_get? (get?_performAll hentry hstays))

/-- A free slot stays free if no entry comes. -/
theorem occupant?_perform_of_free (h : registry.occupant? slot = none)
    (hnone : action.isInsert = false) : (registry.perform action).2.occupant? slot = none := by
  rw [Option.eq_none_iff_forall_ne_some]
  intro found hfound
  rw [← get?_handleAt] at hfound
  cases hget : registry.get? ((registry.perform action).2.handleAt slot) with
  | none =>
    rw [(insert_of_get?_perform hget hfound).1] at hnone
    cases hnone
  | some entry => cases (occupant?_of_get? hget).symm.trans h

/-- If no entry goes, none leaves. -/
theorem departures_of_noRemove {history : List (RegistryAction α)}
    (h : ∀ action ∈ history, action.isRemove = false) :
    registry.departures slot history = 0 := by
  induction history generalizing registry with
  | nil => rfl
  | cons action rest ih =>
    rw [departures, ih fun other hmem => h other (List.mem_cons_of_mem _ hmem)]
    have hfirst := h action List.mem_cons_self
    cases action with
    | remove => cases hfirst
    | insert | modify => rfl

/-- If no entry comes, at most the one in the slot leaves. -/
theorem departures_of_noInsert {history : List (RegistryAction α)}
    (h : ∀ action ∈ history, action.isInsert = false) :
    registry.departures slot history = registry.vacates slot (registry.performAll history) ∧
      (registry.occupant? slot = none → (registry.performAll history).occupant? slot = none) := by
  induction history generalizing registry with
  | nil =>
    refine ⟨(if_neg ?_).symm, id⟩
    rintro ⟨hsome, hnone⟩
    exact Option.not_isSome_iff_eq_none.2 hnone hsome
  | cons action rest ih =>
    obtain ⟨hcount, hfree⟩ := @ih (registry.perform action).2
      fun other hmem => h other (List.mem_cons_of_mem _ hmem)
    have hkeeps : registry.occupant? slot = none →
        (registry.perform action).2.occupant? slot = none := fun hnone =>
      occupant?_perform_of_free hnone (h action List.mem_cons_self)
    refine ⟨?_, fun hnone => hfree (hkeeps hnone)⟩
    rw [departures, hcount]
    rcases registry.leaves_cases slot action with hstays | ⟨hleaves, hsome, hfreed⟩
    · have hsame : ((registry.perform action).2.occupant? slot).isSome ↔
          (registry.occupant? slot).isSome := by
        refine ⟨fun hafter => ?_, fun hbefore => ?_⟩
        · by_contra hnone
          rw [hkeeps (Option.not_isSome_iff_eq_none.1 hnone)] at hafter
          cases hafter
        · have hone : registry.departures slot [action] = 0 :=
            Nat.add_eq_zero_iff.2 ⟨hstays, rfl⟩
          exact isSome_occupant?_performAll hbefore hone
      unfold vacates
      rw [hstays, Nat.zero_add]
      simp only [hsame]
      rfl
    · -- The slot is free from here on, so no other entry leaves it.
      unfold vacates
      rw [hleaves, if_neg (by simp [hfreed]), if_pos ⟨hsome, hfree hfreed⟩]

/-- **The ends of a history tell what left a slot**, unless entries come and go in it. -/
theorem departures_eq_vacates {history : List (RegistryAction α)}
    (h : (∀ action ∈ history, action.isInsert = false) ∨
      ∀ action ∈ history, action.isRemove = false) :
    registry.departures slot history = registry.vacates slot (registry.performAll history) := by
  rcases h with hnoInsert | hnoRemove
  · exact (departures_of_noInsert hnoInsert).1
  · have hstays : registry.departures slot history = 0 := departures_of_noRemove hnoRemove
    rw [hstays]
    refine (if_neg ?_).symm
    rintro ⟨hsome, hnone⟩
    exact Option.not_isSome_iff_eq_none.2 hnone (isSome_occupant?_performAll hsome hstays)

/-! ## Handles that were given out -/

/-- A generation is back after each 65536 entries that left. -/
theorem generation_add_eq_self_iff (generation : UInt16) (left : Nat) :
    generation + UInt16.ofNat left = generation ↔ 65536 ∣ left := by
  rw [← UInt16.toNat_inj, UInt16.toNat_add, UInt16.toNat_ofNat']
  have hlt := generation.toNat_lt
  omega

/-- What is left of a handle that was given out for an entry, after a later history. -/
structure Lapses (registry : Registry α) (handle : Handle) (first : α)
    (later : List (RegistryAction α)) : Prop where
  /-- It stands for something exactly if its slot is taken and the generation is back. -/
  resolves : ((registry.performAll later).get? handle).isSome ↔
    ((registry.performAll later).occupant? handle.slot).isSome ∧
      65536 ∣ registry.departures handle.slot later
  /-- What it stands for is what can be taken out under it. -/
  removes : ((registry.performAll later).remove handle).map (·.1) =
    (registry.performAll later).get? handle
  /-- It is also what can be changed under it. -/
  changes : ∀ change, ((registry.performAll later).modify handle change).get? handle =
    ((registry.performAll later).get? handle).map change
  /-- If it stands for nothing, nothing can be taken out or changed under it. -/
  idle : (registry.performAll later).get? handle = none →
    (registry.performAll later).remove handle = none ∧
      ∀ change, (registry.performAll later).modify handle change = registry.performAll later
  /-- Until an entry leaves its slot, it stands for the one that it was given out for. -/
  same : registry.departures handle.slot later = 0 →
    (registry.performAll later).get? handle = some (changed handle later first)
  /-- It stands for nothing until the generation is back. -/
  lapsed : 0 < registry.departures handle.slot later →
    registry.departures handle.slot later < 65536 →
    (registry.performAll later).get? handle = none
  /-- It stands for another entry only if it was given out for that one too, after the generation
  was back. -/
  reissued : ∀ found, 0 < registry.departures handle.slot later →
    (registry.performAll later).get? handle = some found →
    ∃ earlier second rest after, later = earlier ++ .insert second :: rest ∧
      65536 ≤ registry.departures handle.slot earlier ∧
      (registry.performAll earlier).insert second = .ok (handle, after) ∧
      after.departures handle.slot rest = 0 ∧ found = changed handle rest second

theorem isSome_get?_performAll_iff (h : registry.get? handle = some entry)
    (later : List (RegistryAction α)) :
    ((registry.performAll later).get? handle).isSome ↔
      ((registry.performAll later).occupant? handle.slot).isSome ∧
        65536 ∣ registry.departures handle.slot later := by
  rw [get?_eq_ite, generation_performAll, handleAt_of_get? h, ← generation_add_eq_self_iff]
  split
  · rename_i hback
    exact (and_iff_left hback).symm
  · rename_i hback
    simp [hback]

/-- A handle lapses when an entry leaves its slot, whatever came before it was given out. -/
theorem lapses_of_get? (h : registry.get? handle = some entry)
    (later : List (RegistryAction α)) : Lapses registry handle entry later where
  resolves := isSome_get?_performAll_iff h later
  removes := by
    cases hremove : (registry.performAll later).remove handle with
    | none => exact (remove_eq_none_iff.1 hremove).symm
    | some result => exact (get?_of_remove hremove).1.symm
  changes change := by rw [get?_modify, if_pos rfl]
  idle hnone := by
    refine ⟨remove_eq_none_iff.2 hnone, fun change => ?_⟩
    unfold modify
    rw [hnone]
  same := get?_performAll h
  lapsed hpos hlt := by
    rw [← Option.not_isSome_iff_eq_none, isSome_get?_performAll_iff h]
    rintro ⟨-, hback⟩
    exact absurd (Nat.le_of_dvd hpos hback) (Nat.not_le_of_lt hlt)
  reissued found hpos hfound := by
    rcases origin_of_get?_performAll hfound with ⟨_, -, hnone, -⟩ |
      ⟨earlier, second, rest, after, rfl, hinsert, hstays, hchanged⟩
    · exact absurd hnone (Nat.ne_of_gt hpos)
    · refine ⟨earlier, second, rest, after, rfl, ?_, hinsert, hstays, hchanged⟩
      have hback := (isSome_get?_performAll_iff h _).1 (Option.isSome_of_eq_some hfound)
      have hafter : ((registry.performAll earlier).perform (.insert second)).2 = after := by
        simp only [perform, hinsert]
      rw [departures_append, departures, hafter, hstays] at hpos hback
      exact Nat.le_of_dvd hpos hback.2

end Registry

end DeviceBus
