import DeviceBus.Registry
import Mathlib.Data.List.Nodup

/-!
# What a registry holds

A registry is read through `get?`. Every operation says what it does to the entries that handles
resolve to, and a well-formed registry lists exactly the entries that resolve: its order names
each occupied slot once.

## Main results

* `get?_set`, `get?_modify`, `get?_of_insert`, `get?_of_remove`: each operation touches one handle.
* `WellFormed.mem_toList_iff`, `WellFormed.mem_handles_iff`: the listing shows what resolves.
* `WellFormed.insert`, `WellFormed.remove`, `WellFormed.modify`: the operations keep a registry
  well formed.
* `handles_modify`, `handles_of_remove`, `WellFormed.handles_of_insert`: the operations keep the
  order in which the entries came.
-/

namespace DeviceBus

namespace Registry

variable {α : Type}

/-! ## Entries under handles -/

theorem get?_eq_some_iff {registry : Registry α} {handle : Handle} {entry : α} :
    registry.get? handle = some entry ↔
      registry.slots[handle.slot]? = some ⟨handle.generation, some entry⟩ := by
  unfold get?
  split
  · rename_i slot hslot
    obtain ⟨generation, content⟩ := slot
    rw [hslot]
    by_cases hgen : generation = handle.generation
    · simp [hgen]
    · simp [hgen]
  · rename_i hnone
    simp [hnone]

@[simp] theorem get?_empty (capacity : Nat) (handle : Handle) :
    (empty capacity : Registry α).get? handle = none := by
  simp [empty, get?]

/-- Two handles to one slot that both resolve are one handle. -/
theorem eq_of_get?_of_slot_eq {registry : Registry α} {h k : Handle} {a b : α}
    (hh : registry.get? h = some a) (hk : registry.get? k = some b) (hslot : h.slot = k.slot) :
    h = k := by
  rw [get?_eq_some_iff] at hh hk
  rw [← hslot, hh] at hk
  simp only [Option.some.injEq, Slot.mk.injEq] at hk
  cases h
  cases k
  simp_all

theorem slot_lt_of_get? {registry : Registry α} {handle : Handle} {entry : α}
    (h : registry.get? handle = some entry) : handle.slot < registry.slots.length := by
  rw [get?_eq_some_iff] at h
  exact (List.getElem?_eq_some_iff.1 h).1

/-- Writing a slot that a handle resolves to changes what that handle resolves to, and no other
handle. -/
theorem get?_write {registry : Registry α} {handle : Handle} {old : α} (content : Option α)
    (h : registry.get? handle = some old) (order : List Nat) (k : Handle) :
    ({ registry with
        slots := registry.slots.set handle.slot ⟨handle.generation, content⟩
        order } : Registry α).get? k =
      if k = handle then content else registry.get? k := by
  have hlt := slot_lt_of_get? h
  have hslot := get?_eq_some_iff.1 h
  obtain ⟨slot, generation⟩ := handle
  obtain ⟨kslot, kgeneration⟩ := k
  simp only [get?, List.getElem?_set, Handle.mk.injEq] at hlt hslot ⊢
  by_cases hs : slot = kslot
  · subst hs
    simp only [hlt, hslot, ↓reduceIte, true_and]
    by_cases hg : generation = kgeneration
    · simp [hg]
    · simp [hg, Ne.symm hg]
  · simp [hs, Ne.symm hs]

theorem get?_set (registry : Registry α) (handle : Handle) (entry : α) (k : Handle) :
    (registry.set handle entry).get? k =
      if k = handle then (registry.get? handle).map fun _ => entry else registry.get? k := by
  unfold set
  split
  · rename_i old hold
    rw [get?_write (some entry) hold registry.order k, hold]
    rfl
  · rename_i hnone
    by_cases hk : k = handle
    · rw [if_pos hk, hk, hnone]
      rfl
    · rw [if_neg hk]

theorem get?_modify (registry : Registry α) (handle : Handle) (change : α → α) (k : Handle) :
    (registry.modify handle change).get? k =
      if k = handle then (registry.get? handle).map change else registry.get? k := by
  unfold modify
  split
  · rename_i entry hentry
    rw [get?_set, hentry]
    rfl
  · rename_i hnone
    by_cases hk : k = handle
    · rw [if_pos hk, hk, hnone]
      rfl
    · rw [if_neg hk]

/-- A new entry gets a handle that resolved to nothing. -/
theorem get?_of_insert {registry after : Registry α} {entry : α} {handle : Handle}
    (h : registry.insert entry = .ok (handle, after)) :
    registry.get? handle = none ∧
      ∀ k, after.get? k = if k = handle then some entry else registry.get? k := by
  unfold insert at h
  split at h
  · cases h
  · dsimp only at h
    split at h
    · rename_i s hs
      simp only [Except.ok.injEq, Prod.mk.injEq] at h
      obtain ⟨rfl, rfl⟩ := h
      have hlt : registry.freeSlot < registry.slots.length := (List.getElem?_eq_some_iff.1 hs).1
      have hfree : s.entry = none := by
        obtain ⟨_, hs⟩ := List.getElem?_eq_some_iff.1 hs
        have hnone : registry.slots[registry.freeSlot].entry.isNone = true :=
          @List.findIdx_getElem _ (fun slot : Slot α => slot.entry.isNone) registry.slots hlt
        rw [hs] at hnone
        exact Option.isNone_iff_eq_none.1 hnone
      refine ⟨by simp [get?, hs, hfree], fun k => ?_⟩
      obtain ⟨kslot, kgeneration⟩ := k
      simp only [get?, List.getElem?_set, Handle.mk.injEq]
      by_cases hk : registry.freeSlot = kslot
      · subst hk
        simp only [hlt, hs, ↓reduceIte, true_and, hfree]
        by_cases hg : s.generation = kgeneration
        · simp [hg]
        · simp [hg, Ne.symm hg]
      · simp [hk, Ne.symm hk]
    · rename_i hs
      simp only [Except.ok.injEq, Prod.mk.injEq] at h
      obtain ⟨rfl, rfl⟩ := h
      have hlast : registry.freeSlot = registry.slots.length := by
        have hle : registry.freeSlot ≤ registry.slots.length := List.findIdx_le_length
        have hge := List.getElem?_eq_none_iff.1 hs
        omega
      refine ⟨by simp [get?, hs], fun k => ?_⟩
      obtain ⟨kslot, kgeneration⟩ := k
      simp only [get?, List.getElem?_append, Handle.mk.injEq, hlast]
      by_cases hk : kslot < registry.slots.length
      · simp [hk, Nat.ne_of_lt hk]
      · by_cases hk' : kslot = registry.slots.length
        · subst hk'
          by_cases hg : 0 = kgeneration
          · simp [hg]
          · simp [hg, Ne.symm hg]
        · have hout : ([⟨0, some entry⟩] : List (Slot α))[kslot - registry.slots.length]? = none :=
            List.getElem?_eq_none_iff.2 (by simp only [List.length_singleton]; omega)
          simp [hk, hk', hout]

/-- What is taken out no longer resolves, and everything else still does. -/
theorem get?_of_remove {registry after : Registry α} {entry : α} {handle : Handle}
    (h : registry.remove handle = some (entry, after)) :
    registry.get? handle = some entry ∧
      ∀ k, after.get? k = if k = handle then none else registry.get? k := by
  unfold remove at h
  split at h
  · rename_i old hold
    simp only [Option.some.injEq, Prod.mk.injEq] at h
    obtain ⟨rfl, rfl⟩ := h
    refine ⟨hold, fun k => ?_⟩
    have hlt := slot_lt_of_get? hold
    have hslot := get?_eq_some_iff.1 hold
    obtain ⟨slot, generation⟩ := handle
    obtain ⟨kslot, kgeneration⟩ := k
    simp only [get?, List.getElem?_set, Handle.mk.injEq] at hlt hslot ⊢
    by_cases hs : slot = kslot
    · subst hs
      simp only [hlt, hslot, ↓reduceIte, true_and]
      by_cases hg : generation = kgeneration
      · simp [hg]
      · simp [hg, Ne.symm hg]
    · simp [hs, Ne.symm hs]
  · cases h

/-! ## The order of the handles -/

/-- What a slot is listed as. -/
def handleAt (registry : Registry α) (slot : Nat) : Handle :=
  ⟨slot, (registry.slots[slot]?.map (·.generation)).getD 0⟩

theorem handles_eq_map (registry : Registry α) :
    registry.handles = registry.order.map registry.handleAt := rfl

/-- Who resolves is listed as itself. -/
theorem handleAt_of_get? {registry : Registry α} {handle : Handle} {entry : α}
    (h : registry.get? handle = some entry) : registry.handleAt handle.slot = handle := by
  rw [get?_eq_some_iff] at h
  unfold handleAt
  rw [h]
  rfl

/-- A slot that keeps its generation is listed as before. -/
theorem handleAt_set {registry : Registry α} {handle : Handle} {entry : α}
    (h : registry.get? handle = some entry) (content : Option α) (slot : Nat) :
    ((registry.slots.set handle.slot ⟨handle.generation, content⟩)[slot]?.map
      (·.generation)).getD 0 = (registry.slots[slot]?.map (·.generation)).getD 0 := by
  have hlt := slot_lt_of_get? h
  rw [get?_eq_some_iff] at h
  rw [List.getElem?_set]
  by_cases hs : handle.slot = slot
  · subst hs
    rw [if_pos rfl, if_pos hlt, h]
    rfl
  · rw [if_neg hs]

theorem handles_set (registry : Registry α) (handle : Handle) (entry : α) :
    (registry.set handle entry).handles = registry.handles := by
  unfold set
  split
  · rename_i old hold
    rw [handles_eq_map, handles_eq_map]
    refine List.map_congr_left fun slot _ => ?_
    unfold handleAt
    rw [handleAt_set hold]
  · rfl

theorem handles_modify (registry : Registry α) (handle : Handle) (change : α → α) :
    (registry.modify handle change).handles = registry.handles := by
  unfold modify
  split
  · exact registry.handles_set handle _
  · rfl

/-- A new entry goes to the end of the order. -/
theorem order_of_insert {registry after : Registry α} {entry : α} {handle : Handle}
    (h : registry.insert entry = .ok (handle, after)) :
    after.order = registry.order ++ [handle.slot] := by
  unfold insert at h
  split at h
  · cases h
  · dsimp only at h
    split at h <;>
      · simp only [Except.ok.injEq, Prod.mk.injEq] at h
        obtain ⟨rfl, rfl⟩ := h
        rfl

/-- Taking an entry out leaves the others in their order. -/
theorem handles_of_remove {registry after : Registry α} {entry : α} {handle : Handle}
    (h : registry.remove handle = some (entry, after)) :
    after.handles = registry.handles.filter (· ≠ handle) := by
  unfold remove at h
  split at h
  · rename_i old hold
    simp only [Option.some.injEq, Prod.mk.injEq] at h
    obtain ⟨rfl, rfl⟩ := h
    rw [handles_eq_map, handles_eq_map, List.filter_map]
    have hslots : registry.order.filter ((fun k => decide (k ≠ handle)) ∘ registry.handleAt) =
        registry.order.filter (· != handle.slot) := by
      refine List.filter_congr fun slot _ => ?_
      rw [Function.comp_apply, Bool.eq_iff_iff, decide_eq_true_iff, bne_iff_ne]
      constructor
      · rintro hne rfl
        exact hne (handleAt_of_get? hold)
      · rintro hne rfl
        exact hne rfl
    rw [hslots]
    refine List.map_congr_left fun slot hslot => ?_
    have hne : slot ≠ handle.slot := bne_iff_ne.1 (List.mem_filter.1 hslot).2
    unfold handleAt
    rw [List.getElem?_set_ne hne.symm]
  · cases h

/-! ## Well-formed registries -/

/-- The order names every occupied slot once, and no other slot. -/
structure WellFormed (registry : Registry α) : Prop where
  nodup : registry.order.Nodup
  mem_order_iff : ∀ slot,
    slot ∈ registry.order ↔ ∃ generation entry, registry.slots[slot]? = some ⟨generation, some entry⟩

namespace WellFormed

theorem empty (capacity : Nat) : (Registry.empty capacity : Registry α).WellFormed where
  nodup := List.nodup_nil
  mem_order_iff slot := by simp [Registry.empty]

/-- The pair in a slot is an entry with the handle that resolves to it. -/
theorem atSlot?_eq_some_iff {registry : Registry α} {slot : Nat} {handle : Handle} {entry : α} :
    registry.atSlot? slot = some (handle, entry) ↔
      handle.slot = slot ∧ registry.get? handle = some entry := by
  rw [get?_eq_some_iff]
  unfold atSlot?
  obtain ⟨hslot, hgeneration⟩ := handle
  split
  · rename_i s hs
    obtain ⟨generation, content⟩ := s
    constructor
    · intro h
      simp only [Option.map_eq_some_iff, Prod.mk.injEq, Handle.mk.injEq] at h
      obtain ⟨e, rfl, ⟨rfl, rfl⟩, rfl⟩ := h
      exact ⟨rfl, hs⟩
    · rintro ⟨rfl, h⟩
      rw [hs] at h
      simp only [Option.some.injEq, Slot.mk.injEq] at h
      simp [h.1, h.2]
  · rename_i hs
    constructor
    · intro h
      cases h
    · rintro ⟨rfl, h⟩
      rw [hs] at h
      cases h

variable {registry : Registry α} (wf : registry.WellFormed)

include wf in
theorem mem_toList_iff {handle : Handle} {entry : α} :
    (handle, entry) ∈ registry.toList ↔ registry.get? handle = some entry := by
  rw [toList, List.mem_filterMap]
  constructor
  · rintro ⟨slot, -, h⟩
    exact (atSlot?_eq_some_iff.1 h).2
  · intro h
    refine ⟨handle.slot, ?_, atSlot?_eq_some_iff.2 ⟨rfl, h⟩⟩
    rw [wf.mem_order_iff]
    exact ⟨handle.generation, entry, get?_eq_some_iff.1 h⟩

include wf in
theorem mem_handles_iff {handle : Handle} :
    handle ∈ registry.handles ↔ ∃ entry, registry.get? handle = some entry := by
  rw [handles, List.mem_map]
  constructor
  · rintro ⟨slot, hslot, rfl⟩
    obtain ⟨generation, entry, hs⟩ := (wf.mem_order_iff slot).1 hslot
    refine ⟨entry, get?_eq_some_iff.2 ?_⟩
    simp [hs]
  · rintro ⟨entry, h⟩
    rw [get?_eq_some_iff] at h
    refine ⟨handle.slot, (wf.mem_order_iff _).2 ⟨_, _, h⟩, ?_⟩
    cases handle
    simp_all

include wf in
/-- No handle is listed twice. -/
theorem nodup_handles : registry.handles.Nodup := by
  rw [handles]
  refine List.Nodup.map_on ?_ wf.nodup
  intro a _ b _ hab
  rw [Handle.mk.injEq] at hab
  exact hab.1

include wf in
theorem find?_eq_none_iff {matching : α → Bool} :
    registry.find? matching = none ↔
      ∀ handle entry, registry.get? handle = some entry → matching entry = false := by
  rw [find?, Option.map_eq_none_iff, List.find?_eq_none]
  constructor
  · intro h handle entry hentry
    simpa using h (handle, entry) (wf.mem_toList_iff.2 hentry)
  · rintro h ⟨handle, entry⟩ hmem
    simpa using h handle entry (wf.mem_toList_iff.1 hmem)

include wf in
theorem get?_of_find?_eq_some {matching : α → Bool} {handle : Handle}
    (h : registry.find? matching = some handle) :
    ∃ entry, registry.get? handle = some entry ∧ matching entry = true := by
  rw [find?, Option.map_eq_some_iff] at h
  obtain ⟨⟨k, entry⟩, hfind, rfl⟩ := h
  exact ⟨entry, wf.mem_toList_iff.1 (List.mem_of_find?_eq_some hfind),
    by simpa using List.find?_some hfind⟩

include wf in
/-- Every handle of the listing stands for an entry. -/
theorem map_fst_toList : registry.toList.map (·.1) = registry.handles := by
  rw [toList, handles_eq_map, List.map_filterMap, ← List.filterMap_eq_map]
  refine List.filterMap_congr fun slot hslot => ?_
  obtain ⟨generation, entry, hs⟩ := (wf.mem_order_iff slot).1 hslot
  simp [atSlot?, handleAt, hs]

include wf in
/-- What is found is the oldest entry with the property. -/
theorem handles_of_find?_eq_some {matching : α → Bool} {handle : Handle}
    (h : registry.find? matching = some handle) :
    ∃ earlier later, registry.handles = earlier ++ handle :: later ∧
      ∀ k ∈ earlier, ∀ entry, registry.get? k = some entry → matching entry = false := by
  rw [find?, Option.map_eq_some_iff] at h
  obtain ⟨⟨k, entry⟩, hfind, rfl⟩ := h
  obtain ⟨-, earlier, later, hlist, hnone⟩ := List.find?_eq_some_iff_append.1 hfind
  refine ⟨earlier.map (·.1), later.map (·.1), ?_, fun j hj entry' hentry' => ?_⟩
  · rw [← wf.map_fst_toList, hlist, List.map_append, List.map_cons]
  · obtain ⟨⟨k', found⟩, hmem, rfl⟩ := List.mem_map.1 hj
    have hlisted : (k', found) ∈ registry.toList := by
      rw [hlist]
      exact List.mem_append_left _ hmem
    rw [wf.mem_toList_iff.1 hlisted] at hentry'
    cases hentry'
    simpa using hnone _ hmem

/-! ## The operations keep a registry well formed -/

include wf in
theorem set (handle : Handle) (entry : α) : (registry.set handle entry).WellFormed := by
  unfold Registry.set
  split
  · rename_i old hold
    refine ⟨wf.nodup, fun slot => ?_⟩
    rw [wf.mem_order_iff slot, List.getElem?_set]
    by_cases hs : handle.slot = slot
    · subst hs
      rw [get?_eq_some_iff.1 hold]
      simp [slot_lt_of_get? hold]
    · simp [hs]
  · exact wf

include wf in
theorem modify (handle : Handle) (change : α → α) :
    (registry.modify handle change).WellFormed := by
  unfold Registry.modify
  split
  · exact wf.set _ _
  · exact wf

include wf in
theorem insert {after : Registry α} {entry : α} {handle : Handle}
    (h : registry.insert entry = .ok (handle, after)) : after.WellFormed := by
  have hget := (get?_of_insert h).1
  have hall := (get?_of_insert h).2
  have horder := order_of_insert h
  -- The slot was free: an occupied slot would resolve under its own generation.
  have hfree : handle.slot ∉ registry.order := by
    intro hmem
    obtain ⟨generation, old, hold⟩ := (wf.mem_order_iff _).1 hmem
    have hk := hall ⟨handle.slot, generation⟩
    have hresolves : registry.get? ⟨handle.slot, generation⟩ = some old :=
      get?_eq_some_iff.2 hold
    by_cases heq : (⟨handle.slot, generation⟩ : Handle) = handle
    · rw [heq, hget] at hresolves
      cases hresolves
    · rw [if_neg heq, hresolves] at hk
      have hnew : after.get? handle = some entry := by rw [hall, if_pos rfl]
      exact heq (eq_of_get?_of_slot_eq hk hnew rfl)
  refine ⟨?_, fun slot => ?_⟩
  · rw [horder]
    exact List.nodup_append.2 ⟨wf.nodup, List.nodup_singleton _, by
      intro a ha b hb hab
      rw [List.mem_singleton] at hb
      exact hfree (hb ▸ hab ▸ ha)⟩
  · have hoccupied : ∀ r : Registry α, (∃ g e, r.slots[slot]? = some ⟨g, some e⟩) ↔
        ∃ g e, r.get? ⟨slot, g⟩ = some e := by
      intro r
      simp only [get?_eq_some_iff]
    rw [horder, List.mem_append, List.mem_singleton, wf.mem_order_iff slot, hoccupied, hoccupied]
    constructor
    · rintro (⟨g, e, hg⟩ | rfl)
      · refine ⟨g, e, ?_⟩
        rw [hall, if_neg, hg]
        intro heq
        rw [heq, hget] at hg
        cases hg
      · exact ⟨handle.generation, entry, by rw [hall, if_pos rfl]⟩
    · rintro ⟨g, e, hg⟩
      rw [hall] at hg
      by_cases heq : (⟨slot, g⟩ : Handle) = handle
      · exact .inr (congrArg Handle.slot heq)
      · rw [if_neg heq] at hg
        exact .inl ⟨g, e, hg⟩

include wf in
theorem remove {after : Registry α} {entry : α} {handle : Handle}
    (h : registry.remove handle = some (entry, after)) : after.WellFormed := by
  unfold Registry.remove at h
  split at h
  · rename_i old hold
    simp only [Option.some.injEq, Prod.mk.injEq] at h
    obtain ⟨rfl, rfl⟩ := h
    have hlt := slot_lt_of_get? hold
    refine ⟨wf.nodup.filter _, fun slot => ?_⟩
    rw [List.mem_filter, wf.mem_order_iff slot, List.getElem?_set]
    by_cases hs : handle.slot = slot
    · subst hs
      simp [hlt]
    · simp [hs, Ne.symm hs]
  · cases h

include wf in
/-- A new entry is listed last. -/
theorem handles_of_insert {after : Registry α} {entry : α} {handle : Handle}
    (h : registry.insert entry = .ok (handle, after)) :
    after.handles = registry.handles ++ [handle] := by
  have hnew : after.get? handle = some entry := by rw [(get?_of_insert h).2, if_pos rfl]
  have horder := order_of_insert h
  rw [handles_eq_map, handles_eq_map, horder, List.map_append, List.map_singleton,
    handleAt_of_get? hnew]
  refine congrArg (· ++ [handle]) (List.map_congr_left fun slot hslot => ?_)
  -- An occupied slot resolves before and after, under the handle that it is listed as.
  obtain ⟨generation, old, hold⟩ := (wf.mem_order_iff slot).1 hslot
  have hbefore : registry.get? ⟨slot, generation⟩ = some old := get?_eq_some_iff.2 hold
  have hafter : after.get? ⟨slot, generation⟩ = some old := by
    rw [(get?_of_insert h).2, if_neg, hbefore]
    intro heq
    rw [heq, (get?_of_insert h).1] at hbefore
    cases hbefore
  exact (handleAt_of_get? hafter).trans (handleAt_of_get? hbefore).symm

end WellFormed

end Registry

end DeviceBus
