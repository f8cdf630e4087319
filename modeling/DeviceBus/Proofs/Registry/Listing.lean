import DeviceBus.Proofs.Registry.View
import Mathlib.Data.List.Perm.Subperm

/-!
# The listing and the slots of a registry

The listing is made of the handles and what they stand for, so each operation does to it what it
does to one handle: a new entry comes last, an entry that is taken out is missing, a changed one
stays where it is. Of the slots an operation touches one, and only taking an entry out moves the
slot's generation.

## Main results

* `WellFormed.toList_of_insert`, `WellFormed.toList_of_remove`, `WellFormed.toList_modify`: what the
  operations do to the listing.
* `WellFormed.lookup_toList`: a handle stands for the entry that is listed under it.
* `slots_of_insert`, `slots_of_remove`, `slots_modify`: what they do to the slots.
-/

namespace DeviceBus

namespace Registry

variable {α : Type}

/-! ## Listings -/

namespace WellFormed

variable {registry after : Registry α} {handle : Handle} {entry : α} (wf : registry.WellFormed)

include wf in
/-- The listing is made of the handles and what they stand for. -/
theorem toList_eq_filterMap :
    registry.toList = registry.handles.filterMap fun k => (registry.get? k).map fun e => (k, e) := by
  rw [toList, handles_eq_map, List.filterMap_map]
  refine List.filterMap_congr fun slot hslot => ?_
  obtain ⟨generation, e, hs⟩ := (wf.mem_order_iff slot).1 hslot
  simp [atSlot?, handleAt, get?, hs]

include wf in
theorem order_eq_map : registry.order = registry.toList.map (·.1.slot) := by
  have h : registry.order = registry.handles.map (·.slot) := by
    rw [handles_eq_map, List.map_map]
    exact (List.map_id _).symm
  rw [h, ← wf.map_fst_toList, List.map_map]
  rfl

include wf in
theorem toList_of_insert (h : registry.insert entry = .ok (handle, after)) :
    after.toList = registry.toList ++ [(handle, entry)] := by
  obtain ⟨hnew, hget⟩ := get?_of_insert h
  rw [(wf.insert h).toList_eq_filterMap, wf.handles_of_insert h, List.filterMap_append,
    wf.toList_eq_filterMap]
  congr 1
  · refine List.filterMap_congr fun k hk => ?_
    obtain ⟨e, he⟩ := wf.mem_handles_iff.1 hk
    have hne : k ≠ handle := by
      rintro rfl
      rw [hnew] at he
      cases he
    rw [hget, if_neg hne]
  · simp [hget]

include wf in
theorem toList_of_remove (h : registry.remove handle = some (entry, after)) :
    after.toList = registry.toList.filter (·.1 ≠ handle) := by
  obtain ⟨-, hget⟩ := get?_of_remove h
  rw [(wf.remove h).toList_eq_filterMap, handles_of_remove h, wf.toList_eq_filterMap,
    List.filter_filterMap, List.filterMap_filter]
  refine List.filterMap_congr fun k _ => ?_
  rw [hget]
  by_cases hk : k = handle
  · cases registry.get? k <;> simp [hk, Option.filter]
  · cases registry.get? k <;> simp [hk, Option.filter]

include wf in
theorem toList_modify (handle : Handle) (change : α → α) :
    (registry.modify handle change).toList = registry.toList.map fun pair =>
      if pair.1 = handle then (handle, change pair.2) else pair := by
  rw [(wf.modify handle change).toList_eq_filterMap, handles_modify, wf.toList_eq_filterMap,
    List.map_filterMap]
  refine List.filterMap_congr fun k _ => ?_
  rw [get?_modify]
  by_cases hk : k = handle
  · subst hk
    cases registry.get? k <;> simp
  · cases registry.get? k <;> simp [hk]

include wf in
/-- A handle stands for the entry that is listed under it. -/
theorem lookup_toList (k : Handle) : registry.toList.lookup k = registry.get? k := by
  have hnodup : (registry.toList.map (·.1)).Nodup := wf.map_fst_toList ▸ wf.nodup_handles
  cases hk : registry.get? k with
  | none =>
    rw [List.lookup_eq_none_iff]
    rintro ⟨j, e⟩ hmem
    rw [wf.mem_toList_iff] at hmem
    rw [bne_iff_ne]
    rintro rfl
    rw [hk] at hmem
    cases hmem
  | some e =>
    rw [← wf.mem_toList_iff] at hk
    obtain ⟨earlier, later, hlist⟩ := List.append_of_mem hk
    rw [List.lookup_eq_some_iff]
    refine ⟨earlier, later, hlist, fun pair hpair => ?_⟩
    rw [hlist, List.map_append, List.map_cons, List.nodup_append] at hnodup
    exact bne_iff_ne.2 (Ne.symm (hnodup.2.2 _ (List.mem_map_of_mem hpair) k (by simp)))

/-! ## Slots -/

include wf in
theorem freeSlot_notMem_order : registry.freeSlot ∉ registry.order := by
  intro hmem
  obtain ⟨generation, e, hs⟩ := (wf.mem_order_iff _).1 hmem
  obtain ⟨hlt, hs⟩ := List.getElem?_eq_some_iff.1 hs
  have hnone : registry.slots[registry.freeSlot].entry.isNone = true :=
    List.findIdx_getElem (p := fun slot : Slot α => slot.entry.isNone) (w := hlt)
  rw [hs] at hnone
  cases hnone

include wf in
theorem mem_order_of_lt_freeSlot {slot : Nat} (h : slot < registry.freeSlot) :
    slot ∈ registry.order := by
  have hlt : slot < registry.slots.length := Nat.lt_of_lt_of_le h List.findIdx_le_length
  have hsome := List.not_of_lt_findIdx h
  rw [wf.mem_order_iff]
  cases hs : registry.slots[slot] with
  | mk generation content =>
    cases content with
    | none => simp [hs] at hsome
    | some e => exact ⟨generation, e, List.getElem?_eq_some_iff.2 ⟨hlt, hs⟩⟩

include wf in
theorem lt_length_of_mem_order {slot : Nat} (h : slot ∈ registry.order) :
    slot < registry.slots.length := by
  obtain ⟨generation, e, hs⟩ := (wf.mem_order_iff slot).1 h
  exact (List.getElem?_eq_some_iff.1 hs).1

include wf in
/-- There are no more entries than slots. -/
theorem size_le_length_slots : registry.size ≤ registry.slots.length := by
  have hsubset : registry.order ⊆ List.range registry.slots.length := fun slot hslot =>
    List.mem_range.2 (wf.lt_length_of_mem_order hslot)
  have hlength := (wf.nodup.subperm hsubset).length_le
  rwa [List.length_range] at hlength

end WellFormed

theorem insert_eq_error_iff {registry : Registry α} {entry : α} {e : BusError} :
    registry.insert entry = .error e ↔
      registry.capacity ≤ registry.size ∧ e = .registryFull registry.capacity := by
  unfold insert isFull
  by_cases hfull : registry.capacity ≤ registry.size
  · simp [hfull, eq_comm]
  · simp only [hfull, decide_false, Bool.false_eq_true, ↓reduceIte, false_and, iff_false]
    split <;> simp

theorem remove_eq_none_iff {registry : Registry α} {handle : Handle} :
    registry.remove handle = none ↔ registry.get? handle = none := by
  unfold remove
  cases registry.get? handle <;> simp

/-- A new entry takes the free slot in its present generation. The other slots stay as they are,
and a slot is added only if all are taken. -/
theorem slots_of_insert {registry after : Registry α} {entry : α} {handle : Handle}
    (h : registry.insert entry = .ok (handle, after)) :
    handle = registry.handleAt registry.freeSlot ∧ after.capacity = registry.capacity ∧
      (∀ slot, after.handleAt slot = registry.handleAt slot) ∧
      after.slots.length = max registry.slots.length (registry.freeSlot + 1) := by
  unfold insert at h
  split at h
  · cases h
  · dsimp only at h
    split at h
    · rename_i s hs
      obtain ⟨rfl, rfl⟩ := Prod.mk.inj (Except.ok.inj h)
      have hlt : registry.freeSlot < registry.slots.length := (List.getElem?_eq_some_iff.1 hs).1
      refine ⟨by simp [handleAt, hs], rfl, fun slot => ?_, ?_⟩
      · unfold handleAt
        rw [List.getElem?_set]
        by_cases hslot : registry.freeSlot = slot
        · subst hslot
          rw [if_pos rfl, if_pos hlt, hs]
          rfl
        · rw [if_neg hslot]
      · rw [List.length_set]
        omega
    · rename_i hs
      obtain ⟨rfl, rfl⟩ := Prod.mk.inj (Except.ok.inj h)
      have hlast : registry.freeSlot = registry.slots.length :=
        Nat.le_antisymm List.findIdx_le_length (List.getElem?_eq_none_iff.1 hs)
      refine ⟨by simp [handleAt, hs], rfl, fun slot => ?_, ?_⟩
      · unfold handleAt
        rw [List.getElem?_append]
        split
        · rfl
        · rename_i hge
          rw [List.getElem?_eq_none_iff.2 (Nat.le_of_not_lt hge), List.getElem?_singleton]
          split <;> rfl
      · rw [List.length_append, List.length_singleton, hlast]
        omega

/-- An entry that is taken out leaves its slot in the next generation. -/
theorem slots_of_remove {registry after : Registry α} {entry : α} {handle : Handle}
    (h : registry.remove handle = some (entry, after)) :
    after.capacity = registry.capacity ∧ after.slots.length = registry.slots.length ∧
      ∀ slot, (after.handleAt slot).generation =
        if slot = handle.slot then (registry.handleAt slot).generation + 1
        else (registry.handleAt slot).generation := by
  unfold remove at h
  split at h
  · rename_i old hold
    obtain ⟨rfl, rfl⟩ := Prod.mk.inj (Option.some.inj h)
    refine ⟨rfl, List.length_set, fun slot => ?_⟩
    by_cases hslot : slot = handle.slot
    · subst hslot
      rw [if_pos rfl, handleAt_of_get? hold]
      simp [handleAt, slot_lt_of_get? hold]
    · rw [if_neg hslot]
      unfold handleAt
      rw [List.getElem?_set_ne (Ne.symm hslot)]
  · cases h

theorem slots_modify (registry : Registry α) (handle : Handle) (change : α → α) :
    (registry.modify handle change).capacity = registry.capacity ∧
      (registry.modify handle change).slots.length = registry.slots.length ∧
      ∀ slot, (registry.modify handle change).handleAt slot = registry.handleAt slot := by
  unfold modify
  split
  · rename_i entry hentry
    unfold set
    rw [hentry]
    refine ⟨rfl, List.length_set, fun slot => ?_⟩
    unfold handleAt
    rw [handleAt_set hentry]
  · exact ⟨rfl, rfl, fun _ => rfl⟩

end Registry

end DeviceBus
