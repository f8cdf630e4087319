import DeviceBus.Proofs.Node.Turnover

/-!
# Limits

A registry has a fixed capacity and a node's filter is set in one place. Whatever else a node does
leaves the filter alone, and the registry holds no more than it may: entries come by insertion, and
a full registry takes none.

`Houses` says so of a step. An announce is the only happening that is not housed, for it may change
the filter at its end; the registry keeps its limit there too, as under any history.

## Main results

* `houses_visitAll`: the round of an announce.
* `houses_of_becomes`: every happening but an announce.
* `Comes.size_le`: a registry is never fuller than the settings say.
-/

namespace DeviceBus

open ControlPacket

namespace Registry

variable {α : Type} {registry before mid after : Registry α} {handle : Handle} {entry : α}

/-- What was done to a registry left its capacity as it is, and kept it within its capacity. -/
structure Fits (before after : Registry α) : Prop where
  capacity : after.capacity = before.capacity
  size : before.size ≤ before.capacity → after.size ≤ after.capacity

theorem Fits.refl (registry : Registry α) : Fits registry registry := ⟨rfl, id⟩

theorem Fits.trans (h : Fits before mid) (h' : Fits mid after) : Fits before after :=
  ⟨h'.capacity.trans h.capacity, fun hfits => h'.size (h.size hfits)⟩

theorem fits_set (registry : Registry α) (handle : Handle) (entry : α) :
    Fits registry (registry.set handle entry) := by
  unfold set
  split <;> exact ⟨rfl, id⟩

theorem fits_modify (registry : Registry α) (handle : Handle) (change : α → α) :
    Fits registry (registry.modify handle change) := by
  unfold modify
  split
  · exact fits_set registry handle _
  · exact .refl registry

/-- A registry takes an entry only if there is room for it. -/
theorem fits_insert (h : registry.insert entry = .ok (handle, after)) : Fits registry after := by
  have hroom : registry.isFull = false := by
    cases hfull : registry.isFull with
    | false => rfl
    | true =>
      unfold insert at h
      rw [if_pos hfull] at h
      cases h
  simp only [isFull, decide_eq_false_iff_not, Nat.not_le] at hroom
  refine ⟨(slots_of_insert h).2.1, fun _ => ?_⟩
  unfold insert at h
  split at h
  · cases h
  · dsimp only at h
    split at h <;>
    · cases h
      show (registry.order ++ [registry.freeSlot]).length ≤ registry.capacity
      rw [List.length_append, List.length_singleton]
      exact hroom

theorem fits_remove (h : registry.remove handle = some (entry, after)) : Fits registry after := by
  unfold remove at h
  split at h
  · cases h
    exact ⟨rfl, fun hfits => Nat.le_trans (List.length_filter_le _ _) hfits⟩
  · cases h

theorem fits_perform (registry : Registry α) (action : RegistryAction α) :
    Fits registry (registry.perform action).2 := by
  cases action with
  | insert entry =>
    simp only [perform]
    split
    · exact .refl registry
    · rename_i hinsert
      exact fits_insert hinsert
  | remove handle =>
    simp only [perform]
    split
    · rename_i hremove
      exact fits_remove hremove
    · exact .refl registry
  | modify handle change => exact fits_modify registry handle change

theorem Undergoes.fits {kind : RegistryAction α → Prop} (h : Undergoes kind before after) :
    Fits before after :=
  h.keeps Fits.refl Fits.trans fun registry action _ => fits_perform registry action

end Registry

namespace Node

variable {node before after : Node}

/-- A step leaves the filter alone and the registry within its limit. -/
structure Houses (before after : Node) : Prop where
  filter : after.filter = before.filter
  registry : before.registry.Fits after.registry

theorem Undergoes.houses (h : Undergoes (fun _ => True) before after) : Houses before after :=
  ⟨h.filter, h.registry.fits⟩

theorem houses_adopt (node : Node) (handle : Handle) (env : Env) (cp : ControlPacket) :
    Houses node (node.adopt env handle cp) :=
  (undergoes_adopt (fun _ _ => trivial) (fun _ => trivial) env handle node cp).houses

/-- The round of an announce leaves the filter alone. -/
theorem houses_visitAll (env : Env) (cp : ControlPacket) (handles : List Handle) (scan : Scan) :
    Houses scan.node (visitAll env cp handles scan).node :=
  (undergoes_visitAll (fun _ _ => trivial) (fun _ => trivial) env cp handles scan).houses

/-- **Only an announce touches the filter.** -/
theorem houses_of_becomes {x : Happening} {added : List Action}
    (becomes : Becomes x node added after) (silent : ∀ cp, ¬ x.Brings cp) : Houses node after :=
  (undergoes_of_becomes becomes silent).houses

theorem fits_of_becomes {x : Happening} {added : List Action}
    (becomes : Becomes x node added after) : node.registry.Fits after.registry := by
  obtain ⟨history, hafter, -⟩ := exists_history_of_becomes becomes
  have hundergoes : node.registry.Undergoes (fun _ => True) after.registry :=
    ⟨history, fun _ _ => trivial, hafter⟩
  exact hundergoes.fits

/-- **A registry is never fuller than the settings say.** -/
theorem Comes.size_le {settings : NodeSettings} {draws : Draws} {admits : Driver → Prop}
    {xs : List Happening} (h : Comes settings draws admits xs node) :
    node.registry.size ≤ settings.registryCapacity := by
  have hfits : (withDraws settings draws).registry.Fits node.registry := by
    obtain ⟨trace, hcourse⟩ := h
    induction hcourse with
    | here => exact .refl _
    | next _ _ becomes _ ih => exact ih.trans (fits_of_becomes becomes)
  refine Nat.le_trans (hfits.size (Nat.zero_le _)) ?_
  rw [hfits.capacity]
  exact Nat.min_le_left _ _

end Node

end DeviceBus
