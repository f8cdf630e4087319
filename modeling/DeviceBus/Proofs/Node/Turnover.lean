import DeviceBus.Proofs.Node.Stories
import DeviceBus.Proofs.Node.Turns
import DeviceBus.Proofs.Registry.Generations

/-!
# What a node does to its registry

A node reaches the entries of its registry through handles, and all that it does to them is what
can be done to any registry: entries are changed, new ones are stored, old ones are taken out.
`Undergoes` says so of a step, and of which kind the actions are. Frames take nothing out, ticks
store nothing. So whatever happens, the ends of a happening tell which slots an entry left.

The address filter is another matter: the end of an announce aside, it stays as it is.

## Main results

* `undergoes_receiveFrame`, `undergoes_tick`: frames take nothing out, ticks store nothing.
* `exists_history_of_becomes`: whatever happens is a history of the registry, and as many entries
  leave a slot as its ends tell.
-/

namespace DeviceBus

open ControlPacket

namespace Registry

variable {α : Type} {kind : RegistryAction α → Prop} {registry before mid after : Registry α}
  {handle : Handle} {entry : α}

/-- What was done to a registry are actions of a kind. -/
def Undergoes (kind : RegistryAction α → Prop) (before after : Registry α) : Prop :=
  ∃ history, (∀ action ∈ history, kind action) ∧ after = before.performAll history

theorem Undergoes.refl (kind : RegistryAction α → Prop) (registry : Registry α) :
    Undergoes kind registry registry := ⟨[], nofun, rfl⟩

theorem Undergoes.trans (h : Undergoes kind before mid) (h' : Undergoes kind mid after) :
    Undergoes kind before after := by
  obtain ⟨earlier, hearlier, rfl⟩ := h
  obtain ⟨later, hlater, rfl⟩ := h'
  refine ⟨earlier ++ later, fun action hmem => ?_, (performAll_append earlier later).symm⟩
  rcases List.mem_append.1 hmem with h | h
  · exact hearlier action h
  · exact hlater action h

/-- What every action of a kind does, such a history does. -/
theorem Undergoes.keeps {R : Registry α → Registry α → Prop} (h : Undergoes kind before after)
    (hrefl : ∀ registry, R registry registry) (htrans : ∀ {a b c}, R a b → R b c → R a c)
    (hstep : ∀ registry action, kind action → R registry (registry.perform action).2) :
    R before after := by
  obtain ⟨history, hkind, rfl⟩ := h
  induction history generalizing before with
  | nil => exact hrefl before
  | cons action rest ih =>
    exact htrans (hstep before action (hkind action List.mem_cons_self))
      (@ih (before.perform action).2 fun other hmem => hkind other (List.mem_cons_of_mem _ hmem))

theorem undergoes_perform {action : RegistryAction α} (h : kind action) (registry : Registry α) :
    Undergoes kind registry (registry.perform action).2 :=
  ⟨[action], fun _ hmem => List.mem_singleton.1 hmem ▸ h, rfl⟩

theorem undergoes_modify {change : α → α} (h : kind (.modify handle change))
    (registry : Registry α) : Undergoes kind registry (registry.modify handle change) :=
  undergoes_perform h registry

theorem undergoes_insert (h : kind (.insert entry))
    (hinsert : registry.insert entry = .ok (handle, after)) : Undergoes kind registry after := by
  have hafter : (registry.perform (.insert entry)).2 = after := by
    simp only [perform, hinsert]
  exact hafter ▸ undergoes_perform h registry

theorem undergoes_remove (h : kind (.remove handle))
    (hremove : registry.remove handle = some (entry, after)) : Undergoes kind registry after := by
  have hafter : (registry.perform (.remove handle)).2 = after := by
    simp only [perform, hremove]
  exact hafter ▸ undergoes_perform h registry

/-- To put something in the place of an entry is to change the entry. -/
theorem modify_of_get? (h : registry.get? handle = some entry) (change : α → α) :
    registry.modify handle change = registry.set handle (change entry) := by
  unfold modify
  rw [h]

end Registry

namespace Node

variable {kind : RegistryAction Entry → Prop} {before mid after : Node} {cp : ControlPacket}

/-- A step does actions of a kind to the registry, and leaves the filter alone. -/
structure Undergoes (kind : RegistryAction Entry → Prop) (before after : Node) : Prop where
  filter : after.filter = before.filter
  registry : before.registry.Undergoes kind after.registry

namespace Undergoes

theorem refl (kind : RegistryAction Entry → Prop) (node : Node) : Undergoes kind node node :=
  ⟨rfl, .refl kind _⟩

theorem trans (h : Undergoes kind before mid) (h' : Undergoes kind mid after) :
    Undergoes kind before after := ⟨h'.filter.trans h.filter, h.registry.trans h'.registry⟩

/-- What is done beside the registry and the filter. -/
theorem aside (filter : after.filter = before.filter)
    (registry : after.registry = before.registry) : Undergoes kind before after :=
  ⟨filter, registry ▸ .refl kind _⟩

end Undergoes

/-! ## Parts of a step -/

section Changes

variable (alters : ∀ handle change, kind (.modify handle change)) (env : Env) (handle : Handle)
  (node : Node)

include alters

theorem undergoes_modifyStatus (change : Status → Status) :
    Undergoes kind node (node.modifyStatus handle change) :=
  ⟨rfl, Registry.undergoes_modify (alters handle _) node.registry⟩

theorem undergoes_modifyRegistration (change : Registration → Registration) :
    Undergoes kind node (node.modifyRegistration handle change) :=
  ⟨rfl, Registry.undergoes_modify (alters handle _) node.registry⟩

omit alters in
theorem undergoes_queueEvent (event : EventKind) :
    Undergoes kind node (node.queueEvent handle event) := .aside rfl rfl

omit alters in
theorem undergoes_post (cp : ControlPacket) : Undergoes kind node (node.post env cp) := by
  unfold post
  split <;> exact .aside rfl rfl

theorem undergoes_call (callback : Callback) :
    Undergoes kind node (node.call env handle callback).2 := by
  unfold call
  split
  · rename_i status registration hentry
    refine ⟨rfl, ?_⟩
    dsimp only
    -- The entry that comes back is made of the one that was called.
    rw [← Registry.modify_of_get? hentry fun _ => _]
    exact Registry.undergoes_modify (alters handle _) node.registry
  · exact .refl kind node

theorem undergoes_tellRemoved : Undergoes kind node (node.tellRemoved env handle) :=
  (undergoes_queueEvent handle node .removed).trans (undergoes_call alters env handle _ .removed)

theorem undergoes_recordDevice (adds : ∀ entry, kind (.insert entry)) (cp : ControlPacket) :
    Undergoes kind node (node.recordDevice cp) := by
  refine ⟨filter_recordDevice cp, ?_⟩
  rcases enters cp node with ⟨-, heq⟩ | ⟨-, hinsert⟩ | ⟨-, -, heq⟩
  · exact heq ▸ Registry.undergoes_modify (alters _ _) node.registry
  · exact Registry.undergoes_insert (adds _) hinsert
  · exact heq ▸ .refl kind node.registry

omit alters in
theorem undergoes_foldl {step : Node → Handle → Node}
    (hstep : ∀ node handle, Undergoes kind node (step node handle)) (handles : List Handle) :
    Undergoes kind node (handles.foldl step node) :=
  handles.foldlRecOn step (.refl kind node) fun mid hmid handle _ => hmid.trans (hstep mid handle)

end Changes

/-! ## Frames -/

section Frames

variable (alters : ∀ handle change, kind (.modify handle change))
  (adds : ∀ entry, kind (.insert entry)) (env : Env) (handle : Handle) (node : Node)

include alters adds

variable {handle node} in
/-- What a node does about one entry when an announce comes to it. -/
theorem Turn.undergoes {env : Env} (h : Turn env handle cp node after) :
    Undergoes kind node after := by
  induction h with
  | start => exact .refl kind node
  | restate _ change _ ih => exact ih.trans (undergoes_modifyStatus alters handle _ change)
  | report _ event ih => exact ih.trans (undergoes_queueEvent handle _ event)
  | tell _ callback _ ih => exact ih.trans (undergoes_call alters env handle _ callback)
  | echo _ ih => exact ih.trans (undergoes_post env _ cp.flagged)
  | record _ ih => exact ih.trans (undergoes_recordDevice alters _ adds cp)

theorem undergoes_adopt (cp : ControlPacket) : Undergoes kind node (node.adopt env handle cp) :=
  (turn_adopt env handle cp node).undergoes alters adds

/-- The round of an announce leaves the filter alone. -/
theorem undergoes_visitAll (cp : ControlPacket) (handles : List Handle) (scan : Scan) :
    Undergoes kind scan.node (visitAll env cp handles scan).node :=
  visitAll_of_visit (Undergoes.refl kind) Undergoes.trans env cp
    (fun handle _ scan => (turn_visit env cp handle scan).undergoes alters adds) scan

omit adds in
theorem undergoes_heard (cp : ControlPacket) : Undergoes kind node (node.heard cp) :=
  undergoes_foldl node (fun node handle => undergoes_modifyRegistration alters handle node _)
    node.registry.handles

theorem undergoes_settle (cp : ControlPacket) (scan : Scan) :
    scan.node.registry.Undergoes kind (settle env cp scan).registry := by
  obtain ⟨filter, heq | ⟨-, found, -, heq⟩⟩ := settle_cases env cp scan
  · rw [heq]
    exact .refl kind _
  · rw [heq]
    exact (undergoes_adopt alters adds env found { scan.node with filter } cp).registry

theorem undergoes_receiveAnnounce (cp : ControlPacket) :
    node.registry.Undergoes kind (node.receiveAnnounce env cp).registry := by
  have hheard := undergoes_heard alters node cp
  have hround : Undergoes kind node (node.round env cp).node :=
    hheard.trans (undergoes_visitAll alters adds env cp _ ⟨node.heard cp, false, false⟩)
  rcases receiveAnnounce_cases env cp node with heq | ⟨scan, hscan, -, -, heq⟩
  · rw [heq]
    exact hround.registry
  · rw [hscan] at hround
    rw [heq]
    exact hround.registry.trans (undergoes_settle alters adds env cp scan)

omit adds in
theorem undergoes_receiveData (packet : Packet) :
    Undergoes kind node (node.receiveData env packet) := by
  refine undergoes_foldl node (fun mid handle => ?_) node.registry.handles
  rcases routeTo_eq_or env packet (node.classesAt packet.address) mid handle with
    heq | ⟨_, _, -, -, heq⟩
  · rw [heq]
    exact .refl kind mid
  · rw [heq]
    exact undergoes_call alters env handle mid (.data packet)

omit adds in
/-- A frame that is no announce only changes entries, and leaves the filter alone. -/
theorem undergoes_receiveFrame_of_noHello {frame : Bytes} (h : helloOf? frame = none) :
    Undergoes kind node (node.receiveFrame env frame) := by
  cases node.arrival env frame with
  | announce hello _ => cases h.symm.trans hello
  | pairing _ _ _ heq =>
    rw [heq]
    rcases receivePairing_eq_or env _ node with heq | ⟨handle, -, heq⟩
    · rw [heq]
      exact .refl kind node
    · rw [heq]
      exact undergoes_call alters env handle node _
  | data _ _ _ heq =>
    rw [heq]
    exact undergoes_receiveData alters env node _
  | nothing _ heq =>
    rw [heq]
    exact .refl kind node

/-- A frame changes entries and stores new ones. -/
theorem undergoes_receiveFrame (frame : Bytes) :
    node.registry.Undergoes kind (node.receiveFrame env frame).registry := by
  cases hello : helloOf? frame with
  | none => exact (undergoes_receiveFrame_of_noHello alters env node hello).registry
  | some cp =>
    rw [receiveFrame_of_hello node env hello]
    exact undergoes_receiveAnnounce alters adds env node cp

end Frames

/-! ## Ticks -/

section Ticks

variable (alters : ∀ handle change, kind (.modify handle change))
  (drops : ∀ handle, kind (.remove handle)) (env : Env) (handle : Handle) (node : Node)

include alters

variable {handle node} in
include drops in
/-- What a node does about one entry in a tick. -/
theorem Chore.undergoes {env : Env} (h : Chore env handle node after) :
    Undergoes kind node after := by
  induction h with
  | start => exact .refl kind node
  | restate _ change _ ih => exact ih.trans (undergoes_modifyStatus alters handle _ change)
  | rebook _ change _ ih => exact ih.trans (undergoes_modifyRegistration alters handle _ change)
  | draw _ draws ih => exact ih.trans (.aside rfl rfl)
  | report _ event ih => exact ih.trans (undergoes_queueEvent handle _ event)
  | tell _ callback _ ih => exact ih.trans (undergoes_call alters env handle _ callback)
  | drop _ removed ih => exact ih.trans ⟨rfl, Registry.undergoes_remove (drops handle) removed⟩

omit alters in
theorem undergoes_announce : Undergoes kind node (node.announce env handle) := by
  unfold announce
  split
  · exact .refl kind node
  · split
    · exact .refl kind node
    · dsimp only
      split
      · exact undergoes_post env node _
      · have hnoted : ∀ log, Undergoes kind node { node with log } := fun _ => .aside rfl rfl
        exact (hnoted _).trans (undergoes_post env _ _)

include drops

theorem undergoes_tickEntry : Undergoes kind node (tickEntry env node handle) :=
  tickEntry_of_chore (R := Undergoes kind) Undergoes.trans
    (fun hchore => hchore.undergoes alters drops) (undergoes_announce env handle) node

/-- A tick changes entries and takes some out. -/
theorem undergoes_tick : Undergoes kind node (node.tick env) :=
  undergoes_foldl node (fun node handle => undergoes_tickEntry alters drops env handle node)
    node.registry.handles

end Ticks

/-! ## Coming and going -/

variable {node : Node} {handle : Handle}

theorem undergoes_unregister (alters : ∀ handle change, kind (.modify handle change))
    (drops : ∀ handle, kind (.remove handle)) {env : Env} {left : Option Driver}
    (ok : node.unregister env handle = .ok (left, after)) : Undergoes kind node after := by
  obtain ⟨entry, told, gone, registry, -, htold, hremove, rfl, -⟩ := remove_of_unregister ok
  have hbefore : Undergoes kind node told := by
    rw [htold]
    split
    · exact undergoes_tellRemoved alters env handle node
    · exact .refl kind node
  exact hbefore.trans ⟨rfl, Registry.undergoes_remove (drops handle) hremove⟩

/-! ## Whatever happens -/

/-- **Only an announce touches the filter.** -/
theorem undergoes_of_becomes {x : Happening} {added : List Action}
    (becomes : Becomes x node added after) (silent : ∀ cp, ¬ x.Brings cp) :
    Undergoes (fun _ => True) node after := by
  cases becomes with
  | register ok =>
    obtain ⟨registry, hinsert, rfl⟩ := insert_of_register ok
    exact ⟨rfl, Registry.undergoes_insert trivial hinsert⟩
  | unregister ok => exact undergoes_unregister (fun _ _ => trivial) (fun _ => trivial) ok
  | receive env frame =>
    refine undergoes_receiveFrame_of_noHello (fun _ _ => trivial) env node ?_
    cases hello : helloOf? frame with
    | none => rfl
    | some cp => exact absurd ⟨env, frame, rfl, hello⟩ (silent cp)
  | tick env => exact undergoes_tick (fun _ _ => trivial) (fun _ => trivial) env node
  | work held works => exact undergoes_modifyRegistration (fun _ _ => trivial) _ node _
  | takeLog => exact .aside rfl rfl

/-- In one happening no entry comes, or none goes. -/
theorem exists_kind_of_becomes {x : Happening} {added : List Action}
    (becomes : Becomes x node added after) :
    node.registry.Undergoes (·.isInsert = false) after.registry ∨
      node.registry.Undergoes (·.isRemove = false) after.registry := by
  cases becomes with
  | register ok =>
    obtain ⟨registry, hinsert, rfl⟩ := insert_of_register ok
    exact .inr (Registry.undergoes_insert rfl hinsert)
  | unregister ok => exact .inl (undergoes_unregister (fun _ _ => rfl) (fun _ => rfl) ok).registry
  | receive env frame =>
    exact .inr (undergoes_receiveFrame (fun _ _ => rfl) (fun _ => rfl) env node frame)
  | tick env => exact .inl (undergoes_tick (fun _ _ => rfl) (fun _ => rfl) env node).registry
  | work held works => exact .inl (undergoes_modifyRegistration (fun _ _ => rfl) _ node _).registry
  | takeLog => exact .inl (.refl _ _)

/-- **Whatever happens is a history of the registry**, and as many entries leave a slot as its ends
tell. -/
theorem exists_history_of_becomes {x : Happening} {added : List Action}
    (becomes : Becomes x node added after) :
    ∃ history, after.registry = node.registry.performAll history ∧
      ∀ slot, node.registry.departures slot history =
        node.registry.vacates slot after.registry := by
  rcases exists_kind_of_becomes becomes with ⟨history, hkind, hafter⟩ | ⟨history, hkind, hafter⟩
  · refine ⟨history, hafter, fun slot => ?_⟩
    rw [hafter]
    exact Registry.departures_eq_vacates (.inl hkind)
  · refine ⟨history, hafter, fun slot => ?_⟩
    rw [hafter]
    exact Registry.departures_eq_vacates (.inr hkind)

end Node

end DeviceBus
