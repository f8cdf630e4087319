import DeviceBus.Proofs.Node.Chores
import DeviceBus.Proofs.Node.Lifecycle
import DeviceBus.Proofs.Node.Turns

/-!
# Invariants of entries

Whatever a node does, three things happen to its entries: a status changes, but neither its role nor
its class; what is booked beside a driver changes; a driver is told something. A property of single
entries that survives these three survives every step of the node, whatever the other entries are.

## Main results

* `Each.receiveFrame`, `Each.tick`, `Each.unregister`: every step keeps an invariant of entries.
-/

namespace DeviceBus

open ControlPacket

/-- A property of single entries under their handles that survives whatever happens to an entry, as
long as the control packets that drivers are told are those that `told` allows. -/
structure Entry.IsInvariant (told : ControlPacket → Status → Prop) (P : Handle → Entry → Prop) :
    Prop where
  record : ∀ handle (status : Status),
    DeviceFlags.mode status.flags = DeviceFlags.mode DeviceFlags.record →
    P handle ⟨status, .record⟩
  restate : ∀ {handle : Handle} {before after : Status} {kind : Occupant},
    DeviceFlags.mode after.flags = DeviceFlags.mode before.flags →
    after.deviceClass = before.deviceClass → P handle ⟨before, kind⟩ → P handle ⟨after, kind⟩
  rebook : ∀ {handle : Handle} {status : Status} {before after : Registration},
    after.driver = before.driver → after.requiredSerial = before.requiredSerial →
    P handle ⟨status, .driver before⟩ → P handle ⟨status, .driver after⟩
  tell : ∀ {callback : Callback} {ctx : Context} {registration : Registration},
    (∀ cp, callback = .control cp → told cp ctx.status) →
    P ctx.handle ⟨ctx.status, .driver registration⟩ →
    P ctx.handle ⟨(registration.driver.respond callback ctx).context.status,
      .driver { registration with driver := (registration.driver.respond callback ctx).driver }⟩

namespace Node

/-- Every entry has a property. -/
def Each (P : Handle → Entry → Prop) (node : Node) : Prop :=
  ∀ handle entry, node.registry.get? handle = some entry → P handle entry

/-- The control packet of a frame reaches drivers only as `told` allows: an announce may reach any
driver, a pairing packet the driver that it names. -/
def Admits (told : ControlPacket → Status → Prop) (node : Node) (frame : Bytes) : Prop :=
  ∀ cp, ofFrame? frame = some cp →
    (cp.type = .hello → ∀ status, told cp status) ∧
    (cp.type = .pairing → ∀ handle status, node.status? handle = some status →
      isTarget cp status = true → told cp status)

theorem each_withDraws (P : Handle → Entry → Prop) (settings : NodeSettings) (draws : Draws) :
    (withDraws settings draws).Each P := by
  intro handle entry h
  simp [withDraws] at h

variable {told : ControlPacket → Status → Prop} {P : Handle → Entry → Prop} {node : Node}

/-- A change of one entry keeps an invariant if the changed entry has it. -/
theorem Each.update (h : node.Each P) {after : Node} {handle : Handle} {change : Entry → Entry}
    (hget : ∀ k, after.registry.get? k =
      if k = handle then (node.registry.get? handle).map change else node.registry.get? k)
    (hchange : ∀ entry, node.registry.get? handle = some entry → P handle entry →
      P handle (change entry)) : after.Each P := by
  intro k entry hk
  rw [hget] at hk
  split at hk
  · rename_i heq
    obtain ⟨old, hold, rfl⟩ := Option.map_eq_some_iff.1 hk
    rw [heq]
    exact hchange old hold (h handle old hold)
  · exact h k entry hk

/-- A new entry keeps an invariant if it has it. -/
theorem Each.insert (h : node.Each P) {entry : Entry} {handle : Handle}
    {registry : Registry Entry} (hinsert : node.registry.insert entry = .ok (handle, registry))
    (hentry : P handle entry) : ({ node with registry } : Node).Each P := by
  intro k found hk
  rw [(Registry.get?_of_insert hinsert).2] at hk
  split at hk
  · rename_i heq
    cases hk
    rw [heq]
    exact hentry
  · exact h k found hk

/-- What is taken out takes its property along. -/
theorem Each.remove (h : node.Each P) {entry : Entry} {handle : Handle}
    {registry : Registry Entry} (hremove : node.registry.remove handle = some (entry, registry)) :
    ({ node with registry } : Node).Each P := by
  intro k found hk
  rw [(Registry.get?_of_remove hremove).2] at hk
  split at hk
  · cases hk
  · exact h k found hk

namespace Each

variable (inv : Entry.IsInvariant told P)

section

variable (h : node.Each P)

/-! ## Changes of one entry -/

include inv h in
theorem modifyStatus (handle : Handle) {change : Status → Status}
    (hchange : ∀ status, DeviceFlags.mode (change status).flags = DeviceFlags.mode status.flags ∧
      (change status).deviceClass = status.deviceClass) :
    (node.modifyStatus handle change).Each P := by
  refine h.update (node.registry.get?_modify handle _) ?_
  rintro ⟨status, kind⟩ - hold
  exact inv.restate (hchange status).1 (hchange status).2 hold

include inv h in
theorem modifyRegistration (handle : Handle) {change : Registration → Registration}
    (hchange : ∀ registration, (change registration).driver = registration.driver ∧
      (change registration).requiredSerial = registration.requiredSerial) :
    (node.modifyRegistration handle change).Each P := by
  refine h.update (node.registry.get?_modify handle _) ?_
  rintro ⟨status, kind⟩ - hold
  cases kind with
  | record => exact hold
  | driver registration =>
    exact inv.rebook (hchange registration).1 (hchange registration).2 hold

include inv h in
theorem call (env : Env) (handle : Handle) (callback : Callback)
    (htold : ∀ cp, callback = .control cp → ∀ status, node.status? handle = some status →
      told cp status) : (node.call env handle callback).2.Each P := by
  unfold Node.call
  split
  · rename_i status registration hentry
    refine h.update (node.registry.get?_set handle _) ?_
    intro entry hentry' hold
    rw [hentry] at hentry'
    cases hentry'
    let ctx : Context := ⟨env, handle, status, node.log ++ [.called handle callback]⟩
    have htell : ∀ cp, callback = .control cp → told cp ctx.status :=
      fun cp hcp => htold cp hcp status (by simp [status?, hentry])
    exact inv.tell htell hold
  · exact h

include inv h in
/-- What is no control packet may be told to any driver. -/
theorem call_of_ne_control (env : Env) (handle : Handle) {callback : Callback}
    (hcallback : ∀ cp, callback ≠ .control cp) : (node.call env handle callback).2.Each P :=
  h.call inv env handle callback fun cp hcp => absurd hcp (hcallback cp)

include h in
theorem post (env : Env) (cp : ControlPacket) : (node.post env cp).Each P := by
  unfold Node.post
  split
  · exact h
  · exact h

/-! ## A received frame -/

include inv h in
theorem tellRemoved (env : Env) (handle : Handle) : (node.tellRemoved env handle).Each P := by
  unfold Node.tellRemoved
  have hqueue : (node.queueEvent handle .removed).Each P := h
  exact hqueue.call_of_ne_control inv env handle fun cp hcp => by cases hcp

include inv h in
theorem recordDevice (cp : ControlPacket) : (node.recordDevice cp).Each P := by
  intro k entry hk
  cases noting cp node k with
  | same eq => exact h k entry (eq.symm.trans hk)
  | seen here _ eq =>
    cases eq.symm.trans hk
    exact inv.restate (DeviceFlags.mode_insert _ (by decide)) rfl (h k _ here)
  | noted _ _ _ eq =>
    cases eq.symm.trans hk
    have hmode : DeviceFlags.mode
        (DeviceFlags.record ∪ DeviceFlags.confirmed ∪ DeviceFlags.seen) =
        DeviceFlags.mode DeviceFlags.record := by decide
    exact inv.record _ _ hmode

include inv h in
/-- A turn keeps an invariant of entries. -/
theorem turn {env : Env} {handle : Handle} {cp : ControlPacket} {after : Node}
    (hturn : Turn env handle cp node after) (htold : ∀ status, told cp status) : after.Each P := by
  induction hturn with
  | start => exact h
  | restate _ change keeps ih => exact ih.modifyStatus inv handle keeps
  | report _ kind ih => exact ih
  | tell _ callback only ih =>
    exact ih.call inv env handle callback fun other hother status _ =>
      only other hother ▸ htold status
  | echo _ ih => exact ih.post env _
  | record _ ih => exact ih.recordDevice inv cp

include inv h in
/-- A chore keeps an invariant of entries. -/
theorem chore {env : Env} {handle : Handle} {after : Node}
    (hchore : Chore env handle node after) : after.Each P := by
  induction hchore with
  | start => exact h
  | restate _ change keeps ih => exact ih.modifyStatus inv handle keeps
  | rebook _ change keeps ih => exact ih.modifyRegistration inv handle keeps
  | draw _ draws ih => exact ih
  | report _ kind ih => exact ih
  | tell _ callback other ih => exact ih.call_of_ne_control inv env handle other
  | drop _ removed ih => exact ih.remove removed

include inv h in
theorem heard (cp : ControlPacket) : (node.heard cp).Each P := by
  refine List.foldlRecOn (motive := fun after : Node => after.Each P) _ _ h
    fun mid hmid handle _ => ?_
  obtain ⟨change, hchange, heq⟩ := refreshPartner_eq cp mid handle
  rw [heq]
  exact hmid.modifyRegistration inv handle hchange

end

include inv in
theorem visitAll (env : Env) {cp : ControlPacket} (htold : ∀ status, told cp status)
    (handles : List Handle) {scan : Scan} (h : scan.node.Each P) :
    (visitAll env cp handles scan).node.Each P := by
  have hvisit : ∀ handle ∈ handles, ∀ scan : Scan, scan.node.Each P →
      (Node.visit env cp handle scan).node.Each P := fun handle _ scan hscan =>
    hscan.turn inv (turn_visit env cp handle scan) htold
  exact visitAll_of_visit (R := fun before after => before.Each P → after.Each P)
    (fun _ hkept => hkept) (fun hab hbc hkept => hbc (hab hkept)) env cp hvisit scan h

include inv in
theorem settle {scan : Scan} (h : scan.node.Each P) (env : Env) {cp : ControlPacket}
    (htold : ∀ status, told cp status) : (settle env cp scan).Each P := by
  have hfilter : ∀ filter, ({ scan.node with filter } : Node).Each P := fun _ => h
  obtain ⟨filter, heq | ⟨-, handle, -, heq⟩⟩ := settle_cases env cp scan
  · rw [heq]
    exact hfilter filter
  · rw [heq]
    exact (hfilter filter).turn inv (turn_adopt env handle cp _) htold

variable (h : node.Each P)

include inv h in
theorem round (env : Env) {cp : ControlPacket} (htold : ∀ status, told cp status) :
    (node.round env cp).node.Each P :=
  visitAll inv env htold _ (h.heard inv cp)

include inv h in
theorem receiveAnnounce (env : Env) {cp : ControlPacket} (htold : ∀ status, told cp status) :
    (node.receiveAnnounce env cp).Each P := by
  have hround := h.round inv env htold
  rcases receiveAnnounce_cases env cp node with heq | ⟨scan, hscan, -, -, heq⟩
  · rw [heq]
    exact hround
  · rw [hscan] at hround
    rw [heq]
    exact settle inv hround env htold

include inv h in
theorem receiveData (env : Env) (packet : Packet) : (node.receiveData env packet).Each P := by
  refine List.foldlRecOn _ _ h fun mid hmid handle _ => ?_
  rcases routeTo_eq_or env packet (node.classesAt packet.address) mid handle with
    heq | ⟨_, _, -, -, heq⟩
  · rw [heq]
    exact hmid
  · rw [heq]
    exact hmid.call_of_ne_control inv env handle nofun

include inv h in
theorem receivePairing (wf : node.registry.WellFormed) (env : Env) {cp : ControlPacket}
    (htold : ∀ handle status, node.status? handle = some status → isTarget cp status = true →
      told cp status) : (node.receivePairing env cp).Each P := by
  rcases receivePairing_eq_or env cp node with heq | ⟨handle, hfind, heq⟩
  · rw [heq]
    exact h
  · obtain ⟨entry, hentry, htarget⟩ := wf.get?_of_find?_eq_some hfind
    have hstatus : node.status? handle = some entry.status := by rw [status?, hentry]; rfl
    rw [heq]
    refine h.call inv env handle (.control cp) fun other hother status hsame => ?_
    cases hother
    cases hstatus.symm.trans hsame
    exact htold handle entry.status hstatus htarget

include inv h in
/-- Every frame keeps an invariant of entries. -/
theorem receiveFrame (wf : node.registry.WellFormed) (env : Env) {frame : Bytes}
    (hadmits : node.Admits told frame) : (node.receiveFrame env frame).Each P := by
  cases node.arrival env frame with
  | announce hello heq =>
    obtain ⟨hframe, htype⟩ := helloOf?_eq_some_iff.1 hello
    rw [heq]
    exact h.receiveAnnounce inv env ((hadmits _ hframe).1 htype)
  | pairing _ hframe htype heq =>
    rw [heq]
    exact h.receivePairing inv wf env ((hadmits _ hframe).2 htype)
  | data _ _ _ heq =>
    rw [heq]
    exact h.receiveData inv env _
  | nothing _ heq =>
    rw [heq]
    exact h

/-! ## A tick -/

include h in
theorem announce (env : Env) (handle : Handle) : (node.announce env handle).Each P := by
  unfold Node.announce
  split
  · exact h
  · split
    · exact h
    · dsimp only
      split
      · exact h.post env _
      · have hnoted : ∀ log, ({ node with log } : Node).Each P := fun _ => h
        exact (hnoted _).post env _

include inv h in
theorem tickEntry (env : Env) (handle : Handle) : (tickEntry env node handle).Each P :=
  tickEntry_of_chore (R := fun before after => before.Each P → after.Each P)
    (fun hab hbc hkept => hbc (hab hkept)) (fun hchore hkept => hkept.chore inv hchore)
    (fun _ hkept => hkept.announce env handle) node h

include inv h in
/-- Every tick keeps an invariant of entries. -/
theorem tick (env : Env) : (node.tick env).Each P :=
  List.foldlRecOn _ _ h fun _ hmid handle _ => hmid.tickEntry inv env handle

include inv h in
/-- Who stays when an entry is taken out keeps its properties. -/
theorem unregister {env : Env} {handle : Handle} {driver? : Option Driver} {after : Node}
    (hunregister : node.unregister env handle = .ok (driver?, after)) : after.Each P := by
  obtain ⟨entry, told, gone, registry, -, htold, hremove, rfl, -⟩ :=
    remove_of_unregister hunregister
  have heach : told.Each P := by
    rw [htold]
    split
    · exact h.tellRemoved inv env handle
    · exact h
  exact heach.remove hremove

end Each

end Node

end DeviceBus
