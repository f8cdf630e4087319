import DeviceBus.Proofs.MildDrivers
import DeviceBus.Proofs.Node.Courses
import DeviceBus.Proofs.Node.Deliveries

/-!
# What becomes of remote drivers

The address, the serial number and the class of a device, the flags of a role and the connection
are a node's affair: no callback to a mild driver changes them. An announce moves the driver that
follows the announced device to the announced address; a tick counts, and may take the device from
the driver. In both cases a driver that is connected afterwards was connected to the same device
before. Only `adopt` connects a driver.

## Main results

* `listens_round`: what the round of an announce makes of a driver.
* `announce_cases`: an announce is over after its round, or it connects the first driver that waits.
* `fate_receiveFrame`, `fate_tick`: what other frames and a tick make of a virtual driver.
-/

namespace DeviceBus

open ControlPacket EventKind

namespace Status

/-- What happened to a status: if it is connected it was connected to the same device before,
otherwise nothing happened. -/
structure Tracks (before after : Status) : Prop where
  connected : after.isConnected = true → before.isConnected = true ∧
    after.serial = before.serial ∧ after.deviceClass = before.deviceClass
  waiting : after.isConnected = false → after = before

theorem Tracks.refl (status : Status) : status.Tracks status where
  connected h := ⟨h, rfl, rfl⟩
  waiting _ := rfl

theorem Tracks.of_connected {before after : Status} (hbefore : before.isConnected = true)
    (hafter : after.isConnected = true) (hserial : after.serial = before.serial)
    (hclass : after.deviceClass = before.deviceClass) : before.Tracks after where
  connected _ := ⟨hbefore, hserial, hclass⟩
  waiting h := by rw [hafter] at h; cases h

theorem Tracks.trans {a b c : Status} (h : a.Tracks b) (h' : b.Tracks c) : a.Tracks c where
  connected hc := by
    obtain ⟨hb, hserial, hclass⟩ := h'.connected hc
    obtain ⟨ha, hserial', hclass'⟩ := h.connected hb
    exact ⟨ha, hserial.trans hserial', hclass.trans hclass'⟩
  waiting hc := by
    have heq := h'.waiting hc
    rw [heq] at hc ⊢
    exact h.waiting hc

/-- What a driver may do to its status, if it does nothing without a device. -/
theorem tracks_of_official_eq {before after : Status} (h : after.official = before.official)
    (hsame : before.isConnected = false → after = before) : before.Tracks after where
  connected hon := ⟨isConnected_of_official_eq h ▸ hon, serial_of_official_eq h,
    deviceClass_of_official_eq h⟩
  waiting hoff := hsame (isConnected_of_official_eq h ▸ hoff)

/-- What an announce may do to a status before it connects anybody. -/
structure Minds (before after : Status) : Prop where
  mode : DeviceFlags.mode after.flags = DeviceFlags.mode before.flags
  connected : after.isConnected = true → before.isConnected = true
  tracks : before.isVirtual = true → before.Tracks after

theorem Minds.refl (status : Status) : status.Minds status where
  mode := rfl
  connected := id
  tracks _ := .refl status

/-- Who is not connected afterwards has heard an announce, unless it was a virtual driver. -/
theorem minds_of_local {before after : Status}
    (hmode : DeviceFlags.mode after.flags = DeviceFlags.mode before.flags)
    (hoff : after.isConnected = false) (hvirtual : before.isVirtual = false) :
    before.Minds after where
  mode := hmode
  connected hon := by rw [hoff] at hon; cases hon
  tracks h := by rw [hvirtual] at h; cases h

theorem isConnected_mark_seen (status : Status) :
    (status.mark DeviceFlags.seen).isConnected = status.isConnected :=
  Flags.contains_insert_of_disjoint status.flags (by decide)

theorem isConnected_unmark_seen (status : Status) :
    (status.unmark DeviceFlags.seen).isConnected = status.isConnected :=
  Flags.contains_remove_of_disjoint status.flags (by decide)

theorem isVirtual_of_mode_eq {s t : Status}
    (h : DeviceFlags.mode s.flags = DeviceFlags.mode t.flags) : s.isVirtual = t.isVirtual := by
  rw [isVirtual_eq_mode, isVirtual_eq_mode, h]

theorem restrict_bond_vacated (pinned : UInt32) (status : Status) :
    (status.vacated pinned).flags.restrict DeviceFlags.bond = Flags.none :=
  Flags.restrict_restrict_of_disjoint status.flags (by decide)

end Status

/-- Work makes no driver less mild. -/
theorem Driver.IsMild.works {before after : Driver} (h : before.IsMild)
    (works : before.Works after) : after.IsMild := by
  cases before with
  | probe p =>
    have hsame : after = .probe p := by
      cases works with
      | serve env handle request => cases request <;> rfl
      | run env number => rfl
      | reap => rfl
    rw [hsame]
    exact h
  | _ => exact (isOrdinary_iff.2 (Node.isProbe_of_works works)).isMild

namespace Node

variable {node : Node} {k : Handle} {pinned : UInt32} {status : Status}

/-! ## Mild drivers of a node -/

theorem status?_of_enrolled? {registration : Registration}
    (h : node.enrolled? k = some (status, registration)) : node.status? k = some status := by
  unfold status?
  rw [enrolled?_eq_some_iff.1 h]
  rfl

/-- A node has a mild driver with some status, which returns to some serial number. -/
def Has (k : Handle) (pinned : UInt32) (status : Status) (node : Node) : Prop :=
  ∃ registration, node.enrolled? k = some (status, registration) ∧ registration.driver.IsMild ∧
    registration.requiredSerial = pinned ∧ status.HasRole

theorem Has.status? (h : node.Has k pinned status) : node.status? k = some status := by
  obtain ⟨registration, hkept, -⟩ := h
  exact status?_of_enrolled? hkept

theorem Has.get? (h : node.Has k pinned status) :
    ∃ registration, node.registry.get? k = some ⟨status, .driver registration⟩ := by
  obtain ⟨registration, hkept, -⟩ := h
  exact ⟨registration, enrolled?_eq_some_iff.1 hkept⟩

theorem Has.hasRole (h : node.Has k pinned status) : status.HasRole := by
  obtain ⟨registration, -, -, -, hrole⟩ := h
  exact hrole

theorem Has.mem_handles (h : node.Has k pinned status) (wf : node.registry.WellFormed) :
    k ∈ node.registry.handles := by
  obtain ⟨registration, hkept, -⟩ := h
  exact mem_handles_of_enrolled? wf hkept

theorem Has.not_isVirtual (h : node.Has k pinned status) (hlocal : status.isLocal = true) :
    status.isVirtual = false := by
  rw [← Bool.not_eq_true]
  intro hvirtual
  rw [h.hasRole.not_isLocal_of_isVirtual hvirtual] at hlocal
  cases hlocal

/-- What a part of a step makes of a driver: its status afterwards, and which connections of it are
reported. -/
structure Leads (k : Handle) (pinned : UInt32) (before after : Node) (status : Status)
    (reports : List EventKind) : Prop where
  has : after.Has k pinned status
  trace : ∃ added, after.log = before.log ++ added ∧ connections (reportsOf k added) = reports

theorem Leads.refl (h : node.Has k pinned status) : Leads k pinned node node status [] :=
  ⟨h, [], (List.append_nil _).symm, rfl⟩

theorem Leads.trans {first second third : Node} {later : Status} {reports more : List EventKind}
    (h : Leads k pinned first second status reports)
    (h' : Leads k pinned second third later more) :
    Leads k pinned first third later (reports ++ more) := by
  obtain ⟨xs, hxs, hreports⟩ := h.trace
  obtain ⟨ys, hys, hmore⟩ := h'.trace
  refine ⟨h'.has, xs ++ ys, by rw [hys, hxs, List.append_assoc], ?_⟩
  rw [reportsOf_append, connections_append, hreports, hmore]

/-- Whom a part of a step does not concern stays as it is. -/
theorem leads_of_spares {who : Handle → Prop} {after : Node} (h : node.Has k pinned status)
    (hspares : Spares who node after) (hk : who k) : Leads k pinned node after status [] := by
  obtain ⟨registration, hkept, hmild⟩ := h
  obtain ⟨added, hlog, hnone⟩ := hspares.trace
  refine ⟨⟨registration, (hspares.enrolled? k hk).trans hkept, hmild⟩, added, hlog, ?_⟩
  rw [(hnone k hk).1]
  rfl

theorem leads_modifyStatus (h : node.Has k pinned status) (change : Status → Status)
    (hmode : DeviceFlags.mode (change status).flags = DeviceFlags.mode status.flags) :
    Leads k pinned node (node.modifyStatus k change) (change status) [] := by
  obtain ⟨registration, hkept, hmild, hpinned, role, hrole⟩ := h
  exact ⟨⟨registration, enrolled?_modifyStatus hkept change, hmild, hpinned, role,
    hmode.trans hrole⟩, [], (List.append_nil _).symm, rfl⟩

theorem leads_modifyRegistration (h : node.Has k pinned status)
    {change : Registration → Registration} (hchange : ∀ r, (change r).driver = r.driver ∧
      (change r).requiredSerial = r.requiredSerial) :
    Leads k pinned node (node.modifyRegistration k change) status [] := by
  obtain ⟨registration, hkept, hmild, hpinned, hrole⟩ := h
  obtain ⟨hdriver, hserial⟩ := hchange registration
  refine ⟨⟨_, enrolled?_modifyRegistration hkept change, ?_, hserial.trans hpinned, hrole⟩, [],
    (List.append_nil _).symm, rfl⟩
  rw [hdriver]
  exact hmild

theorem leads_queueEvent (h : node.Has k pinned status) (kind : EventKind) :
    Leads k pinned node (node.queueEvent k kind) status (connections [kind]) := by
  obtain ⟨registration, hkept, hmild⟩ := h
  exact ⟨⟨registration, hkept, hmild⟩, [.event ⟨k, kind⟩], rfl, by rw [reportsOf_event_self]⟩

/-- What a call makes of a driver: all that is the affair of the node stays, and so does a status
without a bond, unless the driver is told a control packet. -/
theorem leads_call (h : node.Has k pinned status) (env : Env) (callback : Callback) :
    ∃ later, Leads k pinned node (node.call env k callback).2 later [] ∧
      later.official = status.official ∧
      (status.flags.restrict DeviceFlags.bond = Flags.none →
        (∀ cp, callback ≠ .control cp) → later = status) := by
  obtain ⟨registration, hkept, hmild, hpinned, role, hrole⟩ := h
  have hentry := enrolled?_eq_some_iff.1 hkept
  have hreply := hmild.respond callback (node.placeOf env k callback status)
  obtain ⟨added, hadded, hown⟩ :=
    registration.driver.respond_adds callback (node.placeOf env k callback status)
  refine ⟨_, ⟨⟨_, enrolled?_call hkept env callback, hreply.mild, hpinned, role, ?_⟩,
    .called k callback :: added, ?_, ?_⟩, hreply.official, hreply.same⟩
  · exact (Status.mode_of_official_eq hreply.official).trans hrole
  · rw [log_call env callback hentry]
    refine hadded.log.trans ?_
    show node.log ++ [.called k callback] ++ added = _
    rw [List.append_assoc]
    rfl
  · rw [reportsOf_called]
    exact connections_of_isOwn hown k

/-! ## The round of an announce -/

/-- What becomes of a driver that an announce comes to. -/
def Listens (k : Handle) (pinned : UInt32) (status : Status) (before after : Node) : Prop :=
  ∃ later, Leads k pinned before after later [] ∧ status.Minds later

theorem Listens.refl (h : node.Has k pinned status) : Listens k pinned status node node :=
  ⟨status, .refl h, .refl status⟩

/-- A driver is shown an announce, after a change of its status that leaves it as connected as it
was. Only connected virtual drivers are shown any. -/
theorem listens_deliver {scan : Scan} {mid : Node} {shown : Status}
    (hmid : Leads k pinned scan.node mid shown [])
    (hmode : DeviceFlags.mode shown.flags = DeviceFlags.mode status.flags)
    (hconnected : shown.isConnected = status.isConnected)
    (hvirtual : status.isVirtual = true → status.isConnected = true ∧
      shown.serial = status.serial ∧ shown.deviceClass = status.deviceClass)
    (env : Env) (cp : ControlPacket) (isClaimed : Bool) :
    Listens k pinned status scan.node
      (({ scan with node := mid, isClaimed } : Scan).deliver env k cp).node := by
  obtain ⟨later, hcall, hofficial, -⟩ := leads_call hmid.has env (.control cp)
  have hon := (Status.isConnected_of_official_eq hofficial).trans hconnected
  refine ⟨later, hmid.trans hcall, (Status.mode_of_official_eq hofficial).trans hmode,
    fun h => hon ▸ h, fun h => ?_⟩
  obtain ⟨hbefore, hserial, hclass⟩ := hvirtual h
  exact .of_connected hbefore (hon.trans hbefore)
    ((Status.serial_of_official_eq hofficial).trans hserial)
    ((Status.deviceClass_of_official_eq hofficial).trans hclass)

/-- An own driver that gives way is not connected afterwards. -/
theorem listens_giveWay (h : node.Has k pinned status) (env : Env)
    (hlocal : status.isLocal = true) : Listens k pinned status node (node.giveWay env k) := by
  have hmode : DeviceFlags.mode (status.unmark
      (DeviceFlags.confirmed ∪ DeviceFlags.unconfirmed ∪ DeviceFlags.seen)).flags =
      DeviceFlags.mode status.flags := DeviceFlags.mode_remove status.flags (by decide)
  have hoff : (status.unmark
      (DeviceFlags.confirmed ∪ DeviceFlags.unconfirmed ∪ DeviceFlags.seen)).isConnected = false :=
    Flags.contains_remove_of_not_disjoint status.flags (by decide)
  have hmodified := leads_modifyStatus h (·.released) hmode
  have hreleased := hmodified.trans (leads_queueEvent hmodified.has (.addressLost status.address))
  unfold giveWay
  rw [h.status?]
  dsimp only
  split
  · have hqueue := hreleased.trans (leads_queueEvent hreleased.has .removed)
    obtain ⟨later, hcall, hofficial, -⟩ := leads_call hqueue.has env .removed
    exact ⟨later, hqueue.trans hcall, Status.minds_of_local
      ((Status.mode_of_official_eq hofficial).trans hmode)
      ((Status.isConnected_of_official_eq hofficial).trans hoff) (h.not_isVirtual hlocal)⟩
  · exact ⟨_, hreleased, Status.minds_of_local hmode hoff (h.not_isVirtual hlocal)⟩

/-- An announce that comes to a driver leaves it as connected as it was, and a virtual driver with
its device. -/
theorem listens_visit {scan : Scan} (h : scan.node.Has k pinned status) (env : Env)
    (cp : ControlPacket) : Listens k pinned status scan.node (visit env cp k scan).node := by
  obtain ⟨registration, hentry⟩ := h.get?
  have hmarked : DeviceFlags.mode (status.mark DeviceFlags.seen).flags =
      DeviceFlags.mode status.flags := DeviceFlags.mode_insert status.flags (by decide)
  cases showing env cp hentry with
  | yields owns _ heq =>
    rw [heq]
    exact listens_giveWay h env (ownsAddress_iff.1 owns).1
  | rebukes _ _ _ _ heq =>
    rw [heq]
    exact ⟨status, leads_of_spares h (spares_post env _ scan.node) trivial, .refl status⟩
  | agrees owns _ _ heq =>
    have hremote := h.not_isVirtual (ownsAddress_iff.1 owns).1
    rw [heq]
    exact listens_deliver (leads_modifyStatus h _ hmarked) hmarked
      (Status.isConnected_mark_seen status) (fun hvirtual => by cases hremote.symm.trans hvirtual)
      env cp true
  | moves _ hfollows heq =>
    rw [heq]
    exact listens_deliver
      (leads_modifyStatus h (·.followed cp) hmarked) hmarked (Status.isConnected_mark_seen status)
      (fun _ => ⟨(follows_iff.1 hfollows).2.1, rfl, rfl⟩) env cp true
  | records _ _ broadcast _ _ _ heq =>
    have hrecord := leads_of_spares h (spares_recordDevice cp scan.node) trivial
    have hremote := Status.isVirtual_eq_false_of_isBroadcast broadcast
    rw [heq]
    exact listens_deliver hrecord rfl rfl (fun hvirtual => by cases hremote.symm.trans hvirtual)
      env cp scan.isClaimed
  | hears _ _ broadcast _ _ heq =>
    have hremote := Status.isVirtual_eq_false_of_isBroadcast broadcast
    rw [heq]
    exact listens_deliver (.refl h) rfl rfl (fun hvirtual => by cases hremote.symm.trans hvirtual)
      env cp scan.isClaimed
  | pairs _ _ _ _ _ connected _ _ heq =>
    rw [heq]
    exact listens_deliver (.refl h) rfl rfl (fun _ => ⟨connected, rfl, rfl⟩) env cp scan.isClaimed
  | passes _ _ _ _ heq =>
    rw [heq]
    exact .refl h

/-- Who follows the announced device claims it. -/
theorem isClaimed_of_follows {scan next : Scan} {env : Env} {cp : ControlPacket}
    (h : scan.node.Has k pinned status) (hfollows : follows cp status = true)
    (hvisit : visit env cp k scan = .proceed next) : next.isClaimed = true := by
  obtain ⟨registration, hentry⟩ := h.get?
  cases showing env cp hentry with
  | yields owns | rebukes owns | agrees owns =>
    have hremote := h.hasRole.not_isLocal_of_isVirtual (follows_iff.1 hfollows).1
    cases hremote.symm.trans (ownsAddress_iff.1 owns).1
  | moves _ _ heq =>
    cases heq.symm.trans hvisit
    rfl
  | records _ unfollowed | hears _ unfollowed | pairs _ unfollowed | passes _ unfollowed =>
    cases hfollows.symm.trans unfollowed

/-- What a walk of an announce makes of a driver. -/
theorem listens_visitAll (scan : Scan) (h : scan.node.Has k pinned status)
    (wf : scan.node.registry.WellFormed) (env : Env) (cp : ControlPacket) :
    Listens k pinned status scan.node (visitAll env cp scan.node.registry.handles scan).node ∧
    ∀ last, visitAll env cp scan.node.registry.handles scan = .proceed last →
      follows cp status = true → last.isClaimed = true := by
  rcases exists_visit_of_visitAll env cp wf.nodup_handles (h.mem_handles wf) scan with
    ⟨found, heq, hspares⟩ | ⟨next, hbefore, hafter, hproceed⟩
  · rw [heq]
    exact ⟨⟨status, leads_of_spares h hspares rfl, .refl status⟩, fun last hlast => by cases hlast⟩
  · have hnext := leads_of_spares h hbefore rfl
    obtain ⟨later, hvisit, hminds⟩ := listens_visit hnext.has env cp
    have hrest := leads_of_spares hvisit.has hafter rfl
    refine ⟨⟨later, (hnext.trans hvisit).trans hrest, hminds⟩, fun last hlast hfollows => ?_⟩
    obtain ⟨mid, hmid, hclaims⟩ := hproceed last hlast
    exact hclaims (isClaimed_of_follows hnext.has hfollows hmid)

/-- That the silence of partners starts anew is no matter of a status. -/
theorem leads_heard (h : node.Has k pinned status) (wf : node.registry.WellFormed)
    (cp : ControlPacket) : Leads k pinned node (node.heard cp) status [] := by
  obtain ⟨registration, hentry⟩ := h.get?
  obtain ⟨mid, hbefore, hafter⟩ := exists_turn_of_heard (enrolled?_eq_some_iff.2 hentry) wf cp
  have hmid := leads_of_spares h hbefore rfl
  obtain ⟨change, hsame, heq⟩ := refreshPartner_eq cp mid k
  rw [heq] at hafter
  have hbooked := leads_modifyRegistration hmid.has hsame
  exact (hmid.trans hbooked).trans (leads_of_spares hbooked.has hafter rfl)

/-- The round of an announce leaves every driver as connected as it was, and a virtual driver with
its device; if it ends, and a virtual driver follows the announced device, the device is claimed. -/
theorem listens_round (h : node.Has k pinned status) (wf : node.registry.WellFormed) (env : Env)
    (cp : ControlPacket) :
    Listens k pinned status node (node.round env cp).node ∧
      ∀ last, node.round env cp = .proceed last → follows cp status = true →
        last.isClaimed = true := by
  have hheard := leads_heard h wf cp
  obtain ⟨⟨later, hround, hminds⟩, hclaims⟩ := listens_visitAll ⟨node.heard cp, false, false⟩
    hheard.has ((spares_heard cp node).wellFormed wf) env cp
  exact ⟨⟨later, hheard.trans hround, hminds⟩, hclaims⟩

/-- What the round of an announce leaves of a node: no driver came or went, and the drivers have
heard the announce. -/
structure Rounds (node round : Node) : Prop where
  spares : Spares (fun _ => False) node round
  listens : ∀ k pinned status, node.Has k pinned status → Listens k pinned status node round

/-- An announce is over after its round, or it is one of those that connect the first driver that
waits, and no virtual driver follows the announced device. -/
theorem announce_cases (wf : node.registry.WellFormed) (env : Env) (cp : ControlPacket) :
    ∃ round filter, Rounds node round ∧
      (node.receiveAnnounce env cp = { round with filter } ∨
        cp.flags.isSafe = true ∧
        (∀ k pinned status, node.Has k pinned status → follows cp status = false) ∧
        ∃ handle, round.registry.findStatus? (awaits cp) = some handle ∧
          node.receiveAnnounce env cp = ({ round with filter } : Node).adopt env handle cp) := by
  have hrounds : Rounds node (node.round env cp).node :=
    ⟨spares_round env cp node, fun k pinned status h => (listens_round h wf env cp).1⟩
  rcases receiveAnnounce_cases env cp node with heq | ⟨scan, hscan, -, safe, heq⟩
  · exact ⟨_, (node.round env cp).node.filter, hrounds, .inl heq⟩
  · rw [hscan] at hrounds
    obtain ⟨filter, hend | ⟨hclaimed, handle, hfind, hend⟩⟩ := settle_cases env cp scan
    · exact ⟨scan.node, filter, hrounds, .inl (heq.trans hend)⟩
    · refine ⟨scan.node, filter, hrounds, .inr ⟨safe, fun k pinned status h => ?_, handle, hfind,
        heq.trans hend⟩⟩
      rw [← Bool.not_eq_true]
      intro hfollows
      cases hclaimed.symm.trans ((listens_round h wf env cp).2 scan hscan hfollows)

/-! ## Connecting -/

/-- A driver was connected to the announced device. -/
structure Meets (cp : ControlPacket) (before after : Status) : Prop where
  connected : after.isConnected = true
  address : after.address = cp.address
  serial : after.serial = cp.serial
  deviceClass : after.deviceClass = before.deviceClass

/-- What connecting makes of a driver. -/
theorem leads_adopt (h : node.Has k pinned status) (env : Env) (cp : ControlPacket) :
    ∃ later, Leads k pinned node (node.adopt env k cp) later [.connected cp.address] ∧
      Meets cp status later := by
  have hfound := leads_modifyStatus h (·.found cp)
    (DeviceFlags.mode_insert status.flags (by decide))
  have hqueue := hfound.trans (leads_queueEvent hfound.has (.connected cp.address))
  obtain ⟨mid, hconnected, hofficial, -⟩ := leads_call hqueue.has env .connected
  obtain ⟨later, htold, hofficial', -⟩ := leads_call hconnected.has env (.control cp)
  have heq := hofficial'.trans hofficial
  refine ⟨later, (hqueue.trans hconnected).trans htold, ?_, Status.address_of_official_eq heq,
    Status.serial_of_official_eq heq, (Status.deviceClass_of_official_eq heq).trans rfl⟩
  rw [Status.isConnected_of_official_eq heq]
  exact Flags.contains_insert_of_subset status.flags (by decide)

/-! ## Other frames and ticks -/

/-- A virtual driver keeps the device that it has, goes on waiting, or is vacant afterwards. -/
def Fate (k : Handle) (pinned : UInt32) (status : Status) (after : Node) : Prop :=
  ∃ later, after.Has k pinned later ∧ (status.Tracks later ∨ later = status.vacated pinned)

/-- A status without a device that shows no bond. -/
def IsBare (status : Status) : Prop :=
  status.isConnected = false → status.flags.restrict DeviceFlags.bond = Flags.none

/-- No frame but an announce changes the status of a virtual driver. -/
theorem fate_receiveFrame (h : node.Has k pinned status) (hvirtual : status.isVirtual = true)
    (hbare : IsBare status) (wf : node.registry.WellFormed) (env : Env) {frame : Bytes}
    (hnone : helloOf? frame = none) : Fate k pinned status (node.receiveFrame env frame) := by
  obtain ⟨registration, hentry⟩ := h.get?
  rcases silentFrame_cases (enrolled?_eq_some_iff.2 hentry) wf env hnone with
    hspares | ⟨mid, callback, htold, hbefore, hafter⟩
  · exact ⟨status, (leads_of_spares h hspares rfl).has, .inl (.refl status)⟩
  · have hmid := leads_of_spares h hbefore rfl
    cases htold with
    | pairing target =>
      -- a pairing packet names own drivers only
      cases (isLocal_of_isTarget target).symm.trans (h.hasRole.not_isLocal_of_isVirtual hvirtual)
    | @data packet _ _ _ =>
      obtain ⟨later, hcall, hofficial, hrest⟩ := leads_call hmid.has env (.data packet)
      exact ⟨later, (leads_of_spares hcall.has hafter rfl).has, .inl
        (Status.tracks_of_official_eq hofficial fun hoff => hrest (hbare hoff) fun _ => nofun)⟩

/-- Look whether the device of a driver was announced: the driver keeps it or is vacant. -/
theorem fate_ageDevice (h : node.Has k pinned status) (hon : status.isConnected = true)
    (env : Env) : Fate k pinned status (node.ageDevice env k) := by
  obtain ⟨registration, hkept, hmild, hpinned, hrole⟩ := h
  have h : node.Has k pinned status := ⟨registration, hkept, hmild, hpinned, hrole⟩
  unfold ageDevice
  rw [enrolled?_eq_some_iff.1 hkept]
  dsimp only
  split
  · have hunseen := leads_modifyStatus h (·.unseen)
      (DeviceFlags.mode_remove status.flags (by decide))
    exact ⟨_, hunseen.has, .inl (.of_connected hon
      ((Status.isConnected_unmark_seen status).trans hon) rfl rfl)⟩
  · have hcounted := leads_modifyStatus h (·.counted) rfl
    split
    · exact ⟨_, hcounted.has, .inl (.of_connected hon hon rfl rfl)⟩
    · unfold loseRemote tellRemoved
      rw [hpinned]
      have hlost := leads_modifyStatus hcounted.has (fun s =>
        { s with
          address := 0
          flags := s.flags.mode
          serial := pinned
          counter := 0 }) (Flags.restrict_restrict_of_subset status.flags (by decide))
      have hqueue := leads_queueEvent hlost.has .removed
      obtain ⟨later, hcall, -, hrest⟩ := leads_call hqueue.has env .removed
      exact ⟨later, hcall.has, .inr
        (hrest (status.restrict_bond_vacated pinned) fun _ => nofun)⟩

/-- Look whether the partner of a driver was silent for too long. -/
theorem leads_agePartner (h : node.Has k pinned status) (env : Env) :
    ∃ later, (node.agePartner env k).Has k pinned later ∧ later.official = status.official ∧
      (status.flags.restrict DeviceFlags.bond = Flags.none → later = status) := by
  obtain ⟨registration, hentry⟩ := h.get?
  have hset : ∀ missed : UInt8, Leads k pinned node
      (node.modifyRegistration k fun r => { r with partnerSilence := missed }) status [] :=
    fun missed => leads_modifyRegistration h fun _ => ⟨rfl, rfl⟩
  unfold agePartner
  rw [registration?_eq_some_iff.2 ⟨status, hentry⟩]
  dsimp only
  split
  · exact ⟨status, (hset 0).has, rfl, fun _ => rfl⟩
  · split
    · exact ⟨status, (hset _).has, rfl, fun _ => rfl⟩
    · obtain ⟨later, hcall, hofficial, hrest⟩ := leads_call (hset 0).has env .partnerLost
      exact ⟨later, hcall.has, hofficial, fun hbare => hrest hbare fun _ => nofun⟩

/-- In a tick a virtual driver keeps the device that it has, or is vacant afterwards. -/
theorem fate_tick (h : node.Has k pinned status) (hvirtual : status.isVirtual = true)
    (hbare : IsBare status) (wf : node.registry.WellFormed) (env : Env) :
    Fate k pinned status (node.tick env) := by
  have hremote := h.hasRole.not_isLocal_of_isVirtual hvirtual
  obtain ⟨mid, hbefore, hafter⟩ :=
    exists_turn_of_foldl (spares_tickEntry env) wf.nodup_handles (h.mem_handles wf) node
  have hmid := (leads_of_spares h hbefore rfl).has
  obtain ⟨registration, hentry⟩ := hmid.get?
  have hdevice : Fate k pinned status (mid.tickDevice env k status) := by
    rw [tickDevice_of_remote env hremote]
    split
    · rename_i hon
      rw [Bool.and_eq_true] at hon
      exact fate_ageDevice hmid hon.2 env
    · exact ⟨status, hmid, .inl (.refl status)⟩
  obtain ⟨shown, hshown, hfate⟩ := hdevice
  obtain ⟨later, hlater, hofficial, hsame⟩ := leads_agePartner hshown env
  rw [tickEntry_of_driver env hentry] at hafter
  refine ⟨later, (leads_of_spares hlater hafter rfl).has, ?_⟩
  rcases hfate with htracks | rfl
  · refine .inl (htracks.trans (Status.tracks_of_official_eq hofficial fun hoff => hsame ?_))
    have heq := htracks.waiting hoff
    rw [heq] at hoff ⊢
    exact hbare hoff
  · exact .inr (hsame (status.restrict_bond_vacated pinned))

end Node

end DeviceBus
