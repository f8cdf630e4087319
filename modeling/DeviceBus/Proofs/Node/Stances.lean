import DeviceBus.Proofs.Node.Bystanders
import DeviceBus.Proofs.Node.History
import DeviceBus.Proofs.Pairing.Standings

/-!
# The stance of one driver

The stance of a driver is what a node keeps of it apart from its address: what it was registered as,
where it stands with its peer, and for how many ticks the peer has been silent. `Deals` says what a
part of a step makes of one driver: its stance afterwards, what was reported about it, and how often
it was told that its partner is lost. Deals compose, and a part that does not concern the driver
deals nothing.

## Main results

* `deals_of_spares`: bystanders keep their stance.
* `deals_call_silent`, `deals_call_letGo`, `turnsOnce_call_control`: what a call makes of the driver
  that is called.
-/

namespace DeviceBus

open ControlPacket

namespace EventKind

/-- The reports that are about the peer. -/
def peerOnly (reports : List EventKind) : List EventKind := reports.filter (·.concernsPeer)

@[simp] theorem peerOnly_append (xs ys : List EventKind) :
    peerOnly (xs ++ ys) = peerOnly xs ++ peerOnly ys := List.filter_append ..

end EventKind

open EventKind

/-- What is reported in a turn of a standing is all about the peer. -/
theorem Standing.Turn.peerOnly_eq {before after : Standing} {events : List EventKind}
    (h : Standing.Turn before events after) : peerOnly events = events :=
  List.filter_eq_self.2 h.concernsPeer

/-! ## Stances -/

/-- What a node keeps of a driver apart from its address. -/
structure Stance where
  /-- The bits of the role. -/
  mode : DeviceFlags
  deviceClass : DeviceClass
  /-- The serial number that a remote driver returns to. -/
  requiredSerial : UInt32
  /-- Whether the driver pairs. -/
  pairs : Bool
  standing : Standing
  /-- Ticks since the peer announced itself. -/
  silence : UInt8

namespace Stance

/-- The stance of a driver with a status. -/
def of (status : Status) (registration : Registration) : Stance where
  mode := DeviceFlags.mode status.flags
  deviceClass := status.deviceClass
  requiredSerial := registration.requiredSerial
  pairs := registration.driver.pairs
  standing := registration.driver.standing
  silence := registration.partnerSilence

/-- An announce breaks the silence of the peer that it is about. -/
def hear (cp : ControlPacket) (stance : Stance) : Stance :=
  if stance.standing.peer.any (·.isSameDevice cp.announced) then { stance with silence := 0 }
  else stance

/-- Whether the peer's silence exceeds a limit with the next tick. -/
def Exceeds (limit : UInt8) (stance : Stance) : Prop :=
  stance.standing.peer.isSome = true ∧ limit < countUp stance.silence

instance (limit : UInt8) (stance : Stance) : Decidable (stance.Exceeds limit) := by
  unfold Exceeds
  infer_instance

/-- A tick counts the silence of a peer; when it exceeds the limit, the peer is let go. -/
def age (limit : UInt8) (stance : Stance) : Stance :=
  if stance.Exceeds limit then { stance with standing := .unpaired, silence := 0 }
  else
    { stance with
      silence := if stance.standing.peer.isSome then countUp stance.silence else 0 }

/-- What is reported about the peer with a tick. -/
def partings (limit : UInt8) (stance : Stance) : List EventKind :=
  if stance.Exceeds limit then stance.standing.parting else []

/-- How often the driver is told with a tick that its partner is lost. -/
def losses (limit : UInt8) (stance : Stance) : Nat := if stance.Exceeds limit then 1 else 0

end Stance

namespace Node

/-- A node keeps a fair driver with a stance. -/
def Keeps (handle : Handle) (stance : Stance) (node : Node) : Prop :=
  ∃ status registration, node.enrolled? handle = some (status, registration) ∧
    registration.driver.Fair status ∧ Stance.of status registration = stance

/-- How often a driver was told that its partner is lost. -/
def lossesOf (handle : Handle) (log : List Action) : Nat :=
  (callsOf handle log).count .partnerLost

@[simp] theorem lossesOf_append (handle : Handle) (a b : List Action) :
    lossesOf handle (a ++ b) = lossesOf handle a + lossesOf handle b := by
  unfold lossesOf
  rw [callsOf_append, List.count_append]

/-- What a step makes of a driver: its stance afterwards, what was reported about it, and how often
it was told that its partner is lost. -/
structure Deals (handle : Handle) (before after : Node) (stance : Stance)
    (reports : List EventKind) (losses : Nat) : Prop where
  keeps : after.Keeps handle stance
  trace : ∃ added, after.log = before.log ++ added ∧ reportsOf handle added = reports ∧
    lossesOf handle added = losses

variable {node : Node} {k : Handle} {stance : Stance}

theorem Deals.refl (h : node.Keeps k stance) : Deals k node node stance [] 0 :=
  ⟨h, [], (List.append_nil _).symm, rfl, rfl⟩

theorem Deals.trans {first second third : Node} {v w : Stance} {xs ys : List EventKind}
    {m n : Nat} (h : Deals k first second v xs m) (h' : Deals k second third w ys n) :
    Deals k first third w (xs ++ ys) (m + n) := by
  obtain ⟨added, hlog, hreports, hlosses⟩ := h.trace
  obtain ⟨more, hmore, hreports', hlosses'⟩ := h'.trace
  refine ⟨h'.keeps, added ++ more, by rw [hmore, hlog, List.append_assoc], ?_, ?_⟩
  · rw [reportsOf_append, hreports, hreports']
  · rw [lossesOf_append, hlosses, hlosses']

/-- What does not concern the driver before a step makes no difference. -/
theorem Deals.after {first second third : Node} {v w : Stance} {xs : List EventKind} {n : Nat}
    (h : Deals k first second v [] 0) (h' : Deals k second third w xs n) :
    Deals k first third w xs n := by
  have hboth := h.trans h'
  rw [List.nil_append, Nat.zero_add] at hboth
  exact hboth

/-- What does not concern the driver after a step makes no difference. -/
theorem Deals.then {first second third : Node} {v w : Stance} {xs : List EventKind} {n : Nat}
    (h : Deals k first second v xs n) (h' : Deals k second third w [] 0) :
    Deals k first third w xs n := by
  have hboth := h.trans h'
  rw [List.append_nil, Nat.add_zero] at hboth
  exact hboth

theorem deals_of_spares {who : Handle → Prop} {after : Node} (h : node.Keeps k stance)
    (hspares : Spares who node after) (hk : who k) : Deals k node after stance [] 0 := by
  obtain ⟨status, registration, hkept, hfair, hstance⟩ := h
  obtain ⟨added, hlog, hnone⟩ := hspares.trace
  refine ⟨⟨status, registration, (hspares.enrolled? k hk).trans hkept, hfair, hstance⟩,
    added, hlog, (hnone k hk).1, ?_⟩
  unfold lossesOf
  rw [(hnone k hk).2]
  rfl

/-! ## Changes of the driver's own entry -/

theorem enrolled?_modifyStatus {status : Status} {registration : Registration}
    (h : node.enrolled? k = some (status, registration)) (change : Status → Status) :
    (node.modifyStatus k change).enrolled? k = some (change status, registration) :=
  enrolled?_eq_some_iff.2 (get?_modifyStatus change (enrolled?_eq_some_iff.1 h))

theorem enrolled?_modifyRegistration {status : Status} {registration : Registration}
    (h : node.enrolled? k = some (status, registration)) (change : Registration → Registration) :
    (node.modifyRegistration k change).enrolled? k = some (status, change registration) := by
  rw [enrolled?_eq_some_iff] at h ⊢
  unfold modifyRegistration
  rw [Registry.get?_modify, if_pos rfl, h]
  rfl

/-- The flags of a status that have to do with its driver's stance. -/
def stanceFlags (flags : DeviceFlags) : DeviceFlags :=
  flags.restrict (DeviceFlags.roleMask ∪ DeviceFlags.bond)

theorem mode_of_stanceFlags_eq {a b : DeviceFlags} (h : stanceFlags a = stanceFlags b) :
    DeviceFlags.mode a = DeviceFlags.mode b ∧
      a.restrict DeviceFlags.bond = b.restrict DeviceFlags.bond := by
  have hsub : ∀ {part : DeviceFlags}, part.IsSubset (DeviceFlags.roleMask ∪ DeviceFlags.bond) →
      a.restrict part = b.restrict part := by
    intro part hpart
    apply Flags.ext_bit
    intro i hi
    have hbit : (stanceFlags a).bit i = (stanceFlags b).bit i := by rw [h]
    rw [stanceFlags, stanceFlags, Flags.bit_restrict, Flags.bit_restrict] at hbit
    rw [Flags.bit_restrict, Flags.bit_restrict]
    cases hp : part.bit i with
    | false => rw [Bool.and_false, Bool.and_false]
    | true =>
      rw [hpart.bit hi hp, Bool.and_true, Bool.and_true] at hbit
      rw [hbit]
  exact ⟨hsub (by decide), hsub (by decide)⟩

theorem stanceFlags_mark (status : Status) {flags : DeviceFlags}
    (h : Flags.IsDisjoint (DeviceFlags.roleMask ∪ DeviceFlags.bond) flags) :
    stanceFlags (status.mark flags).flags = stanceFlags status.flags :=
  Flags.restrict_insert_of_disjoint status.flags h

theorem stanceFlags_unmark (status : Status) {flags : DeviceFlags}
    (h : Flags.IsDisjoint (DeviceFlags.roleMask ∪ DeviceFlags.bond) flags) :
    stanceFlags (status.unmark flags).flags = stanceFlags status.flags :=
  Flags.restrict_remove_of_disjoint status.flags h

/-- Without a bond there is nothing but the role. -/
theorem stanceFlags_mode {flags : DeviceFlags}
    (h : flags.restrict DeviceFlags.bond = Flags.none) :
    stanceFlags (DeviceFlags.mode flags) = stanceFlags flags := by
  apply Flags.ext_bit
  intro i hi
  have hbond : (flags.bit i && DeviceFlags.bond.bit i) = false := by
    rw [← Flags.bit_restrict, h]
    simp [Flags.bit, Flags.none]
  have hunion : (DeviceFlags.roleMask ∪ DeviceFlags.bond).bit i =
      (DeviceFlags.roleMask.bit i || DeviceFlags.bond.bit i) := Flags.bit_insert _ _ i
  simp only [stanceFlags, DeviceFlags.mode, Flags.bit_restrict, hunion]
  cases hflag : flags.bit i with
  | false => rfl
  | true =>
    rw [hflag, Bool.true_and] at hbond
    simp [hbond]

/-- A change of a status that leaves class, role and bond alone leaves a fair driver fair. -/
theorem keeps_of_status {status after : Status} {registration : Registration}
    (hkept : node.enrolled? k = some (after, registration))
    (hfair : registration.driver.Fair status)
    (hflags : stanceFlags after.flags = stanceFlags status.flags)
    (hclass : after.deviceClass = status.deviceClass) :
    node.Keeps k (.of status registration) := by
  obtain ⟨hmode, hbond⟩ := mode_of_stanceFlags_eq hflags
  refine ⟨after, registration, hkept, ⟨hfair.ordinary, ?_, hbond.trans hfair.marks, ?_⟩, ?_⟩
  · obtain ⟨role, hrole⟩ := hfair.role
    exact ⟨role, hmode.trans hrole⟩
  · intro hlocal
    rw [Status.isLocal_eq_mode, hmode, ← Status.isLocal_eq_mode] at hlocal
    exact hfair.remote hlocal
  · unfold Stance.of
    rw [hmode, hclass]

theorem deals_modifyStatus (h : node.Keeps k stance) (change : Status → Status)
    (hchange : ∀ status, stanceFlags (change status).flags = stanceFlags status.flags ∧
      (change status).deviceClass = status.deviceClass) :
    Deals k node (node.modifyStatus k change) stance [] 0 := by
  obtain ⟨status, registration, hkept, hfair, rfl⟩ := h
  exact ⟨keeps_of_status (enrolled?_modifyStatus hkept change) hfair (hchange status).1
    (hchange status).2, [], (List.append_nil _).symm, rfl, rfl⟩

theorem deals_modifyRegistration {status : Status} {registration : Registration}
    (hkept : node.enrolled? k = some (status, registration))
    (hfair : registration.driver.Fair status)
    {change : Registration → Registration}
    (hdriver : (change registration).driver = registration.driver) :
    Deals k node (node.modifyRegistration k change) (.of status (change registration)) [] 0 :=
  ⟨⟨status, change registration, enrolled?_modifyRegistration hkept change, hdriver ▸ hfair, rfl⟩,
    [], (List.append_nil _).symm, rfl, rfl⟩

theorem deals_queueEvent (h : node.Keeps k stance) (kind : EventKind) :
    Deals k node (node.queueEvent k kind) stance [kind] 0 :=
  ⟨h, [.event ⟨k, kind⟩], rfl, reportsOf_event_self k kind, rfl⟩

/-- The place of a driver when it is called. -/
def placeOf (env : Env) (handle : Handle) (callback : Callback) (status : Status) (node : Node) :
    Context :=
  ⟨env, handle, status, node.log ++ [.called handle callback]⟩

theorem enrolled?_call {status : Status} {registration : Registration}
    (h : node.enrolled? k = some (status, registration)) (env : Env) (callback : Callback) :
    (node.call env k callback).2.enrolled? k =
      some (
        (registration.driver.respond callback (node.placeOf env k callback status)).context.status,
        { registration with
          driver :=
            (registration.driver.respond callback (node.placeOf env k callback status)).driver }) :=
  enrolled?_eq_some_iff.2 (get?_call env callback (enrolled?_eq_some_iff.1 h))

/-- What a call makes of the driver is what the driver answers. -/
theorem deals_call {status : Status} {registration : Registration}
    (hkept : node.enrolled? k = some (status, registration)) {env : Env} {callback : Callback}
    {events : List EventKind} {standing : Standing}
    (hanswers : Driver.Answers (node.placeOf env k callback status) registration.driver
      (registration.driver.respond callback (node.placeOf env k callback status)) events standing) :
    Deals k node (node.call env k callback).2
      { Stance.of status registration with standing } events
      (if callback = .partnerLost then 1 else 0) := by
  obtain ⟨added, hadded, hown, hreports⟩ := hanswers.trace
  refine ⟨⟨_, _, enrolled?_call hkept env callback, hanswers.fair, ?_⟩,
    .called k callback :: added, ?_, hreports, ?_⟩
  · have hmode := Status.mode_of_unbonded_eq hanswers.unbonded
    have hclass := congrArg Identity.deviceClass (Status.identity_of_unbonded_eq hanswers.unbonded)
    unfold Stance.of
    rw [hmode, hanswers.pairs, hanswers.standing]
    exact congrArg (fun c => Stance.mk _ c _ _ _ _) hclass
  · rw [log_call env callback (enrolled?_eq_some_iff.1 hkept)]
    refine hadded.log.trans ?_
    unfold placeOf
    rw [List.append_assoc]
    rfl
  · unfold lossesOf
    rw [callsOf_called_self, callsOf_of_isOwn hown]
    by_cases hlost : callback = .partnerLost
    · rw [if_pos hlost, hlost]
      rfl
    · rw [if_neg hlost, List.count_cons_of_ne hlost]
      rfl

/-- What is told about the device or in a data packet is no matter of the stance. -/
theorem deals_call_silent (h : node.Keeps k stance) (env : Env) {callback : Callback}
    (hcallback : callback = .connected ∨ ∃ packet, callback = .data packet) :
    Deals k node (node.call env k callback).2 stance [] 0 := by
  obtain ⟨status, registration, hkept, hfair, rfl⟩ := h
  have hdeals := deals_call hkept
    (Driver.answers_silent (node.placeOf env k callback status) hfair hcallback)
  rw [if_neg (by rcases hcallback with rfl | ⟨packet, rfl⟩ <;> simp)] at hdeals
  exact hdeals

/-- A driver whose device or partner is gone lets its peer go. -/
theorem deals_call_letGo (h : node.Keeps k stance) (env : Env) {callback : Callback}
    (hcallback : callback = .removed ∨ callback = .partnerLost) :
    Deals k node (node.call env k callback).2 { stance with standing := .unpaired }
      stance.standing.parting (if callback = .partnerLost then 1 else 0) := by
  obtain ⟨status, registration, hkept, hfair, rfl⟩ := h
  exact deals_call hkept
    (Driver.answers_letGo (node.placeOf env k callback status) hfair hcallback)

/-- A step lets the standing of a driver take one turn and does not tell the driver that its partner
is lost. -/
def TurnsOnce (handle : Handle) (before after : Node) (stance : Stance) : Prop :=
  ∃ reports standing, stance.standing.Turn (peerOnly reports) standing ∧
    Deals handle before after { stance with standing } reports 0

theorem Deals.turnsOnce {after : Node} (h : Deals k node after stance [] 0) :
    TurnsOnce k node after stance :=
  ⟨[], stance.standing, .stay _, h⟩

theorem TurnsOnce.afterDeals {first second third : Node} {v : Stance}
    (h : Deals k first second v [] 0) (h' : TurnsOnce k second third v) :
    TurnsOnce k first third v := by
  obtain ⟨reports, standing, hturn, hdeals⟩ := h'
  exact ⟨reports, standing, hturn, h.after hdeals⟩

theorem TurnsOnce.thenSpares {who : Handle → Prop} {first second third : Node} {v : Stance}
    (h : TurnsOnce k first second v) (hspares : Spares who second third) (hk : who k) :
    TurnsOnce k first third v := by
  obtain ⟨reports, standing, hturn, hdeals⟩ := h
  exact ⟨reports, standing, hturn, hdeals.then (deals_of_spares hdeals.keeps hspares hk)⟩

/-- A control packet lets the standing take a turn, if pairing packets reach own drivers only. -/
theorem turnsOnce_call_control (h : node.Keeps k stance) (env : Env) {cp : ControlPacket}
    (hown : cp.type = .pairing → stance.mode.contains DeviceFlags.own = true) :
    TurnsOnce k node (node.call env k (.control cp)).2 stance := by
  obtain ⟨status, registration, hkept, hfair, rfl⟩ := h
  have hlocal : cp.type = .pairing → status.isLocal = true := fun htype =>
    (Status.isLocal_eq_mode status).trans (hown htype)
  obtain ⟨events, standing, hturn, hanswers⟩ :=
    Driver.answers_control (node.placeOf env k (.control cp) status) hfair hlocal
  refine ⟨events, standing, ?_, deals_call hkept hanswers⟩
  rw [hturn.peerOnly_eq]
  exact hturn

end Node

end DeviceBus
