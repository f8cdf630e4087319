import DeviceBus.Proofs.Node.History

/-!
# Suitable peers

A peer suits a driver that may pair at all and has the peer's class. A driver asks suitable devices
only, and it follows the device it asked or is bonded to, so whoever it asks suits it. A request,
however, is accepted from anybody by anybody: a bond is with a suitable peer as far as the requests
are that reach own drivers.

## Main results

* `isFit_onControl`: what a control packet makes of a driver that asks suitable devices only.
* `suits_of_history`: every bond is with a suitable peer, if all requests come from such.
* `unsuitable_of_request`: a bond of a driver that may not pair with a device of another class.
-/

namespace DeviceBus

open ControlPacket

/-- The driver may pair, and with a peer of that class. -/
def Status.Suits (peer : Identity) (status : Status) : Prop :=
  status.mayPair = true ∧ peer.deviceClass = status.deviceClass

/-- A request comes from a device that suits the driver. -/
def ControlPacket.IsSuitable (cp : ControlPacket) (status : Status) : Prop :=
  cp.type = .pairing → cp.isPairingAnswer = false → ∀ requester,
    Identity.decode? cp.payload = some requester → status.Suits requester

/-- Who was asked suits the driver, and so does a partner, if requests are screened. -/
def Standing.IsFit (screened : Prop) (status : Status) : Standing → Prop
  | unpaired => True
  | pairing target => status.Suits target
  | paired partner => screened → status.Suits partner

variable {screened : Prop}

theorem Status.suits_of_isSameDevice {status : Status} {a b : Identity} (h : status.Suits a)
    (hsame : a.isSameDevice b = true) : status.Suits b :=
  ⟨h.1, (Identity.isSameDevice_iff.1 hsame).2.symm.trans h.2⟩

/-- Who suits is a matter of role and class. -/
theorem Standing.IsFit.of_mode_eq {before after : Status} {standing : Standing}
    (h : standing.IsFit screened before)
    (hmode : DeviceFlags.mode after.flags = DeviceFlags.mode before.flags)
    (hclass : after.deviceClass = before.deviceClass) : standing.IsFit screened after := by
  have hsuits : ∀ {peer : Identity}, before.Suits peer → after.Suits peer := by
    rintro peer ⟨hmay, hpeer⟩
    refine ⟨?_, hpeer.trans hclass.symm⟩
    rw [Status.mayPair_eq_mode, hmode, ← Status.mayPair_eq_mode]
    exact hmay
  cases standing with
  | unpaired => trivial
  | pairing target => exact hsuits h
  | paired partner => exact fun hscreened => hsuits (h hscreened)

namespace Pairable

/-- A driver that may not pair does nothing at an announce. -/
theorem onAnnounce_of_mayPair_eq_false (cp : ControlPacket) {ctx : Context} (driver : Pairable)
    (h : ctx.status.mayPair = false) : driver.onAnnounce cp ctx = ⟨false, driver, ctx⟩ := by
  unfold onAnnounce
  rw [h]
  rfl

/-- The step: a control packet keeps a driver fit, as far as requests are screened. -/
theorem isFit_onControl {cp : ControlPacket} {ctx : Context} {driver : Pairable}
    (hrequest : screened → cp.IsSuitable ctx.status)
    (h : driver.state.IsFit screened ctx.status) :
    (driver.onControl cp ctx).driver.state.IsFit screened ctx.status := by
  by_cases hbarred : cp.type = .hello ∧ ctx.status.mayPair = false
  · obtain ⟨hello, hmay⟩ := hbarred
    unfold onControl
    rw [hello]
    dsimp only
    rw [onAnnounce_of_mayPair_eq_false cp driver hmay]
    exact h
  · obtain ⟨standing, sent, events, hmove, hshows⟩ := driver.onControl_move cp ctx
    rw [hshows.state]
    generalize driver.state = before at h hmove
    cases hmove with
    | stay => exact h
    | follow hello same =>
      exact fun hscreened => Status.suits_of_isSameDevice (h hscreened) same
    | ask hello foreign reason =>
      rcases reason with ⟨-, heligible⟩ | ⟨target, rfl, hsame⟩
      · have hmay : ctx.status.mayPair = true := by
          by_contra hnot
          exact hbarred ⟨hello, by simpa using hnot⟩
        simp only [isEligible, Bool.and_eq_true, beq_iff_eq] at heligible
        exact ⟨hmay, heligible.1.1.2⟩
      · exact Status.suits_of_isSameDevice h hsame
    | accept pairing request sender free =>
      exact fun hscreened => hrequest hscreened pairing request _ sender
    | refuse => exact h
    | bond pairing answer sender same ack =>
      exact fun _ => Status.suits_of_isSameDevice h same
    | giveUp => trivial

end Pairable

/-- Whatever a fit driver is told, it is fit afterwards, as far as requests are screened. -/
theorem Driver.isFit_respond {driver : Driver} {callback : Callback} {ctx : Context}
    (hrequest : ∀ cp, callback = .control cp → screened → cp.IsSuitable ctx.status)
    (h : driver.Stands (Standing.IsFit screened ctx.status)) :
    (driver.respond callback ctx).driver.Stands
      (Standing.IsFit screened (driver.respond callback ctx).context.status) := by
  cases driver with
  | quiet => trivial
  | probe p => trivial
  | console c =>
    unfold respond
    cases callback <;> trivial
  | logger client => trivial
  | pairable p =>
    have hordinary : (pairable p).IsOrdinary := trivial
    have hunbonded := (respond_spec hordinary callback ctx).unbonded
    have hclass := congrArg Identity.deviceClass (Status.identity_of_unbonded_eq hunbonded)
    refine Standing.IsFit.of_mode_eq ?_ (Status.mode_of_unbonded_eq hunbonded) hclass
    have hletGo : (p.letGo ctx).1.state.IsFit screened ctx.status := by
      rw [p.state_letGo ctx]
      trivial
    cases callback with
    | control cp => exact Pairable.isFit_onControl (hrequest cp rfl) h
    | data packet =>
      show (p.onData packet ctx).driver.state.IsFit screened ctx.status
      rw [(p.onData_spec packet ctx).1]
      exact h
    | connected => exact h
    | removed => exact hletGo
    | partnerLost => exact hletGo

/-- The driver of an entry is fit, if it is one that pairs. -/
def Entry.IsFit (screened : Prop) (entry : Entry) : Prop :=
  ∀ registration, entry.kind = .driver registration →
    registration.driver.Stands (Standing.IsFit screened entry.status)

theorem Entry.lasts_isFit (screened : Prop) :
    Entry.Lasts Driver.IsUnbonded (fun cp status => screened → cp.IsSuitable status)
      (fun _ => Entry.IsFit screened) where
  record _ _ _ _ hkind := by cases hkind
  restate hmode hclass h registration hkind :=
    (h registration hkind).mono fun _ hfit => hfit.of_mode_eq hmode hclass
  rebook hdriver _ h registration hkind := by
    cases hkind
    rw [hdriver]
    exact h _ rfl
  tell hrequest h registration hkind := by
    cases hkind
    exact Driver.isFit_respond hrequest (h _ rfl)
  fresh _ _ _ registration _ hunbonded other hkind := by
    cases hkind
    refine hunbonded.mono fun standing hstanding => ?_
    rw [hstanding]
    trivial
  work hworks h registration hkind := by
    cases hkind
    exact hworks.steady.stands _ (h _ rfl)

namespace Node

variable {settings : NodeSettings} {draws : Draws} {node : Node}

/-- Every request of a frame that reaches an own driver comes from a device that suits it. -/
def Screens (node : Node) (frame : Bytes) : Prop :=
  ∀ cp, ofFrame? frame = some cp → ∀ handle status, node.status? handle = some status →
    isTarget cp status = true → cp.IsSuitable status

/-- A driver is fit in every history in which requests are as screened as that needs. -/
theorem History.isFit {meets : Node → Bytes → Prop}
    (hmeets : ∀ node frame, screened → meets node frame → node.Screens frame)
    (h : History settings draws Driver.IsUnbonded meets node) {handle : Handle} {status : Status}
    {driver : Pairable} (hstatus : node.status? handle = some status)
    (hdriver : node.pairable? handle = some driver) : driver.state.IsFit screened status := by
  obtain ⟨registration, hentry, hpairs⟩ := get?_of_pairable? hstatus hdriver
  have hadmits : ∀ node frame, meets node frame →
      node.Admits (fun cp status => screened → cp.IsSuitable status) frame := by
    intro node frame hmet cp hframe
    refine ⟨fun hello status _ htype => ?_, fun _ handle status hstatus htarget hscreened => ?_⟩
    · rw [hello] at htype
      cases htype
    · exact hmeets node frame hscreened hmet cp hframe handle status hstatus htarget
  have hfit := History.each (Entry.lasts_isFit screened) hadmits h handle _ hentry _ rfl
  rw [hpairs] at hfit
  exact hfit

/-- **Every bond is with a suitable peer, if all requests come from such.** Whatever else becomes
of a node whose drivers were registered without a bond, a driver with a partner has a role that may
pair, and the partner is of its class. -/
theorem suits_of_history (h : History settings draws Driver.IsUnbonded Screens node)
    {handle : Handle} {status : Status} {driver : Pairable} {partner : Identity}
    (hstatus : node.status? handle = some status) (hdriver : node.pairable? handle = some driver)
    (hpaired : driver.state = .paired partner) :
    status.mayPair = true ∧ partner.deviceClass = status.deviceClass := by
  have hfit := History.isFit (fun _ _ (_ : True) hmet => hmet) h hstatus hdriver
  rw [hpaired] at hfit
  exact hfit trivial

/-- A driver of some role with its address drawn, that a device of some class asks to pair. -/
def askedDriver (role : Role) (requesterClass : DeviceClass) : Node :=
  ((withDriver ⟨role, 7, some 1, some 10⟩ (.pairable (.ofGated .idle))).tick .taking).receiveFrame
    .taking (pairingMessage ⟨10, 1, 7⟩ askingFlags ⟨20, 2, requesterClass⟩).frame

/-- A pairable host accepts a device of its class. -/
theorem suits_of_askedHost :
    ∃ status driver, History {} ⟨fun _ => 0, 0⟩ Driver.IsUnbonded Screens
        (askedDriver .pairableHost 7) ∧
      (askedDriver .pairableHost 7).status? ⟨0, 0⟩ = some status ∧
      (askedDriver .pairableHost 7).pairable? ⟨0, 0⟩ = some driver ∧
      driver.state = .paired ⟨20, 2, 7⟩ ∧ status.mayPair = true ∧
      (⟨20, 2, 7⟩ : Identity).deviceClass = status.deviceClass := by
  let before := (withDriver ⟨.pairableHost, 7, some 1, some 10⟩
    (.pairable (.ofGated .idle))).tick .taking
  have hbefore : History {} ⟨fun _ => 0, 0⟩ Driver.IsUnbonded Screens before :=
    .tick .taking (history_withDriver _ trivial rfl)
  have hhandles : before.registry.handles = [⟨0, 0⟩] := by decide +kernel
  have hown : before.status? ⟨0, 0⟩ =
      some ⟨10, 0, DeviceFlags.own ∪ DeviceFlags.pairable ∪ DeviceFlags.unconfirmed, 1, 7⟩ := by
    decide +kernel
  have hscreens : before.Screens (pairingMessage ⟨10, 1, 7⟩ askingFlags ⟨20, 2, 7⟩).frame := by
    intro cp hframe handle status hstatus _ _ _ requester hsender
    rw [ofFrame?_pairingMessage] at hframe
    cases hframe
    have hrequester : requester = ⟨20, 2, 7⟩ :=
      Option.some.inj (hsender.symm.trans (Identity.decode?_encode ⟨20, 2, 7⟩))
    rw [eq_of_handles_eq_singleton hbefore.orderly.sound hhandles hstatus, hown] at hstatus
    cases hstatus
    rw [hrequester]
    exact ⟨by decide, rfl⟩
  have hhistory : History {} ⟨fun _ => 0, 0⟩ Driver.IsUnbonded Screens
      (askedDriver .pairableHost 7) :=
    hbefore.receive .taking _ hscreens
  have hstatus : (askedDriver .pairableHost 7).status? ⟨0, 0⟩ =
      some ⟨10, 0, DeviceFlags.own ∪ DeviceFlags.pairable ∪ DeviceFlags.unconfirmed ∪
        DeviceFlags.paired, 1, 7⟩ := by
    decide +kernel
  obtain ⟨driver, hdriver, hpaired⟩ : ∃ driver,
      (askedDriver .pairableHost 7).pairable? ⟨0, 0⟩ = some driver ∧
        driver.state = .paired ⟨20, 2, 7⟩ :=
    Option.map_eq_some_iff.1 (by decide +kernel :
      ((askedDriver .pairableHost 7).pairable? ⟨0, 0⟩).map (fun driver => driver.state) =
        some (.paired ⟨20, 2, 7⟩))
  exact ⟨_, driver, hhistory, hstatus, hdriver, hpaired,
    suits_of_history hhistory hstatus hdriver hpaired⟩

/-- A plain host, which may not pair, accepts a device of another class. -/
theorem unsuitable_of_request :
    History {} ⟨fun _ => 0, 0⟩ Driver.IsUnbonded (fun _ _ => True) (askedDriver .host 9) ∧
    ((askedDriver .host 9).pairable? ⟨0, 0⟩).map (fun driver => driver.state) =
      some (.paired ⟨20, 2, 9⟩) ∧
    ((askedDriver .host 9).status? ⟨0, 0⟩).map
      (fun status => (status.mayPair, status.isPaired, status.deviceClass)) =
      some (false, true, 7) := by
  refine ⟨?_, ?_, ?_⟩
  · unfold askedDriver
    exact .receive .taking _ (.tick .taking (history_withDriver _ trivial rfl)) trivial
  · decide +kernel
  · decide +kernel

end Node

end DeviceBus
