import DeviceBus.Proofs.Node.Rounds
import DeviceBus.Proofs.Pairing.Admissible

/-!
# Repeated requests

While a driver waits for the answer of a device, the announces of the device make it ask again. The
announce reaches the driver in the course of its round: a driver that hears its class gets every
announce, any other one gets safe announces only. So the request of a pairable host is not repeated
while its device announces that it negotiates a pairing itself.

## Main results

* `visit_of_asking`: how an announce reaches a driver that waits for an answer.
* `retries_of_history`: which announces of the device make the driver ask again, once and from the
  address where the device is now, and that the others leave its request alone.
* `unheard_of_pairingMode`: an announce that a waiting pairable host does not answer.
-/

namespace DeviceBus

open ControlPacket

/-- The pairing requests of a sender among some frames. -/
def requestsOf (sender : Identity) (frames : List Bytes) : List ControlPacket :=
  (frames.filterMap ofFrame?).filter fun cp =>
    cp.type == .pairing && !cp.isPairingAnswer && cp.payload == sender.encode

@[simp] theorem requestsOf_append (sender : Identity) (a b : List Bytes) :
    requestsOf sender (a ++ b) = requestsOf sender a ++ requestsOf sender b := by
  unfold requestsOf
  rw [List.filterMap_append, List.filter_append]

/-- The request that a driver sends is its own. -/
theorem requestsOf_request (target sender : Identity) :
    requestsOf sender [(pairingMessage target askingFlags sender).frame] =
      [pairingMessage target askingFlags sender] := by
  unfold requestsOf
  simp only [List.filterMap_cons, ofFrame?_pairingMessage, List.filterMap_nil]
  rw [List.filter_cons_of_pos]
  · rfl
  · rw [isPairingAnswer_request]
    simp [pairingMessage]

/-- A request from another address is not the sender's. -/
theorem requestsOf_of_address_ne {target sender other : Identity} (flags : ControlFlags)
    (h : other.address ≠ sender.address) :
    requestsOf sender [(pairingMessage target flags other).frame] = [] := by
  have hpayload : other.encode ≠ sender.encode := by
    intro heq
    exact h (List.cons.inj heq).1
  unfold requestsOf
  simp only [List.filterMap_cons, ofFrame?_pairingMessage, List.filterMap_nil]
  rw [List.filter_cons_of_neg]
  · rfl
  · simp [pairingMessage, hpayload]

namespace Node

variable {node : Node}

/-! ## Whose requests they are -/

/-- The requests of other drivers are none of this one's: their addresses are other ones. -/
theorem requestsOf_eq_nil (h : node.Orderly) {cp : ControlPacket} {handle : Handle}
    {status : Status} (hstatus : node.status? handle = some status)
    (hlocal : status.isLocal = true) {frames : List Bytes}
    (hothers : AreRequestsOf (· ≠ handle) cp node frames) :
    requestsOf status.identity frames = [] := by
  induction frames with
  | nil => rfl
  | cons frame rest ih =>
    have hrest : AreRequestsOf (· ≠ handle) cp node rest :=
      fun other hother => hothers other (List.mem_cons_of_mem frame hother)
    obtain ⟨k, hk, t, ht, hconfirmed, sender, hsender, rfl⟩ := hothers _ List.mem_cons_self
    have hother : sender.address ≠ status.identity.address := by
      intro heq
      have hpos := (h.lawful k t ht).address_ne_zero_of_isConfirmed hconfirmed
      exact hk (h.distinct k handle t status.tenancy ht (tenancy?_of_status? hstatus hlocal) hpos
        (hsender.symm.trans heq))
    show requestsOf status.identity ([_] ++ rest) = []
    rw [requestsOf_append, requestsOf_of_address_ne askingFlags hother, ih hrest]
    rfl

/-! ## How the announce reaches the driver -/

/-- No own driver has an address that is free. -/
theorem noOtherOwns_of_free {cp : ControlPacket}
    (hfree : ∀ k other, node.status? k = some other → other.isLocal = true → other.address ≠ 0 →
      other.address ≠ cp.address) (handle : Handle) : node.NoOtherOwns cp handle := by
  intro k t _ ht howns
  obtain ⟨entry, hother, hotherLocal, rfl⟩ := tenancy?_eq_some_iff.1 ht
  have hk : node.status? k = some entry.status := by
    rw [status?, hother]
    rfl
  exact hfree k entry.status hk hotherLocal howns.1 howns.2

/-- Recording the announced device is no step closer to a driver. -/
theorem Approaches.recordDevice {cp : ControlPacket} {handle : Handle} {mid : Node}
    (h : Approaches cp handle node mid) : Approaches cp handle node (mid.recordDevice cp) := by
  refine ⟨h.quiet.trans (quiet_recordDevice h.quiet.sound cp),
    (filter_recordDevice cp).trans h.filter, fun k entry hentry hdriver hspared => ?_, ?_⟩
  · obtain ⟨there, hthere, hlike⟩ := h.spared k entry hentry hdriver hspared
    exact ⟨there, get?_recordDevice cp hthere (hlike.isRecord.trans hdriver), hlike⟩
  · obtain ⟨added, hadded, hrest⟩ := h.trace
    exact ⟨added, (log_recordDevice cp).trans hadded, hrest⟩

/-- The announce of a device of the driver's class, at an address that the driver does not have:
it reaches a connected driver that may pair if it is safe, or if the driver hears its class. -/
theorem visit_of_asking {cp : ControlPacket} {handle : Handle} {scan : Scan}
    (hcomes : Approaches cp handle node scan.node) (env : Env) {status : Status}
    {registration : Registration}
    (hentry : scan.node.registry.get? handle = some ⟨status, .driver registration⟩)
    (hmay : status.mayPair = true) (hconnected : status.isConnected = true)
    (hclass : cp.deviceClass = status.deviceClass) (hforeign : status.address ≠ cp.address) :
    if status.isBroadcast = true ∨ cp.flags.isSafe = true then
      ∃ mid : Scan, Approaches cp handle node mid.node ∧
        mid.node.registry.get? handle = some ⟨status, .driver registration⟩ ∧
        visit env cp handle scan = .proceed (mid.deliver env handle cp)
    else visit env cp handle scan = .proceed scan := by
  have hrole := (hcomes.quiet.sound.entries handle _ hentry).2
  cases showing env cp hentry with
  | yields owns | rebukes owns | agrees owns =>
    exact absurd (ownsAddress_iff.1 owns).2.2 hforeign
  | moves _ hfollows =>
    have hremote := hrole.not_isLocal_of_isVirtual (follows_iff.1 hfollows).1
    cases hremote.symm.trans (hrole.isLocal_of_mayPair hmay)
  | records _ _ broadcast _ _ _ heq =>
    rw [if_pos (.inl broadcast)]
    exact ⟨{ scan with node := scan.node.recordDevice cp }, hcomes.recordDevice,
      get?_recordDevice cp hentry rfl, heq⟩
  | hears _ _ broadcast _ _ heq =>
    rw [if_pos (.inl broadcast)]
    exact ⟨scan, hcomes, hentry, heq⟩
  | pairs _ _ _ safe _ _ _ _ heq =>
    rw [if_pos (.inr safe)]
    exact ⟨scan, hcomes, hentry, heq⟩
  | passes _ _ unheard unpaired heq =>
    have hdeaf : ¬ (status.isBroadcast = true ∨ cp.flags.isSafe = true) := by
      rintro (hbroadcast | hsafe)
      · rw [hbroadcast, hclass, beq_self_eq_true] at unheard
        cases unheard
      · exact unpaired ⟨hsafe, hmay, hconnected, hclass.symm, hforeign⟩
    rw [if_neg hdeaf]
    exact heq

/-! ## What the driver does -/

/-- A driver that waits for an answer asks again when it hears of its device. -/
theorem call_of_asking {env : Env} (henv : env.refusal = none) {cp : ControlPacket}
    (hello : cp.type = .hello) {handle : Handle} {status : Status} {registration : Registration}
    {driver : Pairable} {target : Identity}
    (hentry : node.registry.get? handle = some ⟨status, .driver registration⟩)
    (hpairs : registration.driver = .pairable driver) (hstate : driver.state = .pairing target)
    (hmay : status.mayPair = true) (hconnected : status.isConnected = true)
    (hforeign : cp.address ≠ status.address) (hsame : target.isSameDevice cp.announced = true) :
    ∃ after now left added,
      (node.call env handle (.control cp)).2.registry.get? handle = some ⟨after, .driver now⟩ ∧
      after.unbonded = status.unbonded ∧ now.driver = .pairable left ∧
      left.state = .pairing cp.announced ∧
      (node.call env handle (.control cp)).2.log = node.log ++ added ∧
      framesOf added = [(pairingMessage cp.announced askingFlags status.identity).frame] := by
  let ctx : Context := ⟨env, handle, status, node.log ++ [.called handle (.control cp)]⟩
  have hshows : Pairable.Shows ctx driver (driver.onAnnounce cp ctx) (.pairing cp.announced)
      (some (pairingMessage cp.announced askingFlags status.identity)) [] :=
    Pairable.shows_ask hstate hmay hconnected hforeign hsame henv
  have hrespond : (registration.driver.respond (.control cp) ctx) =
      ⟨(driver.onAnnounce cp ctx).handled, .pairable (driver.onAnnounce cp ctx).driver,
        (driver.onAnnounce cp ctx).context⟩ := by
    have hcontrol : driver.onControl cp ctx = driver.onAnnounce cp ctx := by
      unfold Pairable.onControl
      rw [hello]
    rw [hpairs, ← hcontrol]
    rfl
  obtain ⟨added, hadded, hframes, -⟩ := hshows.trace
  refine ⟨_, _, (driver.onAnnounce cp ctx).driver, .called handle (.control cp) :: added,
    get?_call env (.control cp) hentry, ?_, ?_, hshows.state, ?_, hframes⟩
  · show (registration.driver.respond (.control cp) ctx).context.status.unbonded = _
    rw [hrespond]
    exact hshows.unbonded
  · show (registration.driver.respond (.control cp) ctx).driver = _
    rw [hrespond]
  · rw [log_call env (.control cp) hentry]
    show (registration.driver.respond (.control cp) ctx).context.log = _
    rw [hrespond]
    refine hadded.log.trans ?_
    show node.log ++ [.called handle (.control cp)] ++ added = _
    rw [List.append_assoc]
    rfl

section

variable (h : node.Orderly) {env : Env} {cp : ControlPacket} (hello : cp.type = .hello)
  {handle : Handle} {status : Status} (hstatus : node.status? handle = some status)
  (hlocal : status.isLocal = true) (hothers : node.NoOtherOwns cp handle) {mid : Scan}
  (hcomes : Approaches cp handle node mid.node) {registration : Registration} {driver : Pairable}
  (hentry : mid.node.registry.get? handle = some ⟨status, .driver registration⟩)
  (hpairs : registration.driver = .pairable driver) {later : List Handle} (hlater : handle ∉ later)

include h hello hstatus hlocal hothers hcomes hentry hpairs hlater

/-- The end of a round that reached a waiting driver: it asked again, and nobody else asked in its
name. -/
theorem retries_of_deliver (henv : env.refusal = none) {target : Identity}
    (hstate : driver.state = .pairing target) (hmay : status.mayPair = true)
    (hconnected : status.isConnected = true) (hforeign : cp.address ≠ status.address)
    (hsame : target.isSameDevice cp.announced = true) :
    ∃ added left,
      (conclude env cp later (.proceed (mid.deliver env handle cp))).log = node.log ++ added ∧
      (conclude env cp later (.proceed (mid.deliver env handle cp))).pairable? handle = some left ∧
      left.state = .pairing cp.announced ∧
      requestsOf status.identity (framesOf added) =
        [pairingMessage cp.announced askingFlags status.identity] := by
  obtain ⟨after, now, left, own, hget, hunbonded, hnow, hleft, hown, hframes⟩ :=
    call_of_asking henv hello hentry hpairs hstate hmay hconnected hforeign hsame
  have hcall : Quiet mid.node (mid.deliver env handle cp).node :=
    quiet_call hcomes.quiet.sound env handle (.control cp)
  have hquiet := hcomes.quiet.trans hcall
  have hstill : after.isLocal = true := by
    rw [Status.isLocal_eq_of_tenancy_eq (Status.tenancy_eq_of_unbonded_eq hunbonded)]
    exact hlocal
  obtain ⟨hkept, more, hmore, hmoreOthers, -⟩ :=
    conclude_spec env hello hcall.sound hlater (hothers.of_quiet hquiet) hget hstill
  obtain ⟨before, hbefore, -, hbeforeOthers⟩ := hcomes.trace
  have hmid : (mid.deliver env handle cp).node.log = mid.node.log ++ own := hown
  refine ⟨before ++ own ++ more, left, ?_, pairable?_of_get? hkept hnow, hleft, ?_⟩
  · rw [hmore, hmid, hbefore, List.append_assoc, List.append_assoc, List.append_assoc]
  · rw [framesOf_append, framesOf_append, requestsOf_append, requestsOf_append, hframes,
      requestsOf_eq_nil h hstatus hlocal hbeforeOthers, requestsOf_request,
      requestsOf_eq_nil h hstatus hlocal (hmoreOthers.of_quiet hquiet)]
    rfl

/-- The end of a round that did not reach a waiting driver: it is as it was, and nobody asked in its
name. -/
theorem rests_of_proceed (env : Env) :
    ∃ added, (conclude env cp later (.proceed mid)).log = node.log ++ added ∧
      (conclude env cp later (.proceed mid)).pairable? handle = some driver ∧
      requestsOf status.identity (framesOf added) = [] := by
  obtain ⟨hkept, more, hmore, hmoreOthers, -⟩ := conclude_spec env hello hcomes.quiet.sound hlater
    (hothers.of_quiet hcomes.quiet) hentry hlocal
  obtain ⟨before, hbefore, -, hbeforeOthers⟩ := hcomes.trace
  refine ⟨before ++ more, ?_, pairable?_of_get? hkept hpairs, ?_⟩
  · rw [hmore, hbefore, List.append_assoc]
  · rw [framesOf_append, requestsOf_append, requestsOf_eq_nil h hstatus hlocal hbeforeOthers,
      requestsOf_eq_nil h hstatus hlocal (hmoreOthers.of_quiet hcomes.quiet)]
    rfl

end

/-- **A request is repeated with the announces that reach the driver.** Whatever became of a node,
let one of its connected drivers wait for the answer of a device, and let the device announce itself
at an address that no own driver has. If the driver hears its class or the announce is safe, then
the driver asks again, once and where the device is now. Otherwise it goes on waiting. -/
theorem retries_of_history {settings : NodeSettings} {draws : Draws}
    (h : History settings draws Driver.IsUnbonded (fun _ _ => True) node) {env : Env}
    (henv : env.refusal = none) {frame : Bytes} {cp : ControlPacket}
    (hframe : helloOf? frame = some cp) {handle : Handle} {status : Status} {driver : Pairable}
    {target : Identity} (hstatus : node.status? handle = some status)
    (hdriver : node.pairable? handle = some driver) (hstate : driver.state = .pairing target)
    (hconnected : status.isConnected = true) (hserial : cp.serial = target.serial)
    (hclass : cp.deviceClass = target.deviceClass)
    (hfree : ∀ k other, node.status? k = some other → other.isLocal = true → other.address ≠ 0 →
      other.address ≠ cp.address) :
    ∃ added left, (node.receiveFrame env frame).log = node.log ++ added ∧
      (node.receiveFrame env frame).pairable? handle = some left ∧
      if status.isBroadcast = true ∨ cp.flags.isSafe = true then
        left.state = .pairing cp.announced ∧
          requestsOf status.identity (framesOf added) =
            [pairingMessage cp.announced askingFlags status.identity]
      else left.state = .pairing target ∧ requestsOf status.identity (framesOf added) = [] := by
  have horderly := h.orderly
  obtain ⟨-, hello⟩ := helloOf?_eq_some_iff.1 hframe
  obtain ⟨registration, hentry, hpairs⟩ := get?_of_pairable? hstatus hdriver
  -- Whom the driver asked suits it, whichever requests it met.
  have hsuits : status.Suits target := by
    have hfit := History.isFit (fun _ _ (hscreened : False) _ => hscreened.elim) h hstatus hdriver
    rw [hstate] at hfit
    exact hfit
  have hlocal : status.isLocal = true :=
    (horderly.sound.entries handle _ hentry).2.isLocal_of_mayPair hsuits.1
  have hown := tenancy?_of_status? hstatus hlocal
  have hpos : status.address ≠ 0 :=
    (horderly.lawful handle _ hown).address_ne_zero_of_isConfirmed hconnected
  have hforeign := hfree handle status hstatus hlocal hpos
  have hothers : node.NoOtherOwns cp handle := noOtherOwns_of_free hfree handle
  have hsame : target.isSameDevice cp.announced = true :=
    Identity.isSameDevice_iff.2 ⟨hserial.symm, hclass.symm⟩
  obtain ⟨next, later, hlater, hcomes, heq⟩ :=
    receiveAnnounce_eq_conclude horderly.sound env hello hentry hothers
  obtain ⟨now, hthere, hnow⟩ := hcomes.driver hentry
  rw [hpairs] at hnow
  have hreceive : node.receiveFrame env frame =
      conclude env cp later (visit env cp handle next) :=
    (receiveFrame_of_hello node env hframe).trans heq
  have hvisit := visit_of_asking hcomes env hthere hsuits.1 hconnected (hclass.trans hsuits.2)
    hforeign
  rw [hreceive]
  by_cases hheard : status.isBroadcast = true ∨ cp.flags.isSafe = true
  · rw [if_pos hheard] at hvisit
    obtain ⟨mid, hmid, hmidThere, hdeliver⟩ := hvisit
    obtain ⟨added, left, hlog, hleft, hasks, honce⟩ := retries_of_deliver horderly hello hstatus
      hlocal hothers hmid hmidThere hnow hlater henv hstate hsuits.1 hconnected hforeign.symm hsame
    rw [hdeliver]
    refine ⟨added, left, hlog, hleft, ?_⟩
    rw [if_pos hheard]
    exact ⟨hasks, honce⟩
  · rw [if_neg hheard] at hvisit
    obtain ⟨added, hlog, hstill, hnone⟩ := rests_of_proceed horderly hello hstatus hlocal hothers
      hcomes hthere hnow hlater env
    rw [hvisit]
    refine ⟨added, driver, hlog, hstill, ?_⟩
    rw [if_neg hheard]
    exact ⟨hstate, hnone⟩

/-- A connected pairable host that asked a device which announced that it may be paired. -/
def waitingHost : Node :=
  ((withDriver ⟨.pairableHost, 7, some 1, some 10⟩
    (.pairable (.ofGated .idle))).afterTicks 4).receiveFrame .taking
      { ControlPacket.hello 20 7 2 with flags := ControlFlags.pairable }.frame

theorem history_waitingHost :
    History {} ⟨fun _ => 0, 0⟩ Driver.IsUnbonded (fun _ _ => True) waitingHost := by
  have hstart : History {} ⟨fun _ => 0, 0⟩ Driver.IsUnbonded (fun _ _ => True)
      (withDriver ⟨.pairableHost, 7, some 1, some 10⟩ (.pairable (.ofGated .idle))) :=
    history_withDriver _ trivial rfl
  unfold waitingHost
  exact .receive .taking _ (hstart.afterTicks 4) trivial

/-- The device is asked again when it announces once more that it may be paired. -/
theorem retries_of_waitingHost :
    ∃ status driver added left,
      History {} ⟨fun _ => 0, 0⟩ Driver.IsUnbonded (fun _ _ => True) waitingHost ∧
      helloOf? { ControlPacket.hello 20 7 2 with flags := ControlFlags.pairable }.frame =
        some { ControlPacket.hello 20 7 2 with flags := ControlFlags.pairable } ∧
      waitingHost.status? ⟨0, 0⟩ = some status ∧ status.isConnected = true ∧
      waitingHost.pairable? ⟨0, 0⟩ = some driver ∧ driver.state = .pairing ⟨20, 2, 7⟩ ∧
      (∀ k other, waitingHost.status? k = some other → other.isLocal = true → other.address ≠ 0 →
        other.address ≠ 20) ∧
      (waitingHost.receiveFrame .taking
        { ControlPacket.hello 20 7 2 with flags := ControlFlags.pairable }.frame).log =
          waitingHost.log ++ added ∧
      (waitingHost.receiveFrame .taking
        { ControlPacket.hello 20 7 2 with flags := ControlFlags.pairable }.frame).pairable? ⟨0, 0⟩ =
          some left ∧
      left.state = .pairing ⟨20, 2, 7⟩ ∧
      requestsOf status.identity (framesOf added) =
        [pairingMessage ⟨20, 2, 7⟩ askingFlags ⟨10, 1, 7⟩] := by
  have hhistory := history_waitingHost
  have hhello : helloOf? { ControlPacket.hello 20 7 2 with flags := ControlFlags.pairable }.frame =
      some { ControlPacket.hello 20 7 2 with flags := ControlFlags.pairable } := by
    decide +kernel
  have hhandles : waitingHost.registry.handles = [⟨0, 0⟩] := by decide +kernel
  have hstatus : waitingHost.status? ⟨0, 0⟩ =
      some ⟨10, 0, DeviceFlags.own ∪ DeviceFlags.pairable ∪ DeviceFlags.confirmed ∪
        DeviceFlags.pairing, 1, 7⟩ := by
    decide +kernel
  obtain ⟨driver, hdriver, hstate⟩ : ∃ driver, waitingHost.pairable? ⟨0, 0⟩ = some driver ∧
      driver.state = .pairing ⟨20, 2, 7⟩ :=
    Option.map_eq_some_iff.1 (by decide +kernel : (waitingHost.pairable? ⟨0, 0⟩).map
      (fun driver => driver.state) = some (.pairing ⟨20, 2, 7⟩))
  have hfree : ∀ k other, waitingHost.status? k = some other → other.isLocal = true →
      other.address ≠ 0 → other.address ≠ 20 := by
    intro k other hother _ _
    rw [eq_of_handles_eq_singleton hhistory.orderly.sound hhandles hother, hstatus] at hother
    cases hother
    decide
  obtain ⟨added, left, hlog, hleft, hretries⟩ := retries_of_history hhistory
    (rfl : Env.taking.refusal = none) hhello hstatus hdriver hstate (by decide) rfl rfl hfree
  rw [if_pos (.inr (by decide))] at hretries
  exact ⟨_, driver, added, left, hhistory, hhello, hstatus, by decide, hdriver, hstate, hfree, hlog,
    hleft, hretries.1, hretries.2⟩

/-- The device announces that it negotiates a pairing itself, and the host that waits for its answer
sends nothing. -/
theorem unheard_of_pairingMode :
    let announce := { ControlPacket.hello 20 7 2 with
      flags := ControlFlags.pairable ∪ ControlFlags.pairingMode }
    let after := waitingHost.receiveFrame .taking announce.frame
    History {} ⟨fun _ => 0, 0⟩ Driver.IsUnbonded (fun _ _ => True) waitingHost ∧
    helloOf? announce.frame = some announce ∧
    waitingHost.status? ⟨0, 0⟩ =
      some ⟨10, 0, DeviceFlags.own ∪ DeviceFlags.pairable ∪ DeviceFlags.confirmed ∪
        DeviceFlags.pairing, 1, 7⟩ ∧
    (waitingHost.pairable? ⟨0, 0⟩).map (fun driver => driver.state) =
      some (.pairing ⟨20, 2, 7⟩) ∧
    framesOf after.log = framesOf waitingHost.log := by
  refine ⟨history_waitingHost, ?_, ?_, ?_, ?_⟩
  · decide +kernel
  · decide +kernel
  · decide +kernel
  · decide +kernel

end Node

end DeviceBus
