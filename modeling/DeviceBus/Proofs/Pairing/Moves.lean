import DeviceBus.Proofs.ControlFrames
import DeviceBus.Proofs.Tenancy
import DeviceBus.Proofs.Trace

/-!
# The moves of a pairable driver

A control packet makes a pairable driver do one of seven things. `Move` lists them: what must hold
before, where the driver stands afterwards, what it sends and which events it queues. Everything
that is proved about handshakes goes by cases on the move.

## Main results

* `onControl_move`: every control packet makes a move, and nothing but bond flags change in the
  status.
-/

namespace DeviceBus

open ControlPacket

/-- The device that an announce is about. -/
def ControlPacket.announced (cp : ControlPacket) : Identity :=
  ⟨cp.address, cp.serial, cp.deviceClass⟩

/-- A driver adds to an announce, but it is still the announce of the same device. -/
theorem announced_fill (gated : Gated) (cp : ControlPacket) :
    (gated.fill cp).type = cp.type ∧ (gated.fill cp).announced = cp.announced := by
  cases gated with
  | idle => exact ⟨rfl, rfl⟩
  | streamer s => exact ⟨rfl, rfl⟩
  | application app =>
    unfold Gated.fill
    dsimp only
    split
    · exact ⟨rfl, rfl⟩
    · exact ⟨rfl, rfl⟩

theorem Identity.isSameDevice_iff {a b : Identity} :
    a.isSameDevice b = true ↔ a.serial = b.serial ∧ a.deviceClass = b.deviceClass := by
  simp [isSameDevice]

theorem isCanonical_pairingMessage (target : Identity) (flags : ControlFlags) (sender : Identity) :
    (pairingMessage target flags sender).IsCanonical := rfl

theorem payload_pairingMessage_le (target : Identity) (flags : ControlFlags) (sender : Identity) :
    (pairingMessage target flags sender).payload.length ≤ controlPayloadLimit := by
  show sender.encode.length ≤ 20
  rw [Identity.length_encode]
  decide

/-- A pairing packet is heard as it was sent. -/
theorem ofFrame?_pairingMessage (target : Identity) (flags : ControlFlags) (sender : Identity) :
    ofFrame? (pairingMessage target flags sender).frame =
      some (pairingMessage target flags sender) :=
  ofFrame?_frame (isCanonical_pairingMessage target flags sender)
    (payload_pairingMessage_le target flags sender)

theorem decode?_payload_pairingMessage (target : Identity) (flags : ControlFlags)
    (sender : Identity) :
    Identity.decode? (pairingMessage target flags sender).payload = some sender :=
  Identity.decode?_encode sender

/-- A request is no answer; an acceptance and a refusal are. -/
theorem isPairingAnswer_request (target sender : Identity) :
    (pairingMessage target askingFlags sender).isPairingAnswer = false := by
  show (ControlType.pairing == .pairing &&
    askingFlags.intersects (ControlFlags.ack ∪ ControlFlags.nack)) = false
  decide

theorem isPairingAnswer_accept (target sender : Identity) :
    (pairingMessage target ControlFlags.ack sender).isPairingAnswer = true := by
  show (ControlType.pairing == .pairing &&
    ControlFlags.ack.intersects (ControlFlags.ack ∪ ControlFlags.nack)) = true
  decide

theorem isPairingAnswer_refusal (target sender : Identity) :
    (pairingMessage target ControlFlags.nack sender).isPairingAnswer = true := by
  show (ControlType.pairing == .pairing &&
    ControlFlags.nack.intersects (ControlFlags.ack ∪ ControlFlags.nack)) = true
  decide

namespace Pairable

/-- What a control packet `cp` makes of a driver with a status: from one standing to another one,
with what is sent and which events are queued. -/
inductive Move (status : Status) (cp : ControlPacket) :
    Standing → Standing → Option ControlPacket → List EventKind → Prop where
  /-- Nothing changes and nothing is sent. -/
  | stay (standing : Standing) : Move status cp standing standing none []
  /-- The partner announced itself, possibly from another address. -/
  | follow {partner : Identity} (hello : cp.type = .hello)
      (same : partner.isSameDevice cp.announced = true) :
      Move status cp (.paired partner) (.paired cp.announced) none []
  /-- A free peer, or the peer that was asked before, is asked. -/
  | ask {standing : Standing} (hello : cp.type = .hello) (foreign : cp.address ≠ status.address)
      (reason : standing = .unpaired ∧ isEligible cp status = true ∨
        ∃ target, standing = .pairing target ∧ target.isSameDevice cp.announced = true) :
      Move status cp standing (.pairing cp.announced)
        (some (pairingMessage cp.announced askingFlags status.identity)) []
  /-- A request is accepted. -/
  | accept {standing : Standing} {requester : Identity} (pairing : cp.type = .pairing)
      (request : cp.isPairingAnswer = false)
      (sender : Identity.decode? cp.payload = some requester)
      (free : ∀ peer, standing.peer = some peer → peer.isSameDevice requester = true) :
      Move status cp standing (.paired requester)
        (some (pairingMessage requester ControlFlags.ack status.identity))
        (if standing = .paired requester then [] else [.paired requester])
  /-- A request is refused. -/
  | refuse {standing : Standing} {requester peer : Identity} (pairing : cp.type = .pairing)
      (request : cp.isPairingAnswer = false)
      (sender : Identity.decode? cp.payload = some requester)
      (taken : standing.peer = some peer) (other : peer.isSameDevice requester = false) :
      Move status cp standing standing
        (some (pairingMessage requester ControlFlags.nack status.identity)) []
  /-- The peer that was asked accepted. -/
  | bond {target responder : Identity} (pairing : cp.type = .pairing)
      (answer : cp.isPairingAnswer = true)
      (sender : Identity.decode? cp.payload = some responder)
      (same : target.isSameDevice responder = true)
      (ack : cp.flags.contains ControlFlags.ack = true) :
      Move status cp (.pairing target) (.paired responder) none [.paired responder]
  /-- The peer that was asked refused. -/
  | giveUp {target responder : Identity} (pairing : cp.type = .pairing)
      (answer : cp.isPairingAnswer = true)
      (sender : Identity.decode? cp.payload = some responder)
      (same : target.isSameDevice responder = true)
      (nack : cp.flags.contains ControlFlags.ack = false) :
      Move status cp (.pairing target) .unpaired none [.pairRejected]

/-- A reply shows a move: where the driver stands, what was sent and queued on top of the trace,
and no change in the status but for the flags of a bond. -/
structure Shows (ctx : Context) (driver : Pairable) (reply : Reply Pairable)
    (standing : Standing) (sent : Option ControlPacket) (events : List EventKind) : Prop where
  state : reply.driver.state = standing
  unbonded : reply.context.status.unbonded = ctx.status.unbonded
  trace : ∃ added, ctx.Extends reply.context added ∧
    framesOf added = (sent.map ControlPacket.frame).toList ∧
    eventsOf added = events.map fun kind => ⟨ctx.handle, kind⟩

/-! ## The steps of a move -/

theorem unbonded_enter (standing : Standing) (ctx : Context) (driver : Pairable) :
    (driver.enter standing ctx).2.status.unbonded = ctx.status.unbonded := by
  have hmarks : standing.marks.IsSubset DeviceFlags.bond := by
    cases standing with
    | unpaired => exact (by decide : Flags.IsSubset Flags.none DeviceFlags.bond)
    | pairing _ => exact (by decide : Flags.IsSubset DeviceFlags.pairing DeviceFlags.bond)
    | paired _ => exact (by decide : Flags.IsSubset DeviceFlags.paired DeviceFlags.bond)
  show ((ctx.status.unmark DeviceFlags.bond).mark standing.marks).unbonded = ctx.status.unbonded
  rw [Status.unbonded_mark _ hmarks, Status.unbonded_unmark _ (by decide)]

theorem extends_enter (standing : Standing) (ctx : Context) (driver : Pairable) :
    ctx.Extends (driver.enter standing ctx).2 [] :=
  ⟨rfl, rfl, (List.append_nil _).symm⟩

/-- Making a bond queues its event, unless the bond exists. -/
theorem pairWith_spec (partner : Identity) (ctx : Context) (driver : Pairable) :
    (driver.pairWith partner ctx).1.state = .paired partner ∧
      (driver.pairWith partner ctx).2.status.unbonded = ctx.status.unbonded ∧
      ∃ added, ctx.Extends (driver.pairWith partner ctx).2 added ∧ framesOf added = [] ∧
        eventsOf added =
          if driver.state = .paired partner then [] else [⟨ctx.handle, .paired partner⟩] := by
  unfold pairWith
  by_cases h : driver.state = .paired partner
  · rw [if_pos h, if_pos h]
    exact ⟨h, rfl, [], .refl ctx, rfl, rfl⟩
  · rw [if_neg h, if_neg h]
    have hsilent := (driver.enter (.paired partner) ctx).1.gated.isSilent_paired partner
      ((driver.enter (.paired partner) ctx).2.queueEvent (.paired partner))
    obtain ⟨hstatus, added, hadded, hframes, hevents⟩ := hsilent
    refine ⟨rfl, ?_, [.event ⟨ctx.handle, .paired partner⟩] ++ added, ?_, ?_, ?_⟩
    · exact (congrArg Status.unbonded hstatus).trans (unbonded_enter _ ctx driver)
    · exact ((extends_enter (.paired partner) ctx driver).trans
        (Context.extends_trace _ _)).trans hadded
    · rw [framesOf_append, hframes]
      rfl
    · rw [eventsOf_append, hevents]
      rfl

/-- Giving up queues one event, if there was anything to give up. -/
theorem letGo_spec (ctx : Context) (driver : Pairable) :
    (driver.letGo ctx).1.state = .unpaired ∧
      (driver.letGo ctx).2.status.unbonded = ctx.status.unbonded ∧
      ∃ added, ctx.Extends (driver.letGo ctx).2 added ∧ framesOf added = [] ∧
        eventsOf added =
          match driver.state with
          | .unpaired => []
          | .pairing _ => [⟨ctx.handle, .pairRejected⟩]
          | .paired _ => [⟨ctx.handle, .unpaired⟩] := by
  have henter := extends_enter .unpaired ctx driver
  refine ⟨state_letGo ctx driver, ?_, ?_⟩
  · unfold letGo
    cases driver.state with
    | unpaired => exact unbonded_enter .unpaired ctx driver
    | pairing target => exact unbonded_enter .unpaired ctx driver
    | paired partner =>
      have hsilent := (driver.enter .unpaired ctx).1.gated.isSilent_unpaired
        ((driver.enter .unpaired ctx).2.queueEvent .unpaired)
      exact (congrArg Status.unbonded hsilent.1).trans (unbonded_enter .unpaired ctx driver)
  · unfold letGo
    cases driver.state with
    | unpaired => exact ⟨[], henter, rfl, rfl⟩
    | pairing target =>
      exact ⟨_, henter.trans (Context.extends_trace _ _), rfl, rfl⟩
    | paired partner =>
      obtain ⟨-, added, hadded, hframes, hevents⟩ :=
        (driver.enter .unpaired ctx).1.gated.isSilent_unpaired
          ((driver.enter .unpaired ctx).2.queueEvent .unpaired)
      refine ⟨_, (henter.trans (Context.extends_trace _ _)).trans hadded, ?_, ?_⟩
      · rw [framesOf_append, hframes]
        rfl
      · rw [eventsOf_append, hevents]
        rfl

/-- A post leaves the frame of its packet, or nothing. -/
theorem post_cases (cp : ControlPacket) (ctx : Context) :
    (∃ e, ctx.post cp = (.error e, ctx)) ∨
      ctx.post cp = (.ok (), ctx.trace (.sent cp.frame)) := by
  unfold Context.post Context.conclude
  cases h : ctx.env.controlFrame cp with
  | error e => exact .inl ⟨e, rfl⟩
  | ok frame =>
    rw [(Env.controlFrame_eq_ok_iff.1 h).2.2]
    exact .inr rfl

/-- A post is taken if sends are and the packet fits. -/
theorem post_of_refusal_eq_none {cp : ControlPacket} {ctx : Context} (henv : ctx.env.refusal = none)
    (hfit : cp.payload.length ≤ controlPayloadLimit) :
    ctx.post cp = (.ok (), ctx.trace (.sent cp.frame)) := by
  unfold Context.post Context.conclude
  rw [Env.controlFrame_eq_ok_iff.2 ⟨henv, hfit, rfl⟩]

theorem shows_stay (ctx : Context) {driver : Pairable} (handled : Bool) {standing : Standing}
    (h : driver.state = standing) : Shows ctx driver ⟨handled, driver, ctx⟩ standing none [] where
  state := h
  unbonded := rfl
  trace := ⟨[], .refl ctx, rfl, rfl⟩

/-- A request that goes out is remembered. -/
theorem shows_request {target : Identity} {ctx : Context} (driver : Pairable)
    (hconnected : ctx.status.isConnected = true)
    (hpost : ctx.post (pairingMessage target askingFlags ctx.status.identity) =
      (.ok (), ctx.trace (.sent (pairingMessage target askingFlags ctx.status.identity).frame))) :
    Shows ctx driver (driver.request target ctx) (.pairing target)
      (some (pairingMessage target askingFlags ctx.status.identity)) [] := by
  unfold request Context.askToPair
  rw [if_pos hconnected, hpost]
  exact ⟨rfl, unbonded_enter (.pairing target) _ driver, _,
    (Context.extends_trace ctx _).trans (extends_enter (.pairing target) _ driver), rfl, rfl⟩

/-- Asking a peer: either the request went out and is remembered, or nothing happened. -/
theorem request_cases (target : Identity) (ctx : Context) (driver : Pairable) :
    driver.request target ctx = ⟨false, driver, ctx⟩ ∨
      Shows ctx driver (driver.request target ctx) (.pairing target)
        (some (pairingMessage target askingFlags ctx.status.identity)) [] := by
  by_cases hconnected : ctx.status.isConnected = true
  · rcases post_cases (pairingMessage target askingFlags ctx.status.identity) ctx with
      ⟨e, h⟩ | h
    · left
      unfold request Context.askToPair
      rw [if_pos hconnected, h]
    · exact .inr (shows_request driver hconnected h)
  · left
    unfold request Context.askToPair
    rw [if_neg hconnected]

/-! ## Every control packet makes a move -/

/-- The peer that was asked announced itself: it is asked again. -/
theorem shows_ask {cp : ControlPacket} {ctx : Context} {driver : Pairable} {target : Identity}
    (hstate : driver.state = .pairing target) (hmay : ctx.status.mayPair = true)
    (hconnected : ctx.status.isConnected = true) (hforeign : cp.address ≠ ctx.status.address)
    (hsame : target.isSameDevice cp.announced = true) (henv : ctx.env.refusal = none) :
    Shows ctx driver (driver.onAnnounce cp ctx) (.pairing cp.announced)
      (some (pairingMessage cp.announced askingFlags ctx.status.identity)) [] := by
  have hpost := post_of_refusal_eq_none henv
    (payload_pairingMessage_le cp.announced askingFlags ctx.status.identity)
  have hshows := shows_request driver hconnected hpost
  have hguard : (!ctx.status.mayPair || !ctx.status.isConnected ||
      cp.address == ctx.status.address) = false := by
    simp [hmay, hconnected, hforeign]
  have hsame' : target.isSameDevice ⟨cp.address, cp.serial, cp.deviceClass⟩ = true := hsame
  unfold onAnnounce
  rw [hguard, hstate]
  simp only [Bool.false_eq_true, ↓reduceIte, hsame']
  exact ⟨hshows.state, hshows.unbonded, hshows.trace⟩

theorem onAnnounce_move {cp : ControlPacket} (hello : cp.type = .hello) (ctx : Context)
    (driver : Pairable) :
    ∃ standing sent events, Move ctx.status cp driver.state standing sent events ∧
      Shows ctx driver (driver.onAnnounce cp ctx) standing sent events := by
  unfold onAnnounce
  split
  · exact ⟨_, _, _, .stay _, shows_stay ctx false rfl⟩
  · rename_i hguard
    have hforeign : cp.address ≠ ctx.status.address := by
      intro h
      simp [h] at hguard
    cases hstate : driver.state with
    | paired partner =>
      dsimp only
      by_cases hsame : partner.isSameDevice cp.announced = true
      · refine ⟨_, _, _, .follow hello hsame, ?_⟩
        have hsame' : partner.isSameDevice ⟨cp.address, cp.serial, cp.deviceClass⟩ = true := hsame
        rw [if_pos hsame']
        exact ⟨rfl, rfl, [], .refl ctx, rfl, rfl⟩
      · have hsame' : ¬ partner.isSameDevice ⟨cp.address, cp.serial, cp.deviceClass⟩ = true := hsame
        rw [if_neg hsame']
        exact ⟨_, _, _, .stay _, shows_stay ctx false hstate⟩
    | pairing target =>
      dsimp only
      by_cases hsame : target.isSameDevice ⟨cp.address, cp.serial, cp.deviceClass⟩ = true
      · rw [if_pos hsame]
        rcases request_cases cp.announced ctx driver with h | h
        · refine ⟨_, _, _, .stay _, ?_⟩
          have hreply : driver.request ⟨cp.address, cp.serial, cp.deviceClass⟩ ctx =
              ⟨false, driver, ctx⟩ := h
          rw [hreply]
          exact shows_stay ctx true hstate
        · exact ⟨_, _, _, .ask hello hforeign (.inr ⟨target, rfl, hsame⟩),
            ⟨h.state, h.unbonded, h.trace⟩⟩
      · rw [if_neg hsame]
        exact ⟨_, _, _, .stay _, shows_stay ctx false hstate⟩
    | unpaired =>
      dsimp only
      by_cases heligible : isEligible cp ctx.status = true
      · rw [if_pos heligible]
        rcases request_cases cp.announced ctx driver with h | h
        · refine ⟨_, _, _, .stay _, ?_⟩
          have hreply : driver.request ⟨cp.address, cp.serial, cp.deviceClass⟩ ctx =
              ⟨false, driver, ctx⟩ := h
          rw [hreply]
          exact shows_stay ctx false hstate
        · exact ⟨_, _, _, .ask hello hforeign (.inl ⟨rfl, heligible⟩), h⟩
      · rw [if_neg heligible]
        exact ⟨_, _, _, .stay _, shows_stay ctx false hstate⟩

/-- A request is accepted by a driver without a peer and by the peer itself. -/
def accepts (requester : Identity) (standing : Standing) : Bool :=
  match standing.peer with
  | none => true
  | some peer => peer.isSameDevice requester

theorem onRequest_eq {cp : ControlPacket} {requester : Identity}
    (sender : Identity.decode? cp.payload = some requester) (ctx : Context) (driver : Pairable) :
    driver.onRequest cp ctx =
      match ctx.answerPairing requester (accepts requester driver.state) with
      | (.error _, ctx) => ⟨false, driver, ctx⟩
      | (.ok (), ctx) =>
        if accepts requester driver.state then
          ⟨true, (driver.pairWith requester ctx).1, (driver.pairWith requester ctx).2⟩
        else ⟨true, driver, ctx⟩ := by
  unfold onRequest
  simp only [sender]
  rfl

/-- An accepted request makes the bond once its answer went out. -/
theorem shows_accept {cp : ControlPacket} {requester : Identity}
    (sender : Identity.decode? cp.payload = some requester) {ctx : Context} {driver : Pairable}
    (haccept : accepts requester driver.state = true)
    (hpost : ctx.post (pairingMessage requester ControlFlags.ack ctx.status.identity) =
      (.ok (),
        ctx.trace (.sent (pairingMessage requester ControlFlags.ack ctx.status.identity).frame))) :
    Shows ctx driver (driver.onRequest cp ctx) (.paired requester)
      (some (pairingMessage requester ControlFlags.ack ctx.status.identity))
      (if driver.state = .paired requester then [] else [.paired requester]) := by
  rw [onRequest_eq sender]
  unfold Context.answerPairing
  simp only [haccept, ↓reduceIte, hpost]
  obtain ⟨hstate, hunbonded, added, hadded, hframes, hevents⟩ :=
    driver.pairWith_spec requester
      (ctx.trace (.sent (pairingMessage requester ControlFlags.ack ctx.status.identity).frame))
  refine ⟨hstate, hunbonded, _, (Context.extends_trace ctx _).trans hadded, ?_, ?_⟩
  · rw [framesOf_append, hframes]
    rfl
  · rw [eventsOf_append, hevents]
    by_cases hpaired : driver.state = .paired requester
    · rw [if_pos hpaired, if_pos hpaired]
      rfl
    · rw [if_neg hpaired, if_neg hpaired]
      rfl

theorem onRequest_move {cp : ControlPacket} (pairing : cp.type = .pairing)
    (request : cp.isPairingAnswer = false) (ctx : Context) (driver : Pairable) :
    ∃ standing sent events, Move ctx.status cp driver.state standing sent events ∧
      Shows ctx driver (driver.onRequest cp ctx) standing sent events := by
  cases hsender : Identity.decode? cp.payload with
  | none =>
    unfold onRequest
    rw [hsender]
    exact ⟨_, _, _, .stay _, shows_stay ctx false rfl⟩
  | some requester =>
    -- An accepted request and a refused one differ in the answer and in what follows it.
    cases haccept : accepts requester driver.state with
    | true =>
      have hfree : ∀ peer, driver.state.peer = some peer →
          peer.isSameDevice requester = true := by
        intro peer hpeer
        unfold accepts at haccept
        rwa [hpeer] at haccept
      rcases post_cases (pairingMessage requester ControlFlags.ack ctx.status.identity) ctx with
        ⟨e, h⟩ | h
      · rw [onRequest_eq hsender]
        unfold Context.answerPairing
        simp only [haccept, ↓reduceIte, h]
        exact ⟨_, _, _, .stay _, shows_stay ctx false rfl⟩
      · exact ⟨_, _, _, .accept pairing request hsender hfree, shows_accept hsender haccept h⟩
    | false =>
      obtain ⟨peer, hpeer, hother⟩ :
          ∃ peer, driver.state.peer = some peer ∧ peer.isSameDevice requester = false := by
        unfold accepts at haccept
        cases hpeer : driver.state.peer with
        | none => rw [hpeer] at haccept; cases haccept
        | some peer => rw [hpeer] at haccept; exact ⟨peer, rfl, haccept⟩
      rw [onRequest_eq hsender]
      unfold Context.answerPairing
      rcases post_cases (pairingMessage requester ControlFlags.nack ctx.status.identity) ctx with
        ⟨e, h⟩ | h
      · simp only [haccept, Bool.false_eq_true, ↓reduceIte, h]
        exact ⟨_, _, _, .stay _, shows_stay ctx false rfl⟩
      · simp only [haccept, Bool.false_eq_true, ↓reduceIte, h]
        exact ⟨_, _, _, .refuse pairing request hsender hpeer hother, rfl, rfl, _,
          Context.extends_trace ctx _, rfl, rfl⟩

/-- The acceptance of the peer that was asked makes the bond. -/
theorem shows_bond {cp : ControlPacket} {target responder : Identity}
    (sender : Identity.decode? cp.payload = some responder) {driver : Pairable}
    (hstate : driver.state = .pairing target) (hsame : target.isSameDevice responder = true)
    (hack : cp.flags.contains ControlFlags.ack = true) (ctx : Context) :
    Shows ctx driver (driver.onAnswer cp ctx) (.paired responder) none [.paired responder] := by
  unfold onAnswer
  rw [sender]
  dsimp only
  rw [hstate]
  dsimp only
  rw [if_pos hsame, if_pos hack]
  obtain ⟨hafter, hunbonded, added, hadded, hframes, hevents⟩ := driver.pairWith_spec responder ctx
  refine ⟨hafter, hunbonded, added, hadded, hframes, ?_⟩
  rw [hevents, hstate, if_neg (by simp)]
  rfl

theorem onAnswer_move {cp : ControlPacket} (pairing : cp.type = .pairing)
    (answer : cp.isPairingAnswer = true) (ctx : Context) (driver : Pairable) :
    ∃ standing sent events, Move ctx.status cp driver.state standing sent events ∧
      Shows ctx driver (driver.onAnswer cp ctx) standing sent events := by
  cases hsender : Identity.decode? cp.payload with
  | none =>
    unfold onAnswer
    rw [hsender]
    exact ⟨_, _, _, .stay _, shows_stay ctx false rfl⟩
  | some responder =>
    by_cases hasked : ∃ target, driver.state = .pairing target ∧ target.isSameDevice responder = true
    · obtain ⟨target, hstate, hsame⟩ := hasked
      rw [hstate]
      by_cases hack : cp.flags.contains ControlFlags.ack = true
      · exact ⟨_, _, _, .bond pairing answer hsender hsame hack,
          shows_bond hsender hstate hsame hack ctx⟩
      · obtain ⟨hafter, hunbonded, added, hadded, hframes, hevents⟩ := driver.letGo_spec ctx
        unfold onAnswer
        rw [hsender]
        dsimp only
        rw [hstate]
        dsimp only
        rw [if_pos hsame, if_neg hack]
        refine ⟨_, _, _, .giveUp pairing answer hsender hsame (by simpa using hack), hafter,
          hunbonded, added, hadded, hframes, ?_⟩
        rw [hevents, hstate]
        rfl
    · have hstays : driver.onAnswer cp ctx = ⟨false, driver, ctx⟩ := by
        unfold onAnswer
        rw [hsender]
        dsimp only
        cases hstate : driver.state with
        | unpaired => rfl
        | paired partner => rfl
        | pairing target =>
          dsimp only
          rw [if_neg]
          exact fun hsame => hasked ⟨target, hstate, hsame⟩
      rw [hstays]
      exact ⟨_, _, _, .stay _, shows_stay ctx false rfl⟩

/-- Every control packet makes a move. -/
theorem onControl_move (cp : ControlPacket) (ctx : Context) (driver : Pairable) :
    ∃ standing sent events, Move ctx.status cp driver.state standing sent events ∧
      Shows ctx driver (driver.onControl cp ctx) standing sent events := by
  unfold onControl
  cases htype : cp.type with
  | hello => exact onAnnounce_move htype ctx driver
  | pairing =>
    dsimp only
    by_cases hanswer : cp.isPairingAnswer = true
    · rw [if_pos hanswer]
      exact onAnswer_move htype hanswer ctx driver
    · rw [if_neg hanswer]
      exact onRequest_move htype (by simpa using hanswer) ctx driver
  | unknown byte => exact ⟨_, _, _, .stay _, shows_stay ctx false rfl⟩

end Pairable

end DeviceBus
