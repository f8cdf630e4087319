import DeviceBus.Proofs.Pairing.Moves

/-!
# Ordinary drivers

A probe may do anything to the status it is shown. Every other driver is ordinary: whatever it is
told, it changes bond flags at most, sends pairing packets at most, and stays the kind of driver
it is.

## Main results

* `respond_spec`: what the reply of an ordinary driver leaves alone.
* `fill_eq_of_payload?`: an ordinary driver without a payload leaves announces as they are.
-/

namespace DeviceBus

open ControlPacket

/-- The announce that a frame carries, if it carries one. -/
def helloOf? (frame : Bytes) : Option ControlPacket :=
  (ofFrame? frame).filter fun cp => cp.type == .hello

/-- The announces among some frames, in their order. -/
def hellosOf (frames : List Bytes) : List ControlPacket := frames.filterMap helloOf?

@[simp] theorem hellosOf_append (a b : List Bytes) :
    hellosOf (a ++ b) = hellosOf a ++ hellosOf b :=
  List.filterMap_append

theorem helloOf?_eq_some_iff {frame : Bytes} {cp : ControlPacket} :
    helloOf? frame = some cp ↔ ofFrame? frame = some cp ∧ cp.type = .hello := by
  simp [helloOf?, Option.filter_eq_some_iff]

/-- An announce that a frame carries is received as such. -/
theorem Node.receiveFrame_of_hello (node : Node) (env : Env) {frame : Bytes} {cp : ControlPacket}
    (h : helloOf? frame = some cp) : node.receiveFrame env frame = node.receiveAnnounce env cp := by
  obtain ⟨hframe, hello⟩ := helloOf?_eq_some_iff.1 h
  rw [receiveFrame_of_control node hframe]
  unfold receiveControl
  rw [hello]

/-- An announce that fits is heard as it was sent. -/
theorem hellosOf_frame {cp : ControlPacket} (htype : cp.type = .hello)
    (hfit : cp.payload.length ≤ controlPayloadLimit) : hellosOf [cp.frame] = [cp] := by
  have h : helloOf? cp.frame = some cp :=
    helloOf?_eq_some_iff.2 ⟨ofFrame?_frame (isCanonical_of_hello htype) hfit, htype⟩
  simp [hellosOf, h]

/-- A pairing packet is no announce. -/
theorem hellosOf_pairingMessage (target : Identity) (flags : ControlFlags) (sender : Identity) :
    hellosOf [(pairingMessage target flags sender).frame] = [] := by
  have h : helloOf? (pairingMessage target flags sender).frame = none := by
    unfold helloOf?
    rw [ofFrame?_pairingMessage]
    rfl
  simp [hellosOf, h]

/-- What a move sends is a pairing packet. -/
theorem Pairable.Move.sent_eq {status : Status} {cp : ControlPacket} {before after : Standing}
    {sent : Option ControlPacket} {events : List EventKind}
    (h : Move status cp before after sent events) :
    sent = none ∨ ∃ target flags, sent = some (pairingMessage target flags status.identity) := by
  cases h with
  | stay => exact .inl rfl
  | follow => exact .inl rfl
  | ask => exact .inr ⟨_, _, rfl⟩
  | accept => exact .inr ⟨_, _, rfl⟩
  | refuse => exact .inr ⟨_, _, rfl⟩
  | bond => exact .inl rfl
  | giveUp => exact .inl rfl

/-- Giving up tells what a pairable driver wraps that the bond ended, or leaves it alone. -/
theorem Pairable.gated_letGo (ctx : Context) (driver : Pairable) :
    (driver.letGo ctx).1.gated = driver.gated ∨
      ∃ place, (driver.letGo ctx).1.gated = (driver.gated.unpaired place).1 := by
  unfold letGo
  cases driver.state with
  | unpaired => exact .inl rfl
  | pairing _ => exact .inl rfl
  | paired _ => exact .inr ⟨_, rfl⟩

/-- All that a control packet can do to what a pairable driver wraps is to end the bond. -/
theorem Pairable.gated_onControl (cp : ControlPacket) (ctx : Context) (driver : Pairable) :
    (driver.onControl cp ctx).driver.gated = driver.gated ∨
      ∃ place, (driver.onControl cp ctx).driver.gated = (driver.gated.unpaired place).1 := by
  have hrequest : ∀ target, (driver.request target ctx).driver.gated = driver.gated := by
    intro target
    unfold request
    split <;> rfl
  have hpairWith : ∀ partner (place : Context),
      (driver.pairWith partner place).1.gated = driver.gated := by
    intro partner place
    unfold pairWith
    split <;> rfl
  unfold onControl
  split
  · left
    unfold onAnnounce
    split
    · rfl
    · dsimp only
      split
      · split <;> rfl
      · split
        · exact hrequest _
        · rfl
      · split
        · exact hrequest _
        · rfl
  · split
    · unfold onAnswer
      split
      · exact .inl rfl
      · split
        · split
          · dsimp only
            split
            · exact .inl (hpairWith _ _)
            · exact gated_letGo ctx driver
          · exact .inl rfl
        · exact .inl rfl
    · left
      cases hsender : Identity.decode? cp.payload with
      | none =>
        unfold onRequest
        rw [hsender]
      | some requester =>
        rw [onRequest_eq hsender]
        split
        · rfl
        · split
          · exact hpairWith _ _
          · rfl
  · exact .inl rfl

/-- What a pairable driver wraps keeps its payload. -/
theorem Pairable.payload?_onControl (cp : ControlPacket) (ctx : Context) (driver : Pairable) :
    (driver.onControl cp ctx).driver.gated.payload? = driver.gated.payload? := by
  rcases driver.gated_onControl cp ctx with h | ⟨place, h⟩
  · rw [h]
  · rw [h, Gated.payload?_unpaired]

namespace Driver

/-- Any driver but a probe. -/
def IsOrdinary : Driver → Prop
  | probe _ => False
  | _ => True

/-- The payload that announces get. -/
def payload? : Driver → Option Bytes
  | pairable p => p.gated.payload?
  | _ => none

/-- An ordinary driver without a payload leaves announces as they are. -/
theorem fill_eq_of_payload? {driver : Driver} (hordinary : driver.IsOrdinary)
    (hpayload : driver.payload? = none) (status : Status) (cp : ControlPacket) :
    driver.fill status cp = (cp, []) := by
  cases driver with
  | probe p => exact hordinary.elim
  | pairable p =>
    obtain ⟨state, gated⟩ := p
    cases gated with
    | idle => rfl
    | streamer s => rfl
    | application app =>
      have happ : app.payload = none := hpayload
      simp only [fill, Gated.fill, happ]
  | quiet => rfl
  | console c => rfl
  | logger client => rfl

/-- What a reply leaves alone: the kind of driver, every status flag but those of a bond, and the
bus but for pairing packets. -/
structure Tame (ctx : Context) (driver : Driver) (reply : Reply Driver) : Prop where
  ordinary : reply.driver.IsOrdinary
  payload : reply.driver.payload? = driver.payload?
  unbonded : reply.context.status.unbonded = ctx.status.unbonded
  trace : ∃ added, ctx.Extends reply.context added ∧ hellosOf (framesOf added) = []

theorem tame_self (ctx : Context) {driver after : Driver} (handled : Bool)
    (hordinary : after.IsOrdinary) (hpayload : after.payload? = driver.payload?) :
    Tame ctx driver ⟨handled, after, ctx⟩ where
  ordinary := hordinary
  payload := hpayload
  unbonded := rfl
  trace := ⟨[], .refl ctx, rfl⟩

theorem tame_of_isSilent {ctx after : Context} (h : ctx.IsSilent after) {p q : Pairable}
    (handled : Bool) (hpayload : q.gated.payload? = p.gated.payload?) :
    Tame ctx (pairable p) ⟨handled, pairable q, after⟩ := by
  obtain ⟨hstatus, added, hadded, hframes, -⟩ := h
  exact ⟨trivial, hpayload, congrArg Status.unbonded hstatus, added, hadded, by rw [hframes]; rfl⟩

/-- A pairable driver that gives up is tame. -/
theorem tame_letGo (ctx : Context) (p : Pairable) (handled : Bool) :
    Tame ctx (pairable p) ⟨handled, pairable (p.letGo ctx).1, (p.letGo ctx).2⟩ := by
  obtain ⟨-, hunbonded, added, hadded, hframes, -⟩ := p.letGo_spec ctx
  refine ⟨trivial, ?_, hunbonded, added, hadded, by rw [hframes]; rfl⟩
  show (p.letGo ctx).1.gated.payload? = p.gated.payload?
  rcases p.gated_letGo ctx with h | ⟨place, h⟩
  · rw [h]
  · rw [h, Gated.payload?_unpaired]

/-- Whatever an ordinary driver is told, its reply is tame. -/
theorem respond_spec {driver : Driver} (hordinary : driver.IsOrdinary) (callback : Callback)
    (ctx : Context) : Tame ctx driver (driver.respond callback ctx) := by
  cases driver with
  | quiet => exact tame_self ctx false trivial rfl
  | probe p => exact hordinary.elim
  | console c =>
    unfold respond
    cases callback <;> exact tame_self ctx _ trivial rfl
  | logger client => exact tame_self ctx _ trivial rfl
  | pairable p =>
    cases callback with
    | control cp =>
      obtain ⟨standing, sent, events, hmove, hshows⟩ := p.onControl_move cp ctx
      obtain ⟨added, hadded, hframes, -⟩ := hshows.trace
      refine ⟨trivial, p.payload?_onControl cp ctx, hshows.unbonded, added, hadded, ?_⟩
      rw [hframes]
      rcases hmove.sent_eq with rfl | ⟨target, flags, rfl⟩
      · rfl
      · exact hellosOf_pairingMessage _ _ _
    | data packet =>
      have hpass : Tame ctx (pairable p)
          ⟨(p.passData packet ctx).handled, pairable (p.passData packet ctx).driver,
            (p.passData packet ctx).context⟩ :=
        tame_of_isSilent (p.gated.isSilent_onData packet ctx) _ (p.gated.payload?_onData packet ctx)
      show Tame ctx (pairable p)
        ⟨(p.onData packet ctx).handled, pairable (p.onData packet ctx).driver,
          (p.onData packet ctx).context⟩
      unfold Pairable.onData
      split
      · split
        · exact hpass
        · exact tame_self ctx true trivial rfl
      · exact hpass
    | connected =>
      exact tame_of_isSilent (p.gated.isSilent_connected ctx) true (p.gated.payload?_connected ctx)
    | removed =>
      have hletGo := tame_letGo ctx p true
      obtain ⟨added, hadded, hhellos⟩ := hletGo.trace
      obtain ⟨hstatus, more, hmore, hframes, -⟩ :=
        (p.letGo ctx).1.gated.isSilent_removed (p.letGo ctx).2
      refine ⟨trivial, ?_, ?_, added ++ more, hadded.trans hmore, ?_⟩
      · exact (Gated.payload?_removed _ _).trans hletGo.payload
      · exact (congrArg Status.unbonded hstatus).trans hletGo.unbonded
      · rw [framesOf_append, hellosOf_append, hhellos, hframes]
        rfl
    | partnerLost => exact tame_letGo ctx p true

end Driver

end DeviceBus
