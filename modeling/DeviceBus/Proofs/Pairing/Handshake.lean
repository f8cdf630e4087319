import DeviceBus.Node.Tick
import DeviceBus.Proofs.Pairing.Moves
import Mathlib.Logic.Function.Basic
import Mathlib.Logic.Relation

/-!
# The handshake of two drivers

Two pairable drivers and a medium that may lose frames, deliver them late, twice or in another
order: whatever one of them ever sent, the other one may hear at any time, any number of times. So
the traces of the two are all there is to the medium.

A driver only goes forward, from being unpaired over asking to being paired. What it says tells how
far it went: whoever asked is not unpaired any more, and whoever accepted is paired.

## Main results

* `hear_spec`: what hearing the other one does.
* `handshake_of_reaches`: no refusal, no half-open bond, no bond made twice, and a lost answer heals.
-/

namespace DeviceBus

open ControlPacket

/-! ## Two parties -/

/-- A pairable driver by itself, with its status and all it ever did. -/
structure Party where
  handle : Handle
  status : Status
  driver : Pairable
  log : List Action

namespace Party

/-- The place of the driver in a callback. -/
def context (env : Env) (party : Party) : Context :=
  ⟨env, party.handle, party.status, party.log⟩

/-- Every frame that was sent. -/
def sent (party : Party) : List Bytes := framesOf party.log

/-- Every event that was queued. -/
def events (party : Party) : List EventKind := (eventsOf party.log).map (·.kind)

/-- The driver hears a frame. -/
def hear (env : Env) (frame : Bytes) (party : Party) : Party :=
  match ofFrame? frame with
  | none => party
  | some cp =>
    let reply := party.driver.respond (.control cp) (party.context env)
    ⟨party.handle, reply.context.status, reply.driver, reply.context.log⟩

/-- The driver announces itself. -/
def announce (env : Env) (party : Party) : Party :=
  { party with
    log :=
      ((party.context env).post (party.driver.gated.fill (Node.announcement party.status))).2.log }

end Party

/-- One of two parties announces itself, or hears something that the other one ever sent. -/
inductive Exchange (parties : Bool → Party) : (Bool → Party) → Prop where
  | announce (side : Bool) (env : Env) (taken : env.refusal = none) :
      Exchange parties (Function.update parties side ((parties side).announce env))
  | hear (side : Bool) (env : Env) (taken : env.refusal = none) {frame : Bytes}
      (sent : frame ∈ (parties (!side)).sent) :
      Exchange parties (Function.update parties side ((parties side).hear env frame))

/-- Two parties that can pair and never met. -/
structure Strangers (parties : Bool → Party) : Prop where
  unpaired : ∀ side, (parties side).driver.state = .unpaired
  silent : ∀ side, (parties side).log = []
  mayPair : ∀ side, (parties side).status.mayPair = true
  connected : ∀ side, (parties side).status.isConnected = true
  address : ∀ side, (parties side).status.address ≠ (parties (!side)).status.address
  serial : ∀ side, (parties side).status.serial ≠ (parties (!side)).status.serial
  deviceClass : ∀ side, (parties side).status.deviceClass = (parties (!side)).status.deviceClass

/-! ## What a party says -/

/-- What a driver may have said to another one, by where it stands. -/
inductive Says (own other : Identity) (standing : Standing) : ControlPacket → Prop where
  | hello {cp : ControlPacket} (type : cp.type = .hello) (announced : cp.announced = own) :
      Says own other standing cp
  | request (asked : standing ≠ .unpaired) :
      Says own other standing (pairingMessage other askingFlags own)
  | accept (paired : standing = .paired other) :
      Says own other standing (pairingMessage other ControlFlags.ack own)

/-- Going forward takes nothing back. -/
theorem Says.mono {own other : Identity} {before after : Standing} {cp : ControlPacket}
    (h : Says own other before cp) (hasked : before ≠ .unpaired → after ≠ .unpaired)
    (hpaired : before = .paired other → after = .paired other) : Says own other after cp := by
  cases h with
  | hello type announced => exact .hello type announced
  | request asked => exact .request (hasked asked)
  | accept paired => exact .accept (hpaired paired)

theorem Identity.isSameDevice_self (identity : Identity) :
    identity.isSameDevice identity = true :=
  isSameDevice_iff.2 ⟨rfl, rfl⟩

/-! ## Hearing the other one -/

/-- A standing with nobody but the other one. -/
def Standing.IsWith (other : Identity) (standing : Standing) : Prop :=
  standing = .unpaired ∨ standing = .pairing other ∨ standing = .paired other

theorem Standing.IsWith.eq_of_peer {other peer : Identity} {standing : Standing}
    (h : standing.IsWith other) (hpeer : standing.peer = some peer) : peer = other := by
  rcases h with rfl | rfl | rfl <;> cases hpeer
  · rfl
  · rfl

/-- A step forward with the other one, as far as that one had got: what is sent and queued, and
that being paired takes two. -/
structure Forward (own other : Identity) (far before after : Standing)
    (sent : Option ControlPacket) (events : List EventKind) : Prop where
  isWith : after.IsWith other
  asked : before ≠ .unpaired → after ≠ .unpaired
  paired : before = .paired other → after = .paired other
  answered : after = .paired other → before = .paired other ∨ far ≠ .unpaired
  sent : ∀ said, sent = some said → ofFrame? said.frame = some said ∧ Says own other after said
  events : events =
    if before ≠ .paired other ∧ after = .paired other then [.paired other] else []

theorem forward_stay {own other : Identity} {far standing : Standing}
    (h : standing.IsWith other) : Forward own other far standing standing none [] where
  isWith := h
  asked := id
  paired := id
  answered := .inl
  sent _ hsaid := by cases hsaid
  events := by
    rw [if_neg]
    exact fun hboth => hboth.1 hboth.2

/-- Whatever the other one says, the answer is a step forward. -/
theorem forward_of_move {own other : Identity} {far before after : Standing} {status : Status}
    {cp : ControlPacket} {sent : Option ControlPacket} {events : List EventKind}
    (hself : status.identity = own) (hwith : before.IsWith other)
    (hspoken : Says other own far cp)
    (hmove : Pairable.Move status cp before after sent events) :
    Forward own other far before after sent events := by
  have hhello : cp.type = .hello → cp.announced = other := by
    intro htype
    cases hspoken with
    | hello _ announced => exact announced
    | request _ => cases htype
    | accept _ => cases htype
  have hsender : ∀ {sender}, cp.type = .pairing → Identity.decode? cp.payload = some sender →
      sender = other ∧ far ≠ .unpaired := by
    intro sender htype hdecode
    cases hspoken with
    | hello type _ =>
      rw [htype] at type
      cases type
    | request asked =>
      rw [decode?_payload_pairingMessage] at hdecode
      exact ⟨(Option.some.inj hdecode).symm, asked⟩
    | accept paired =>
      rw [decode?_payload_pairingMessage] at hdecode
      refine ⟨(Option.some.inj hdecode).symm, ?_⟩
      rw [paired]
      exact Standing.noConfusion
  cases hmove with
  | stay => exact forward_stay hwith
  | @follow partner hello same =>
    have hpartner : partner = other := hwith.eq_of_peer rfl
    rw [hhello hello, hpartner]
    exact forward_stay (.inr (.inr rfl))
  | ask hello foreign reason =>
    have hnotPaired : before ≠ .paired other := by
      rintro rfl
      rcases reason with ⟨h, -⟩ | ⟨_, h, -⟩ <;> cases h
    rw [hhello hello, hself]
    refine ⟨.inr (.inl rfl), fun _ => Standing.noConfusion, fun h => absurd h hnotPaired,
      fun h => Standing.noConfusion h, ?_, ?_⟩
    · rintro _ ⟨⟩
      exact ⟨ofFrame?_pairingMessage _ _ _, .request Standing.noConfusion⟩
    · rw [if_neg]
      exact fun hboth => Standing.noConfusion hboth.2
  | accept pairing request sender free =>
    obtain ⟨rfl, hfar⟩ := hsender pairing sender
    rw [hself]
    refine ⟨.inr (.inr rfl), fun _ => Standing.noConfusion, fun _ => rfl, fun _ => .inr hfar,
      ?_, ?_⟩
    · rintro _ ⟨⟩
      exact ⟨ofFrame?_pairingMessage _ _ _, .accept rfl⟩
    · split <;> simp_all
  | refuse pairing request sender taken different =>
    obtain ⟨rfl, -⟩ := hsender pairing sender
    rw [hwith.eq_of_peer taken, Identity.isSameDevice_self] at different
    cases different
  | bond pairing answer sender same ack =>
    obtain ⟨rfl, hfar⟩ := hsender pairing sender
    refine ⟨.inr (.inr rfl), fun _ => Standing.noConfusion, fun _ => rfl, fun _ => .inr hfar,
      ?_, ?_⟩
    · intro said hsaid
      cases hsaid
    · rw [if_pos ⟨Standing.noConfusion, rfl⟩]
  | giveUp pairing answer sender same nack =>
    -- The answers of the other one accept.
    cases hspoken with
    | hello type _ =>
      rw [pairing] at type
      cases type
    | request asked =>
      rw [isPairingAnswer_request] at answer
      cases answer
    | accept paired =>
      have hack : ControlFlags.ack.contains ControlFlags.ack = true := by decide
      have hnack : ControlFlags.ack.contains ControlFlags.ack = false := nack
      rw [hack] at hnack
      cases hnack

theorem hear_eq {frame : Bytes} {cp : ControlPacket} (hframe : ofFrame? frame = some cp) (env : Env)
    (party : Party) :
    party.hear env frame =
      ⟨party.handle, (party.driver.onControl cp (party.context env)).context.status,
        (party.driver.onControl cp (party.context env)).driver,
        (party.driver.onControl cp (party.context env)).context.log⟩ := by
  unfold Party.hear
  rw [hframe]
  rfl

/-- What a reply shows is what the party shows. -/
theorem hear_shows {frame : Bytes} {cp : ControlPacket} (hframe : ofFrame? frame = some cp)
    (env : Env) (party : Party) {standing : Standing} {sent : Option ControlPacket}
    {events : List EventKind}
    (hshows : Pairable.Shows (party.context env) party.driver
      (party.driver.onControl cp (party.context env)) standing sent events) :
    (party.hear env frame).status.unbonded = party.status.unbonded ∧
      (party.hear env frame).driver.state = standing ∧
      (party.hear env frame).sent = party.sent ++ (sent.map ControlPacket.frame).toList ∧
      (party.hear env frame).events = party.events ++ events := by
  obtain ⟨added, hadded, hframes, hevents⟩ := hshows.trace
  rw [hear_eq hframe]
  refine ⟨hshows.unbonded, hshows.state, ?_, ?_⟩
  · unfold Party.sent
    rw [hadded.log, framesOf_append, hframes]
    rfl
  · unfold Party.events
    rw [hadded.log, eventsOf_append, hevents, List.map_append, List.map_map]
    exact congrArg (_ ++ ·) (List.map_id _)

/-- **Hearing the other one.** A party goes forward, and its standing, what it sent and its events
show it. -/
theorem hear_spec {own other : Identity} {far : Standing} {party : Party}
    (hself : party.status.identity = own) (hwith : party.driver.state.IsWith other)
    {frame : Bytes} {cp : ControlPacket} (hframe : ofFrame? frame = some cp)
    (hspoken : Says other own far cp) (env : Env) :
    ∃ sent events,
      Forward own other far party.driver.state (party.hear env frame).driver.state sent events ∧
      (party.hear env frame).status.unbonded = party.status.unbonded ∧
      (party.hear env frame).sent = party.sent ++ (sent.map ControlPacket.frame).toList ∧
      (party.hear env frame).events = party.events ++ events := by
  obtain ⟨standing, sent, events, hmove, hshows⟩ :=
    party.driver.onControl_move cp (party.context env)
  obtain ⟨hunbonded, hstate, hsent, hevents⟩ := hear_shows hframe env party hshows
  have hforward := forward_of_move hself hwith hspoken hmove
  rw [← hstate] at hforward
  exact ⟨sent, events, hforward, hunbonded, hsent, hevents⟩

/-! ## What holds between the two -/

/-- Each party stands with nobody but the other one, what it said tells how far it got, being paired
takes two, and the one event that there is is the bond. -/
structure Agreement (id : Bool → Identity) (parties : Bool → Party) : Prop where
  identity : ∀ side, (parties side).status.identity = id side
  mayPair : ∀ side, (parties side).status.mayPair = true
  connected : ∀ side, (parties side).status.isConnected = true
  isWith : ∀ side, (parties side).driver.state.IsWith (id (!side))
  spoken : ∀ side, ∀ frame ∈ (parties side).sent, ∃ cp, ofFrame? frame = some cp ∧
    Says (id side) (id (!side)) (parties side).driver.state cp
  answered : ∀ side, (parties side).driver.state = .paired (id (!side)) →
    (parties (!side)).driver.state ≠ .unpaired
  events : ∀ side, (parties side).events =
    if (parties side).driver.state = .paired (id (!side)) then [.paired (id (!side))] else []

theorem Status.mayPair_of_unbonded_eq {s t : Status} (h : s.unbonded = t.unbonded) :
    s.mayPair = t.mayPair := by
  have hown := @contains_of_unbonded_eq s t h DeviceFlags.own (by decide)
  have hpairable := @contains_of_unbonded_eq s t h DeviceFlags.pairable (by decide)
  have hbroadcast := @contains_of_unbonded_eq s t h DeviceFlags.broadcast (by decide)
  have hpair := @contains_of_unbonded_eq s t h DeviceFlags.pair (by decide)
  simp only [mayPair, isPairableHost, isPairClient, isLocal, isPairable, isBroadcast, hown,
    hpairable, hbroadcast, hpair]

theorem Status.isConnected_of_unbonded_eq {s t : Status} (h : s.unbonded = t.unbonded) :
    s.isConnected = t.isConnected :=
  @contains_of_unbonded_eq s t h DeviceFlags.confirmed (by decide)

/-- A party went forward, the other one is where it was. -/
theorem Agreement.forward {id : Bool → Identity} {parties : Bool → Party}
    (h : Agreement id parties) (side : Bool) {after : Party} {sent : Option ControlPacket}
    {events : List EventKind}
    (hforward : Forward (id side) (id (!side)) (parties (!side)).driver.state
      (parties side).driver.state after.driver.state sent events)
    (hunbonded : after.status.unbonded = (parties side).status.unbonded)
    (hsent : after.sent = (parties side).sent ++ (sent.map ControlPacket.frame).toList)
    (hevents : after.events = (parties side).events ++ events) :
    Agreement id (Function.update parties side after) where
  identity := by
    refine (Function.forall_update_iff parties fun s party => party.status.identity = id s).2
      ⟨?_, fun s _ => h.identity s⟩
    rw [Status.identity_of_unbonded_eq hunbonded]
    exact h.identity side
  mayPair := by
    refine (Function.forall_update_iff parties fun _ party => party.status.mayPair = true).2
      ⟨?_, fun s _ => h.mayPair s⟩
    rw [Status.mayPair_of_unbonded_eq hunbonded]
    exact h.mayPair side
  connected := by
    refine (Function.forall_update_iff parties fun _ party => party.status.isConnected = true).2
      ⟨?_, fun s _ => h.connected s⟩
    rw [Status.isConnected_of_unbonded_eq hunbonded]
    exact h.connected side
  isWith :=
    (Function.forall_update_iff parties fun s party => party.driver.state.IsWith (id (!s))).2
      ⟨hforward.isWith, fun s _ => h.isWith s⟩
  spoken := by
    refine (Function.forall_update_iff parties fun s party => ∀ frame ∈ party.sent, ∃ cp,
      ofFrame? frame = some cp ∧ Says (id s) (id (!s)) party.driver.state cp).2
        ⟨fun frame hframe => ?_, fun s _ => h.spoken s⟩
    rw [hsent, List.mem_append] at hframe
    rcases hframe with hold | hnew
    · obtain ⟨cp, hcp, hspoken⟩ := h.spoken side frame hold
      exact ⟨cp, hcp, hspoken.mono hforward.asked hforward.paired⟩
    · rw [Option.mem_toList, Option.map_eq_some_iff] at hnew
      obtain ⟨cp, hcp, rfl⟩ := hnew
      exact ⟨cp, hforward.sent cp hcp⟩
  answered := by
    -- Each of the two may count on the other one.
    intro s hpaired
    by_cases hs : s = side
    · subst hs
      have hother : (!s) ≠ s := by cases s <;> simp
      rw [Function.update_self] at hpaired
      rw [Function.update_of_ne hother]
      rcases hforward.answered hpaired with hold | hfar
      · exact h.answered s hold
      · exact hfar
    · have hflip : (!s) = side := by
        cases s <;> cases side <;> simp_all
      rw [Function.update_of_ne hs] at hpaired
      have hasked := h.answered s hpaired
      rw [hflip] at hasked ⊢
      rw [Function.update_self]
      exact hforward.asked hasked
  events := by
    refine (Function.forall_update_iff parties fun s party => party.events =
      if party.driver.state = .paired (id (!s)) then [.paired (id (!s))] else []).2
        ⟨?_, fun s _ => h.events s⟩
    rw [hevents, h.events side, hforward.events]
    by_cases hbefore : (parties side).driver.state = .paired (id (!side))
    · have hafter := hforward.paired hbefore
      simp [hbefore, hafter]
    · by_cases hafter : after.driver.state = .paired (id (!side))
      · simp [hbefore, hafter]
      · simp [hbefore, hafter]

/-- An announce is a step forward that leads nowhere. -/
theorem announce_spec (env : Env) (party : Party) {other : Identity} {far : Standing}
    (hwith : party.driver.state.IsWith other) :
    ∃ sent, Forward party.status.identity other far party.driver.state
        (party.announce env).driver.state sent [] ∧
      (party.announce env).sent = party.sent ++ (sent.map ControlPacket.frame).toList ∧
      (party.announce env).events = party.events := by
  obtain ⟨htype, hannounced⟩ :=
    announced_fill party.driver.gated (Node.announcement party.status)
  have hstay : Forward party.status.identity other far party.driver.state
      (party.announce env).driver.state none [] := forward_stay hwith
  unfold Party.announce Party.sent Party.events
  unfold Context.post Context.conclude
  cases hframe : (party.context env).env.controlFrame
      (party.driver.gated.fill (Node.announcement party.status)) with
  | error e => exact ⟨none, hstay, (List.append_nil _).symm, rfl⟩
  | ok frame =>
    obtain ⟨-, hfit, rfl⟩ := Env.controlFrame_eq_ok_iff.1 hframe
    refine ⟨some (party.driver.gated.fill (Node.announcement party.status)),
      { hstay with sent := ?_ }, ?_, ?_⟩
    · rintro _ ⟨⟩
      exact ⟨ofFrame?_frame (isCanonical_of_hello htype) hfit, .hello htype hannounced⟩
    · exact framesOf_append ..
    · show (eventsOf (party.log ++ [_])).map (·.kind) = _
      rw [eventsOf_append]
      exact congrArg _ (List.append_nil _)

theorem Agreement.exchange {id : Bool → Identity} {before after : Bool → Party}
    (h : Agreement id before) (hexchange : Exchange before after) : Agreement id after := by
  cases hexchange with
  | announce side env taken =>
    obtain ⟨sent, hforward, hsent, hevents⟩ :=
      @announce_spec env (before side) (id (!side)) (before (!side)).driver.state (h.isWith side)
    rw [h.identity side] at hforward
    exact h.forward side hforward rfl hsent (hevents.trans (List.append_nil _).symm)
  | @hear side env taken frame sent =>
    obtain ⟨cp, hcp, hspoken⟩ := h.spoken (!side) frame sent
    rw [Bool.not_not] at hspoken
    obtain ⟨said, events, hforward, hunbonded, hsent, hevents⟩ :=
      hear_spec (h.identity side) (h.isWith side) hcp hspoken env
    exact h.forward side hforward hunbonded hsent hevents

theorem agreement_of_strangers {parties : Bool → Party} (h : Strangers parties) :
    Agreement (fun side => (parties side).status.identity) parties where
  identity _ := rfl
  mayPair := h.mayPair
  connected := h.connected
  isWith side := .inl (h.unpaired side)
  spoken side frame hframe := by
    unfold Party.sent at hframe
    rw [h.silent side] at hframe
    cases hframe
  answered side hpaired := by
    rw [h.unpaired side] at hpaired
    cases hpaired
  events side := by
    unfold Party.events
    rw [h.silent side, h.unpaired side]
    rfl

theorem Agreement.reaches {id : Bool → Identity} {before after : Bool → Party}
    (h : Agreement id before) (hreaches : Relation.ReflTransGen Exchange before after) :
    Agreement id after := by
  induction hreaches with
  | refl => exact h
  | tail _ hexchange ih => exact ih.exchange hexchange

/-- A bond lasts. -/
theorem Agreement.paired_exchange {id : Bool → Identity} {before after : Bool → Party}
    (h : Agreement id before) (hexchange : Exchange before after) {side : Bool}
    (hpaired : (before side).driver.state = .paired (id (!side))) :
    (after side).driver.state = .paired (id (!side)) := by
  cases hexchange with
  | announce which env taken =>
    by_cases hside : side = which
    · subst hside
      rw [Function.update_self]
      exact hpaired
    · rw [Function.update_of_ne hside]
      exact hpaired
  | @hear which env taken frame sent =>
    by_cases hside : side = which
    · subst hside
      rw [Function.update_self]
      obtain ⟨cp, hcp, hspoken⟩ := h.spoken (!side) frame sent
      rw [Bool.not_not] at hspoken
      obtain ⟨said, events, hforward, -⟩ :=
        hear_spec (h.identity side) (h.isWith side) hcp hspoken env
      exact hforward.paired hpaired
    · rw [Function.update_of_ne hside]
      exact hpaired

theorem Agreement.paired_reaches {id : Bool → Identity} {before after : Bool → Party}
    (h : Agreement id before) (hreaches : Relation.ReflTransGen Exchange before after) {side : Bool}
    (hpaired : (before side).driver.state = .paired (id (!side))) :
    (after side).driver.state = .paired (id (!side)) := by
  induction hreaches with
  | refl => exact hpaired
  | tail hearlier hexchange ih => exact (h.reaches hearlier).paired_exchange hexchange ih

/-! ## A lost answer heals -/

/-- Hearing what the other one was asked before: it accepts, whether it is paired already or not. -/
theorem hear_request {own other : Identity} {party : Party} (hown : party.status.identity = own)
    (hwith : party.driver.state.IsWith other) {env : Env} (henv : env.refusal = none) :
    (party.hear env (pairingMessage own askingFlags other).frame).driver.state = .paired other ∧
      (party.hear env (pairingMessage own askingFlags other).frame).sent =
        party.sent ++ [(pairingMessage other ControlFlags.ack own).frame] := by
  have hframe := ofFrame?_pairingMessage own askingFlags other
  have hidentity : (party.context env).status.identity = own := hown
  have haccepts : Pairable.accepts other party.driver.state = true := by
    rcases hwith with h | h | h <;> rw [h]
    · rfl
    · exact other.isSameDevice_self
    · exact other.isSameDevice_self
  have htaken : (party.context env).env.refusal = none := henv
  have hpost := Pairable.post_of_refusal_eq_none htaken
    (payload_pairingMessage_le other ControlFlags.ack (party.context env).status.identity)
  have hshows := Pairable.shows_accept (decode?_payload_pairingMessage own askingFlags other)
    haccepts hpost
  have hrequest : party.driver.onControl (pairingMessage own askingFlags other)
      (party.context env) =
      party.driver.onRequest (pairingMessage own askingFlags other) (party.context env) := by
    show (if (pairingMessage own askingFlags other).isPairingAnswer then _ else _) = _
    rw [isPairingAnswer_request]
    rfl
  rw [← hrequest, hidentity] at hshows
  obtain ⟨-, hstate, hsent, -⟩ := hear_shows hframe env party hshows
  exact ⟨hstate, hsent⟩

/-- Hearing the acceptance of a request that is out makes the bond. -/
theorem hear_accept {own other : Identity} {party : Party}
    (hstate : party.driver.state = .pairing other) (env : Env) :
    (party.hear env (pairingMessage own ControlFlags.ack other).frame).driver.state =
      .paired other := by
  have hframe := ofFrame?_pairingMessage own ControlFlags.ack other
  have hack : (pairingMessage own ControlFlags.ack other).flags.contains ControlFlags.ack = true :=
    (by decide : ControlFlags.ack.contains ControlFlags.ack = true)
  have hshows := Pairable.shows_bond (decode?_payload_pairingMessage own ControlFlags.ack other)
    hstate other.isSameDevice_self hack (party.context env)
  have hanswer : party.driver.onControl (pairingMessage own ControlFlags.ack other)
      (party.context env) =
      party.driver.onAnswer (pairingMessage own ControlFlags.ack other) (party.context env) := by
    show (if (pairingMessage own ControlFlags.ack other).isPairingAnswer then _ else _) = _
    rw [isPairingAnswer_accept]
    rfl
  rw [← hanswer] at hshows
  exact (hear_shows hframe env party hshows).2.1

/-- Hearing an announce of the device that was asked: it is asked again. -/
theorem hear_hello {own other : Identity} {party : Party} (hown : party.status.identity = own)
    (hmay : party.status.mayPair = true) (hconnected : party.status.isConnected = true)
    (hforeign : other.address ≠ own.address) (hstate : party.driver.state = .pairing other)
    {frame : Bytes} {cp : ControlPacket} (hframe : ofFrame? frame = some cp)
    (htype : cp.type = .hello) (hannounced : cp.announced = other) {env : Env}
    (henv : env.refusal = none) :
    (party.hear env frame).driver.state = .pairing other ∧
      (party.hear env frame).sent =
        party.sent ++ [(pairingMessage other askingFlags own).frame] := by
  have hidentity : (party.context env).status.identity = own := hown
  have haddress : cp.address ≠ (party.context env).status.address := by
    have hcp : cp.address = other.address := congrArg Identity.address hannounced
    have hparty : party.status.address = own.address := congrArg Identity.address hown
    show cp.address ≠ party.status.address
    rw [hcp, hparty]
    exact hforeign
  have hsame : other.isSameDevice cp.announced = true := by
    rw [hannounced]
    exact other.isSameDevice_self
  have htaken : (party.context env).env.refusal = none := henv
  have hmay' : (party.context env).status.mayPair = true := hmay
  have hconnected' : (party.context env).status.isConnected = true := hconnected
  have hshows := Pairable.shows_ask hstate hmay' hconnected' haddress hsame htaken
  have hannounce : party.driver.onControl cp (party.context env) =
      party.driver.onAnnounce cp (party.context env) := by
    unfold Pairable.onControl
    rw [htype]
  rw [← hannounce, hidentity, hannounced] at hshows
  obtain ⟨-, hafter, hsent, -⟩ := hear_shows hframe env party hshows
  exact ⟨hafter, hsent⟩

/-! ## The handshake -/

/-- Tells that a bond was made. -/
def EventKind.isBond : EventKind → Bool
  | .paired _ => true
  | _ => false

/-- **The handshake over a medium that loses, repeats and reorders.** Nobody refuses and nothing is
rejected; whoever is paired has a partner that asked it or is paired with it; a bond lasts; it is
told once; and while a driver asks, an announce of the other one, the request that follows and the
answer to it pair both, whatever was lost before. -/
theorem handshake_of_reaches {start parties : Bool → Party} (hstart : Strangers start)
    (hreaches : Relation.ReflTransGen Exchange start parties) :
    (∀ side, (∀ frame ∈ (parties side).sent, ∀ cp, ofFrame? frame = some cp →
        cp.type = .pairing → cp.flags.contains ControlFlags.nack = false) ∧
      .pairRejected ∉ (parties side).events) ∧
    (∀ side partner, (parties side).driver.state = .paired partner →
      partner = (parties (!side)).status.identity ∧
        ((parties (!side)).driver.state = .pairing (parties side).status.identity ∨
          (parties (!side)).driver.state = .paired (parties side).status.identity)) ∧
    (∀ side partner later, (parties side).driver.state = .paired partner →
      Relation.ReflTransGen Exchange parties later →
      (later side).driver.state = .paired partner) ∧
    (∀ side, (parties side).events.countP EventKind.isBond ≤ 1) ∧
    ∀ (side : Bool) (frame : Bytes) (cp : ControlPacket) (first second third : Env),
      (parties side).driver.state = .pairing (parties (!side)).status.identity →
      ofFrame? frame = some cp → cp.type = .hello →
      cp.announced = (parties (!side)).status.identity →
      first.refusal = none → second.refusal = none → third.refusal = none →
      ∃ request answer,
        ((parties side).hear first frame).sent = (parties side).sent ++ [request] ∧
        ((parties (!side)).hear second request).sent = (parties (!side)).sent ++ [answer] ∧
        (((parties side).hear first frame).hear third answer).driver.state =
          .paired (parties (!side)).status.identity ∧
        ((parties (!side)).hear second request).driver.state =
          .paired (parties side).status.identity := by
  have hagreement := (agreement_of_strangers hstart).reaches hreaches
  have hidentity := hagreement.identity
  have hforeign : ∀ side, (start (!side)).status.identity.address ≠
      (start side).status.identity.address := fun side => (hstart.address side).symm
  refine ⟨fun side => ⟨?_, ?_⟩, ?_, ?_, ?_, ?_⟩
  · intro frame hframe cp hcp htype
    obtain ⟨cp', hcp', hspoken⟩ := hagreement.spoken side frame hframe
    rw [hcp] at hcp'
    cases hcp'
    cases hspoken with
    | hello type announced =>
      rw [htype] at type
      cases type
    | request asked =>
      exact (by decide : askingFlags.contains ControlFlags.nack = false)
    | accept paired =>
      exact (by decide : ControlFlags.ack.contains ControlFlags.nack = false)
  · rw [hagreement.events side]
    split <;> simp
  · intro side partner hpaired
    have hpartner := (hagreement.isWith side).eq_of_peer (by rw [hpaired]; rfl)
    refine ⟨hpartner.trans (hidentity (!side)).symm, ?_⟩
    rw [hpartner] at hpaired
    have hother := hagreement.isWith (!side)
    rw [Bool.not_not, ← hidentity side] at hother
    exact hother.resolve_left (hagreement.answered side hpaired)
  · intro side partner later hpaired hlater
    have hpartner := (hagreement.isWith side).eq_of_peer (by rw [hpaired]; rfl)
    rw [hpartner] at hpaired ⊢
    exact hagreement.paired_reaches hlater hpaired
  · intro side
    rw [hagreement.events side]
    split <;> simp [EventKind.isBond]
  · intro side frame cp first second third hstate hframe htype hannounced hfirst hsecond hthird
    rw [hidentity] at hstate hannounced
    obtain ⟨hasking, hrequest⟩ := hear_hello (hidentity side) (hagreement.mayPair side)
      (hagreement.connected side) (hforeign side) hstate hframe htype hannounced hfirst
    have hwith := hagreement.isWith (!side)
    rw [Bool.not_not] at hwith
    obtain ⟨hanswering, hanswer⟩ := hear_request (hidentity (!side)) hwith hsecond
    refine ⟨_, _, hrequest, hanswer, ?_, ?_⟩
    · rw [hidentity]
      exact hear_accept hasking third
    · rw [hidentity]
      exact hanswering

/-- Two hosts of one class. -/
def hostPair (side : Bool) : Party where
  handle := ⟨0, 0⟩
  status :=
    { address := if side then 1 else 2
      counter := 0
      flags := DeviceFlags.own ∪ DeviceFlags.pairable ∪ DeviceFlags.confirmed
      serial := if side then 1 else 2
      deviceClass := 1 }
  driver := .ofGated .idle
  log := []

theorem strangers_hostPair : Strangers hostPair where
  unpaired _ := rfl
  silent _ := rfl
  mayPair side := by cases side <;> decide
  connected side := by cases side <;> decide
  address side := by cases side <;> decide
  serial side := by cases side <;> decide
  deviceClass _ := rfl

/-- One host heard the other one and asked; hearing it once more, both get paired. -/
theorem handshake_of_hostPair :
    ∃ parties, Relation.ReflTransGen Exchange hostPair parties ∧
      (parties false).driver.state = .pairing (parties true).status.identity ∧
      ∃ frame ∈ (parties true).sent, ∃ request answer,
        (((parties false).hear { refusal := none, now := 0 } frame).hear
            { refusal := none, now := 0 } answer).driver.state =
          .paired (parties true).status.identity ∧
        ((parties true).hear { refusal := none, now := 0 } request).driver.state =
          .paired (parties false).status.identity := by
  let env : Env := { refusal := none, now := 0 }
  let announced := Function.update hostPair true ((hostPair true).announce env)
  let asked := Function.update announced false
    ((announced false).hear env (Node.announcement (hostPair true).status).frame)
  have hsent : (Node.announcement (hostPair true).status).frame ∈ (announced true).sent := by
    decide +kernel
  have hreaches : Relation.ReflTransGen Exchange hostPair asked :=
    (Relation.ReflTransGen.single (.announce true env rfl)).tail (.hear false env rfl hsent)
  have hstate : (asked false).driver.state = .pairing (asked true).status.identity := by
    decide +kernel
  obtain ⟨-, -, -, -, hheals⟩ := handshake_of_reaches strangers_hostPair hreaches
  have hcp : ofFrame? (Node.announcement (hostPair true).status).frame =
      some (Node.announcement (hostPair true).status) :=
    ofFrame?_frame (isCanonical_of_hello rfl) (Nat.zero_le _)
  obtain ⟨request, answer, -, -, hfirst, hsecond⟩ :=
    hheals false _ _ env env env hstate hcp rfl rfl rfl rfl rfl
  exact ⟨asked, hreaches, hstate, _, hsent, request, answer, hfirst, hsecond⟩

end DeviceBus
