import DeviceBus.Proofs.Node.Calls
import DeviceBus.Proofs.Reports

/-!
# Standings and their flags

Where a driver stands with its peer is told twice: the driver knows it, and two flags of its status
show it. A driver is `Fair` if the flags show what the driver knows, and if it has no peer unless it
owns its address. Whatever a fair driver is told, it stays fair, and what it reports is what its
standing did: `Standing.Turn` lists how one standing can follow on another and what is reported
then. As long as there is a peer, it is the same device.

## Main results

* `Standing.Turn.isSameDevice`: no turn exchanges the peer.
* `Driver.answers_silent`, `Driver.answers_letGo`, `Driver.answers_control`: whatever a fair driver
  is told, its standing takes one turn.
-/

namespace DeviceBus

/-! ## Turns of a standing -/

namespace Standing

/-- What is reported when a driver lets its peer go. -/
def parting : Standing → List EventKind
  | unpaired => []
  | pairing _ => [.pairRejected]
  | paired _ => [.unpaired]

/-- How one standing can follow on another one, and what is reported then. -/
inductive Turn : Standing → List EventKind → Standing → Prop where
  /-- Nothing changes. -/
  | stay (standing : Standing) : Turn standing [] standing
  /-- A peer was asked. -/
  | ask (target : Identity) : Turn .unpaired [] (.pairing target)
  /-- The peer was asked again, possibly at another address. -/
  | retry {target peer : Identity} (same : target.isSameDevice peer = true) :
      Turn (.pairing target) [] (.pairing peer)
  /-- The partner announced itself, possibly from another address. -/
  | follow {partner peer : Identity} (same : partner.isSameDevice peer = true) :
      Turn (.paired partner) [] (.paired peer)
  /-- A request was accepted. -/
  | bond (peer : Identity) : Turn .unpaired [.paired peer] (.paired peer)
  /-- The peer that was asked made the bond. -/
  | agree {target peer : Identity} (same : target.isSameDevice peer = true) :
      Turn (.pairing target) [.paired peer] (.paired peer)
  /-- The partner asked again from another address. -/
  | renew {partner peer : Identity} (same : partner.isSameDevice peer = true) :
      Turn (.paired partner) [.paired peer] (.paired peer)
  /-- The peer was let go. -/
  | letGo (standing : Standing) : Turn standing standing.parting .unpaired

/-- No turn exchanges the peer. -/
theorem Turn.isSameDevice {before after : Standing} {events : List EventKind}
    (h : Turn before events after) {p q : Identity} (hp : before.peer = some p)
    (hq : after.peer = some q) : p.isSameDevice q = true := by
  cases h with
  | stay =>
    rw [hp] at hq
    cases hq
    exact Identity.isSameDevice_iff.2 ⟨rfl, rfl⟩
  | ask target => cases hp
  | retry same =>
    cases hp
    cases hq
    exact same
  | follow same =>
    cases hp
    cases hq
    exact same
  | bond peer => cases hp
  | agree same =>
    cases hp
    cases hq
    exact same
  | renew same =>
    cases hp
    cases hq
    exact same
  | letGo => cases hq

/-- What is reported in a turn is about the peer. -/
theorem Turn.concernsPeer {before after : Standing} {events : List EventKind}
    (h : Turn before events after) : ∀ kind ∈ events, kind.concernsPeer = true := by
  cases h with
  | letGo =>
    cases before <;> intro kind hkind
    · cases hkind
    · rw [List.mem_singleton.1 hkind]
      rfl
    · rw [List.mem_singleton.1 hkind]
      rfl
  | bond | agree | renew =>
    intro kind hkind
    rw [List.mem_singleton.1 hkind]
    rfl
  | _ => exact fun kind hkind => by cases hkind

/-- Who had no peer and still has none has nothing to report. -/
theorem Turn.eq_nil_of_unpaired {events : List EventKind}
    (h : Turn .unpaired events .unpaired) : events = [] := by
  cases h <;> rfl

/-- A move of a driver that pairs is a turn of its standing. -/
theorem turn_of_move {status : Status} {cp : ControlPacket} {before after : Standing}
    {sent : Option ControlPacket} {events : List EventKind}
    (h : Pairable.Move status cp before after sent events) : Turn before events after := by
  cases h with
  | stay => exact .stay _
  | follow hello same => exact .follow same
  | ask hello foreign reason =>
    rcases reason with ⟨rfl, -⟩ | ⟨target, rfl, hsame⟩
    · exact .ask _
    · exact .retry hsame
  | @accept _ requester pairing request sender free =>
    cases before with
    | unpaired => exact .bond requester
    | pairing target => exact .agree (free target rfl)
    | paired partner =>
      by_cases hpartner : partner = requester
      · rw [hpartner, if_pos rfl]
        exact .stay _
      · rw [if_neg fun heq => hpartner (Standing.paired.inj heq)]
        exact .renew (free partner rfl)
  | refuse => exact .stay _
  | bond pairing answer sender same ack => exact .agree same
  | giveUp => exact .letGo _

end Standing

/-! ## Fair drivers -/

namespace Driver

/-- Where a driver stands with its peer; a driver that does not pair has none. -/
def standing : Driver → Standing
  | pairable p => p.state
  | _ => .unpaired

theorem partner?_eq_peer {driver : Driver} (h : driver.IsOrdinary) :
    driver.partner? = driver.standing.peer := by
  cases driver with
  | probe p => exact h.elim
  | _ => rfl

/-- Whether a driver pairs. -/
def pairs : Driver → Bool
  | pairable _ => true
  | _ => false

/-- A driver's status shows where the driver stands, and there is no peer without an own
address. -/
structure Fair (status : Status) (driver : Driver) : Prop where
  ordinary : driver.IsOrdinary
  role : status.HasRole
  marks : status.flags.restrict DeviceFlags.bond = driver.standing.marks
  remote : status.isLocal = false → driver.standing = .unpaired

end Driver

theorem Standing.marks_isSubset (standing : Standing) :
    standing.marks.IsSubset DeviceFlags.bond := by
  cases standing with
  | unpaired => exact (by decide : Flags.IsSubset Flags.none DeviceFlags.bond)
  | pairing _ => exact (by decide : Flags.IsSubset DeviceFlags.pairing DeviceFlags.bond)
  | paired _ => exact (by decide : Flags.IsSubset DeviceFlags.paired DeviceFlags.bond)

namespace Pairable

/-- The status shows where the driver stands. -/
def IsMarked (status : Status) (driver : Pairable) : Prop :=
  status.flags.restrict DeviceFlags.bond = driver.state.marks

theorem isMarked_enter (standing : Standing) (ctx : Context) (driver : Pairable) :
    (driver.enter standing ctx).1.IsMarked (driver.enter standing ctx).2.status := by
  show ((ctx.status.flags.remove DeviceFlags.bond).insert standing.marks).restrict
    DeviceFlags.bond = standing.marks
  apply Flags.ext_bit
  intro i hi
  rw [Flags.bit_restrict, Flags.bit_insert, Flags.bit_remove _ _ hi]
  cases hmark : standing.marks.bit i with
  | true => simp [standing.marks_isSubset.bit hi hmark]
  | false => cases DeviceFlags.bond.bit i <;> simp

theorem isMarked_pairWith {partner : Identity} {ctx : Context} {driver : Pairable}
    (h : driver.IsMarked ctx.status) :
    (driver.pairWith partner ctx).1.IsMarked (driver.pairWith partner ctx).2.status := by
  unfold pairWith
  split
  · exact h
  · have hsilent := (driver.enter (.paired partner) ctx).1.gated.isSilent_paired partner
      ((driver.enter (.paired partner) ctx).2.queueEvent (.paired partner))
    dsimp only
    unfold IsMarked
    rw [hsilent.1]
    exact driver.isMarked_enter (.paired partner) ctx

theorem isMarked_letGo (ctx : Context) (driver : Pairable) :
    (driver.letGo ctx).1.IsMarked (driver.letGo ctx).2.status := by
  have henter := driver.isMarked_enter .unpaired ctx
  unfold letGo
  cases driver.state with
  | unpaired => exact henter
  | pairing target => exact henter
  | paired partner =>
    have hsilent := (driver.enter .unpaired ctx).1.gated.isSilent_unpaired
      ((driver.enter .unpaired ctx).2.queueEvent .unpaired)
    dsimp only
    unfold IsMarked
    rw [hsilent.1]
    exact henter

theorem isMarked_request {target : Identity} {ctx : Context} {driver : Pairable}
    (h : driver.IsMarked ctx.status) :
    (driver.request target ctx).driver.IsMarked (driver.request target ctx).context.status := by
  unfold request Context.askToPair
  split
  · rename_i asked heq
    exact driver.isMarked_enter (.pairing target) asked
  · rename_i asked heq
    have hsame : asked = ctx := by
      split at heq
      · rcases post_cases (pairingMessage target askingFlags ctx.status.identity) ctx with
          ⟨e, hpost⟩ | hpost
        · rw [hpost] at heq
          exact (Prod.mk.inj heq).2.symm
        · rw [hpost] at heq
          cases heq
      · exact (Prod.mk.inj heq).2.symm
    rw [hsame]
    exact h

theorem isMarked_onControl (cp : ControlPacket) {ctx : Context} {driver : Pairable}
    (h : driver.IsMarked ctx.status) :
    (driver.onControl cp ctx).driver.IsMarked (driver.onControl cp ctx).context.status := by
  unfold onControl
  split
  · unfold onAnnounce
    split
    · exact h
    · dsimp only
      split
      · rename_i partner hstate
        split
        · show ctx.status.flags.restrict DeviceFlags.bond = DeviceFlags.paired
          unfold IsMarked at h
          rw [h, hstate]
          rfl
        · exact h
      · split
        · exact isMarked_request h
        · exact h
      · split
        · exact isMarked_request h
        · exact h
  · split
    · unfold onAnswer
      split
      · exact h
      · split
        · split
          · dsimp only
            split
            · exact isMarked_pairWith h
            · exact driver.isMarked_letGo ctx
          · exact h
        · exact h
    · cases hsender : Identity.decode? cp.payload with
      | none =>
        unfold onRequest
        rw [hsender]
        exact h
      | some requester =>
        rw [onRequest_eq hsender]
        unfold Context.answerPairing
        rcases post_cases (pairingMessage requester
            (if accepts requester driver.state then ControlFlags.ack else ControlFlags.nack)
            ctx.status.identity) ctx with ⟨e, hpost⟩ | hpost
        · rw [hpost]
          exact h
        · rw [hpost]
          dsimp only
          split
          · exact isMarked_pairWith h
          · exact h
  · exact h

end Pairable

namespace Driver

/-! ## Answers -/

/-- A reply to a fair driver: where the driver stands, what was reported on top of the trace, and
that nothing else about the driver and its status changed. -/
structure Answers (ctx : Context) (driver : Driver) (reply : Reply Driver)
    (events : List EventKind) (standing : Standing) : Prop where
  fair : reply.driver.Fair reply.context.status
  standing : reply.driver.standing = standing
  pairs : reply.driver.pairs = driver.pairs
  unbonded : reply.context.status.unbonded = ctx.status.unbonded
  trace : ∃ added, ctx.Extends reply.context added ∧
    (∀ action ∈ added, action.IsOwn ctx.handle) ∧ reportsOf ctx.handle added = events

theorem pairs_respond {driver : Driver} (callback : Callback) (ctx : Context) :
    (driver.respond callback ctx).driver.pairs = driver.pairs := by
  cases driver with
  | console c =>
    unfold respond
    cases callback <;> rfl
  | _ => rfl

/-- What is known of a reply anyway. -/
theorem answers_of {ctx : Context} {driver : Driver} {callback : Callback}
    {events : List EventKind} {standing : Standing} (h : driver.Fair ctx.status)
    (hstanding : (driver.respond callback ctx).driver.standing = standing)
    (hmarks : (driver.respond callback ctx).context.status.flags.restrict DeviceFlags.bond =
      standing.marks)
    (hremote : ctx.status.isLocal = false → standing = .unpaired)
    (htrace : ∃ added, ctx.Extends (driver.respond callback ctx).context added ∧
      eventsOf added = events.map fun kind => ⟨ctx.handle, kind⟩) :
    Answers ctx driver (driver.respond callback ctx) events standing := by
  have htame := respond_spec h.ordinary callback ctx
  have hmode := Status.mode_of_unbonded_eq htame.unbonded
  refine ⟨⟨htame.ordinary, ?_, ?_, ?_⟩, hstanding, pairs_respond callback ctx, htame.unbonded, ?_⟩
  · obtain ⟨role, hrole⟩ := h.role
    exact ⟨role, hmode.trans hrole⟩
  · rw [hmarks, hstanding]
  · intro hlocal
    rw [Status.isLocal_eq_mode, hmode, ← Status.isLocal_eq_mode] at hlocal
    rw [hstanding, hremote hlocal]
  · obtain ⟨added, hadded, hevents⟩ := htrace
    obtain ⟨more, hmore, hown⟩ := driver.respond_adds callback ctx
    have heq : added = more := List.append_cancel_left (hadded.log.symm.trans hmore.log)
    exact ⟨added, hadded, heq ▸ hown, reportsOf_of_eventsOf hevents⟩

variable (ctx : Context) {driver : Driver}

/-- What a driver without pairing answers. -/
theorem answers_of_not_pairs (h : driver.Fair ctx.status) (hpairs : driver.pairs = false)
    (callback : Callback) :
    Answers ctx driver (driver.respond callback ctx) [] driver.standing := by
  have hcontext : (driver.respond callback ctx).context = ctx := by
    cases driver with
    | quiet => rfl
    | probe p => exact h.ordinary.elim
    | pairable p => cases hpairs
    | console c =>
      unfold respond
      cases callback <;> rfl
    | logger client => rfl
  have hstanding : (driver.respond callback ctx).driver.standing = driver.standing := by
    cases driver with
    | probe p => exact h.ordinary.elim
    | pairable p => cases hpairs
    | console c =>
      unfold respond
      cases callback <;> rfl
    | _ => rfl
  refine answers_of h hstanding ?_ h.remote ⟨[], ?_, rfl⟩
  · rw [hcontext]
    exact h.marks
  · rw [hcontext]
    exact .refl ctx

/-- Data and a connected device are no matter between a driver and its peer. -/
theorem answers_silent (h : driver.Fair ctx.status) {callback : Callback}
    (hcallback : callback = .connected ∨ ∃ packet, callback = .data packet) :
    Answers ctx driver (driver.respond callback ctx) [] driver.standing := by
  by_cases hpairs : driver.pairs = false
  · exact answers_of_not_pairs ctx h hpairs callback
  · cases driver with
    | pairable p =>
      have hstate : (p.respond callback ctx).driver.state = p.state ∧
          ctx.IsSilent (p.respond callback ctx).context := by
        rcases hcallback with rfl | ⟨packet, rfl⟩
        · exact ⟨rfl, p.gated.isSilent_connected ctx⟩
        · exact p.onData_spec packet ctx
      obtain ⟨hstanding, hstatus, added, hadded, -, hevents⟩ := hstate
      refine answers_of h hstanding ?_ h.remote ⟨added, hadded, hevents⟩
      show (p.respond callback ctx).context.status.flags.restrict DeviceFlags.bond = p.state.marks
      rw [hstatus]
      exact h.marks
    | _ => exact absurd rfl hpairs

/-- A driver whose device or whose partner is gone lets its peer go. -/
theorem answers_letGo (h : driver.Fair ctx.status) {callback : Callback}
    (hcallback : callback = .removed ∨ callback = .partnerLost) :
    Answers ctx driver (driver.respond callback ctx) driver.standing.parting .unpaired := by
  by_cases hpairs : driver.pairs = false
  · have hanswers := answers_of_not_pairs ctx h hpairs callback
    have hunpaired : driver.standing = .unpaired := by
      cases driver with
      | pairable p => cases hpairs
      | _ => rfl
    rw [hunpaired] at hanswers ⊢
    exact hanswers
  · cases driver with
    | pairable p =>
      obtain ⟨hstate, -, added, hadded, -, hevents⟩ := p.letGo_spec ctx
      have hmarked := p.isMarked_letGo ctx
      unfold Pairable.IsMarked at hmarked
      rw [hstate] at hmarked
      have hparting : eventsOf added = p.state.parting.map fun kind => ⟨ctx.handle, kind⟩ := by
        rw [hevents]
        cases p.state <;> rfl
      rcases hcallback with rfl | rfl
      · obtain ⟨hstatus, more, hmore, -, hnone⟩ :=
          (p.letGo ctx).1.gated.isSilent_removed (p.letGo ctx).2
        refine answers_of h hstate ?_ (fun _ => rfl) ⟨added ++ more, hadded.trans hmore, ?_⟩
        · exact (congrArg (·.flags.restrict DeviceFlags.bond) hstatus).trans hmarked
        · rw [eventsOf_append, hnone, List.append_nil]
          exact hparting
      · exact answers_of h hstate hmarked (fun _ => rfl) ⟨added, hadded, hparting⟩
    | _ => exact absurd rfl hpairs

/-- A control packet makes the standing of a driver take one turn, if pairing packets reach own
drivers only. -/
theorem answers_control (h : driver.Fair ctx.status) {cp : ControlPacket}
    (hown : cp.type = .pairing → ctx.status.isLocal = true) :
    ∃ events standing, driver.standing.Turn events standing ∧
      Answers ctx driver (driver.respond (.control cp) ctx) events standing := by
  by_cases hpairs : driver.pairs = false
  · exact ⟨[], _, .stay _, answers_of_not_pairs ctx h hpairs _⟩
  · cases driver with
    | pairable p =>
      obtain ⟨standing, sent, events, hmove, hshows⟩ := p.onControl_move cp ctx
      obtain ⟨added, hadded, -, hevents⟩ := hshows.trace
      have hmarked := @Pairable.isMarked_onControl cp ctx p h.marks
      unfold Pairable.IsMarked at hmarked
      rw [hshows.state] at hmarked
      refine ⟨events, standing, Standing.turn_of_move hmove,
        answers_of h hshows.state hmarked (fun hremote => ?_) ⟨added, hadded, hevents⟩⟩
      -- Of all control packets only a pairing packet could give a remote driver a peer.
      have hbefore : p.state = .unpaired := h.remote hremote
      have hmay : ctx.status.mayPair = false := by
        rw [← Bool.not_eq_true]
        intro hmay
        rw [h.role.isLocal_of_mayPair hmay] at hremote
        cases hremote
      have hsame : (p.onControl cp ctx).driver.state = p.state := by
        unfold Pairable.onControl
        split
        · unfold Pairable.onAnnounce
          rw [hmay]
          rfl
        · rename_i htype
          rw [hown htype] at hremote
          cases hremote
        · rfl
      rw [← hshows.state, hsame, hbefore]
    | _ => exact absurd rfl hpairs

end Driver

end DeviceBus
