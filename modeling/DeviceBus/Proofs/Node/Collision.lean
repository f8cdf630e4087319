import DeviceBus.Proofs.Node.History
import DeviceBus.Proofs.Node.Rounds

/-!
# Collisions

What becomes of a node at the announce of an address that one of its own drivers has. The outcome
is a matter of the driver's status and the announce alone, wherever the driver stands among the
entries: it stays as it is and flags the announce, it loses its address, or it agrees.

## Main results

* `giveWay_cases`: what a driver that gives way is left with.
* `arbitrates_of_occurs`: the outcome of every announce at an own address, in every history.
-/

namespace DeviceBus

open ControlPacket

namespace Status

/-- A status that differs from a released one in bond flags only has no address, no count and no
flag of an address. -/
theorem cleared_of_unbonded_eq {status after : Status}
    (h : after.unbonded = status.released.unbonded) :
    after.address = 0 ∧ after.counter = 0 ∧ after.isConfirmed = false ∧
      after.isUnconfirmed = false ∧ after.isSeen = false := by
  have hcleared : ∀ {asked : DeviceFlags}, ¬ asked.IsDisjoint
      (DeviceFlags.confirmed ∪ DeviceFlags.unconfirmed ∪ DeviceFlags.seen) →
      asked.IsDisjoint DeviceFlags.bond → after.flags.contains asked = false := by
    intro asked hinside hbond
    rw [contains_of_unbonded_eq h hbond]
    exact Flags.contains_remove_of_not_disjoint status.flags hinside
  refine ⟨congrArg Status.address h, congrArg Status.counter h, ?_, ?_, ?_⟩
  · exact hcleared (by decide : ¬ DeviceFlags.confirmed.IsDisjoint _) (by decide)
  · exact hcleared (by decide : ¬ DeviceFlags.unconfirmed.IsDisjoint _) (by decide)
  · exact hcleared (by decide : ¬ DeviceFlags.seen.IsDisjoint _) (by decide)

end Status

namespace Node

variable {node : Node}

/-! ## Giving way -/

/-- A driver that gives way: one that was connected is told that its device is gone, any other one
is told nothing. -/
theorem giveWay_cases (env : Env) {handle : Handle} {status : Status} {registration : Registration}
    (hentry : node.registry.get? handle = some ⟨status, .driver registration⟩) :
    (status.isConnected = false ∧
      (node.giveWay env handle).registry.get? handle =
        some ⟨status.released, .driver registration⟩ ∧
      (node.giveWay env handle).log =
        node.log ++ [.event ⟨handle, .addressLost status.address⟩]) ∨
    (status.isConnected = true ∧ ∃ ctx : Context, ctx.handle = handle ∧
      ctx.status = status.released ∧
      ctx.log = node.log ++ [.event ⟨handle, .addressLost status.address⟩,
        .event ⟨handle, .removed⟩, .called handle .removed] ∧
      (node.giveWay env handle).registry.get? handle =
        some ⟨(registration.driver.respond .removed ctx).context.status, .driver { registration with
          driver := (registration.driver.respond .removed ctx).driver }⟩ ∧
      (node.giveWay env handle).log = (registration.driver.respond .removed ctx).context.log) := by
  have hlost : ((node.modifyStatus handle Status.released).queueEvent handle
      (.addressLost status.address)).registry.get? handle =
        some ⟨status.released, .driver registration⟩ :=
    get?_modifyStatus Status.released hentry
  have hway : node.giveWay env handle =
      if status.isConnected then
        ((node.modifyStatus handle Status.released).queueEvent handle
          (.addressLost status.address)).tellRemoved env handle
      else (node.modifyStatus handle Status.released).queueEvent handle
        (.addressLost status.address) := by
    unfold giveWay
    rw [show node.status? handle = some status by simp [status?, hentry]]
  cases hconnected : status.isConnected with
  | false =>
    rw [hway, hconnected]
    exact .inl ⟨rfl, hlost, rfl⟩
  | true =>
    rw [hway, hconnected, if_pos rfl]
    exact .inr ⟨rfl, _, rfl, rfl, by simp [queueEvent, trace, modifyStatus],
      get?_call env .removed hlost, log_call env .removed hlost⟩

theorem get?_giveWay_of_ne (env : Env) {handle k : Handle} (hk : k ≠ handle) :
    (node.giveWay env handle).registry.get? k = node.registry.get? k := by
  unfold giveWay
  split
  · rfl
  · dsimp only
    split
    · unfold tellRemoved
      rw [get?_call_of_ne env .removed hk]
      exact get?_modifyStatus_of_ne _ hk
    · exact get?_modifyStatus_of_ne _ hk

theorem filter_giveWay (env : Env) (handle : Handle) :
    (node.giveWay env handle).filter = node.filter := by
  unfold giveWay
  split
  · rfl
  · dsimp only
    split
    · unfold tellRemoved
      rw [filter_call]
      rfl
    · rfl

/-- What the status and the events show of a driver that gave way. -/
theorem giveWay_spec (hsound : node.Sound) (env : Env) {handle : Handle} {status : Status}
    {registration : Registration}
    (hentry : node.registry.get? handle = some ⟨status, .driver registration⟩) :
    (∃ after, (node.giveWay env handle).status? handle = some after ∧
      after.unbonded = status.released.unbonded) ∧
    ∃ added, (node.giveWay env handle).log = node.log ++ added ∧
      (eventsOf added).filter (·.kind.isLoss) = [⟨handle, .addressLost status.address⟩] ∧
      (eventsOf added).filter (·.kind.isRemoval) =
        if status.isConnected then [⟨handle, .removed⟩] else [] := by
  have hordinary := (hsound.entries handle _ hentry).1
  rcases giveWay_cases env hentry with
    ⟨hconnected, hget, hlog⟩ | ⟨hconnected, ctx, -, hstatus, hctx, hget, hlog⟩
  · refine ⟨⟨status.released, by rw [status?, hget]; rfl, rfl⟩, _, hlog, rfl, ?_⟩
    rw [hconnected]
    rfl
  · obtain ⟨added, hadded, hevents⟩ := Driver.events_respond hordinary .removed ctx
    refine ⟨⟨_, by rw [status?, hget]; rfl, ?_⟩, [.event ⟨handle, .addressLost status.address⟩,
      .event ⟨handle, .removed⟩, .called handle .removed] ++ added, ?_, ?_, ?_⟩
    · rw [(Driver.respond_spec hordinary .removed ctx).unbonded, hstatus]
    · rw [hlog, hadded.log, hctx, List.append_assoc]
    · have hnone : (eventsOf added).filter (·.kind.isLoss) = [] := by
        rw [List.filter_eq_nil_iff]
        intro event hevent
        simp [EventKind.not_isLoss_of_concernsPeer (hevents event hevent)]
      rw [eventsOf_append, List.filter_append, hnone]
      rfl
    · have hnone : (eventsOf added).filter (·.kind.isRemoval) = [] := by
        rw [List.filter_eq_nil_iff]
        intro event hevent
        simp [EventKind.not_isRemoval_of_concernsPeer (hevents event hevent)]
      rw [eventsOf_append, List.filter_append, hnone, hconnected]
      rfl

/-! ## The owner of an announced address -/

/-- An announce at the address of an own driver is the owner's business. -/
theorem visit_eq_visitOwner (env : Env) {cp : ControlPacket} {handle : Handle} {scan : Scan}
    {status : Status} {registration : Registration}
    (hentry : scan.node.registry.get? handle = some ⟨status, .driver registration⟩)
    (howns : ownsAddress cp status = true) :
    visit env cp handle scan = visitOwner env handle status cp scan := by
  unfold visit
  rw [hentry]
  simp only [Entry.isRecord, howns, Bool.false_eq_true, ↓reduceIte]

/-- What an announce makes of a node with an own driver at the announced address. -/
structure Arbitrates (cp : ControlPacket) (handle : Handle) (status : Status)
    (before after : Node) (added : List Action) : Prop where
  log : after.log = before.log ++ added
  /-- A confirmed owner keeps its status at the announce of another device that is not sure of the
  address, and sends the announce back with the conflict flag. -/
  stays : cp.flags.contains ControlFlags.conflict = false → status.serial ≠ cp.serial →
    status.isConfirmed = true → cp.flags.contains ControlFlags.uncertain = true →
    after.status? handle = some status ∧ hellosOf (framesOf added) = [cp.flagged]
  /-- At any other announce of another device, and at a flagged conflict, the owner loses the
  address with all that goes with it. The loss is reported once, and so is the removal of a driver
  that was connected. -/
  yields : cp.flags.contains ControlFlags.conflict = true ∨ status.serial ≠ cp.serial ∧
      ¬ (status.isConfirmed = true ∧ cp.flags.contains ControlFlags.uncertain = true) →
    (∃ lost, after.status? handle = some lost ∧ lost.address = 0 ∧ lost.counter = 0 ∧
      lost.isConfirmed = false ∧ lost.isUnconfirmed = false ∧ lost.isSeen = false) ∧
    (eventsOf added).filter (·.kind.isLoss) = [⟨handle, .addressLost status.address⟩] ∧
    (eventsOf added).filter (·.kind.isRemoval) =
      if status.isConnected then [⟨handle, .removed⟩] else []
  /-- The announce of the owner's own device is a sighting and nothing else. -/
  agrees : cp.flags.contains ControlFlags.conflict = false → status.serial = cp.serial →
    after.status? handle = some (status.mark DeviceFlags.seen)
  /-- A collision changes neither the filter nor a remote driver that waits for its device. -/
  bystanders : cp.flags.contains ControlFlags.conflict = true ∨ status.serial ≠ cp.serial →
    after.filter = before.filter ∧
    ∀ k entry, before.registry.get? k = some entry → entry.status.Waits →
      ∃ entry', after.registry.get? k = some entry' ∧ entry.SameButSilence entry'

/-- No other own driver has the address of an own driver. -/
theorem Orderly.noOtherOwns (h : node.Orderly) {cp : ControlPacket} {handle : Handle}
    {status : Status} (hstatus : node.status? handle = some status)
    (hlocal : status.isLocal = true) (haddress : status.address = cp.address) :
    node.NoOtherOwns cp handle := by
  intro k t hk ht howns
  have hown := tenancy?_of_status? hstatus hlocal
  exact hk (h.distinct k handle t status.tenancy ht hown howns.1 (howns.2.trans haddress.symm))

/-- What comes before the owner concerns neither the filter nor those who wait. -/
theorem Approaches.bystanders {cp : ControlPacket} {handle : Handle} {mid : Node}
    (h : Approaches cp handle node mid) (hsound : node.Sound) {status : Status}
    (hstatus : node.status? handle = some status) (hlocal : status.isLocal = true) {after : Node}
    (hfilter : after.filter = mid.filter)
    (hget : ∀ k, k ≠ handle → after.registry.get? k = mid.registry.get? k) :
    after.filter = node.filter ∧
    ∀ k entry, node.registry.get? k = some entry → entry.status.Waits →
      ∃ entry', after.registry.get? k = some entry' ∧ entry.SameButSilence entry' := by
  refine ⟨hfilter.trans h.filter, fun k entry hentry hwaits => ?_⟩
  have hremote := (hsound.entries k entry hentry).not_isLocal_of_isVirtual hwaits.1
  have hk : k ≠ handle := by
    rintro rfl
    rw [status?, hentry] at hstatus
    cases hstatus
    rw [hlocal] at hremote
    cases hremote
  have hdriver : entry.isRecord = false := by
    by_contra hrecord
    rw [Bool.not_eq_false] at hrecord
    have hnot := ((hsound.entries k entry hentry).record_flags hrecord).2
    rw [hwaits.1] at hnot
    cases hnot
  rw [hget k hk]
  exact h.spared k entry hentry hdriver (.inr hwaits)

/-- The registration of an own driver. -/
theorem exists_registration_of_isLocal (hsound : node.Sound) {handle : Handle} {status : Status}
    (hstatus : node.status? handle = some status) (hlocal : status.isLocal = true) :
    ∃ registration, node.registry.get? handle = some ⟨status, .driver registration⟩ := by
  obtain ⟨⟨status', kind⟩, hentry, hsame⟩ := Option.map_eq_some_iff.1 hstatus
  cases hsame
  cases kind with
  | driver registration => exact ⟨registration, hentry⟩
  | record =>
    have hnot := ((hsound.entries handle _ hentry).record_flags rfl).1
    have hnot' : status'.isLocal = false := hnot
    rw [hlocal] at hnot'
    cases hnot'

/-- The trace of what comes before a driver shows neither events nor announces. -/
theorem Approaches.silent {cp : ControlPacket} {handle : Handle} {mid : Node}
    (h : Approaches cp handle node mid) :
    ∃ added, mid.log = node.log ++ added ∧ eventsOf added = [] ∧
      hellosOf (framesOf added) = [] := by
  obtain ⟨added, hlog, hevents, -⟩ := h.trace
  obtain ⟨added', hlog', hhellos⟩ := h.quiet.trace
  have hsame : added' = added := List.append_cancel_left (hlog'.symm.trans hlog)
  rw [hsame] at hhellos
  exact ⟨added, hlog, hevents, hhellos⟩

/-- The announce of an own address comes to its owner and finds it with the status it had. -/
theorem receiveFrame_eq_visitOwner (h : node.Orderly) (env : Env) {frame : Bytes}
    {cp : ControlPacket} (hframe : helloOf? frame = some cp) {handle : Handle} {status : Status}
    (hstatus : node.status? handle = some status) (hlocal : status.isLocal = true)
    (hpos : status.address ≠ 0) (haddress : status.address = cp.address) :
    ∃ (next : Scan) (later : List Handle) (registration : Registration), handle ∉ later ∧
      Approaches cp handle node next.node ∧
      next.node.registry.get? handle = some ⟨status, .driver registration⟩ ∧
      node.receiveFrame env frame =
        conclude env cp later (visitOwner env handle status cp next) := by
  obtain ⟨-, hello⟩ := helloOf?_eq_some_iff.1 hframe
  obtain ⟨registration, hentry⟩ := exists_registration_of_isLocal h.sound hstatus hlocal
  obtain ⟨next, later, hlater, hcomes, heq⟩ := receiveAnnounce_eq_conclude h.sound env hello
    hentry (h.noOtherOwns hstatus hlocal haddress)
  obtain ⟨now, hthere, -⟩ := hcomes.driver hentry
  have howns : ownsAddress cp status = true := ownsAddress_iff.2 ⟨hlocal, hpos, haddress⟩
  refine ⟨next, later, now, hlater, hcomes, hthere, ?_⟩
  rw [receiveFrame_of_hello node env hframe, ← visit_eq_visitOwner env hthere howns, heq]

/-- A driver does nothing with the announce of its own address. -/
theorem status?_call_own (hsound : node.Sound) (env : Env) {cp : ControlPacket}
    (hello : cp.type = .hello) {handle : Handle} {status : Status} {registration : Registration}
    (hentry : node.registry.get? handle = some ⟨status, .driver registration⟩)
    (haddress : status.address = cp.address) :
    ∃ driver, (node.call env handle (.control cp)).2.registry.get? handle =
        some ⟨status, .driver { registration with driver }⟩ ∧
      (node.call env handle (.control cp)).2.log = node.log ++ [.called handle (.control cp)] := by
  have hordinary := (hsound.entries handle _ hentry).1
  rcases Driver.respond_announce hordinary hello
      ⟨env, handle, status, node.log ++ [.called handle (.control cp)]⟩ with
    hcontext | ⟨-, -, hforeign, -⟩
  · refine ⟨(registration.driver.respond (.control cp)
      ⟨env, handle, status, node.log ++ [.called handle (.control cp)]⟩).driver, ?_, ?_⟩
    · rw [get?_call env (.control cp) hentry, hcontext]
    · rw [log_call env (.control cp) hentry, hcontext]
  · exact absurd haddress.symm hforeign

section

variable (h : node.Orderly) {cp : ControlPacket} {handle : Handle} {status : Status} {next : Scan}
  {registration : Registration} (hstatus : node.status? handle = some status)
  (hlocal : status.isLocal = true) (hcomes : Approaches cp handle node next.node)
  (hthere : next.node.registry.get? handle = some ⟨status, .driver registration⟩)

include h hstatus hlocal hcomes hthere

/-- The owner gives way. -/
theorem arbitrates_of_yield (env : Env)
    (hreason : cp.flags.contains ControlFlags.conflict = true ∨ status.serial ≠ cp.serial ∧
      ¬ (status.isConfirmed = true ∧ cp.flags.contains ControlFlags.uncertain = true)) :
    ∃ added, Arbitrates cp handle status node (next.node.giveWay env handle) added := by
  obtain ⟨before, hbefore, hbeforeEvents, -⟩ := hcomes.silent
  obtain ⟨⟨lost, hlost, hunbonded⟩, added, hlog, hloss, hremoval⟩ :=
    giveWay_spec hcomes.quiet.sound env hthere
  refine ⟨before ++ added, ?_, ?_, ?_, ?_, ?_⟩
  · rw [hlog, hbefore, List.append_assoc]
  · intro hconflict _ hconfirmed huncertain
    rcases hreason with hflagged | ⟨-, hnot⟩
    · rw [hconflict] at hflagged
      cases hflagged
    · exact absurd ⟨hconfirmed, huncertain⟩ hnot
  · intro _
    refine ⟨⟨lost, hlost, Status.cleared_of_unbonded_eq hunbonded⟩, ?_, ?_⟩
    · rw [eventsOf_append, hbeforeEvents]
      exact hloss
    · rw [eventsOf_append, hbeforeEvents]
      exact hremoval
  · intro hconflict hserial
    rcases hreason with hflagged | ⟨hforeign, -⟩
    · rw [hconflict] at hflagged
      cases hflagged
    · exact absurd hserial hforeign
  · intro _
    exact hcomes.bystanders h.sound hstatus hlocal (filter_giveWay env handle)
      fun k hk => get?_giveWay_of_ne env hk

/-- The owner stays and sends the announce back. -/
theorem arbitrates_of_rebuke {env : Env} (henv : env.refusal = none) {frame : Bytes}
    (hframe : helloOf? frame = some cp)
    (hconflict : cp.flags.contains ControlFlags.conflict = false)
    (hserial : status.serial ≠ cp.serial) (hconfirmed : status.isConfirmed = true)
    (huncertain : cp.flags.contains ControlFlags.uncertain = true) :
    ∃ added, Arbitrates cp handle status node (next.node.post env cp.flagged) added := by
  obtain ⟨hcontrol, hello⟩ := helloOf?_eq_some_iff.1 hframe
  obtain ⟨before, hbefore, -, hbeforeHellos⟩ := hcomes.silent
  have hfit : cp.flagged.payload.length ≤ controlPayloadLimit := (fits_of_ofFrame? hcontrol).1
  have hpost : next.node.post env cp.flagged = next.node.trace (.sent cp.flagged.frame) := by
    unfold post
    rw [Env.controlFrame_eq_ok_iff.2 ⟨henv, hfit, rfl⟩]
  rw [hpost]
  refine ⟨before ++ [.sent cp.flagged.frame], ?_, ?_, ?_, ?_, ?_⟩
  · show next.node.log ++ _ = _
    rw [hbefore, List.append_assoc]
  · intro _ _ _ _
    refine ⟨?_, ?_⟩
    · show (next.node.registry.get? handle).map _ = _
      rw [hthere]
      rfl
    · have hsent : hellosOf [cp.flagged.frame] = [cp.flagged] := hellosOf_frame hello hfit
      rw [framesOf_append, hellosOf_append, hbeforeHellos, framesOf_sent, hsent]
      rfl
  · intro hreason
    rcases hreason with hflagged | ⟨-, hnot⟩
    · rw [hconflict] at hflagged
      cases hflagged
    · exact absurd ⟨hconfirmed, huncertain⟩ hnot
  · intro _ hsame
    exact absurd hsame hserial
  · intro _
    exact hcomes.bystanders h.sound hstatus hlocal rfl fun _ _ => rfl

/-- An owner that agrees is marked as seen, and no address is lost. -/
theorem agree_spec (env : Env) (hello : cp.type = .hello) (haddress : status.address = cp.address)
    {later : List Handle} (hlater : handle ∉ later)
    (hconflict : cp.flags.contains ControlFlags.conflict = false)
    (hserial : status.serial = cp.serial) :
    ∃ driver added,
      (conclude env cp later (visitOwner env handle status cp next)).registry.get? handle =
        some ⟨status.mark DeviceFlags.seen, .driver { registration with driver }⟩ ∧
      (conclude env cp later (visitOwner env handle status cp next)).log = node.log ++ added ∧
      NoLoss added := by
  let marked : Scan := { next with
    node := next.node.modifyStatus handle (·.mark DeviceFlags.seen)
    isClaimed := true }
  have hvisit : visitOwner env handle status cp next = .proceed (marked.deliver env handle cp) := by
    unfold visitOwner
    simp only [hconflict, hserial, bne_self_eq_false, Bool.false_eq_true, ↓reduceIte]
    rfl
  have hmark : Quiet next.node marked.node :=
    quiet_modifyStatus hcomes.quiet.sound handle fun status =>
      ⟨congrArg Tenancy.mode status.tenancy_mark_seen, status.tenancy_mark_seen⟩
  have hmarked : marked.node.registry.get? handle =
      some ⟨status.mark DeviceFlags.seen, .driver registration⟩ := get?_modifyStatus _ hthere
  obtain ⟨driver, hget, hlog⟩ := status?_call_own hmark.sound env hello hmarked haddress
  have hcall : Quiet marked.node (marked.deliver env handle cp).node :=
    quiet_call hmark.sound env handle (.control cp)
  have hothers := (h.noOtherOwns hstatus hlocal haddress).of_quiet
    ((hcomes.quiet.trans hmark).trans hcall)
  have hstill : (status.mark DeviceFlags.seen).isLocal = true := by
    rw [Status.isLocal_eq_of_tenancy_eq status.tenancy_mark_seen]
    exact hlocal
  obtain ⟨hkept, more, hmore, -, hmoreLoss⟩ :=
    conclude_spec env hello hcall.sound hlater hothers hget hstill
  obtain ⟨before, hbefore, hbeforeEvents, -⟩ := hcomes.silent
  rw [hvisit]
  refine ⟨driver, before ++ [.called handle (.control cp)] ++ more, hkept, ?_, ?_⟩
  · have hfirst : (marked.deliver env handle cp).node.log =
        next.node.log ++ [.called handle (.control cp)] := hlog
    rw [hmore, hfirst, hbefore, List.append_assoc, List.append_assoc, List.append_assoc]
  · exact ((noLoss_of_eventsOf_eq_nil hbeforeEvents).append
      (noLoss_of_eventsOf_eq_nil rfl)).append hmoreLoss

/-- The owner agrees. -/
theorem arbitrates_of_agree (env : Env) (hello : cp.type = .hello)
    (haddress : status.address = cp.address) {later : List Handle} (hlater : handle ∉ later)
    (hconflict : cp.flags.contains ControlFlags.conflict = false)
    (hserial : status.serial = cp.serial) :
    ∃ added, Arbitrates cp handle status node
      (conclude env cp later (visitOwner env handle status cp next)) added := by
  obtain ⟨driver, added, hkept, hlog, -⟩ := agree_spec h hstatus hlocal hcomes hthere env hello
    haddress hlater hconflict hserial
  refine ⟨added, hlog, ?_, ?_, ?_, ?_⟩
  · intro _ hforeign
    exact absurd hserial hforeign
  · intro hreason
    rcases hreason with hflagged | ⟨hforeign, -⟩
    · rw [hconflict] at hflagged
      cases hflagged
    · exact absurd hserial hforeign
  · intro _ _
    rw [status?, hkept]
    rfl
  · intro hreason
    rcases hreason with hflagged | hforeign
    · rw [hconflict] at hflagged
      cases hflagged
    · exact absurd hserial hforeign

end

/-- **Collisions are decided by the owner alone.** Whatever became of a node, if one of its own
drivers has the address of an announce, then the driver's status and the announce determine what
happens; the other entries and their order have no say. -/
theorem arbitrates_of_occurs {settings : NodeSettings} {draws : Draws}
    (h : Occurs settings draws node) {env : Env} (henv : env.refusal = none) {frame : Bytes}
    {cp : ControlPacket} (hframe : helloOf? frame = some cp) {handle : Handle} {status : Status}
    (hstatus : node.status? handle = some status) (hlocal : status.isLocal = true)
    (hpos : status.address ≠ 0) (haddress : status.address = cp.address) :
    ∃ added, Arbitrates cp handle status node (node.receiveFrame env frame) added := by
  have horderly := h.orderly
  obtain ⟨next, later, registration, hlater, hcomes, hthere, heq⟩ :=
    receiveFrame_eq_visitOwner horderly env hframe hstatus hlocal hpos haddress
  have hello := (helloOf?_eq_some_iff.1 hframe).2
  have howns : ownsAddress cp status = true := ownsAddress_iff.2 ⟨hlocal, hpos, haddress⟩
  rw [heq]
  cases showing_of_owner env handle next howns with
  | yields _ loses hfound =>
    rw [hfound]
    refine arbitrates_of_yield horderly hstatus hlocal hcomes hthere env
      (loses.imp_right fun ⟨hserial, hleaves⟩ => ⟨hserial, fun ⟨hconfirmed, huncertain⟩ => ?_⟩)
    rw [hconfirmed, huncertain] at hleaves
    cases hleaves
  | rebukes _ calm other stays hfound =>
    obtain ⟨hconfirmed, huncertain⟩ := Bool.and_eq_true_iff.1 stays
    rw [hfound]
    exact arbitrates_of_rebuke horderly hstatus hlocal hcomes hthere henv hframe calm other
      hconfirmed huncertain
  | agrees _ calm same =>
    exact arbitrates_of_agree horderly hstatus hlocal hcomes hthere env hello haddress hlater calm
      same
  | moves foreign | records foreign | hears foreign | pairs foreign | passes foreign =>
    cases howns.symm.trans foreign

/-- A host whose address is drawn but not confirmed yet. -/
def hostOnProbation : Node :=
  (withDriver ⟨.host, 7, some 1, some 10⟩ .quiet).tick .taking

/-- Another device has the address of the host, and the host gives way. -/
theorem arbitrates_of_hostOnProbation :
    ∃ status added, Occurs {} ⟨fun _ => 0, 0⟩ hostOnProbation ∧
      helloOf? (ControlPacket.hello 10 7 2).frame = some (ControlPacket.hello 10 7 2) ∧
      hostOnProbation.status? ⟨0, 0⟩ = some status ∧ status.isLocal = true ∧
      status.address ≠ 0 ∧ status.address = (ControlPacket.hello 10 7 2).address ∧
      Arbitrates (ControlPacket.hello 10 7 2) ⟨0, 0⟩ status hostOnProbation
        (hostOnProbation.receiveFrame .taking (ControlPacket.hello 10 7 2).frame) added := by
  have hoccurs : Occurs {} ⟨fun _ => 0, 0⟩ hostOnProbation :=
    .tick _ (history_withDriver _ trivial trivial)
  have hhello : helloOf? (ControlPacket.hello 10 7 2).frame =
      some (ControlPacket.hello 10 7 2) := by
    decide +kernel
  have hstatus : hostOnProbation.status? ⟨0, 0⟩ =
      some ⟨10, 0, DeviceFlags.own ∪ DeviceFlags.unconfirmed, 1, 7⟩ := by
    decide +kernel
  have hlocal : (⟨10, 0, DeviceFlags.own ∪ DeviceFlags.unconfirmed, 1, 7⟩ : Status).isLocal =
      true := by
    decide
  have henv : Env.taking.refusal = none := rfl
  obtain ⟨added, harbitrates⟩ :=
    arbitrates_of_occurs hoccurs henv hhello hstatus hlocal (by decide) rfl
  exact ⟨_, added, hoccurs, hhello, hstatus, hlocal, by decide, rfl, harbitrates⟩

end Node

end DeviceBus
