import DeviceBus.Proofs.Node.Stories

/-!
# What a node says

A node sends three kinds of frames, all of them control packets: the announces of its drivers that
have an address, announces that came in and collide, sent back with the conflict flag, and the
pairing packets of its drivers. Whatever happens to a node without probes, all that it sends is one
of these utterances.

## Main results

* `Driver.utters_respond`: whatever an ordinary driver is told, it sends nothing but pairing
  packets.
* `utters_of_becomes`: whatever happens to a node, all that it sends is an utterance.
* `Utterance.reads`: every utterance reads as an announce or as a pairing packet.
-/

namespace DeviceBus

open ControlPacket

/-- A frame that a node sends when something happens to it. -/
inductive Utterance (x : Happening) : Bytes → Prop where
  /-- The announce of a driver that has an address. -/
  | announce {driver : Driver} {status : Status} (ordinary : driver.IsOrdinary)
      (pos : status.address ≠ 0)
      (fits : (driver.fill status (Node.announcement status)).1.payload.length ≤
        controlPayloadLimit) :
      Utterance x (driver.fill status (Node.announcement status)).1.frame
  /-- An announce that came in, with the conflict flag. -/
  | echo {cp : ControlPacket} (brings : x.Brings cp) : Utterance x cp.flagged.frame
  /-- A pairing packet. -/
  | pairing (target : Identity) (flags : ControlFlags) (sender : Identity) :
      Utterance x (pairingMessage target flags sender).frame

/-- An ordinary driver fills an announce without making it another packet. -/
theorem Driver.type_fill {driver : Driver} (h : driver.IsOrdinary) (status : Status)
    (cp : ControlPacket) : (driver.fill status cp).1.type = cp.type := by
  cases driver with
  | probe p => exact h.elim
  | pairable p =>
    show (p.gated.fill cp).type = cp.type
    unfold Gated.fill
    split
    · split <;> rfl
    · rfl
  | _ => rfl

/-- Every utterance reads as an announce or as a pairing packet. -/
theorem Utterance.reads {x : Happening} {frame : Bytes} (h : Utterance x frame) :
    ∃ cp : ControlPacket, frame = cp.frame ∧ ofFrame? frame = some cp ∧
      (cp.type = .hello ∨ cp.type = .pairing) := by
  cases h with
  | @announce driver status ordinary pos fits =>
    have htype := driver.type_fill ordinary status (Node.announcement status)
    exact ⟨_, rfl, ofFrame?_frame (isCanonical_of_hello htype) fits, .inl htype⟩
  | echo brings =>
    obtain ⟨env, received, -, hhello⟩ := brings
    obtain ⟨hframe, htype⟩ := helloOf?_eq_some_iff.1 hhello
    exact ⟨_, rfl, ofFrame?_frame (isCanonical_of_hello htype) (fits_of_ofFrame? hframe).1,
      .inl htype⟩
  | pairing target flags sender =>
    refine ⟨_, rfl, ofFrame?_frame rfl ?_, .inr rfl⟩
    show sender.encode.length ≤ _
    rw [Identity.length_encode]
    decide

/-! ## What drivers send -/

/-- Between two places in a call nothing but utterances was sent. -/
def Context.Utters (x : Happening) (before after : Context) : Prop :=
  ∃ added, before.Extends after added ∧ ∀ frame ∈ framesOf added, Utterance x frame

section

variable {x : Happening} {ctx mid after : Context}

theorem Context.IsSilent.utters (h : ctx.IsSilent after) : ctx.Utters x after := by
  obtain ⟨-, added, hadded, hnone, -⟩ := h
  exact ⟨added, hadded, by simp [hnone]⟩

theorem Context.Utters.trans (h : ctx.Utters x mid) (h' : mid.Utters x after) :
    ctx.Utters x after := by
  obtain ⟨added, hadded, hframes⟩ := h
  obtain ⟨more, hmore, hframes'⟩ := h'
  refine ⟨added ++ more, hadded.trans hmore, fun frame hframe => ?_⟩
  rw [framesOf_append, List.mem_append] at hframe
  exact hframe.elim (hframes frame) (hframes' frame)

/-- Whatever an ordinary driver is told, it sends nothing but pairing packets. -/
theorem Driver.utters_respond {driver : Driver} (hordinary : driver.IsOrdinary)
    (callback : Callback) (ctx : Context) :
    ctx.Utters x (driver.respond callback ctx).context := by
  have hnone : ctx.Utters x ctx := (Context.IsSilent.refl ctx).utters
  cases driver with
  | quiet => exact hnone
  | probe p => exact hordinary.elim
  | console c => cases callback <;> exact hnone
  | logger client => exact hnone
  | pairable p =>
    have hletGo : ctx.Utters x (p.letGo ctx).2 := by
      obtain ⟨-, -, added, hadded, hframes, -⟩ := p.letGo_spec ctx
      exact ⟨added, hadded, by simp [hframes]⟩
    cases callback with
    | control cp =>
      obtain ⟨standing, sent, events, hmove, hshows⟩ := p.onControl_move cp ctx
      obtain ⟨added, hadded, hframes, -⟩ := hshows.trace
      refine ⟨added, hadded, fun frame hframe => ?_⟩
      rw [hframes] at hframe
      rcases hmove.sent_eq with rfl | ⟨target, flags, rfl⟩
      · cases hframe
      · rw [List.mem_singleton.1 hframe]
        exact .pairing target flags _
    | data packet => exact (p.onData_spec packet ctx).2.utters
    | connected => exact (p.gated.isSilent_connected ctx).utters
    | removed => exact hletGo.trans ((p.letGo ctx).1.gated.isSilent_removed _).utters
    | partnerLost => exact hletGo

end

namespace Node

variable {x : Happening} {node mid after : Node}

/-! ## Parts of a step -/

/-- No driver of the node is a probe. -/
def NoProbe (node : Node) : Prop := ∀ k, node.probe? k ≠ some true

theorem NoProbe.isOrdinary (h : node.NoProbe) {k : Handle} {kept : Kept}
    (hkept : node.enrolled? k = some kept) : kept.2.driver.IsOrdinary := by
  refine Driver.isOrdinary_iff.2 (Bool.eq_false_iff.2 fun hprobe => h k ?_)
  unfold probe?
  rw [hkept, Option.map_some, hprobe]

theorem NoProbe.of_spares {who : Handle → Prop} (h : node.NoProbe)
    (hspares : Spares who node after) : after.NoProbe :=
  fun k => (hspares.probe? k).symm ▸ h k

/-- A part of a step sends nothing but utterances. -/
def Utters (x : Happening) (before after : Node) : Prop :=
  ∃ added, after.log = before.log ++ added ∧ ∀ frame ∈ framesOf added, Utterance x frame

theorem Utters.trans (h : Utters x node mid) (h' : Utters x mid after) : Utters x node after := by
  obtain ⟨added, hlog, hframes⟩ := h
  obtain ⟨more, hmore, hframes'⟩ := h'
  refine ⟨added ++ more, by rw [hmore, hlog, List.append_assoc], fun frame hframe => ?_⟩
  rw [framesOf_append, List.mem_append] at hframe
  exact hframe.elim (hframes frame) (hframes' frame)

/-- What adds no frame to the log says nothing. -/
theorem utters_of_log (added : List Action) (hlog : after.log = node.log ++ added)
    (hnone : framesOf added = []) : Utters x node after :=
  ⟨added, hlog, by simp [hnone]⟩

theorem utters_of_log_eq (hlog : after.log = node.log) : Utters x node after :=
  utters_of_log [] (hlog.trans (List.append_nil _).symm) rfl

theorem utters_queueEvent (handle : Handle) (kind : EventKind) (node : Node) :
    Utters x node (node.queueEvent handle kind) := utters_of_log [.event ⟨handle, kind⟩] rfl rfl

theorem utters_post {cp : ControlPacket} (env : Env)
    (hcp : cp.payload.length ≤ controlPayloadLimit → Utterance x cp.frame) :
    Utters x node (node.post env cp) := by
  unfold post
  cases hsent : env.controlFrame cp with
  | error e => exact utters_of_log_eq rfl
  | ok frame =>
    obtain ⟨-, hfits, rfl⟩ := Env.controlFrame_eq_ok_iff.1 hsent
    refine ⟨[.sent cp.frame], rfl, fun other hother => ?_⟩
    rw [framesOf_sent, List.mem_singleton] at hother
    rw [hother]
    exact hcp hfits

theorem utters_call (h : node.NoProbe) (env : Env) (handle : Handle) (callback : Callback) :
    Utters x node (node.call env handle callback).2 := by
  rcases node.exists_driver_or_call_eq env handle callback with
    ⟨status, registration, hentry⟩ | heq
  · have hordinary : registration.driver.IsOrdinary :=
      h.isOrdinary (enrolled?_eq_some_iff.2 hentry)
    obtain ⟨added, hadded, hframes⟩ := Driver.utters_respond (x := x) hordinary callback
      (node.placeOf env handle callback status)
    refine ⟨.called handle callback :: added, ?_, hframes⟩
    rw [log_call env callback hentry]
    refine hadded.log.trans ?_
    show node.log ++ [.called handle callback] ++ added = _
    rw [List.append_assoc]
    rfl
  · rw [heq]
    exact utters_of_log_eq rfl

theorem utters_tellRemoved (h : node.NoProbe) (env : Env) (handle : Handle) :
    Utters x node (node.tellRemoved env handle) :=
  (utters_queueEvent handle .removed node).trans
    (utters_call (h.of_spares (spares_queueEvent handle .removed node)) env handle .removed)

/-! ## Received frames -/

/-- A turn sends nothing but utterances. -/
theorem Turn.utters {env : Env} {handle : Handle} {cp : ControlPacket}
    (hturn : Turn env handle cp node after) (h : node.NoProbe) (hbrings : x.Brings cp) :
    Utters x node after := by
  induction hturn with
  | start => exact utters_of_log_eq rfl
  | restate _ change _ ih => exact ih.trans (utters_of_log_eq rfl)
  | report _ kind ih => exact ih.trans (utters_queueEvent handle kind _)
  | tell before callback _ ih =>
    exact ih.trans (utters_call (h.of_spares before.spares) env handle callback)
  | echo _ ih => exact ih.trans (utters_post env fun _ => .echo hbrings)
  | record _ ih => exact ih.trans (utters_of_log_eq (log_recordDevice cp))

/-- So does a chore. -/
theorem Chore.utters {env : Env} {handle : Handle} (hchore : Chore env handle node after)
    (h : node.NoProbe) : Utters x node after := by
  induction hchore with
  | start => exact utters_of_log_eq rfl
  | restate _ change _ ih => exact ih.trans (utters_of_log_eq rfl)
  | rebook _ change _ ih => exact ih.trans (utters_of_log_eq rfl)
  | draw _ draws ih => exact ih.trans (utters_of_log_eq rfl)
  | report _ kind ih => exact ih.trans (utters_queueEvent handle kind _)
  | tell before callback _ ih =>
    exact ih.trans (utters_call (h.of_spares before.spares) env handle callback)
  | drop _ _ ih => exact ih.trans (utters_of_log_eq rfl)

theorem utters_visitAll (env : Env) {cp : ControlPacket} (hbrings : x.Brings cp)
    (handles : List Handle) {scan : Scan} (h : scan.node.NoProbe) :
    Utters x scan.node (visitAll env cp handles scan).node := by
  have hvisit : ∀ handle ∈ handles, ∀ next : Scan, next.node.NoProbe →
      Utters x next.node (visit env cp handle next).node ∧
        (visit env cp handle next).node.NoProbe :=
    fun handle _ next hnext =>
      ⟨(turn_visit env cp handle next).utters hnext hbrings,
        hnext.of_spares (spares_visit env cp handle next)⟩
  exact (visitAll_of_visit (R := fun before after => before.NoProbe →
      Utters x before after ∧ after.NoProbe)
    (fun _ hnode => ⟨utters_of_log_eq rfl, hnode⟩)
    (fun hab hbc hnode => ⟨(hab hnode).1.trans (hbc (hab hnode).2).1, (hbc (hab hnode).2).2⟩)
    env cp hvisit scan h).1

theorem utters_settle (env : Env) {cp : ControlPacket} (hbrings : x.Brings cp) {scan : Scan}
    (h : scan.node.NoProbe) : Utters x scan.node (settle env cp scan) := by
  obtain ⟨filter, heq | ⟨-, handle, -, heq⟩⟩ := settle_cases env cp scan
  · rw [heq]
    exact utters_of_log_eq rfl
  · rw [heq]
    exact Utters.trans (utters_of_log_eq rfl)
      ((turn_adopt env handle cp _).utters (h.of_spares (spares_withFilter filter scan.node))
        hbrings)

theorem utters_receiveAnnounce (h : node.NoProbe) (env : Env) {cp : ControlPacket}
    (hbrings : x.Brings cp) : Utters x node (node.receiveAnnounce env cp) := by
  have hheard : Utters x node (node.heard cp) :=
    utters_of_log_eq (log_heard cp node)
  have hround : Utters x node (node.round env cp).node :=
    hheard.trans (utters_visitAll env hbrings _ (h.of_spares (spares_heard cp node)))
  rcases receiveAnnounce_cases env cp node with heq | ⟨scan, hscan, -, -, heq⟩
  · rw [heq]
    exact hround
  · have hspares := spares_round env cp node
    rw [hscan] at hround hspares
    rw [heq]
    exact hround.trans (utters_settle env hbrings (h.of_spares hspares))

/-- A walk over the registry says what its steps say. -/
theorem utters_foldl {step : Node → Handle → Node}
    (hspares : ∀ node handle, Spares (· ≠ handle) node (step node handle))
    (hstep : ∀ node handle, node.NoProbe → Utters x node (step node handle))
    (handles : List Handle) (h : node.NoProbe) : Utters x node (handles.foldl step node) := by
  induction handles generalizing node with
  | nil => exact utters_of_log_eq rfl
  | cons handle rest ih =>
    exact (hstep node handle h).trans (ih (h.of_spares (hspares node handle)))

theorem utters_routeTo (env : Env) (packet : Packet) (classes : List DeviceClass)
    (h : node.NoProbe) (handle : Handle) :
    Utters x node (routeTo env packet classes node handle) := by
  rcases routeTo_eq_or env packet classes node handle with heq | ⟨_, _, -, -, heq⟩
  · rw [heq]
    exact utters_of_log_eq rfl
  · rw [heq]
    exact utters_call h env handle _

theorem utters_receiveFrame (h : node.NoProbe) (env : Env) (frame : Bytes) :
    Utters (.receive env frame) node (node.receiveFrame env frame) := by
  cases node.arrival env frame with
  | announce hello heq =>
    rw [heq]
    exact utters_receiveAnnounce h env ⟨env, frame, rfl, hello⟩
  | pairing _ _ _ heq =>
    rw [heq]
    rcases receivePairing_eq_or env _ node with heq | ⟨handle, -, heq⟩
    · rw [heq]
      exact utters_of_log_eq rfl
    · rw [heq]
      exact utters_call h env handle _
  | data _ _ _ heq =>
    rw [heq]
    exact utters_foldl (spares_routeTo env _ _)
      (fun node handle h => utters_routeTo env _ _ h handle) node.registry.handles h
  | nothing _ heq =>
    rw [heq]
    exact utters_of_log_eq rfl

/-! ## Ticks -/

theorem utters_announce (h : node.NoProbe) (env : Env) (handle : Handle) :
    Utters x node (node.announce env handle) := by
  unfold announce
  split
  · exact utters_of_log_eq rfl
  · rename_i entry hentry
    dsimp only
    split
    · exact utters_of_log_eq rfl
    · rename_i hpos
      split
      · exact utters_post env fun hfits => @Utterance.announce x .quiet _ trivial hpos hfits
      · rename_i registration hkind
        have hordinary : registration.driver.IsOrdinary :=
          h.isOrdinary (enrolled?_eq_some_iff.2 (hentry.trans (by rw [← hkind])))
        refine Utters.trans (utters_of_log (List.map Action.noted _) rfl ?_)
          (utters_post env fun hfits => .announce hordinary hpos hfits)
        simp [framesOf, List.filterMap_map, Function.comp_def, Action.frame?]

theorem utters_tickEntry (env : Env) (node : Node) (handle : Handle) (h : node.NoProbe) :
    Utters x node (tickEntry env node handle) :=
  (tickEntry_of_chore (R := fun before after => before.NoProbe →
      Utters x before after ∧ after.NoProbe)
    (fun hab hbc hnode => ⟨(hab hnode).1.trans (hbc (hab hnode).2).1, (hbc (hab hnode).2).2⟩)
    (fun hchore hnode => ⟨hchore.utters hnode, hnode.of_spares hchore.spares⟩)
    (fun mid hnode => ⟨utters_announce hnode env handle,
      hnode.of_spares (spares_announce env handle mid)⟩) node h).1

theorem utters_tick (h : node.NoProbe) (env : Env) : Utters x node (node.tick env) :=
  utters_foldl (spares_tickEntry env) (utters_tickEntry env) node.registry.handles h

/-! ## Whatever happens -/

/-- No driver becomes a probe. -/
theorem noProbe_of_becomes (h : node.NoProbe) {added : List Action}
    (becomes : Becomes x node added after) (hadmitted : x.IsAdmitted Driver.IsOrdinary) :
    after.NoProbe := by
  intro k hk
  rcases probe?_of_becomes becomes hk with ⟨hbefore, -⟩ | ⟨profile, driver, rfl, hprobe⟩
  · exact h k hbefore
  · have hordinary : driver.isProbe = false := Driver.isOrdinary_iff.1 hadmitted
    rw [hordinary] at hprobe
    cases hprobe

/-- **Whatever happens to a node, all that it sends is an utterance.** -/
theorem utters_of_becomes (h : node.NoProbe) {added : List Action}
    (becomes : Becomes x node added after) : ∀ frame ∈ framesOf added, Utterance x frame := by
  have hadded : Utters x node after → after.log = node.log ++ added →
      ∀ frame ∈ framesOf added, Utterance x frame := by
    rintro ⟨said, hsaid, hframes⟩ hlog
    rw [List.append_cancel_left (hlog.symm.trans hsaid)]
    exact hframes
  cases becomes with
  | @unregister _ _ env handle left _ ok log =>
    obtain ⟨told, hdeparts, -, htold⟩ := unregister_cases ok
    refine hadded ?_ log
    rcases htold with ⟨rfl, -⟩ | ⟨rfl, -⟩
    · exact utters_of_log_eq hdeparts.log
    · exact (utters_tellRemoved h env handle).trans (utters_of_log_eq hdeparts.log)
  | receive env frame log => exact hadded (utters_receiveFrame h env frame) log
  | tick env log => exact hadded (utters_tick h env) log
  | register => simp
  | work => simp
  | takeLog => simp

end Node

end DeviceBus
