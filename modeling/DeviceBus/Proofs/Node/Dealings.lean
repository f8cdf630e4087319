import DeviceBus.Proofs.Node.Deliveries
import DeviceBus.Proofs.Node.Stances

/-!
# What a step makes of one driver

A received frame lets the standing of a driver take one turn at most, and of the silence of its peer
it can only break it. A tick counts that silence; when the limit is exceeded, the peer is let go.
Otherwise a tick leaves the stance alone, whatever it does to the address.

## Main results

* `turnsOnce_receiveFrame`: what a frame makes of a driver.
* `deals_tick`: what a tick makes of a driver.
-/

namespace DeviceBus

open ControlPacket EventKind

namespace Node

variable {node : Node} {k : Handle} {stance : Stance}

/-! ## A received announce -/

/-- The partner of a driver announced itself. -/
theorem deals_refreshPartner (h : node.Keeps k stance) (cp : ControlPacket) :
    Deals k node (node.refreshPartner cp k) (stance.hear cp) [] 0 := by
  obtain ⟨status, registration, hkept, hfair, rfl⟩ := h
  have hpeer := Driver.partner?_eq_peer hfair.ordinary
  unfold refreshPartner
  refine (congrArg (fun s => Deals k node _ s [] 0) ?_).mp
    (deals_modifyRegistration hkept hfair ?_)
  · unfold Stance.of Stance.hear
    rw [hpeer]
    cases registration.driver.standing.peer with
    | none => rfl
    | some partner =>
      dsimp only
      split <;> rename_i hpartner
      · exact (if_pos hpartner).symm
      · exact (if_neg hpartner).symm
  · rw [hpeer]
    cases registration.driver.standing.peer with
    | none => rfl
    | some partner =>
      dsimp only
      split <;> rfl

theorem deals_release (h : node.Keeps k stance) (status : Status) :
    Deals k node
      ((node.modifyStatus k (·.released)).queueEvent k (.addressLost status.address)) stance
      [.addressLost status.address] 0 := by
  have hmodify := deals_modifyStatus h (·.released) fun s => ⟨stanceFlags_unmark s (by decide), rfl⟩
  exact hmodify.after (deals_queueEvent hmodify.keeps _)

theorem deals_tellRemoved (h : node.Keeps k stance) (env : Env) :
    Deals k node (node.tellRemoved env k) { stance with standing := .unpaired }
      (.removed :: stance.standing.parting) 0 := by
  have hqueue := deals_queueEvent h .removed
  exact hqueue.trans (deals_call_letGo hqueue.keeps env (.inl rfl))

/-- A driver that gives way lets its peer go, if it was connected. -/
theorem turnsOnce_giveWay (h : node.Keeps k stance) (env : Env) :
    TurnsOnce k node (node.giveWay env k) stance := by
  unfold giveWay
  split
  · exact (Deals.refl h).turnsOnce
  · rename_i status _
    have hrelease := deals_release h status
    have hparting := Standing.Turn.letGo stance.standing
    dsimp only
    split
    · refine ⟨_, _, ?_, hrelease.trans (deals_tellRemoved hrelease.keeps env)⟩
      have honly : peerOnly
          ([.addressLost status.address] ++ .removed :: stance.standing.parting) =
            peerOnly stance.standing.parting := rfl
      rw [honly, hparting.peerOnly_eq]
      exact hparting
    · exact ⟨_, _, .stay _, hrelease⟩

/-- An announce that comes to a driver. -/
theorem turnsOnce_visit {scan : Scan} (h : scan.node.Keeps k stance) (env : Env)
    {cp : ControlPacket} (hello : cp.type = .hello) :
    TurnsOnce k scan.node (visit env cp k scan).node stance := by
  have hhello : cp.type = .pairing → stance.mode.contains DeviceFlags.own = true := by
    intro htype
    rw [hello] at htype
    cases htype
  have hdeliver : ∀ {mid : Node}, Deals k scan.node mid stance [] 0 → ∀ isClaimed : Bool,
      TurnsOnce k scan.node
        (({ scan with node := mid, isClaimed } : Scan).deliver env k cp).node stance :=
    fun hmid _ => TurnsOnce.afterDeals hmid (turnsOnce_call_control hmid.keeps env hhello)
  have hstay := Deals.refl h
  have hseen : Deals k scan.node (scan.node.modifyStatus k (·.mark DeviceFlags.seen)) stance [] 0 :=
    deals_modifyStatus h _ fun s => ⟨stanceFlags_mark s (by decide), rfl⟩
  rcases exists_driver_or_visit_eq env cp k scan with ⟨status, registration, held⟩ | heq
  · cases showing env cp held with
    | yields _ _ heq =>
      rw [heq]
      exact turnsOnce_giveWay h env
    | rebukes _ _ _ _ heq =>
      rw [heq]
      exact (deals_of_spares h (spares_post env _ scan.node) trivial).turnsOnce
    | agrees _ _ _ heq =>
      rw [heq]
      exact hdeliver hseen true
    | moves _ _ heq =>
      have hfollow : Deals k scan.node (scan.node.modifyStatus k (·.followed cp)) stance [] 0 :=
        deals_modifyStatus h _ fun s => ⟨stanceFlags_mark s (by decide), rfl⟩
      rw [heq]
      exact hdeliver hfollow true
    | records _ _ _ _ _ _ heq =>
      rw [heq]
      exact hdeliver (deals_of_spares h (spares_recordDevice cp scan.node) trivial) scan.isClaimed
    | hears _ _ _ _ _ heq | pairs _ _ _ _ _ _ _ _ heq =>
      rw [heq]
      exact hdeliver hstay scan.isClaimed
    | passes _ _ _ _ heq =>
      rw [heq]
      exact hstay.turnsOnce
  · rw [heq]
    exact hstay.turnsOnce

/-- An announce leaves a remote driver's stance alone. -/
theorem deals_call_of_remote (h : node.Keeps k stance) (env : Env) {cp : ControlPacket}
    (hello : cp.type = .hello) (hremote : stance.mode.contains DeviceFlags.own = false) :
    Deals k node (node.call env k (.control cp)).2 stance [] 0 := by
  obtain ⟨status, registration, hkept, hfair, rfl⟩ := h
  have hlocal : status.isLocal = false := (Status.isLocal_eq_mode status).trans hremote
  obtain ⟨events, standing, hturn, hanswers⟩ :=
    Driver.answers_control (node.placeOf env k (.control cp) status) hfair fun htype => by
      rw [hello] at htype
      cases htype
  have hbefore := hfair.remote hlocal
  have hafter : standing = .unpaired := by
    rw [← hanswers.standing]
    refine hanswers.fair.remote ?_
    rw [Status.isLocal_eq_mode, Status.mode_of_unbonded_eq hanswers.unbonded,
      ← Status.isLocal_eq_mode]
    exact hlocal
  rw [hbefore, hafter] at hturn
  have hdeals := deals_call hkept hanswers
  rw [hafter, hturn.eq_nil_of_unpaired, if_neg (by simp), ← hbefore] at hdeals
  exact hdeals

/-- Connecting a remote driver reports the connection and nothing else. -/
theorem deals_adopt (h : node.Keeps k stance) (env : Env) {cp : ControlPacket}
    (hello : cp.type = .hello) (hremote : stance.mode.contains DeviceFlags.own = false) :
    Deals k node (node.adopt env k cp) stance [.connected cp.address] 0 := by
  have hfound : Deals k node (node.modifyStatus k (·.found cp)) stance [] 0 :=
    deals_modifyStatus h _ fun s => ⟨stanceFlags_mark s (by decide), rfl⟩
  have hqueue := hfound.after (deals_queueEvent hfound.keeps (.connected cp.address))
  have hconnected := hqueue.then (deals_call_silent hqueue.keeps env (.inl rfl))
  exact hconnected.then (deals_call_of_remote hconnected.keeps env hello hremote)

/-- What waits for a device is a remote driver. -/
theorem remote_of_awaits (h : node.Keeps k stance) {cp : ControlPacket}
    (hawaits : ∀ kept, node.enrolled? k = some kept → awaits cp kept.1 = true) :
    stance.mode.contains DeviceFlags.own = false := by
  obtain ⟨status, registration, hkept, hfair, rfl⟩ := h
  obtain ⟨hvirtual, -⟩ := awaits_iff.1 (hawaits _ hkept)
  rw [← hfair.role.not_isLocal_of_isVirtual hvirtual]
  exact (Status.isLocal_eq_mode status).symm

theorem Keeps.mem_handles (h : node.Keeps k stance) (wf : node.registry.WellFormed) :
    k ∈ node.registry.handles := by
  obtain ⟨status, registration, hkept, -⟩ := h
  exact mem_handles_of_enrolled? wf hkept

section

variable (h : node.Keeps k stance) (wf : node.registry.WellFormed)

include h wf in
/-- What a walk makes of a driver is what its turn makes of it. -/
theorem exists_turn {step : Node → Handle → Node}
    (hstep : ∀ node handle, Spares (· ≠ handle) node (step node handle)) :
    ∃ mid, Deals k node mid stance [] 0 ∧ mid.settings = node.settings ∧
      Spares (· = k) (step mid k) (node.registry.handles.foldl step node) := by
  obtain ⟨mid, hbefore, hafter⟩ :=
    exists_turn_of_foldl hstep wf.nodup_handles (h.mem_handles wf) node
  exact ⟨mid, deals_of_spares h hbefore rfl, hbefore.settings, hafter⟩

include h wf in
theorem deals_heard (cp : ControlPacket) :
    Deals k node (node.heard cp) (stance.hear cp) [] 0 := by
  obtain ⟨mid, hmid, -, hafter⟩ := exists_turn h wf (spares_refreshPartner cp)
  have hturn := hmid.after (deals_refreshPartner hmid.keeps cp)
  exact hturn.then (deals_of_spares hturn.keeps hafter rfl)

include h wf in
/-- The round of an announce comes to every driver once, unless it ends before. -/
theorem turnsOnce_round (env : Env) {cp : ControlPacket} (hello : cp.type = .hello) :
    TurnsOnce k node (node.round env cp).node (stance.hear cp) := by
  have hheard := deals_heard h wf cp
  obtain ⟨status, registration, hkept, -⟩ := hheard.keeps
  refine TurnsOnce.afterDeals hheard ?_
  rcases exists_turn_of_round hkept wf env with ⟨found, heq, hspares⟩ | ⟨scan, hbefore, hafter⟩
  · rw [heq]
    exact (deals_of_spares hheard.keeps hspares rfl).turnsOnce
  · have hscan := deals_of_spares hheard.keeps hbefore rfl
    exact (TurnsOnce.afterDeals hscan (turnsOnce_visit hscan.keeps env hello)).thenSpares hafter rfl

theorem standing_hear (cp : ControlPacket) (stance : Stance) :
    (stance.hear cp).standing = stance.standing := by
  unfold Stance.hear
  split <;> rfl

include h wf in
theorem turnsOnce_receiveAnnounce (env : Env) {cp : ControlPacket} (hello : cp.type = .hello) :
    TurnsOnce k node (node.receiveAnnounce env cp) (stance.hear cp) := by
  have hround := turnsOnce_round h wf env hello
  rcases receiveAnnounce_or_adopt wf env cp k with hspares | ⟨mid, hbefore, hawaits, heq⟩
  · exact hround.thenSpares hspares rfl
  · obtain ⟨reports, standing, hturn, hmid⟩ := hround.thenSpares hbefore rfl
    -- connecting a driver is no matter of its standing
    have hadopt := deals_adopt hmid.keeps env hello (remote_of_awaits hmid.keeps hawaits)
    have hpeer : peerOnly (reports ++ [.connected cp.address]) = peerOnly reports := by
      rw [peerOnly_append]
      exact List.append_nil _
    rw [heq]
    exact ⟨_, standing, hpeer.symm ▸ hturn, hmid.trans hadopt⟩

/-! ## Any received frame -/

include h wf in
/-- A frame that is no announce lets the standing take one turn, if it is told to the driver. -/
theorem turnsOnce_of_silent (env : Env) {frame : Bytes} (hsilent : helloOf? frame = none) :
    TurnsOnce k node (node.receiveFrame env frame) stance := by
  have hkeeps := h
  obtain ⟨status, registration, hkept, -, hstance⟩ := hkeeps
  rcases silentFrame_cases hkept wf env hsilent with
    hspares | ⟨mid, callback, htold, hbefore, hafter⟩
  · exact (deals_of_spares h hspares rfl).turnsOnce
  · have hmid := deals_of_spares h hbefore rfl
    refine (TurnsOnce.afterDeals hmid ?_).thenSpares hafter rfl
    cases htold with
    | pairing target =>
      refine turnsOnce_call_control hmid.keeps env fun _ => ?_
      rw [← hstance]
      exact (Status.isLocal_eq_mode status).symm.trans (isLocal_of_isTarget target)
    | @data packet _ _ _ =>
      exact (deals_call_silent hmid.keeps env (.inr ⟨packet, rfl⟩)).turnsOnce

include h wf in
/-- What a frame makes of a driver: an announce of the peer breaks its silence, and the standing
takes one turn. -/
theorem turnsOnce_receiveFrame (env : Env) (frame : Bytes) :
    TurnsOnce k node (node.receiveFrame env frame) ((helloOf? frame).elim stance stance.hear) := by
  cases hhello : helloOf? frame with
  | none => exact turnsOnce_of_silent h wf env hhello
  | some cp =>
    rw [receiveFrame_of_hello node env hhello]
    exact turnsOnce_receiveAnnounce h wf env (helloOf?_eq_some_iff.1 hhello).2

end

/-! ## A tick -/

theorem deals_withDraws {before : Node} (h : Deals k before node stance [] 0) (draws : Draws) :
    Deals k before { node with draws } stance [] 0 := ⟨h.keeps, h.trace⟩

theorem deals_assignAddress (h : node.Keeps k stance) :
    ∃ reports, peerOnly reports = [] ∧ Deals k node (node.assignAddress k) stance reports 0 := by
  have hused : Deals k node (node.modifyRegistration k fun r => { r with wantedAddress := none })
      stance [] 0 := by
    obtain ⟨status, registration, hkept, hfair, rfl⟩ := h
    exact deals_modifyRegistration hkept hfair rfl
  have hchoose : Deals k node (node.chooseAddress k).2 stance [] 0 := by
    unfold chooseAddress
    dsimp only
    split
    · exact hused
    · unfold drawFree
      dsimp only
      split
      · exact hused
      · exact deals_withDraws hused _
  unfold assignAddress
  split
  · rename_i mid heq
    rw [heq] at hchoose
    exact ⟨[], rfl, hchoose⟩
  · rename_i address mid heq
    rw [heq] at hchoose
    have hdrawn : Deals k mid (mid.modifyStatus k (·.drew address)) stance [] 0 := by
      refine deals_modifyStatus hchoose.keeps _ fun s => ⟨?_, rfl⟩
      exact (stanceFlags_mark _ (by decide)).trans (stanceFlags_unmark s (by decide))
    exact ⟨_, rfl, (hchoose.after hdrawn).after (deals_queueEvent hdrawn.keeps _)⟩

theorem deals_probation (h : node.Keeps k stance) (env : Env) (status : Status) :
    ∃ reports, peerOnly reports = [] ∧
      Deals k node (node.probation env k status) stance reports 0 := by
  have hcounted : Deals k node (node.modifyStatus k (·.counted)) stance [] 0 :=
    deals_modifyStatus h _ fun _ => ⟨rfl, rfl⟩
  unfold probation
  dsimp only
  split
  · unfold confirm
    split
    · exact ⟨[], rfl, hcounted⟩
    · rename_i reached _
      have hconfirmed := deals_modifyStatus hcounted.keeps (·.settled)
        fun s => ⟨(stanceFlags_mark _ (by decide)).trans (stanceFlags_unmark s (by decide)), rfl⟩
      have hqueue := (hcounted.after hconfirmed).after
        (deals_queueEvent hconfirmed.keeps (.connected reached.address))
      exact ⟨_, rfl, hqueue.then (deals_call_silent hqueue.keeps env (.inl rfl))⟩
  · exact ⟨[], rfl, hcounted⟩

/-- The status of a remote driver that lost its device. -/
theorem deals_vacate (h : node.Keeps k stance)
    (hremote : stance.mode.contains DeviceFlags.own = false) :
    Deals k node (node.modifyStatus k fun s =>
      { s with address := 0, flags := s.flags.mode, serial := stance.requiredSerial, counter := 0 })
      stance [] 0 := by
  obtain ⟨status, registration, hkept, hfair, rfl⟩ := h
  -- Without a peer there is no flag of a bond that the loss could clear.
  have hflags : stanceFlags (DeviceFlags.mode status.flags) = stanceFlags status.flags := by
    refine stanceFlags_mode ?_
    rw [hfair.marks, hfair.remote ((Status.isLocal_eq_mode status).trans hremote)]
    rfl
  exact ⟨keeps_of_status (enrolled?_modifyStatus hkept _) hfair hflags rfl, [],
    (List.append_nil _).symm, rfl, rfl⟩

/-- A remote driver that loses its device has no peer to let go. -/
theorem deals_ageDevice (h : node.Keeps k stance) (env : Env)
    (hremote : stance.mode.contains DeviceFlags.own = false) :
    ∃ reports, peerOnly reports = [] ∧ Deals k node (node.ageDevice env k) stance reports 0 := by
  have hkeeps := h
  obtain ⟨status, registration, hkept, hfair, rfl⟩ := h
  unfold ageDevice
  rw [enrolled?_eq_some_iff.1 hkept]
  dsimp only
  have hcounted : Deals k node (node.modifyStatus k (·.counted)) (.of status registration) [] 0 :=
    deals_modifyStatus hkeeps _ fun _ => ⟨rfl, rfl⟩
  split
  · exact ⟨[], rfl, deals_modifyStatus hkeeps _ fun s => ⟨stanceFlags_unmark s (by decide), rfl⟩⟩
  · split
    · exact ⟨[], rfl, hcounted⟩
    · have hunpaired := hfair.remote ((Status.isLocal_eq_mode status).trans hremote)
      have hlost := hcounted.after (deals_vacate hcounted.keeps hremote)
      have htold := deals_tellRemoved hlost.keeps env
      rw [show (Stance.of status registration).standing = .unpaired from hunpaired] at htold
      refine ⟨_, rfl, hlost.after ((congrArg (fun s => Deals k _ _ s _ 0) ?_).mp htold)⟩
      unfold Stance.of
      rw [hunpaired]

/-- What a tick does to the device of a driver leaves the driver's stance alone. -/
theorem deals_tickDevice (h : node.Keeps k stance) (env : Env) {status : Status}
    (hmode : DeviceFlags.mode status.flags = stance.mode) :
    ∃ reports, peerOnly reports = [] ∧
      Deals k node (node.tickDevice env k status) stance reports 0 := by
  have hannounce : ∀ {mid : Node} {reports : List EventKind}, Deals k node mid stance reports 0 →
      Deals k node (mid.announce env k) stance reports 0 :=
    fun {mid _} hmid => hmid.then (deals_of_spares hmid.keeps (spares_announce env k mid) trivial)
  cases hlocal : status.isLocal with
  | true =>
    rw [tickDevice_of_own env hlocal]
    unfold enumerate
    split
    · obtain ⟨reports, honly, hdeals⟩ := deals_assignAddress h
      exact ⟨reports, honly, hannounce hdeals⟩
    · split
      · obtain ⟨reports, honly, hdeals⟩ := deals_probation h env status
        exact ⟨reports, honly, hannounce hdeals⟩
      · exact ⟨[], rfl, hannounce (.refl h)⟩
  | false =>
    rw [tickDevice_of_remote env hlocal]
    rw [Status.isLocal_eq_mode, hmode] at hlocal
    split
    · exact deals_ageDevice h env hlocal
    · exact ⟨[], rfl, .refl h⟩

/-- A tick counts the silence of the peer, and ends it when the limit is exceeded. -/
theorem deals_agePartner (h : node.Keeps k stance) (env : Env) :
    Deals k node (node.agePartner env k) (stance.age node.settings.silenceTicks)
      (stance.partings node.settings.silenceTicks) (stance.losses node.settings.silenceTicks) := by
  obtain ⟨status, registration, hkept, hfair, rfl⟩ := h
  have hset : ∀ silence : UInt8, Deals k node
      (node.modifyRegistration k fun r => { r with partnerSilence := silence })
      { Stance.of status registration with silence } [] 0 :=
    fun silence => deals_modifyRegistration hkept hfair rfl
  have hregistration : node.registration? k = some registration :=
    registration?_eq_some_iff.2 ⟨status, enrolled?_eq_some_iff.1 hkept⟩
  have hpeer : (Stance.of status registration).standing.peer = registration.driver.partner? :=
    (Driver.partner?_eq_peer hfair.ordinary).symm
  unfold agePartner Stance.age Stance.partings Stance.losses
  rw [hregistration]
  dsimp only
  by_cases hexceeds : (Stance.of status registration).Exceeds node.settings.silenceTicks
  · rw [if_pos hexceeds, if_pos hexceeds, if_pos hexceeds]
    obtain ⟨hsome, hlt⟩ := hexceeds
    rw [hpeer] at hsome
    obtain ⟨partner, hpartner⟩ := Option.isSome_iff_exists.1 hsome
    rw [hpartner]
    have hnot : ¬ countUp registration.partnerSilence ≤ node.settings.silenceTicks :=
      UInt8.not_le.2 hlt
    dsimp only
    rw [if_neg hnot]
    exact (hset 0).after (deals_call_letGo (hset 0).keeps env (.inr rfl))
  · rw [if_neg hexceeds, if_neg hexceeds, if_neg hexceeds, hpeer]
    cases hpartner : registration.driver.partner? with
    | none => exact hset 0
    | some partner =>
      have hle : countUp registration.partnerSilence ≤ node.settings.silenceTicks := by
        refine UInt8.not_lt.1 fun hlt => hexceeds ⟨?_, hlt⟩
        rw [hpeer, hpartner]
        rfl
      dsimp only
      rw [if_pos hle]
      exact hset _

theorem deals_tickEntry (h : node.Keeps k stance) (env : Env) :
    ∃ reports, peerOnly reports = stance.partings node.settings.silenceTicks ∧
      Deals k node (tickEntry env node k) (stance.age node.settings.silenceTicks) reports
        (stance.losses node.settings.silenceTicks) := by
  have hkeeps := h
  obtain ⟨status, registration, hkept, hfair, hstance⟩ := h
  rw [tickEntry_of_driver env (enrolled?_eq_some_iff.1 hkept)]
  have hmode : DeviceFlags.mode status.flags = stance.mode := by
    rw [← hstance]
    rfl
  obtain ⟨reports, honly, hdevice⟩ := deals_tickDevice hkeeps env hmode
  have hpartner := deals_agePartner hdevice.keeps env
  rw [(spares_tickDevice env k status node).settings] at hpartner
  refine ⟨_, ?_, by simpa using hdevice.trans hpartner⟩
  rw [peerOnly_append, honly, List.nil_append]
  unfold Stance.partings
  split
  · exact (Standing.Turn.letGo _).peerOnly_eq
  · rfl

/-- What a tick makes of a driver: it counts the silence of the peer, and when that exceeds the
limit, the peer is let go. -/
theorem deals_tick (h : node.Keeps k stance) (wf : node.registry.WellFormed) (env : Env) :
    ∃ reports, peerOnly reports = stance.partings node.settings.silenceTicks ∧
      Deals k node (node.tick env) (stance.age node.settings.silenceTicks) reports
        (stance.losses node.settings.silenceTicks) := by
  obtain ⟨mid, hmid, hsettings, hafter⟩ := exists_turn h wf (spares_tickEntry env)
  obtain ⟨reports, honly, hturn⟩ := deals_tickEntry hmid.keeps env
  rw [hsettings] at honly hturn
  have hboth := hmid.after hturn
  exact ⟨reports, honly, hboth.then (deals_of_spares hboth.keeps hafter rfl)⟩

end Node

end DeviceBus
