import DeviceBus.Proofs.Node.Ageing
import DeviceBus.Proofs.Node.Deliveries

/-!
# Every step tells a story

Whatever is going on in a node, a step tells a story of every driver that is there before and
stays: the walk over the registry comes to the driver once, and all that happens to it then are
episodes. An invariant of a driver and its story therefore holds at any time if every episode
keeps it.

## Main results

* `story_of_becomes`: whatever happens to a node, it tells a story of each of its drivers.
* `Course.preserves`: what every episode keeps, a course of events keeps.
-/

namespace DeviceBus

open ControlPacket EventKind

variable {k : Handle}

namespace Node

variable {node : Node} {kept later : Kept} {status : Status} {registration : Registration}
  {x : Happening} {start : Node}

/-! ## An announce -/

theorem tells_refreshPartner (h : node.enrolled? k = some kept) (cp : ControlPacket) :
    Tells x start k kept node (node.refreshPartner cp k) := by
  obtain ⟨change, hsame, heq⟩ := refreshPartner_eq cp node k
  rw [heq]
  exact tells_modifyRegistration h (hsame _).1 (hsame _).2

theorem tells_heard (h : node.enrolled? k = some kept) (wf : node.registry.WellFormed)
    (cp : ControlPacket) : Tells x start k kept node (node.heard cp) := by
  obtain ⟨mid, hbefore, hafter⟩ := exists_turn_of_heard h wf cp
  have hmid := chronicle_of_spares h hbefore rfl
  exact .after hmid ((tells_refreshPartner hmid.later cp).thenSpares hafter rfl)

/-- The owner of an address gives way. -/
theorem tells_giveWay (h : node.enrolled? k = some (status, registration)) (env : Env)
    (hlocal : status.isLocal = true) (hpos : status.address ≠ 0) :
    Tells x start k (status, registration) node (node.giveWay env k) := by
  have hreleased := chronicle_modifyStatus h Status.released
  have hlost := hreleased.trans (chronicle_queueEvent hreleased.later (.addressLost status.address))
  unfold giveWay
  rw [status?_of_enrolled? h]
  dsimp only
  cases hconnected : status.isConnected with
  | false => exact hlost.tells (.lost hlocal hpos hconnected)
  | true =>
    obtain ⟨talk, later, hreplies, hremoved⟩ := chronicle_tellRemoved hlost.later env
    exact (hlost.trans hremoved).tells (.evicted hlocal hpos hconnected hreplies)

/-- An announce comes to a driver. -/
theorem tells_visit {scan : Scan} (h : scan.node.enrolled? k = some (status, registration))
    (env : Env) {cp : ControlPacket} (hbrings : x.Brings cp) :
    Tells x start k (status, registration) scan.node (visit env cp k scan).node := by
  cases showing env cp (enrolled?_eq_some_iff.1 h) with
  | yields owns _ heq =>
    obtain ⟨hlocal, hpos, -⟩ := ownsAddress_iff.1 owns
    rw [heq]
    exact tells_giveWay h env hlocal hpos
  | rebukes _ _ _ _ heq =>
    rw [heq]
    exact tells_of_spares h (spares_post env _ scan.node) trivial
  | agrees owns _ _ heq =>
    have hseen := chronicle_modifyStatus h (·.mark DeviceFlags.seen)
    have hlocal : (status.mark DeviceFlags.seen).isLocal = true :=
      (Status.isLocal_eq_of_tenancy_eq (Status.tenancy_mark_seen status)).trans
        (ownsAddress_iff.1 owns).1
    rw [heq]
    refine (hseen.tells (.noticed (Status.tenancy_mark_seen status))).then fun kept hkept => ?_
    cases hseen.later.symm.trans hkept
    exact tells_call hseen.later env (.control cp) (.inl hlocal)
  | moves _ hfollows heq =>
    have hmoved := chronicle_modifyStatus h (·.followed cp)
    obtain ⟨talk, later, hreplies, hcall⟩ := chronicle_call hmoved.later env (.control cp)
    rw [heq]
    exact (hmoved.trans hcall).tells (.moved hbrings hfollows hreplies)
  | records _ _ broadcast _ _ _ heq =>
    -- that the device is recorded first is no matter of the driver
    have hrecord := chronicle_of_spares h (spares_recordDevice cp scan.node) trivial
    rw [heq]
    exact .after hrecord (tells_call hrecord.later env (.control cp) (.inr broadcast))
  | hears _ _ broadcast _ _ heq =>
    rw [heq]
    exact tells_call h env (.control cp) (.inr broadcast)
  | pairs _ _ _ _ may _ _ _ heq =>
    simp only [Status.mayPair, Status.isPairableHost, Status.isPairClient, Bool.or_eq_true,
      Bool.and_eq_true] at may
    rw [heq]
    exact tells_call h env (.control cp) (may.imp (·.1) (·.1))
  | passes _ _ _ _ heq =>
    rw [heq]
    exact .refl h

/-- The round of an announce. -/
theorem tells_round (h : node.enrolled? k = some kept) (wf : node.registry.WellFormed) (env : Env)
    {cp : ControlPacket} (hbrings : x.Brings cp) :
    Tells x start k kept node (node.round env cp).node := by
  refine (tells_heard h wf cp).then fun kept hkept => ?_
  rcases exists_turn_of_round hkept wf env with ⟨found, heq, hspares⟩ | ⟨scan, hbefore, hafter⟩
  · rw [heq]
    exact tells_of_spares hkept hspares rfl
  · have hscan := chronicle_of_spares hkept hbefore rfl
    exact .after hscan ((tells_visit hscan.later env hbrings).thenSpares hafter rfl)

/-- A driver is connected to the announced device. -/
theorem tells_adopt (h : node.enrolled? k = some (status, registration)) (env : Env)
    {cp : ControlPacket} (hbrings : x.Brings cp) (hawaits : awaits cp status = true) :
    Tells x start k (status, registration) node (node.adopt env k cp) := by
  have hfound := chronicle_modifyStatus h (Status.found cp)
  have hqueue := hfound.trans (chronicle_queueEvent hfound.later (.connected cp.address))
  obtain ⟨talk, mid, hconnected, hcall⟩ := chronicle_call hqueue.later env .connected
  obtain ⟨more, later, hreplies, htold⟩ := chronicle_call hcall.later env (.control cp)
  exact ((hqueue.trans hcall).trans htold).tells (.adopted hbrings hawaits hconnected hreplies)

theorem tells_receiveAnnounce (h : node.enrolled? k = some kept) (wf : node.registry.WellFormed)
    (env : Env) {cp : ControlPacket} (hbrings : x.Brings cp) :
    Tells x start k kept node (node.receiveAnnounce env cp) := by
  refine (tells_round h wf env hbrings).then fun kept hkept => ?_
  rcases receiveAnnounce_or_adopt wf env cp k with hspares | ⟨mid, hbefore, hawaits, heq⟩
  · exact tells_of_spares hkept hspares rfl
  · have hmid := chronicle_of_spares hkept hbefore rfl
    rw [heq]
    exact .after hmid (tells_adopt hmid.later env hbrings (hawaits _ hmid.later))

/-! ## Any frame -/

/-- What a driver is told of a frame that is no announce is no matter of its device. -/
theorem IsTold.isHeard {frame : Bytes} {callback : Callback}
    (h : IsTold frame node status registration callback)
    (hkept : node.enrolled? k = some (status, registration)) (env : Env) :
    IsHeard (.receive env frame) node k (status, registration) callback := by
  cases h with
  | pairing target => exact .inl (isLocal_of_isTarget target)
  | data read isData hears => exact ⟨⟨env, frame, rfl, read, isData⟩, hkept, hears⟩

theorem tells_receiveFrame (h : node.enrolled? k = some kept) (wf : node.registry.WellFormed)
    (env : Env) (frame : Bytes) :
    Tells (.receive env frame) node k kept node (node.receiveFrame env frame) := by
  cases hhello : helloOf? frame with
  | some cp =>
    rw [receiveFrame_of_hello node env hhello]
    exact tells_receiveAnnounce h wf env ⟨env, frame, rfl, hhello⟩
  | none =>
    rcases silentFrame_cases h wf env hhello with hspares | ⟨mid, callback, htold, hbefore, hafter⟩
    · exact tells_of_spares h hspares rfl
    · have hmid := chronicle_of_spares h hbefore rfl
      exact .after hmid
        ((tells_call hmid.later env callback (htold.isHeard h env)).thenSpares hafter rfl)

/-! ## A tick -/

theorem DeviceTick.story {settings : NodeSettings} {before after : Kept} {story : List Action}
    (h : DeviceTick settings k before story after) : Story x start k before story after := by
  cases h with
  | @drawn address status registration own without pos le =>
    have hused : Story x start k (status, registration) []
        (status, { registration with wantedAddress := none }) :=
      Episode.toStory (.booked rfl rfl)
    exact hused.more (.drawn own without pos le)
  | crowded => exact Episode.toStory (.booked rfl rfl)
  | counted => exact Episode.toStory (.noticed rfl)
  | confirmed own pos onProbation _ replies =>
    exact Episode.toStory (.confirmed own pos onProbation replies)
  | resting => exact .still
  | @present status => exact Episode.toStory (.noticed (Status.tenancy_unmark_seen status))
  | missed => exact Episode.toStory (.noticed rfl)
  | vacated _ virtual connected _ _ replies =>
    exact Episode.toStory (.vacated virtual connected replies)
  | apart => exact .still

theorem PartnerTick.story {before after : Kept} {story : List Action}
    (h : PartnerTick k before story after) : Story x start k before story after := by
  cases h with
  | waits silence => exact Episode.toStory (.booked rfl rfl)
  | @givesUp status registration _ _ replies =>
    have hbooked : Story x start k (status, registration) []
        (status, { registration with partnerSilence := 0 }) :=
      Episode.toStory (.booked rfl rfl)
    exact hbooked.more (.told trivial replies)

theorem tells_tick (h : node.enrolled? k = some kept) (wf : node.registry.WellFormed) (env : Env) :
    Tells x start k kept node (node.tick env) := by
  obtain ⟨later, story, ⟨device, partner⟩, hchronicle⟩ := ages_tick h wf env
  exact ⟨later, _, hchronicle, device.story.trans partner.story⟩

/-! ## Whatever happens -/

theorem Tells.exists_story {after : Node} (h : Tells x start k kept node after)
    {added : List Action} (hlog : after.log = node.log ++ added) :
    ∃ later, after.enrolled? k = some later ∧ Story x start k kept (storyOf k added) later := by
  obtain ⟨later, story, hchronicle, hstory⟩ := h
  obtain ⟨added', hlog', hsame⟩ := hchronicle.trace
  rw [List.append_cancel_left (hlog.symm.trans hlog'), hsame]
  exact ⟨later, hchronicle.later, hstory⟩

/-- **Whatever happens to a node tells a story of every driver that is there and stays.** -/
theorem story_of_becomes (h : node.enrolled? k = some kept) (wf : node.registry.WellFormed)
    {added : List Action} {after : Node} (becomes : Becomes x node added after)
    (hstays : ∀ env, x ≠ .unregister env k) :
    ∃ later, after.enrolled? k = some later ∧ Story x node k kept (storyOf k added) later := by
  cases becomes with
  | @register _ _ handle profile driver ok =>
    have hjoins := joins_register ok
    have hk : k ≠ handle := by
      rintro rfl
      rw [hjoins.fresh] at h
      cases h
    exact ⟨kept, (hjoins.others k hk).trans h, .still⟩
  | @unregister _ _ env handle left _ ok log =>
    have hk : k ≠ handle := fun heq => hstays env (heq ▸ rfl)
    obtain ⟨told, hdeparts, -, htold⟩ := unregister_cases ok
    have hmid : Tells (.unregister env handle) node k kept node told := by
      rcases htold with ⟨rfl, -⟩ | ⟨rfl, -⟩
      · exact .refl h
      · exact tells_of_spares h (spares_tellRemoved env handle node) hk
    obtain ⟨later, hlater, hstory⟩ := hmid.exists_story (hdeparts.log.symm.trans log)
    exact ⟨later, (hdeparts.others k hk).trans hlater, hstory⟩
  | receive env frame log => exact (tells_receiveFrame h wf env frame).exists_story log
  | tick env log => exact (tells_tick h wf env).exists_story log
  | @work _ handle registration driver held works =>
    by_cases hk : k = handle
    · subst hk
      obtain ⟨status, hentry⟩ := registration?_eq_some_iff.1 held
      rw [enrolled?_eq_some_iff.2 hentry] at h
      cases h
      exact ⟨_, enrolled?_modifyRegistration (enrolled?_eq_some_iff.2 hentry) _,
        (Episode.worked works).toStory⟩
    · exact ⟨kept, ((spares_work held works).enrolled? k hk).trans h, .still⟩
  | takeLog => exact ⟨kept, h, .still⟩

/-- What every episode keeps, a story keeps. -/
theorem Story.preserves {I : Kept → List Action → Prop} {first last : Kept} {story : List Action}
    (h : Story x start k first story last) {past : List Action} (hfirst : I first past)
    (hepisode : ∀ {before after : Kept} {past story : List Action}, I before past →
      Episode x start k before story after → I after (past ++ story)) :
    I last (past ++ story) := by
  induction h with
  | still => rwa [List.append_nil]
  | more _ episode ih =>
    rw [← List.append_assoc]
    exact hepisode ih episode

/-- What every episode keeps of a driver, a story keeps. -/
theorem Story.keeps {P : Kept → Prop} {first last : Kept} {story : List Action}
    (h : Story x start k first story last) (hfirst : P first)
    (hepisode : ∀ {before after : Kept} {story : List Action}, P before →
      Episode x start k before story after → P after) : P last := by
  induction h with
  | still => exact hfirst
  | more _ episode ih => exact hepisode ih episode

/-- **What every episode keeps, a course of events keeps.** The node that an episode starts from is
one that the course comes by. -/
theorem Course.preserves {admits : Driver → Prop} {stays : Node → Prop} {first last : Node}
    {xs : List Happening} {trace : List Action} (h : Course admits stays first xs trace last)
    (wf : first.registry.WellFormed) (hkept : first.enrolled? k = some kept)
    (hstays : ∀ env, .unregister env k ∉ xs) {I : Kept → List Action → Prop} (hstart : I kept [])
    (hepisode : ∀ {x : Happening} {start : Node} {before after : Kept}
      {past story : List Action}, stays start → I before past →
      Episode x start k before story after → I after (past ++ story)) :
    ∃ later, last.enrolled? k = some later ∧ I later (storyOf k trace) := by
  induction h with
  | here => exact ⟨kept, hkept, hstart⟩
  | @next xs trace node x added after before admitted becomes stay ih =>
    obtain ⟨mid, hmid, hpast⟩ := ih fun env hmem => hstays env (List.mem_append_left _ hmem)
    obtain ⟨later, hlater, hstory⟩ := story_of_becomes hmid (before.wellFormed wf) becomes
      fun env heq => hstays env (List.mem_append_right _ (List.mem_singleton.2 heq.symm))
    refine ⟨later, hlater, ?_⟩
    rw [storyOf_append]
    exact hstory.preserves hpast fun hpast hepisode' => hepisode before.stay hpast hepisode'

end Node

end DeviceBus
