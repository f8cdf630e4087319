import DeviceBus.Proofs.Node.Ageing
import DeviceBus.Proofs.Node.Places

/-!
# What a frame makes of one driver

Of what can happen to a node, ticks aside, only a frame changes what a driver's status shows. A
frame concerns a driver once. An announce comes to it in its round, or connects it after the
round; a pairing packet names it; data is handed to it. A `Receipt` says which of these it is, with
all that the status shows. Only an announce at an address that an own driver has may fail to reach
the driver that follows the announced device, for the round of such an announce can end early.

The drivers are mild and have a role: which of them wait for a device is not up to them.

## Main results

* `isTaken_of_collision`: a round that ends early is the round of an announce at an own address.
* `receipt_receiveFrame`: what a frame makes of a driver.
* `passage_of_becomes`: what any happening makes of a driver that stays.
-/

namespace DeviceBus

open ControlPacket

namespace Happening

variable {x : Happening} {cp other : ControlPacket}

theorem brings_receive_iff {env : Env} {frame : Bytes} :
    (receive env frame).Brings cp ↔ helloOf? frame = some cp := by
  constructor
  · rintro ⟨_, _, heq, hhello⟩
    cases heq
    exact hhello
  · exact fun hhello => ⟨env, frame, rfl, hhello⟩

/-- At most one announce arrives. -/
theorem Brings.eq (h : x.Brings cp) (h' : x.Brings other) : other = cp := by
  obtain ⟨env, frame, rfl, hhello⟩ := h
  rw [brings_receive_iff, hhello] at h'
  exact (Option.some.inj h').symm

/-- No announce is data. -/
theorem Brings.not_carries (h : x.Brings cp) (packet : Packet) : ¬ x.Carries packet := by
  rintro ⟨env, frame, rfl, hpacket, hdata⟩
  obtain ⟨hframe, -⟩ := helloOf?_eq_some_iff.1 (brings_receive_iff.1 h)
  obtain ⟨other, hother, hcontrol, -⟩ := ofFrame?_eq_some_iff.1 hframe
  cases hpacket.symm.trans hother
  cases hdata.symm.trans hcontrol

end Happening

namespace Node

variable {node : Node} {k : Handle} {status : Status} {registration : Registration}
  {before after : Kept} {x : Happening} {start : Node} {cp : ControlPacket}

/-- An own driver has the address of an announce. -/
def IsTaken (cp : ControlPacket) (node : Node) : Prop :=
  ∃ j kept, node.enrolled? j = some kept ∧ ownsAddress cp kept.1 = true

/-- What a frame makes of a driver. -/
inductive Receipt (x : Happening) (start : Node) (k : Handle) :
    Kept → List Action → Kept → Prop where
  /-- The frame does not concern the driver. -/
  | passed {kept : Kept}
      (unfollowed : ∀ cp, x.Brings cp → ¬ start.IsTaken cp → follows cp kept.1 = false) :
      Receipt x start k kept [] kept
  /-- Data is handed to the driver. -/
  | routed {packet : Packet} {before after : Kept} {talk : List EventKind}
      (carries : x.Carries packet) (replies : Replies k (.data packet) before talk after) :
      Receipt x start k before (sequel k [] (.data packet) talk) after
  /-- The driver is shown a control packet for what it is. -/
  | shown {cp : ControlPacket} {before after : Kept} {talk : List EventKind}
      (hears : before.1.isLocal = true ∨ before.1.isBroadcast = true)
      (replies : Replies k (.control cp) before talk after) :
      Receipt x start k before (sequel k [] (.control cp) talk) after
  /-- The owner of an address is shown an announce of its own device there. -/
  | sighted {cp : ControlPacket} {status : Status} {registration : Registration} {after : Kept}
      {talk : List EventKind} (own : status.isLocal = true)
      (replies : Replies k (.control cp) (status.mark DeviceFlags.seen, registration) talk after) :
      Receipt x start k (status, registration) (sequel k [] (.control cp) talk) after
  /-- An own driver loses an address that was not confirmed. -/
  | lost {status : Status} {registration : Registration} (own : status.isLocal = true)
      (pos : status.address ≠ 0) (unconnected : status.isConnected = false) :
      Receipt x start k (status, registration) [.report k (.addressLost status.address)]
        (status.released, registration)
  /-- An own driver loses its confirmed address. -/
  | evicted {status : Status} {registration : Registration} {after : Kept}
      {talk : List EventKind} (own : status.isLocal = true) (pos : status.address ≠ 0)
      (connected : status.isConnected = true)
      (replies : Replies k .removed (status.released, registration) talk after) :
      Receipt x start k (status, registration)
        (sequel k [.addressLost status.address, .removed] .removed talk) after
  /-- The device of a remote driver announced itself, maybe at another address. -/
  | moved {cp : ControlPacket} {status : Status} {registration : Registration} {after : Kept}
      {talk : List EventKind} (brings : x.Brings cp) (follows : follows cp status = true)
      (replies : Replies k (.control cp)
        (status.followed cp, registration) talk after) :
      Receipt x start k (status, registration) (sequel k [] (.control cp) talk) after
  /-- A remote driver is connected to an announced device. -/
  | adopted {cp : ControlPacket} {status : Status} {registration : Registration}
      {mid after : Kept} {talk more : List EventKind} (brings : x.Brings cp)
      (awaits : awaits cp status = true)
      (connected : Replies k .connected (status.found cp, registration) talk mid)
      (replies : Replies k (.control cp) mid more after) :
      Receipt x start k (status, registration)
        (sequel k [.connected cp.address] .connected talk ++ sequel k [] (.control cp) more) after

/-! ## Rounds that end early -/

/-- Only the owner of the announced address ends a round. -/
theorem owns_of_collision {env : Env} {scan : Scan} {found : Node}
    (h : visit env cp k scan = .collision found) :
    ∃ kept, scan.node.enrolled? k = some kept ∧ ownsAddress cp kept.1 = true := by
  rcases exists_driver_or_visit_eq env cp k scan with ⟨status, registration, held⟩ | heq
  · cases showing env cp held with
    | yields owns | rebukes owns | agrees owns =>
      exact ⟨_, enrolled?_eq_some_iff.2 held, owns⟩
    | moves _ _ heq | records _ _ _ _ _ _ heq | hears _ _ _ _ _ heq | pairs _ _ _ _ _ _ _ _ heq
    | passes _ _ _ _ heq => cases heq.symm.trans h
  · cases heq.symm.trans h

theorem exists_owner_of_collision {env : Env} {handles : List Handle} (hnodup : handles.Nodup)
    {scan : Scan} {found : Node} (h : visitAll env cp handles scan = .collision found) :
    ∃ j ∈ handles, ∃ kept, scan.node.enrolled? j = some kept ∧ ownsAddress cp kept.1 = true := by
  induction handles generalizing scan with
  | nil => cases h
  | cons handle rest ih =>
    obtain ⟨hfresh, hrest⟩ := List.nodup_cons.1 hnodup
    unfold visitAll at h
    have hspares := spares_visit env cp handle scan
    cases hvisit : visit env cp handle scan with
    | collision node =>
      obtain ⟨kept, hkept, howns⟩ := owns_of_collision hvisit
      exact ⟨handle, List.mem_cons_self, kept, hkept, howns⟩
    | proceed next =>
      rw [hvisit] at h hspares
      obtain ⟨j, hj, kept, hkept, howns⟩ := ih hrest h
      have hsame := hspares.enrolled? j fun heq => hfresh (heq ▸ hj)
      exact ⟨j, List.mem_cons_of_mem _ hj, kept, hsame.symm.trans hkept, howns⟩

/-- That an announce was heard of a partner is no matter of a driver's status. -/
theorem chronicle_heard (cp : ControlPacket) (h : node.enrolled? k = some (status, registration)) :
    ∃ silence, Chronicle k node (node.heard cp)
      (status, { registration with partnerSilence := silence }) [] := by
  obtain ⟨silence, hheard⟩ := enrolled?_heard cp h
  exact ⟨silence, hheard, [], by rw [log_heard, List.append_nil], rfl⟩

/-- **Only where an own driver has the address does a round end early.** -/
theorem isTaken_of_collision (wf : node.registry.WellFormed) {env : Env} {found : Node}
    (h : node.round env cp = .collision found) : node.IsTaken cp := by
  obtain ⟨j, -, ⟨status, registration⟩, hkept, howns⟩ :=
    exists_owner_of_collision ((spares_heard cp node).wellFormed wf).nodup_handles h
  obtain ⟨booked, hwas, -⟩ := exists_enrolled?_of_heard cp hkept
  exact ⟨j, _, hwas, howns⟩

/-! ## The round of an announce -/

/-- A driver with a role, that leaves what is the affair of the node to it. -/
structure IsReliable (kept : Kept) : Prop where
  mild : kept.2.driver.IsMild
  role : kept.1.HasRole

theorem IsReliable.isVirtual_eq_false (h : IsReliable before) (own : before.1.isLocal = true) :
    before.1.isVirtual = false := by
  rw [← Bool.not_eq_true]
  intro hvirtual
  rw [h.role.not_isLocal_of_isVirtual hvirtual] at own
  cases own

theorem IsReliable.isLocal_eq_false (h : IsReliable before) (virtual : before.1.isVirtual = true) :
    before.1.isLocal = false := by
  rw [← Bool.not_eq_true]
  intro own
  cases (h.isVirtual_eq_false own).symm.trans virtual

/-- A virtual driver is not shown what is on the bus. -/
theorem IsReliable.not_hears (h : IsReliable before) (virtual : before.1.isVirtual = true) :
    ¬ (before.1.isLocal = true ∨ before.1.isBroadcast = true) := by
  rintro (own | broadcast)
  · cases (h.isVirtual_eq_false own).symm.trans virtual
  · unfold Status.isVirtual at virtual
    rw [broadcast, Bool.not_true, Bool.and_false] at virtual
    cases virtual

theorem IsReliable.follows_eq_false (h : IsReliable before) (own : before.1.isLocal = true)
    (cp : ControlPacket) : follows cp before.1 = false := by
  rw [← Bool.not_eq_true]
  intro hfollows
  cases (h.isVirtual_eq_false own).symm.trans (follows_iff.1 hfollows).1

/-- What a mild driver makes of something it is told is no affair of the node. -/
theorem Replies.official {callback : Callback} {talk : List EventKind}
    (h : Replies k callback before talk after) (hmild : before.2.driver.IsMild) :
    after.2.driver.IsMild ∧ after.1.official = before.1.official := by
  obtain ⟨ctx, -, hstatus, rfl⟩ := h.place
  rw [← hstatus]
  exact ⟨(hmild.respond callback ctx).mild, (hmild.respond callback ctx).official⟩

theorem Replies.mode_eq {callback : Callback} {talk : List EventKind}
    (h : Replies k callback before talk after) (hmild : before.2.driver.IsMild) :
    DeviceFlags.mode after.1.flags = DeviceFlags.mode before.1.flags :=
  Status.mode_of_official_eq (h.official hmild).2

/-- No frame changes what a driver was registered as. -/
theorem Receipt.mode_eq {story : List Action} (h : Receipt x start k before story after)
    (hmild : before.2.driver.IsMild) :
    DeviceFlags.mode after.1.flags = DeviceFlags.mode before.1.flags := by
  cases h with
  | passed => rfl
  | routed _ replies => exact replies.mode_eq hmild
  | shown _ replies => exact replies.mode_eq hmild
  | @sighted _ status _ _ _ _ replies =>
    exact (replies.mode_eq hmild).trans (DeviceFlags.mode_insert status.flags (by decide))
  | @lost status => exact congrArg Tenancy.mode status.tenancy_release
  | @evicted status _ _ _ _ _ _ replies =>
    exact (replies.mode_eq hmild).trans (congrArg Tenancy.mode status.tenancy_release)
  | @moved _ status _ _ _ _ _ replies =>
    exact (replies.mode_eq hmild).trans (DeviceFlags.mode_insert status.flags (by decide))
  | @adopted _ status _ _ _ _ _ _ _ connected replies =>
    exact ((replies.mode_eq (connected.official hmild).1).trans (connected.mode_eq hmild)).trans
      (DeviceFlags.mode_insert status.flags (by decide))

/-- The owner of an address gives way. -/
theorem receipt_giveWay (h : node.enrolled? k = some (status, registration)) (env : Env)
    (own : status.isLocal = true) (pos : status.address ≠ 0) : ∃ later story,
      Receipt x start k (status, registration) story later ∧
      Chronicle k node (node.giveWay env k) later story := by
  have hreleased := chronicle_modifyStatus h Status.released
  have hlost := hreleased.trans (chronicle_queueEvent hreleased.later (.addressLost status.address))
  unfold giveWay
  rw [status?_of_enrolled? h]
  dsimp only
  cases hconnected : status.isConnected with
  | false => exact ⟨_, _, .lost own pos hconnected, hlost⟩
  | true =>
    obtain ⟨talk, later, hreplies, hremoved⟩ := chronicle_tellRemoved hlost.later env
    exact ⟨later, _, .evicted own pos hconnected hreplies, hlost.trans hremoved⟩

/-- A driver is shown an announce for what it is. -/
theorem receipt_deliver {scan : Scan} {mid : Node}
    (hmid : Chronicle k scan.node mid (status, registration) []) (env : Env) (cp : ControlPacket)
    (hears : status.isLocal = true ∨ status.isBroadcast = true) : ∃ later story,
      Receipt x start k (status, registration) story later ∧
      Chronicle k scan.node (({ scan with node := mid } : Scan).deliver env k cp).node later
        story := by
  obtain ⟨talk, later, hreplies, hcall⟩ := chronicle_call hmid.later env (.control cp)
  exact ⟨later, _, .shown hears hreplies, hmid.trans hcall⟩

/-- An announce comes to a driver. -/
theorem receipt_visit {scan : Scan} (hreliable : IsReliable (status, registration))
    (h : scan.node.enrolled? k = some (status, registration)) (env : Env)
    (hbrings : x.Brings cp) : ∃ later story,
      Receipt x start k (status, registration) story later ∧
      Chronicle k scan.node (visit env cp k scan).node later story := by
  cases showing env cp (enrolled?_eq_some_iff.1 h) with
  | yields owns _ heq =>
    obtain ⟨own, pos, -⟩ := ownsAddress_iff.1 owns
    rw [heq]
    exact receipt_giveWay h env own pos
  | rebukes owns _ _ _ heq =>
    obtain ⟨own, -, -⟩ := ownsAddress_iff.1 owns
    rw [heq]
    exact ⟨_, _, .passed fun cp _ _ => hreliable.follows_eq_false own cp,
      chronicle_of_spares h (spares_post env _ scan.node) trivial⟩
  | agrees owns _ _ heq =>
    obtain ⟨own, -, -⟩ := ownsAddress_iff.1 owns
    have hseen := chronicle_modifyStatus h (·.mark DeviceFlags.seen)
    obtain ⟨talk, later, hreplies, hcall⟩ := chronicle_call hseen.later env (.control cp)
    rw [heq]
    exact ⟨later, _, .sighted own hreplies, hseen.trans hcall⟩
  | moves _ hfollows heq =>
    have hmoved := chronicle_modifyStatus h (·.followed cp)
    obtain ⟨talk, later, hreplies, hcall⟩ := chronicle_call hmoved.later env (.control cp)
    rw [heq]
    exact ⟨later, _, .moved hbrings hfollows hreplies, hmoved.trans hcall⟩
  | records _ _ broadcast _ _ _ heq =>
    -- that the device is recorded first is no matter of the driver
    rw [heq]
    exact receipt_deliver (chronicle_of_spares h (spares_recordDevice cp scan.node) trivial) env cp
      (.inr broadcast)
  | hears _ _ broadcast _ _ heq =>
    rw [heq]
    exact receipt_deliver (.refl h) env cp (.inr broadcast)
  | pairs _ _ _ _ may _ _ _ heq =>
    rw [heq]
    exact receipt_deliver (.refl h) env cp (.inl (hreliable.role.isLocal_of_mayPair may))
  | passes _ unfollowed _ _ heq =>
    rw [heq]
    refine ⟨_, _, .passed fun other hother _ => ?_, .refl h⟩
    rw [hbrings.eq hother]
    exact unfollowed

/-! ## Who is connected after the round -/

/-- Who waits for the announced device after the round of the announce was not touched by it. -/
theorem Receipt.eq_of_awaits {story : List Action} (h : Receipt x start k before story after)
    (hreliable : IsReliable before) (hbrings : x.Brings cp) (hawaits : awaits cp after.1 = true) :
    after = before ∧ story = [] := by
  obtain ⟨hlater, hoff, -⟩ := awaits_iff.1 hawaits
  have hvirtual : before.1.isVirtual = true :=
    (Status.isVirtual_of_mode_eq (h.mode_eq hreliable.mild)).symm.trans hlater
  have hown : before.1.isLocal ≠ true := fun own => hreliable.not_hears hvirtual (.inl own)
  cases h with
  | passed => exact ⟨rfl, rfl⟩
  | @routed packet _ _ _ carries => exact absurd carries (hbrings.not_carries packet)
  | shown hears => exact absurd hears (hreliable.not_hears hvirtual)
  | sighted own => exact absurd own hown
  | lost own => exact absurd own hown
  | evicted own => exact absurd own hown
  | @moved _ status registration _ _ _ follows replies =>
    have hon := Status.isConnected_of_official_eq (replies.official hreliable.mild).2
    rw [hoff] at hon
    exact absurd (hon.trans (status.isConnected_mark_seen.trans (follows_iff.1 follows).2.1))
      Bool.false_ne_true
  | @adopted _ status registration mid _ _ _ _ _ connected replies =>
    have hmid := connected.official hreliable.mild
    have hon := Status.isConnected_of_official_eq ((replies.official hmid.1).2.trans hmid.2)
    rw [hoff] at hon
    exact absurd (hon.trans (Flags.contains_insert_of_subset status.flags (by decide)))
      Bool.false_ne_true

/-- A driver is connected to the announced device. -/
theorem receipt_adopt (h : node.enrolled? k = some (status, registration)) (env : Env)
    (hbrings : x.Brings cp) (hawaits : awaits cp status = true) : ∃ later story,
      Receipt x start k (status, registration) story later ∧
      Chronicle k node (node.adopt env k cp) later story := by
  have hfound := chronicle_modifyStatus h (Status.found cp)
  have hqueue := hfound.trans (chronicle_queueEvent hfound.later (.connected cp.address))
  obtain ⟨talk, mid, hconnected, hcall⟩ := chronicle_call hqueue.later env .connected
  obtain ⟨more, later, hreplies, htold⟩ := chronicle_call hcall.later env (.control cp)
  exact ⟨later, _, .adopted hbrings hawaits hconnected hreplies, (hqueue.trans hcall).trans htold⟩

/-- What the round of an announce makes of a driver, once its partner was heard of. -/
theorem receipt_round (h : Chronicle k node (node.heard cp) (status, registration) [])
    (hreliable : IsReliable (status, registration)) (wf : node.registry.WellFormed) (env : Env)
    (hbrings : x.Brings cp) : ∃ later story,
      Receipt x node k (status, registration) story later ∧
      Chronicle k node (node.round env cp).node later story := by
  rcases exists_turn_of_round h.later wf env with ⟨found, heq, hspares⟩ | ⟨scan, hbefore, hafter⟩
  · refine ⟨_, _, .passed fun other hother hfree => ?_, heq ▸ h.thenSpares hspares rfl⟩
    rw [hbrings.eq hother] at hfree
    exact absurd (isTaken_of_collision wf heq) hfree
  · have hscan := chronicle_of_spares h.later hbefore rfl
    obtain ⟨later, story, hreceipt, hvisit⟩ := receipt_visit hreliable hscan.later env hbrings
    exact ⟨later, story, hreceipt, ((h.trans hscan).trans hvisit).thenSpares hafter rfl⟩

theorem receipt_receiveAnnounce (h : node.enrolled? k = some (status, registration))
    (hreliable : IsReliable (status, registration)) (wf : node.registry.WellFormed) (env : Env)
    (hbrings : x.Brings cp) : ∃ silence later story,
      Receipt x node k (status, { registration with partnerSilence := silence }) story later ∧
      Chronicle k node (node.receiveAnnounce env cp) later story := by
  obtain ⟨silence, hheard⟩ := chronicle_heard cp h
  have hreliable' : IsReliable (status, { registration with partnerSilence := silence }) :=
    ⟨hreliable.mild, hreliable.role⟩
  obtain ⟨later, story, hreceipt, hround⟩ := receipt_round hheard hreliable' wf env hbrings
  refine ⟨silence, ?_⟩
  rcases receiveAnnounce_or_adopt wf env cp k with hspares | ⟨mid, hbefore, hawaits, heq⟩
  · exact ⟨later, story, hreceipt, hround.thenSpares hspares rfl⟩
  · have hmid := hround.thenSpares hbefore rfl
    have hawaits' := hawaits later hmid.later
    obtain ⟨rfl, rfl⟩ := hreceipt.eq_of_awaits hreliable' hbrings hawaits'
    obtain ⟨last, more, hadopted, hadopt⟩ := receipt_adopt hmid.later env hbrings hawaits'
    rw [heq]
    exact ⟨last, more, hadopted, hmid.trans hadopt⟩

/-! ## Any frame -/

/-- A frame that is no announce is told to a driver, or it does not concern the driver. -/
theorem receipt_of_silent {kept : Kept} (h : node.enrolled? k = some kept)
    (wf : node.registry.WellFormed) (env : Env) {frame : Bytes} (hsilent : helloOf? frame = none) :
    ∃ later story, Receipt (.receive env frame) node k kept story later ∧
      Chronicle k node (node.receiveFrame env frame) later story := by
  rcases silentFrame_cases h wf env hsilent with hspares | ⟨mid, callback, htold, hbefore, hafter⟩
  · refine ⟨_, _, .passed fun cp hbrings _ => ?_, chronicle_of_spares h hspares rfl⟩
    cases hsilent.symm.trans (Happening.brings_receive_iff.1 hbrings)
  · have hmid := chronicle_of_spares h hbefore rfl
    obtain ⟨talk, later, hreplies, hcall⟩ := chronicle_call hmid.later env callback
    refine ⟨later, _, ?_, (hmid.trans hcall).thenSpares hafter rfl⟩
    cases htold with
    | pairing target => exact .shown (.inl (isLocal_of_isTarget target)) hreplies
    | data read isData _ => exact .routed ⟨env, frame, rfl, read, isData⟩ hreplies

/-- **What a frame makes of a driver.** -/
theorem receipt_receiveFrame (h : node.enrolled? k = some (status, registration))
    (hreliable : IsReliable (status, registration)) (wf : node.registry.WellFormed) (env : Env)
    (frame : Bytes) : ∃ silence later story,
      Receipt (.receive env frame) node k
        (status, { registration with partnerSilence := silence }) story later ∧
      Chronicle k node (node.receiveFrame env frame) later story := by
  cases hhello : helloOf? frame with
  | some cp =>
    rw [receiveFrame_of_hello node env hhello]
    exact receipt_receiveAnnounce h hreliable wf env (Happening.brings_receive_iff.2 hhello)
  | none => exact ⟨registration.partnerSilence, receipt_of_silent h wf env hhello⟩

/-! ## Whatever happens -/

/-- What a happening makes of a driver that stays. -/
inductive Passage (settings : NodeSettings) (start : Node) (k : Handle) :
    Happening → Kept → List Action → Kept → Prop where
  | tick {env : Env} {before after : Kept} {story : List Action}
      (turn : DriverTick settings k before story after) :
      Passage settings start k (.tick env) before story after
  | receive {env : Env} {frame : Bytes} {status : Status} {registration : Registration}
      {after : Kept} {story : List Action} (silence : UInt8)
      (receipt : Receipt (.receive env frame) start k
        (status, { registration with partnerSilence := silence }) story after) :
      Passage settings start k (.receive env frame) (status, registration) story after
  /-- The driver works without its node. -/
  | work {status : Status} {registration : Registration} {driver : Driver}
      (works : registration.driver.Works driver) :
      Passage settings start k (.work k driver) (status, registration) []
        (status, { registration with driver })
  /-- What happens is no matter of the driver. -/
  | aside {x : Happening} {kept : Kept} (noTick : ∀ env, x ≠ .tick env)
      (noFrame : ∀ env frame, x ≠ .receive env frame) : Passage settings start k x kept [] kept

/-- Nothing that happens makes a driver an own one that was none, nor the other way round. -/
theorem Passage.isLocal_eq {settings : NodeSettings} {story : List Action}
    (h : Passage settings start k x before story after) (hmild : before.2.driver.IsMild) :
    after.1.isLocal = before.1.isLocal := by
  cases h with
  | tick turn =>
    cases turn with
    | turn device partner => exact partner.isLocal_eq.trans device.isLocal_eq
  | @receive _ _ status _ _ _ silence receipt =>
    rw [Status.isLocal_eq_mode, receipt.mode_eq hmild]
    exact (Status.isLocal_eq_mode status).symm
  | work => rfl
  | aside => rfl

/-- What is made of a driver can be told from what was added to the log. -/
theorem Chronicle.of_log {kept : Kept} {story added : List Action} {last : Node}
    (h : Chronicle k node last kept story) (hlog : last.log = node.log ++ added) :
    last.enrolled? k = some kept ∧ storyOf k added = story := by
  obtain ⟨other, hother, hstory⟩ := h.trace
  rw [List.append_cancel_left (hlog.symm.trans hother)]
  exact ⟨h.later, hstory⟩

/-- **What a happening makes of a driver.** -/
theorem passage_of_becomes {kept : Kept} (h : node.enrolled? k = some kept)
    (hreliable : IsReliable kept) (wf : node.registry.WellFormed) {added : List Action}
    {last : Node} (becomes : Becomes x node added last) (hstays : ∀ env, x ≠ .unregister env k) :
    ∃ later, last.enrolled? k = some later ∧
      Passage node.settings node k x kept (storyOf k added) later := by
  obtain ⟨status, registration⟩ := kept
  cases becomes with
  | @register _ _ handle profile driver ok =>
    have hjoins := joins_register ok
    have hk : k ≠ handle := by
      rintro rfl
      rw [hjoins.fresh] at h
      cases h
    exact ⟨_, (hjoins.others k hk).trans h, .aside nofun nofun⟩
  | @unregister _ _ env handle left _ ok log =>
    have hk : k ≠ handle := fun heq => hstays env (heq ▸ rfl)
    obtain ⟨told, hdeparts, -, htold⟩ := unregister_cases ok
    have hmid : Chronicle k node told (status, registration) [] := by
      rcases htold with ⟨rfl, -⟩ | ⟨rfl, -⟩
      · exact .refl h
      · exact chronicle_of_spares h (spares_tellRemoved env handle node) hk
    obtain ⟨hlater, hstory⟩ := hmid.of_log (hdeparts.log.symm.trans log)
    rw [hstory]
    exact ⟨_, (hdeparts.others k hk).trans hlater, .aside nofun nofun⟩
  | receive env frame log =>
    obtain ⟨silence, later, story, hreceipt, hchronicle⟩ :=
      receipt_receiveFrame h hreliable wf env frame
    obtain ⟨hlater, hstory⟩ := hchronicle.of_log log
    rw [hstory]
    exact ⟨later, hlater, .receive silence hreceipt⟩
  | tick env log =>
    obtain ⟨later, story, hturn, hchronicle⟩ := ages_tick h wf env
    obtain ⟨hlater, hstory⟩ := hchronicle.of_log log
    rw [hstory]
    exact ⟨later, hlater, .tick hturn⟩
  | @work _ handle held driver hheld works =>
    by_cases hk : k = handle
    · subst hk
      obtain ⟨other, hentry⟩ := registration?_eq_some_iff.1 hheld
      cases (enrolled?_eq_some_iff.1 h).symm.trans hentry
      exact ⟨_, enrolled?_modifyRegistration h _, .work works⟩
    · exact ⟨_, ((spares_work hheld works).enrolled? k hk).trans h, .aside nofun nofun⟩
  | takeLog => exact ⟨_, h, .aside nofun nofun⟩

/-- A driver that was mild when it was registered is reliable. -/
theorem Comes.isReliable {settings : NodeSettings} {draws : Draws} {admits : Driver → Prop}
    {xs : List Happening} (h : Comes settings draws admits xs node)
    (hmild : Registers k Driver.IsMild xs) {kept : Kept} (hk : node.enrolled? k = some kept) :
    IsReliable kept :=
  ⟨(h.isSettled_of_registers hmild hk).mild, (h.isSettled_of_registers hmild hk).role⟩

end Node

end DeviceBus
