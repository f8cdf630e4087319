import DeviceBus.Proofs.Node.Stories
import DeviceBus.Proofs.Pairing.Silence

/-!
# What a tick makes of one driver

In a tick every driver has one turn. First the turn is about the driver's device: an own driver gets
an address, or its probation goes on, or it is over; a remote driver with a device is looked after.
Then it is about the driver's partner. `DeviceTick` and `PartnerTick` say so with all that the
status shows, the count of ticks included.

Nothing but a control packet makes a driver change more of its status than the flags of a bond, and
no driver is told a control packet in a tick. So what the first half of a turn makes of the rest of
a status holds at the end of the tick, whatever driver it is.

## Main results

* `Driver.unbonded_respond`: what is no control packet changes no flag but those of a bond.
* `ages_tick`: what a tick makes of a driver.
-/

namespace DeviceBus

/-! ## Counting ticks -/

theorem toNat_ticksCovering (window tick : Nat) :
    (ticksCovering window tick).toNat =
      min (max ((window + max tick 1 - 1) / max tick 1) 1) 255 := by
  unfold ticksCovering
  dsimp only
  rw [UInt8.toNat_ofNat']
  omega

/-- Whatever the settings, at least one tick is waited and at most 255. -/
theorem ticksCovering_bounds (window tick : Nat) :
    0 < (ticksCovering window tick).toNat ∧ (ticksCovering window tick).toNat ≤ 255 := by
  rw [toNat_ticksCovering]
  omega

namespace Happening

/-- The ticks that something has lasted, counted on over a happening. -/
def lasting (ticks : Nat) (x : Happening) : Nat := if x.isTick then ticks + 1 else ticks

theorem isTick_eq_false {x : Happening} (h : ∀ env, x ≠ .tick env) : x.isTick = false := by
  cases x with
  | tick env => exact absurd rfl (h env)
  | _ => rfl

theorem lasting_of_isTick_eq_false (ticks : Nat) (x : Happening) (h : x.isTick = false) :
    x.lasting ticks = ticks := by
  unfold lasting
  rw [h, if_neg Bool.false_ne_true]

end Happening

/-! ## What drivers are told beside control packets -/

namespace Driver

/-- What is no control packet changes no flag of a status but those of a bond. -/
theorem unbonded_respond (driver : Driver) {callback : Callback}
    (h : ∀ cp, callback ≠ .control cp) (ctx : Context) :
    (driver.respond callback ctx).context.status.unbonded = ctx.status.unbonded := by
  by_cases hordinary : driver.IsOrdinary
  · exact (respond_spec hordinary callback ctx).unbonded
  · cases driver with
    | probe p => exact congrArg Status.unbonded (p.status_respond h ctx)
    | _ => exact absurd trivial hordinary

/-- That its device is there makes no driver change its status. -/
theorem status_respond_connected (driver : Driver) (ctx : Context) :
    (driver.respond .connected ctx).context.status = ctx.status := by
  cases driver with
  | probe p => exact @Probe.status_respond p .connected nofun ctx
  | pairable p => exact (p.gated.isSilent_connected ctx).1
  | _ => rfl

/-- Data makes no driver change its status. -/
theorem status_respond_data (driver : Driver) (packet : Packet) (ctx : Context) :
    (driver.respond (.data packet) ctx).context.status = ctx.status := by
  cases driver with
  | probe p => exact @Probe.status_respond p (.data packet) nofun ctx
  | pairable p => exact (p.onData_spec packet ctx).2.1
  | _ => rfl

end Driver

namespace Node

variable {k : Handle} {node : Node} {status : Status} {registration : Registration}

namespace Replies

variable {callback : Callback} {before after : Kept} {talk : List EventKind}

theorem unbonded (h : Replies k callback before talk after)
    (hcallback : ∀ cp, callback ≠ .control cp) : after.1.unbonded = before.1.unbonded := by
  obtain ⟨ctx, -, hstatus, rfl⟩ := h.place
  rw [← hstatus]
  exact before.2.driver.unbonded_respond hcallback ctx

theorem status_connected (h : Replies k .connected before talk after) : after.1 = before.1 := by
  obtain ⟨ctx, -, hstatus, rfl⟩ := h.place
  rw [← hstatus]
  exact before.2.driver.status_respond_connected ctx

theorem status_data {packet : Packet} (h : Replies k (.data packet) before talk after) :
    after.1 = before.1 := by
  obtain ⟨ctx, -, hstatus, rfl⟩ := h.place
  rw [← hstatus]
  exact before.2.driver.status_respond_data packet ctx

end Replies

/-- What does not concern the driver after a part of a step makes no difference. -/
theorem Chronicle.thenSpares {who : Handle → Prop} {first second third : Node} {later : Kept}
    {story : List Action} (h : Chronicle k first second later story)
    (hspares : Spares who second third) (hk : who k) : Chronicle k first third later story := by
  have hall := h.trans (chronicle_of_spares h.later hspares hk)
  rwa [List.append_nil] at hall

/-! ## The two halves of a turn -/

/-- What a tick makes of a driver as far as its device goes. -/
inductive DeviceTick (settings : NodeSettings) (k : Handle) :
    Kept → List Action → Kept → Prop where
  /-- An own driver gets an address. -/
  | drawn {address : UInt8} {status : Status} {registration : Registration}
      (own : status.isLocal = true) (without : status.address = 0) (pos : address ≠ 0)
      (le : address.toNat ≤ 254) :
      DeviceTick settings k (status, registration) [.report k (.addressDrawn address)]
        (status.drew address, { registration with wantedAddress := none })
  /-- There is no address for it. -/
  | crowded {status : Status} {registration : Registration} (own : status.isLocal = true)
      (without : status.address = 0) :
      DeviceTick settings k (status, registration) []
        (status, { registration with wantedAddress := none })
  /-- Its probation goes on. -/
  | counted {status : Status} {registration : Registration} (own : status.isLocal = true)
      (pos : status.address ≠ 0) (onProbation : status.isUnconfirmed = true)
      (early : countUp status.counter < settings.probationTicks) :
      DeviceTick settings k (status, registration) [] (status.counted, registration)
  /-- Its probation is over. -/
  | confirmed {status : Status} {registration : Registration} {after : Kept}
      {talk : List EventKind} (own : status.isLocal = true) (pos : status.address ≠ 0)
      (onProbation : status.isUnconfirmed = true)
      (due : settings.probationTicks ≤ countUp status.counter)
      (replies : Replies k .connected (status.settled, registration) talk after) :
      DeviceTick settings k (status, registration)
        (sequel k [.connected status.address] .connected talk) after
  /-- It has an address that is confirmed already. -/
  | resting {status : Status} {registration : Registration} (own : status.isLocal = true)
      (pos : status.address ≠ 0) (certain : status.isUnconfirmed = false) :
      DeviceTick settings k (status, registration) [] (status, registration)
  /-- The device of a remote driver was seen since the last tick. -/
  | present {status : Status} {registration : Registration} (remote : status.isLocal = false)
      (connected : status.isConnected = true) (seen : status.isSeen = true) :
      DeviceTick settings k (status, registration) [] (status.unseen, registration)
  /-- It was not, but there is time. -/
  | missed {status : Status} {registration : Registration} (remote : status.isLocal = false)
      (connected : status.isConnected = true) (unseen : status.isSeen = false)
      (early : countUp status.counter < settings.silenceTicks) :
      DeviceTick settings k (status, registration) [] (status.counted, registration)
  /-- It was not, and time is up. -/
  | vacated {status : Status} {registration : Registration} {after : Kept}
      {talk : List EventKind} (remote : status.isLocal = false)
      (virtual : status.isVirtual = true) (connected : status.isConnected = true)
      (unseen : status.isSeen = false) (due : settings.silenceTicks ≤ countUp status.counter)
      (replies : Replies k .removed (status.vacated registration.requiredSerial, registration)
        talk after) :
      DeviceTick settings k (status, registration) (sequel k [.removed] .removed talk) after
  /-- The driver has no device that could go. -/
  | apart {status : Status} {registration : Registration} (remote : status.isLocal = false)
      (free : (status.isVirtual && status.isConnected) = false) :
      DeviceTick settings k (status, registration) [] (status, registration)

/-- What a tick makes of a driver as far as its partner goes. -/
inductive PartnerTick (k : Handle) : Kept → List Action → Kept → Prop where
  /-- The silence of the partner is counted, if there is a partner. -/
  | waits {status : Status} {registration : Registration} (silence : UInt8) :
      PartnerTick k (status, registration) []
        (status, { registration with partnerSilence := silence })
  /-- The partner is given up. -/
  | givesUp {status : Status} {registration : Registration} {after : Kept}
      {talk : List EventKind}
      (replies : Replies k .partnerLost (status, { registration with partnerSilence := 0 })
        talk after) :
      PartnerTick k (status, registration) (sequel k [] .partnerLost talk) after

/-- The partner of a driver is no matter of its device. -/
theorem PartnerTick.unbonded {before after : Kept} {story : List Action}
    (h : PartnerTick k before story after) : after.1.unbonded = before.1.unbonded := by
  cases h with
  | waits => rfl
  | givesUp replies => exact replies.unbonded nofun

/-- A tick makes no driver an own one that was none, nor the other way round. -/
theorem DeviceTick.isLocal_eq {settings : NodeSettings} {before after : Kept}
    {story : List Action} (h : DeviceTick settings k before story after) :
    after.1.isLocal = before.1.isLocal := by
  cases h with
  | drawn =>
    exact (Flags.contains_insert_of_disjoint _ (by decide)).trans
      (Flags.contains_remove_of_disjoint _ (by decide))
  | confirmed _ _ _ _ replies =>
    rw [replies.status_connected]
    exact (Flags.contains_insert_of_disjoint _ (by decide)).trans
      (Flags.contains_remove_of_disjoint _ (by decide))
  | present => exact Flags.contains_remove_of_disjoint _ (by decide)
  | @vacated status registration _ _ _ _ _ _ _ replies =>
    have hmode : DeviceFlags.mode (status.vacated registration.requiredSerial).flags =
        DeviceFlags.mode status.flags :=
      Flags.restrict_restrict_of_subset status.flags (by decide)
    have htold : after.1.isLocal = (status.vacated registration.requiredSerial).isLocal :=
      Status.contains_of_unbonded_eq (replies.unbonded nofun) (by decide)
    rw [htold, Status.isLocal_eq_mode, hmode, ← Status.isLocal_eq_mode]
  | _ => rfl

theorem PartnerTick.isLocal_eq {before after : Kept} {story : List Action}
    (h : PartnerTick k before story after) : after.1.isLocal = before.1.isLocal :=
  Status.contains_of_unbonded_eq h.unbonded (by decide)

/-! ## The turn of an own driver -/

/-- An address that is chosen is one of a device. -/
theorem pos_of_chooseAddress {handle : Handle} {address : UInt8}
    (h : (node.chooseAddress handle).1 = some address) : address ≠ 0 ∧ address.toNat ≤ 254 := by
  unfold chooseAddress at h
  dsimp only at h
  split at h
  · rename_i chosen hchosen
    cases h
    have havailable := (Option.filter_eq_some_iff.1 hchosen).2
    simp only [isAvailable, highestAddress, Bool.and_eq_true, decide_eq_true_eq] at havailable
    exact ⟨UInt8.pos_iff_ne_zero.1 havailable.1.1, of_decide_eq_true havailable.1.2⟩
  · rcases drawFree_cases (node.modifyRegistration handle fun r => { r with wantedAddress := none })
      with ⟨drawn, draws, hdraw, hfree⟩ | ⟨hdraw, -⟩
    · rw [hdraw] at h
      cases h
      obtain ⟨hpos, hle, -⟩ := mem_freeAddresses_iff.1 hfree
      exact ⟨hpos, hle⟩
    · rw [hdraw] at h
      cases h

/-- Choosing an address uses up the wish of the driver. -/
theorem chronicle_chooseAddress (h : node.enrolled? k = some (status, registration)) :
    Chronicle k node (node.chooseAddress k).2
      (status, { registration with wantedAddress := none }) [] := by
  have hused := chronicle_modifyRegistration h fun r => { r with wantedAddress := none }
  unfold chooseAddress
  dsimp only
  split
  · exact hused
  · rcases drawFree_cases (node.modifyRegistration k fun r => { r with wantedAddress := none })
      with ⟨drawn, draws, hdraw, -⟩ | ⟨hdraw, -⟩
    · rw [hdraw]
      exact ⟨hused.later, hused.trace⟩
    · rw [hdraw]
      exact hused

/-- A driver without an address gets one, if there is one. -/
theorem ages_assignAddress (h : node.enrolled? k = some (status, registration))
    (hlocal : status.isLocal = true) (haddress : status.address = 0) :
    ∃ later story, DeviceTick node.settings k (status, registration) story later ∧
      Chronicle k node (node.assignAddress k) later story := by
  have hchosen := chronicle_chooseAddress h
  unfold assignAddress
  split
  · rename_i mid heq
    rw [heq] at hchosen
    exact ⟨_, _, .crowded hlocal haddress, hchosen⟩
  · rename_i address mid heq
    obtain ⟨hpos, hle⟩ := pos_of_chooseAddress (congrArg Prod.fst heq)
    rw [heq] at hchosen
    have hdrawn := chronicle_modifyStatus hchosen.later (Status.drew address)
    exact ⟨_, _, .drawn hlocal haddress hpos hle,
      hchosen.trans (hdrawn.trans (chronicle_queueEvent hdrawn.later (.addressDrawn address)))⟩

/-- A drawn address is counted, or confirmed. -/
theorem ages_probation (h : node.enrolled? k = some (status, registration)) (env : Env)
    (hlocal : status.isLocal = true) (hpos : status.address ≠ 0)
    (hprobation : status.isUnconfirmed = true) :
    ∃ later story, DeviceTick node.settings k (status, registration) story later ∧
      Chronicle k node (node.probation env k status) later story := by
  have hcounted := chronicle_modifyStatus h Status.counted
  unfold probation
  dsimp only
  split
  · rename_i hdue
    unfold confirm
    rw [status?_of_enrolled? hcounted.later]
    have hsettled := chronicle_modifyStatus hcounted.later Status.settled
    have hqueue := hsettled.trans
      (chronicle_queueEvent hsettled.later (.connected status.address))
    obtain ⟨talk, later, hreplies, hcall⟩ := chronicle_call hqueue.later env .connected
    exact ⟨later, _, .confirmed hlocal hpos hprobation hdue hreplies,
      hcounted.trans (hqueue.trans hcall)⟩
  · rename_i hearly
    exact ⟨_, _, .counted hlocal hpos hprobation (UInt8.not_le.1 hearly), hcounted⟩

theorem ages_enumerate (h : node.enrolled? k = some (status, registration)) (env : Env)
    (hlocal : status.isLocal = true) :
    ∃ later story, DeviceTick node.settings k (status, registration) story later ∧
      Chronicle k node (node.enumerate env k status) later story := by
  unfold enumerate
  split
  · rename_i haddress
    exact ages_assignAddress h hlocal haddress
  · rename_i hpos
    split
    · rename_i hprobation
      exact ages_probation h env hlocal hpos hprobation
    · rename_i hcertain
      exact ⟨_, _, .resting hlocal hpos (Bool.not_eq_true _ ▸ hcertain), .refl h⟩

/-! ## Any turn -/

/-- The device of a remote driver is looked after. -/
theorem ages_ageDevice (h : node.enrolled? k = some (status, registration)) (env : Env)
    (hremote : status.isLocal = false) (hvirtual : status.isVirtual = true)
    (hconnected : status.isConnected = true) :
    ∃ later story, DeviceTick node.settings k (status, registration) story later ∧
      Chronicle k node (node.ageDevice env k) later story := by
  unfold ageDevice
  rw [enrolled?_eq_some_iff.1 h]
  dsimp only
  split
  · rename_i hseen
    exact ⟨_, _, .present hremote hconnected hseen, chronicle_modifyStatus h Status.unseen⟩
  · rename_i hunseen
    rw [Bool.not_eq_true] at hunseen
    have hcounted := chronicle_modifyStatus h Status.counted
    split
    · rename_i hearly
      exact ⟨_, _, .missed hremote hconnected hunseen hearly, hcounted⟩
    · rename_i hdue
      have hlost := hcounted.trans
        (chronicle_modifyStatus hcounted.later (Status.vacated registration.requiredSerial))
      obtain ⟨talk, later, hreplies, hremoved⟩ := chronicle_tellRemoved hlost.later env
      exact ⟨later, _, .vacated hremote hvirtual hconnected hunseen (UInt8.not_lt.1 hdue) hreplies,
        hlost.trans hremoved⟩

theorem ages_tickDevice (h : node.enrolled? k = some (status, registration)) (env : Env) :
    ∃ later story, DeviceTick node.settings k (status, registration) story later ∧
      Chronicle k node (node.tickDevice env k status) later story := by
  cases hlocal : status.isLocal with
  | true =>
    obtain ⟨later, story, hages, hchronicle⟩ := ages_enumerate h env hlocal
    rw [tickDevice_of_own env hlocal]
    exact ⟨later, story, hages, hchronicle.thenSpares (spares_announce env k _) trivial⟩
  | false =>
    rw [tickDevice_of_remote env hlocal]
    split
    · rename_i hon
      rw [Bool.and_eq_true] at hon
      exact ages_ageDevice h env hlocal hon.1 hon.2
    · rename_i hfree
      exact ⟨_, _, .apart hlocal (Bool.not_eq_true _ ▸ hfree), .refl h⟩

/-- Look whether the partner of a driver was silent for too long. -/
theorem ages_agePartner (h : node.enrolled? k = some (status, registration)) (env : Env) :
    ∃ later story, PartnerTick k (status, registration) story later ∧
      Chronicle k node (node.agePartner env k) later story := by
  have hset : ∀ silence : UInt8, Chronicle k node
      (node.modifyRegistration k fun r => { r with partnerSilence := silence })
      (status, { registration with partnerSilence := silence }) [] :=
    fun silence => chronicle_modifyRegistration h fun r => { r with partnerSilence := silence }
  unfold agePartner
  rw [registration?_eq_some_iff.2 ⟨status, enrolled?_eq_some_iff.1 h⟩]
  dsimp only
  split
  · exact ⟨_, _, .waits 0, hset 0⟩
  · split
    · exact ⟨_, _, .waits _, hset _⟩
    · obtain ⟨talk, later, hreplies, hcall⟩ := chronicle_call (hset 0).later env .partnerLost
      exact ⟨later, _, .givesUp hreplies, (hset 0).trans hcall⟩

/-- What a tick makes of a driver: first of its device, then of its partner. -/
inductive DriverTick (settings : NodeSettings) (k : Handle) :
    Kept → List Action → Kept → Prop where
  | turn {before mid after : Kept} {story more : List Action}
      (device : DeviceTick settings k before story mid)
      (partner : PartnerTick k mid more after) : DriverTick settings k before (story ++ more) after

theorem ages_tickEntry {kept : Kept} (h : node.enrolled? k = some kept) (env : Env) :
    ∃ later story, DriverTick node.settings k kept story later ∧
      Chronicle k node (tickEntry env node k) later story := by
  obtain ⟨status, registration⟩ := kept
  rw [tickEntry_of_driver env (enrolled?_eq_some_iff.1 h)]
  obtain ⟨⟨mid, held⟩, story, hdevice, hchronicle⟩ := ages_tickDevice h env
  obtain ⟨later, more, hpartner, hchronicle'⟩ := ages_agePartner hchronicle.later env
  exact ⟨later, _, .turn hdevice hpartner, hchronicle.trans hchronicle'⟩

/-- **What a tick makes of a driver** is what its one turn makes of it. -/
theorem ages_tick {kept : Kept} (h : node.enrolled? k = some kept) (wf : node.registry.WellFormed)
    (env : Env) : ∃ later story, DriverTick node.settings k kept story later ∧
      Chronicle k node (node.tick env) later story := by
  obtain ⟨mid, hbefore, hafter⟩ := exists_turn_of_foldl (spares_tickEntry env) wf.nodup_handles
    (mem_handles_of_enrolled? wf h) node
  have hmid := chronicle_of_spares h hbefore rfl
  obtain ⟨later, story, hages, hchronicle⟩ := ages_tickEntry hmid.later env
  rw [hbefore.settings] at hages
  exact ⟨later, story, hages, (hmid.trans hchronicle).thenSpares hafter rfl⟩

end Node

end DeviceBus
