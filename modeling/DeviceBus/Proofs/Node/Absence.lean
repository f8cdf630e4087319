import DeviceBus.Proofs.Node.Discovery
import DeviceBus.Proofs.Node.Protocol
import DeviceBus.Proofs.Node.Reception
import DeviceBus.Proofs.Pairing.Patience

/-!
# Devices that fall silent

A virtual driver loses its device when the device was not announced for too long. With a tick a
sighting is taken back and the count of ticks starts; with the ticks that follow the count grows. So
the tick after the last announce is for free, and the device is gone with the last of as many ticks
more as the settings name.

An announce may fail to reach a driver only where an own driver has the announced address. Nothing
else makes a driver miss its device, and no other frame makes it wait longer.

`Sighted` says for how many ticks a virtual driver has not heard of the device that it is connected
to.

## Main results

* `Passage.misses`: what one happening makes of a virtual driver that is connected.
* `Sighted.next`: when a virtual driver loses its device, in any run.
-/

namespace DeviceBus

open ControlPacket EventKind

/-! ## A status without a sign -/

namespace Status

variable {ticks : Nat} {limit : UInt8} {status before after : Status} {device : Identity}

/-- The last sign of a device was seen some ticks ago. -/
def IsSilentFor (ticks : Nat) (status : Status) : Prop :=
  if status.isSeen then ticks = 0 else status.counter.toNat + 1 = ticks

theorem isSilentFor_of_isSeen (h : status.isSeen = true) : status.IsSilentFor 0 := by
  unfold IsSilentFor
  rw [if_pos h]

theorem IsSilentFor.eq_zero (h : status.IsSilentFor ticks) (hseen : status.isSeen = true) :
    ticks = 0 := by
  unfold IsSilentFor at h
  rwa [if_pos hseen] at h

theorem IsSilentFor.congr (h : before.IsSilentFor ticks) (hseen : after.isSeen = before.isSeen)
    (hcounter : after.counter = before.counter) : after.IsSilentFor ticks := by
  unfold IsSilentFor at h ⊢
  rwa [hseen, hcounter]

/-- With the tick that takes a sighting back, the count starts. -/
theorem isSilentFor_unseen (status : Status) : status.unseen.IsSilentFor 1 := by
  have hunseen : status.unseen.isSeen = false :=
    Flags.contains_remove_of_not_disjoint status.flags (by decide)
  unfold IsSilentFor
  rw [hunseen, if_neg Bool.false_ne_true]
  rfl

/-- The count of a status without a sign. -/
theorem IsSilentFor.toNat_countUp (h : status.IsSilentFor ticks) (hunseen : status.isSeen = false) :
    (countUp status.counter).toNat = min 255 ticks := by
  unfold IsSilentFor at h
  rw [hunseen, if_neg Bool.false_ne_true] at h
  rw [DeviceBus.toNat_countUp, h]

theorem IsSilentFor.counted (h : status.IsSilentFor ticks) (hunseen : status.isSeen = false)
    (hearly : countUp status.counter < limit) :
    ticks < limit.toNat ∧ status.counted.IsSilentFor (ticks + 1) := by
  have hcount := h.toNat_countUp hunseen
  have hlimit := limit.toNat_lt
  rw [UInt8.lt_iff_toNat_lt, hcount] at hearly
  refine ⟨by omega, ?_⟩
  have hsame : status.counted.isSeen = false := hunseen
  unfold IsSilentFor
  rw [hsame, if_neg Bool.false_ne_true]
  show (countUp status.counter).toNat + 1 = ticks + 1
  omega

theorem IsSilentFor.le_of_due (h : status.IsSilentFor ticks) (hunseen : status.isSeen = false)
    (hdue : limit ≤ countUp status.counter) : limit.toNat ≤ ticks := by
  rw [UInt8.le_iff_toNat_le, h.toNat_countUp hunseen] at hdue
  omega

/-- The status of a remote driver that is connected to a device and saw the last sign of it some
ticks ago. -/
structure Misses (device : Identity) (ticks : Nat) (status : Status) : Prop where
  virtual : status.isVirtual = true
  connected : status.isConnected = true
  same : device.isSameDevice status.identity = true
  silent : status.IsSilentFor ticks

/-- Nothing but what is the affair of the node and the sighting matters. -/
theorem Misses.congr (h : before.Misses device ticks) (hofficial : after.official = before.official)
    (hseen : after.isSeen = before.isSeen) : after.Misses device ticks where
  virtual := (isVirtual_of_mode_eq (mode_of_official_eq hofficial)).trans h.virtual
  connected := (isConnected_of_official_eq hofficial).trans h.connected
  same := by
    unfold Identity.isSameDevice identity
    rw [serial_of_official_eq hofficial, deviceClass_of_official_eq hofficial]
    exact h.same
  silent := h.silent.congr hseen (congrArg (·.counter) hofficial)

theorem Misses.eq_of_isSameDevice {cp : ControlPacket} (h : status.Misses device ticks)
    (hsame : device.isSameDevice cp.announced = true) :
    status.serial = cp.serial ∧ status.deviceClass = cp.deviceClass :=
  Identity.isSameDevice_iff.1 ((Identity.isSameDevice_congr h.same cp.announced).symm.trans hsame)

theorem Misses.of_unbonded_eq (h : before.Misses device ticks)
    (hunbonded : after.unbonded = before.unbonded) : after.Misses device ticks :=
  h.congr (official_of_unbonded_eq hunbonded) (contains_of_unbonded_eq hunbonded (by decide))

end Status

namespace Node

variable {settings : NodeSettings} {draws : Draws} {k : Handle} {ticks : Nat} {device : Identity}
  {before mid after : Kept} {story more : List Action} {x : Happening} {start : Node}

/-! ## Replies -/

theorem Replies.isSeen {callback : Callback} {talk : List EventKind}
    (h : Replies k callback before talk after) (hseen : before.1.isSeen = true) :
    after.1.isSeen = true := by
  obtain ⟨ctx, -, hstatus, rfl⟩ := h.place
  exact before.2.driver.contains_respond callback (by decide) (hstatus ▸ hseen)

/-- A driver whose device announced itself, maybe at another address, has a fresh sign of it. -/
theorem Replies.misses_moved {cp : ControlPacket} {status : Status} {registration : Registration}
    {callback : Callback} {talk : List EventKind}
    (h : Replies k callback
      (status.followed cp, registration) talk after)
    (hmisses : status.Misses device ticks) (hmild : registration.driver.IsMild) :
    after.1.Misses device 0 := by
  have hseen : (status.followed cp).isSeen =
      true := Flags.contains_insert_of_subset status.flags (by decide)
  have hmoved : (status.followed cp).Misses
      device 0 :=
    ⟨(Status.isVirtual_of_mode_eq (DeviceFlags.mode_insert status.flags (by decide))).trans
      hmisses.virtual, status.isConnected_mark_seen.trans hmisses.connected, hmisses.same,
      Status.isSilentFor_of_isSeen hseen⟩
  exact hmoved.congr (h.official hmild).2 ((h.isSeen hseen).trans hseen.symm)

/-- What a mild driver without a bond makes of something it is told beside control packets. -/
theorem Replies.status_eq_of_bare {callback : Callback} {talk : List EventKind}
    (h : Replies k callback before talk after) (hmild : before.2.driver.IsMild)
    (hbare : before.1.flags.restrict DeviceFlags.bond = Flags.none)
    (hcallback : ∀ cp, callback ≠ .control cp) : after.1 = before.1 := by
  obtain ⟨ctx, -, hstatus, rfl⟩ := h.place
  rw [← hstatus] at hbare ⊢
  exact (hmild.respond callback ctx).same hbare hcallback

/-! ## Ticks of a virtual driver -/

/-- What a tick makes of the device of a driver that is connected to it: the driver goes on waiting
for a sign, or the device is gone. -/
theorem DeviceTick.misses (h : DeviceTick settings k before story after)
    (hmisses : before.1.Misses device ticks) (hle : ticks ≤ settings.silenceTicks.toNat)
    (hremote : before.1.isLocal = false) :
    ticks < settings.silenceTicks.toNat ∧ after.1.Misses device (ticks + 1) ∧
        story = [] ∨
      ticks = settings.silenceTicks.toNat ∧ ∃ talk,
        Replies k .removed (before.1.vacated before.2.requiredSerial, before.2) talk after ∧
        story = sequel k [.removed] .removed talk := by
  have hown : before.1.isLocal ≠ true := by
    rw [hremote]
    exact Bool.noConfusion
  cases h with
  | drawn own => exact absurd own hown
  | crowded own => exact absurd own hown
  | counted own => exact absurd own hown
  | confirmed own => exact absurd own hown
  | resting own => exact absurd own hown
  | @present status registration remote connected seen =>
    have hzero := hmisses.silent.eq_zero seen
    have hpos := (ticksCovering_bounds settings.silenceLimit settings.period).1
    subst hzero
    exact .inl ⟨hpos, ⟨(Status.isVirtual_of_mode_eq
      (DeviceFlags.mode_remove status.flags (by decide))).trans hmisses.virtual,
      status.isConnected_unmark_seen.trans connected, hmisses.same, status.isSilentFor_unseen⟩,
      rfl⟩
  | missed remote connected unseen early =>
    obtain ⟨hlt, hsilent⟩ := hmisses.silent.counted unseen early
    exact .inl ⟨hlt, ⟨hmisses.virtual, connected, hmisses.same, hsilent⟩, rfl⟩
  | vacated remote virtual connected unseen due replies =>
    exact .inr ⟨Nat.le_antisymm hle (hmisses.silent.le_of_due unseen due), _, replies, rfl⟩
  | apart remote free =>
    rw [hmisses.virtual, hmisses.connected] at free
    cases free

theorem PartnerTick.milestones_eq (h : PartnerTick k before story after) :
    milestones (reportsOf k story) = [] := by
  cases h with
  | waits => rfl
  | givesUp replies => exact milestones_sequel [] replies.peer

/-- No look at the partner of a driver touches a status that shows no bond. -/
theorem PartnerTick.status_eq_of_bare (h : PartnerTick k before story after)
    (hmild : before.2.driver.IsMild)
    (hbare : before.1.flags.restrict DeviceFlags.bond = Flags.none) : after.1 = before.1 := by
  cases h with
  | waits => rfl
  | givesUp replies => exact replies.status_eq_of_bare hmild hbare nofun

/-- A tick of a driver that is connected to a device. -/
theorem DriverTick.misses (h : DriverTick settings k before story after)
    (hmisses : before.1.Misses device ticks) (hle : ticks ≤ settings.silenceTicks.toNat)
    (hreliable : IsReliable before) :
    if ticks = settings.silenceTicks.toNat then
      after.1 = before.1.vacated before.2.requiredSerial ∧
        milestones (reportsOf k story) = [.removed]
    else
      after.1.Misses device (ticks + 1) ∧ ticks + 1 ≤ settings.silenceTicks.toNat ∧
        milestones (reportsOf k story) = [] := by
  cases h with
  | @turn mid _ _ _ deviceTurn partnerTurn =>
    rw [reportsOf_append, milestones_append, partnerTurn.milestones_eq, List.append_nil]
    rcases deviceTurn.misses hmisses hle (hreliable.isLocal_eq_false hmisses.virtual) with
      ⟨hlt, hlater, rfl⟩ | ⟨heq, talk, replies, rfl⟩
    · rw [if_neg (Nat.ne_of_lt hlt)]
      exact ⟨hlater.of_unbonded_eq partnerTurn.unbonded, hlt, rfl⟩
    · have hbare := Status.restrict_bond_vacated before.2.requiredSerial before.1
      have hmid := replies.status_eq_of_bare hreliable.mild hbare nofun
      rw [if_pos heq, partnerTurn.status_eq_of_bare (replies.official hreliable.mild).1
        (hmid ▸ hbare)]
      exact ⟨hmid, milestones_sequel _ replies.peer⟩

/-! ## Frames -/

/-- An announce is a sign of the device, or it is not. -/
theorem tally_of_brings {cp : ControlPacket} (h : x.Brings cp) : x.tally device ticks =
    if device.isSameDevice cp.announced then 0 else ticks := by
  obtain ⟨env, frame, rfl, hhello⟩ := h
  unfold Happening.tally
  dsimp only
  rw [hhello]
  rfl

/-- Where nothing is announced, only ticks count. -/
theorem tally_of_not_brings (h : ∀ cp, ¬ x.Brings cp) :
    x.tally device ticks = x.lasting ticks := by
  cases x with
  | receive env frame =>
    have hnone : helloOf? frame = none :=
      Option.eq_none_iff_forall_ne_some.2 fun cp hhello =>
        h cp (Happening.brings_receive_iff.2 hhello)
    unfold Happening.tally
    dsimp only
    rw [hnone]
    rfl
  | _ => rfl

/-- What a frame makes of a driver that is connected to a device. If it is the announce of the
device, the driver sees it, unless an own driver has the announced address. -/
theorem Receipt.misses (h : Receipt x start k before story after)
    (hmisses : before.1.Misses device ticks) (hreliable : IsReliable before)
    (hnoTick : x.isTick = false)
    (hfree : ∀ cp, x.Brings cp → device.isSameDevice cp.announced = true → ¬ start.IsTaken cp) :
    after.1.Misses device (x.tally device ticks) ∧ milestones (reportsOf k story) = [] := by
  have hremote : before.1.isLocal ≠ true := fun own =>
    hreliable.not_hears hmisses.virtual (.inl own)
  have hlasting := x.lasting_of_isTick_eq_false ticks hnoTick
  cases h with
  | passed unfollowed =>
    refine ⟨?_, rfl⟩
    by_cases hbrings : ∃ cp, x.Brings cp
    · obtain ⟨cp, hbrings⟩ := hbrings
      rw [tally_of_brings hbrings, if_neg]
      · exact hmisses
      · intro hsame
        have hfollows : follows cp before.1 = true := follows_iff.2 ⟨hmisses.virtual,
          hmisses.connected, hmisses.eq_of_isSameDevice hsame⟩
        cases hfollows.symm.trans (unfollowed cp hbrings (hfree cp hbrings hsame))
    · rw [tally_of_not_brings (not_exists.1 hbrings), hlasting]
      exact hmisses
  | @routed packet _ _ _ carries replies =>
    rw [tally_of_not_brings fun cp hbrings => hbrings.not_carries packet carries, hlasting,
      replies.status_data]
    exact ⟨hmisses, milestones_sequel [] replies.peer⟩
  | shown hears => exact absurd hears (hreliable.not_hears hmisses.virtual)
  | sighted own => exact absurd own hremote
  | lost own => exact absurd own hremote
  | evicted own => exact absurd own hremote
  | @moved cp status registration _ _ brings follows replies =>
    obtain ⟨-, -, hserial, hclass⟩ := follows_iff.1 follows
    have hsame : device.isSameDevice cp.announced = true :=
      (Identity.isSameDevice_congr hmisses.same cp.announced).trans
        (Identity.isSameDevice_iff.2 ⟨hserial, hclass⟩)
    rw [tally_of_brings brings, if_pos hsame]
    exact ⟨replies.misses_moved hmisses hreliable.mild, milestones_sequel [] replies.peer⟩
  | adopted _ awaits => cases hmisses.connected.symm.trans (awaits_iff.1 awaits).2.1

/-! ## Whatever happens -/

/-- **What one happening makes of a virtual driver that is connected.** With the tick at the limit
the device is gone; otherwise the driver goes on waiting for a sign of it. -/
theorem Passage.misses (h : Passage settings start k x before story after)
    (hmisses : before.1.Misses device ticks) (hle : ticks ≤ settings.silenceTicks.toNat)
    (hreliable : IsReliable before)
    (hfree : ∀ cp, x.Brings cp → device.isSameDevice cp.announced = true → ¬ start.IsTaken cp) :
    if x.isTick ∧ ticks = settings.silenceTicks.toNat then
      after.1 = before.1.vacated before.2.requiredSerial ∧
        milestones (reportsOf k story) = [.removed]
    else
      after.1.Misses device (x.tally device ticks) ∧
        x.tally device ticks ≤ settings.silenceTicks.toNat ∧
        milestones (reportsOf k story) = [] := by
  cases h with
  | tick turn =>
    have hturn := turn.misses hmisses hle hreliable
    split at hturn
    · rename_i heq
      rwa [if_pos ⟨rfl, heq⟩]
    · rename_i hne
      rwa [if_neg fun hand => hne hand.2]
  | receive silence receipt =>
    rw [if_neg fun hand => Bool.false_ne_true hand.1]
    obtain ⟨hlater, hnone⟩ := receipt.misses hmisses ⟨hreliable.mild, hreliable.role⟩ rfl hfree
    refine ⟨hlater, ?_, hnone⟩
    unfold Happening.tally
    dsimp only
    split
    · exact Nat.zero_le _
    · exact hle
  | work =>
    rw [if_neg fun hand => Bool.false_ne_true hand.1]
    exact ⟨hmisses, hle, rfl⟩
  | aside noTick noFrame =>
    have hnoTick := Happening.isTick_eq_false noTick
    have hnoHello : ∀ cp, ¬ x.Brings cp := by
      rintro cp ⟨env, frame, rfl, -⟩
      exact noFrame env frame rfl
    have htally : x.tally device ticks = ticks :=
      (tally_of_not_brings hnoHello).trans (x.lasting_of_isTick_eq_false ticks hnoTick)
    rw [if_neg fun hand => Bool.false_ne_true (hnoTick.symm.trans hand.1), htally]
    exact ⟨hmisses, hle, rfl⟩

/-- A virtual driver that was not connected is connected by the announce of its device, and by
nothing else. -/
theorem Passage.finds (h : Passage settings start k x before story after)
    (hreliable : IsReliable before) (hvirtual : before.1.isVirtual = true)
    (hoff : before.1.isConnected = false) (hon : after.1.isConnected = true) :
    ∃ cp, x.Brings cp ∧ after.1.identity = cp.announced ∧
      after.1.Misses cp.announced 0 := by
  have hsame : ∀ {kept : Kept}, kept.1 = before.1 → kept.1.isConnected ≠ true := by
    intro kept hkept hconnected
    rw [hkept, hoff] at hconnected
    cases hconnected
  have hremote : before.1.isLocal ≠ true := fun own => hreliable.not_hears hvirtual (.inl own)
  cases h with
  | tick turn =>
    cases turn with
    | @turn mid _ _ _ deviceTurn partnerTurn =>
      have hmid : mid.1.isConnected = true :=
        (Status.isConnected_of_official_eq
          (Status.official_of_unbonded_eq partnerTurn.unbonded)).symm.trans hon
      cases deviceTurn with
      | drawn own => exact absurd own hremote
      | crowded own => exact absurd own hremote
      | counted own => exact absurd own hremote
      | confirmed own => exact absurd own hremote
      | resting own => exact absurd own hremote
      | present _ connected => cases hoff.symm.trans connected
      | missed _ connected => cases hoff.symm.trans connected
      | vacated _ _ connected => cases hoff.symm.trans connected
      | apart => exact absurd hmid (hsame rfl)
  | @receive _ _ status _ _ _ silence receipt =>
    cases receipt with
    | passed => exact absurd hon (hsame rfl)
    | routed _ replies => exact absurd hon (hsame replies.status_data)
    | shown hears => exact absurd hears (hreliable.not_hears hvirtual)
    | sighted own => exact absurd own hremote
    | lost own => exact absurd own hremote
    | evicted own => exact absurd own hremote
    | moved _ follows => cases hoff.symm.trans (follows_iff.1 follows).2.1
    | @adopted cp _ _ mid _ _ _ brings awaits connected replies =>
      obtain ⟨-, -, hclass, -⟩ := awaits_iff.1 awaits
      have hmid : mid.1 = status.found cp := connected.status_connected
      have hmild := (connected.official hreliable.mild).1
      have hseen : (status.found cp).isSeen = true :=
        Flags.contains_insert_of_subset status.flags (by decide)
      have hidentity : (status.found cp).identity = cp.announced := by
        unfold ControlPacket.announced
        rw [← hclass]
        rfl
      have hofficial : after.1.official = (status.found cp).official := by
        rw [← hmid]
        exact (replies.official hmild).2
      have hfound : (status.found cp).Misses cp.announced 0 :=
        ⟨(Status.isVirtual_of_mode_eq (DeviceFlags.mode_insert status.flags (by decide))).trans
          hvirtual, Flags.contains_insert_of_subset status.flags (by decide),
          hidentity ▸ Identity.isSameDevice_iff.2 ⟨rfl, rfl⟩, Status.isSilentFor_of_isSeen hseen⟩
      refine ⟨cp, brings, ?_, hfound.congr hofficial ?_⟩
      · rw [← hidentity]
        unfold Status.identity
        rw [Status.address_of_official_eq hofficial, Status.serial_of_official_eq hofficial,
          Status.deviceClass_of_official_eq hofficial]
      · exact (replies.isSeen (hmid ▸ hseen)).trans hseen.symm
  | work => exact absurd hon (hsame rfl)
  | aside => exact absurd hon (hsame rfl)

/-! ## Any run -/

/-- A mild virtual driver was connected to a device, and the last announce of the device is some
ticks past. Since then no own driver had an address at which the device was announced. -/
inductive Sighted (settings : NodeSettings) (draws : Draws) (k : Handle) (profile : DriverProfile)
    (device : Identity) : Nat → Node → Prop where
  /-- The device is found. -/
  | found {xs : List Happening} {node after : Node} {x : Happening} {added : List Action}
      {was is : Status} (before : Comes settings draws (fun _ => True) xs node)
      (mild : Registers k Driver.IsMild xs)
      (virtual : Virtual (rosterOf xs) node k profile was) (free : was.isConnected = false)
      (becomes : Becomes x node added after)
      (stays : ∀ env, x ≠ .unregister env k) (later : after.status? k = some is)
      (connected : is.isConnected = true) (finds : is.identity = device) :
      Sighted settings draws k profile device 0 after
  /-- Something happens, and the driver keeps the device. -/
  | kept {ticks : Nat} {node after : Node} {x : Happening} {added : List Action} {is : Status}
      (before : Sighted settings draws k profile device ticks node)
      (becomes : Becomes x node added after)
      (stays : ∀ env, x ≠ .unregister env k)
      (untaken : ∀ cp, x.Brings cp → device.isSameDevice cp.announced = true → ¬ node.IsTaken cp)
      (later : after.status? k = some is) (connected : is.isConnected = true) :
      Sighted settings draws k profile device (x.tally device ticks) after

variable {profile : DriverProfile} {node last : Node} {added : List Action}

/-- What one happening makes of a virtual driver that is connected, in a run. -/
theorem Comes.misses {xs : List Happening} {kept : Kept}
    (h : Comes settings draws (fun _ => True) xs node) (hmild : Registers k Driver.IsMild xs)
    (hv : Virtual (rosterOf xs) node k profile kept.1) (hkept : node.enrolled? k = some kept)
    (hmisses : kept.1.Misses device ticks) (hle : ticks ≤ settings.silenceTicks.toNat)
    (becomes : Becomes x node added last) (hstays : ∀ env, x ≠ .unregister env k)
    (huntaken : ∀ cp, x.Brings cp → device.isSameDevice cp.announced = true →
      ¬ node.IsTaken cp) :
    ∃ later, last.enrolled? k = some later ∧
      if x.isTick ∧ ticks = settings.silenceTicks.toNat then
        later.1 = vacantFor settings profile ∧ milestones (reportsOf k added) = [.removed]
      else
        later.1.Misses device (x.tally device ticks) ∧
          x.tally device ticks ≤ settings.silenceTicks.toNat ∧
          milestones (reportsOf k added) = [] := by
  obtain ⟨status, registration⟩ := kept
  obtain ⟨later, hlater, hpassage⟩ :=
    passage_of_becomes hkept (h.isReliable hmild hkept) h.wellFormed becomes hstays
  rw [h.upkeep.1] at hpassage
  have hpast := hpassage.misses hmisses hle (h.isReliable hmild hkept) huntaken
  rw [reportsOf_storyOf] at hpast
  obtain ⟨⟨other, hsame, -, hserial, -⟩, -, hvacated⟩ := hv.serves_of_registers h hmild
  cases hkept.symm.trans hsame
  rw [hserial, hvacated] at hpast
  exact ⟨later, hlater, hpast⟩

/-- The driver of a device has waited for a sign of it no longer than it may. -/
theorem Sighted.misses (h : Sighted settings draws k profile device ticks node) :
    ticks ≤ settings.silenceTicks.toNat ∧ ∃ xs kept,
      Comes settings draws (fun _ => True) xs node ∧ Registers k Driver.IsMild xs ∧
      Virtual (rosterOf xs) node k profile kept.1 ∧ node.enrolled? k = some kept ∧
      kept.1.Misses device ticks := by
  induction h with
  | @found xs node after x added was is before mild virtual free becomes stays later connected
      finds =>
    obtain ⟨⟨registration, hkept, -⟩, hvirtual, -⟩ := virtual.serves_of_registers before mild
    have hreliable := before.isReliable mild hkept
    obtain ⟨mid, hmid, hpassage⟩ :=
      passage_of_becomes hkept hreliable before.wellFormed becomes stays
    cases (status?_of_enrolled? hmid).symm.trans later
    obtain ⟨cp, -, hidentity, hmisses⟩ :=
      hpassage.finds hreliable hvirtual free connected
    rw [← hidentity, finds] at hmisses
    exact ⟨Nat.zero_le _, xs ++ [x], mid, before.next_of_true becomes,
      registers_next mild (Option.isSome_of_eq_some hkept) becomes,
      ⟨rosterOf_append_singleton xs x ▸ x.mem_enroll_of_stays virtual.member stays, virtual.role,
        later⟩, hmid, hmisses⟩
  | @kept ticks node after x added is before becomes stays untaken later connected ih =>
    obtain ⟨hle, xs, kept, hcomes, hmild, hv, hkept, hmisses⟩ := ih
    obtain ⟨mid, hmid, hpast⟩ := hcomes.misses hmild hv hkept hmisses hle becomes stays untaken
    cases (status?_of_enrolled? hmid).symm.trans later
    split at hpast
    · rw [hpast.1, isConnected_vacantFor] at connected
      cases connected
    · exact ⟨hpast.2.1, xs ++ [x], mid, hcomes.next_of_true becomes,
        registers_next hmild (Option.isSome_of_eq_some hkept) becomes,
        ⟨rosterOf_append_singleton xs x ▸ x.mem_enroll_of_stays hv.member stays, hv.role, later⟩,
        hmid, hpast.1⟩

/-- Whatever happens, a driver is told what is reported about whether its device is there. -/
theorem tidings_of_becomes {kept : Kept} (h : node.enrolled? k = some kept)
    (wf : node.registry.WellFormed) (becomes : Becomes x node added last)
    (hstays : ∀ env, x ≠ .unregister env k) :
    tidingsFor k added = tidings (reportsOf k added) := by
  obtain ⟨later, -, hstory⟩ := story_of_becomes h wf becomes hstays
  have htold : tidingsFor k ([] ++ storyOf k added) =
      tidings (reportsOf k ([] ++ storyOf k added)) :=
    hstory.preserves (I := fun _ past => tidingsFor k past = tidings (reportsOf k past)) rfl
      fun hpast hepisode => by
        rw [tidingsFor_append, reportsOf_append, tidings_append, hpast, hepisode.tidings_eq]
  unfold tidingsFor at htold ⊢
  rwa [List.nil_append, reportsOf_storyOf, callsOf_storyOf] at htold

/-- **A virtual driver loses its device with the tick at the limit**, and until then with no other
tick and no frame. -/
theorem Sighted.next (h : Sighted settings draws k profile device ticks node)
    (becomes : Becomes x node added last) (hstays : ∀ env, x ≠ .unregister env k)
    (huntaken : ∀ cp, x.Brings cp → device.isSameDevice cp.announced = true →
      ¬ node.IsTaken cp) :
    ∃ status, last.status? k = some status ∧
      if x.isTick ∧ ticks = settings.silenceTicks.toNat then
        status = vacantFor settings profile ∧ milestones (reportsOf k added) = [.removed] ∧
          tidingsFor k added = [.removed]
      else
        status.isConnected = true ∧ device.isSameDevice status.identity = true ∧
          milestones (reportsOf k added) = [] ∧ tidingsFor k added = [] := by
  obtain ⟨hle, xs, kept, hcomes, hmild, hv, hkept, hmisses⟩ := h.misses
  obtain ⟨later, hlater, hpast⟩ := hcomes.misses hmild hv hkept hmisses hle becomes hstays huntaken
  have htold := tidings_of_becomes hkept hcomes.wellFormed becomes hstays
  rw [← tidings_milestones] at htold
  refine ⟨later.1, status?_of_enrolled? hlater, ?_⟩
  split at hpast
  · rename_i hdue
    rw [if_pos hdue, htold, hpast.2]
    exact ⟨hpast.1, rfl, rfl⟩
  · rename_i hearly
    rw [if_neg hearly, htold, hpast.2.2]
    exact ⟨hpast.1.connected, hpast.1.same, rfl, rfl⟩

end Node

end DeviceBus
