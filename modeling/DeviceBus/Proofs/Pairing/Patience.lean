import DeviceBus.Proofs.Pairing.Silence

/-!
# Patience with a new peer

A driver that takes a peer waits for it as long as the limit allows: the ticks are counted since the
peer was last heard of. But the count does not start when the peer is taken. It goes on from where a
former peer left it, unless a tick ended without a peer in between; only a driver that is `Rested`
starts from zero. So a driver that loses one peer and takes another one between two ticks may lose
the new one with the very next tick.

## Main results

* `patience_of_comes`: when a driver is told that the peer it took is lost.
* `lost_of_carriedCount`: a new peer is lost at the first tick.
-/

namespace DeviceBus

open ControlPacket EventKind

namespace Happening

/-- The ticks since a peer was last heard of, counted on over a happening. -/
def tally (peer : Identity) (ticks : Nat) : Happening → Nat
  | tick _ => ticks + 1
  | receive _ frame =>
    if (helloOf? frame).any fun cp => peer.isSameDevice cp.announced then 0 else ticks
  | _ => ticks

end Happening

/-- The ticks since a peer was last heard of, counted on over some happenings. -/
def tallyOf (peer : Identity) (ticks : Nat) (xs : List Happening) : Nat :=
  xs.foldl (Happening.tally peer) ticks

theorem tallyOf_append_singleton (peer : Identity) (ticks : Nat) (xs : List Happening)
    (x : Happening) : tallyOf peer ticks (xs ++ [x]) = x.tally peer (tallyOf peer ticks xs) := by
  unfold tallyOf
  rw [List.foldl_append]
  rfl

/-- Whom one identity is, another identity of the same device is too. -/
theorem Identity.isSameDevice_congr {a b : Identity} (h : a.isSameDevice b = true)
    (other : Identity) : a.isSameDevice other = b.isSameDevice other := by
  obtain ⟨hserial, hclass⟩ := isSameDevice_iff.1 h
  unfold isSameDevice
  rw [hserial, hclass]

namespace Node

variable {settings : NodeSettings} {draws : Draws} {node : Node} {k : Handle}

/-- A driver has a peer. -/
def HasPeer (k : Handle) (node : Node) : Prop :=
  ∃ driver, node.pairable? k = some driver ∧ driver.state.peer.isSome = true

/-- The ticks that are counted against the peer of a driver. -/
def silenceOf (k : Handle) (node : Node) : Nat :=
  ((node.registration? k).map (·.partnerSilence.toNat)).getD 0

theorem Keeps.silenceOf_eq {stance : Stance} (h : node.Keeps k stance) :
    silenceOf k node = stance.silence.toNat := by
  obtain ⟨status, registration, hkept, -, rfl⟩ := h
  unfold silenceOf
  rw [registration?_eq_some_iff.2 ⟨status, enrolled?_eq_some_iff.1 hkept⟩]
  rfl

/-- What is counted against a peer is what a tally of the happenings says. -/
structure Tallies (partner : Identity) (count : Nat) (stance : Stance) : Prop where
  peer : ∃ peer, stance.standing.peer = some peer ∧ partner.isSameDevice peer = true
  silence : stance.silence.toNat = min 255 count

/-- As long as a driver keeps its peer, the tally is right. -/
theorem Tallies.fares {limit : UInt8} {partner : Identity} {count : Nat} {stance later : Stance}
    (h : Tallies partner count stance) {x : Happening} {events : List EventKind} {losses : Nat}
    (hfares : Fares limit x stance events losses later)
    (hstill : later.standing.peer.isSome = true) :
    Tallies partner (x.tally partner count) later := by
  obtain ⟨peer, hpeer, hsame⟩ := h.peer
  cases hfares with
  | tick env =>
    show Tallies partner (count + 1) _
    have hexceeds : ¬ stance.Exceeds limit := by
      intro hexceeds
      rw [(Stance.age_of_exceeds hexceeds).1] at hstill
      cases hstill
    rw [(Stance.age_of_not_exceeds hexceeds).1]
    refine ⟨⟨peer, hpeer, hsame⟩, ?_⟩
    dsimp only
    rw [if_pos (by rw [hpeer]; rfl), toNat_countUp, h.silence]
    omega
  | receive env frame turn =>
    obtain ⟨next, hnext⟩ := Option.isSome_iff_exists.1 hstill
    have hagain : partner.isSameDevice next = true :=
      (Identity.isSameDevice_congr hsame next).trans (turn.isSameDevice hpeer hnext)
    refine ⟨⟨next, hnext, hagain⟩, ?_⟩
    dsimp only [Happening.tally]
    cases helloOf? frame with
    | none => exact h.silence
    | some cp =>
      have hcongr := Identity.isSameDevice_congr hsame cp.announced
      simp only [Option.elim, Stance.silence_hear, hpeer, Option.any_some, hcongr]
      split
      · rfl
      · exact h.silence
  | aside _ _ hnoTick hnoFrame =>
    have htally : x.tally partner count = count := by
      cases x with
      | tick env => exact absurd rfl (hnoTick env)
      | receive env frame => exact absurd rfl (hnoFrame env frame)
      | _ => rfl
    rw [htally]
    exact h

/-- Along a course on which a driver keeps its peer, the tally is right. -/
theorem tallies_of_course {admits : Driver → Prop} {first last : Node} {ys : List Happening}
    {trace : List Action} (h : Course admits (HasPeer k) first ys trace last)
    (wf : first.registry.WellFormed) {roster : List (Handle × DriverProfile)}
    (hroster : first.drivers = roster.map (·.1)) {stance : Stance} (hkeeps : first.Keeps k stance)
    {partner : Identity} {count : Nat} (htallies : Tallies partner count stance) :
    ∃ later, last.Keeps k later ∧ Tallies partner (tallyOf partner count ys) later := by
  induction h with
  | here => exact ⟨stance, hkeeps, htallies⟩
  | next before _ becomes stay ih =>
    obtain ⟨mid, hmid, htally⟩ := ih
    obtain ⟨driver, hdriver, hpeer⟩ := stay
    obtain ⟨-, hwf, -⟩ := before.upkeep wf hroster
    obtain ⟨later, hlater, hfares⟩ := fares_of_becomes hmid hwf becomes
      (stays_of_becomes becomes (probe?_of_pairable? hdriver))
    refine ⟨later, hlater, ?_⟩
    rw [tallyOf_append_singleton]
    refine htally.fares hfares ?_
    rw [(hlater.of_pairable? hdriver).2]
    exact hpeer

/-! ## Rested drivers -/

/-- No tick has passed since a driver was registered or a tick left it without a peer. -/
inductive Rested (settings : NodeSettings) (draws : Draws) (k : Handle) : Node → Prop where
  | register {xs : List Happening} {node after : Node} {profile : DriverProfile} {driver : Driver}
      (before : Comes settings draws Driver.IsUnbonded xs node) (admitted : driver.IsUnbonded)
      (ok : node.register profile driver = .ok (k, after)) : Rested settings draws k after
  | tick {xs : List Happening} {node : Node} {env : Env} {driver : Pairable}
      (before : Comes settings draws Driver.IsUnbonded xs node)
      (paired : (node.tick env).pairable? k = some driver) (unpaired : driver.state = .unpaired) :
      Rested settings draws k (node.tick env)
  | next {node after : Node} {x : Happening} {added : List Action}
      (before : Rested settings draws k node) (admitted : x.IsAdmitted Driver.IsUnbonded)
      (becomes : Becomes x node added after) (noTick : x.isTick = false) :
      Rested settings draws k after

theorem Rested.comes (h : Rested settings draws k node) :
    ∃ xs, Comes settings draws Driver.IsUnbonded xs node := by
  induction h with
  | @register xs node after profile driver before admitted ok =>
    have hadmitted : Happening.IsAdmitted Driver.IsUnbonded (.register k profile driver) := admitted
    exact ⟨_, before.next hadmitted (.register ok)⟩
  | tick before => exact ⟨_, before.tick _⟩
  | next _ admitted becomes _ ih =>
    obtain ⟨xs, hcomes⟩ := ih
    exact ⟨_, hcomes.next admitted becomes⟩

/-- A tick without a peer ends the count. -/
theorem silence_of_fares_tick {limit : UInt8} {env : Env} {stance later : Stance}
    {events : List EventKind} {losses : Nat}
    (h : Fares limit (.tick env) stance events losses later)
    (hunpaired : later.standing = .unpaired) : later.silence = 0 := by
  cases h with
  | tick =>
    by_cases hexceeds : stance.Exceeds limit
    · rw [(Stance.age_of_exceeds hexceeds).1]
    · rw [(Stance.age_of_not_exceeds hexceeds).1] at hunpaired ⊢
      dsimp only at hunpaired ⊢
      rw [hunpaired]
      rfl
  | aside _ _ hnoTick _ => exact absurd rfl (hnoTick env)

/-- Nothing but a tick raises the count. -/
theorem silence_of_fares {limit : UInt8} {x : Happening} {stance later : Stance}
    {events : List EventKind} {losses : Nat} (h : Fares limit x stance events losses later)
    (hnoTick : x.isTick = false) (hzero : stance.silence = 0) : later.silence = 0 := by
  cases h with
  | tick env => cases hnoTick
  | receive env frame turn =>
    cases helloOf? frame with
    | none => exact hzero
    | some cp =>
      have hle := stance.silence_hear_le cp
      rw [hzero] at hle
      exact UInt8.le_antisymm hle UInt8.zero_le
  | aside => exact hzero

/-- Nothing is counted against the peer of a rested driver. -/
theorem Rested.silence (h : Rested settings draws k node) {stance : Stance}
    (hkeeps : node.Keeps k stance) : stance.silence = 0 := by
  induction h generalizing stance with
  | @register xs node after profile driver before admitted ok =>
    have hordinary : driver.IsOrdinary := by
      have hprobe := hkeeps.probe?
      unfold probe? at hprobe
      rw [(joins_register ok).newcomer] at hprobe
      exact Driver.isOrdinary_iff.2 (Option.some.inj hprobe)
    rw [hkeeps.unique ((joins_register ok).keeps hordinary admitted)]
    rfl
  | @tick xs node env driver before paired unpaired =>
    have hprobe : node.probe? k = some false :=
      ((spares_tick env node).probe? k).symm.trans hkeeps.probe?
    obtain ⟨was, hwas⟩ := before.isFair k hprobe
    obtain ⟨added, hlog, -⟩ := (spares_tick env node).trace
    obtain ⟨later, hlater, hfares⟩ :=
      fares_of_becomes hwas before.wellFormed (.tick env hlog) fun _ => nofun
    rw [hkeeps.unique hlater]
    exact silence_of_fares_tick hfares ((hlater.of_pairable? paired).2.trans unpaired)
  | @next node after x added before admitted becomes noTick ih =>
    obtain ⟨xs, hcomes⟩ := before.comes
    rcases keeps_of_becomes hcomes.isFair hcomes.wellFormed becomes admitted hkeeps.probe? with
      ⟨was, later, hwas, hlater, -, hfares⟩ | ⟨profile, driver, rfl, hstart⟩
    · rw [hkeeps.unique hlater]
      exact silence_of_fares hfares noTick (ih hwas)
    · rw [hkeeps.unique hstart]
      rfl

/-! ## Losing a peer -/

/-- A driver is told that its peer is lost when the tally exceeds the limit. -/
theorem Tallies.losses {limit : UInt8} {partner : Identity} {count : Nat} {stance later : Stance}
    (h : Tallies partner count stance) {y : Happening} {events : List EventKind} {losses : Nat}
    (hfares : Fares limit y stance events losses later) :
    losses =
      if y.isTick = true ∧ limit < 255 ∧ limit.toNat < y.tally partner count then 1 else 0 := by
  obtain ⟨peer, hpeer, -⟩ := h.peer
  cases hfares with
  | tick env =>
    unfold Stance.losses
    refine if_congr ?_ rfl rfl
    rw [Stance.exceeds_iff, hpeer, h.silence, UInt8.lt_iff_toNat_lt]
    have hfull : (255 : UInt8).toNat = 255 := rfl
    show _ ∧ limit.toNat < _ ↔ true = true ∧ _ ∧ limit.toNat < count + 1
    simp only [Option.isSome_some, true_and, hfull]
    omega
  | receive env frame turn => exact (if_neg fun hnot => by cases hnot.1).symm
  | aside _ _ hnoTick _ =>
    refine (if_neg fun hnot => ?_).symm
    cases y with
    | tick env => exact hnoTick env rfl
    | _ => cases hnot.1

/-- A driver takes a peer when a frame arrives, and what was counted before is still counted. -/
theorem tallies_of_acquired {limit : UInt8} {x : Happening} {stance later : Stance}
    {events : List EventKind} {losses : Nat} (h : Fares limit x stance events losses later)
    (hunpaired : stance.standing = .unpaired) {partner : Identity}
    (hpartner : later.standing.peer = some partner) :
    Tallies partner stance.silence.toNat later := by
  have hlt := stance.silence.toNat_lt
  refine ⟨⟨partner, hpartner, Identity.isSameDevice_iff.2 ⟨rfl, rfl⟩⟩, ?_⟩
  cases h with
  | tick env =>
    have hexceeds : ¬ stance.Exceeds limit := by
      intro hexceeds
      rw [(Stance.age_of_exceeds hexceeds).1] at hpartner
      cases hpartner
    rw [(Stance.age_of_not_exceeds hexceeds).1, hunpaired] at hpartner
    cases hpartner
  | receive env frame turn =>
    cases helloOf? frame with
    | none =>
      dsimp only [Option.elim]
      omega
    | some cp =>
      dsimp only [Option.elim]
      rw [Stance.silence_hear, hunpaired, if_neg (by simp [Standing.peer])]
      omega
  | aside =>
    rw [hunpaired] at hpartner
    cases hpartner

/-- **When a new peer is lost.** A driver took a peer and kept it so far. It is told that its
partner is lost with the tick with which the tally exceeds the limit, and never if the limit is 255.
The tally starts with what was counted when the peer was taken; that is zero if the driver was
rested. -/
theorem patience_of_comes {xs : List Happening}
    (h : Comes settings draws Driver.IsUnbonded xs node) {before : Pairable}
    (hbefore : node.pairable? k = some before) (hunpaired : before.state = .unpaired)
    {x : Happening} {taken : List Action} {first : Node} (becomes : Becomes x node taken first)
    {acquired : Pairable} (hacquired : first.pairable? k = some acquired) {partner : Identity}
    (hpartner : acquired.state.peer = some partner) {admits : Driver → Prop}
    {ys : List Happening} {trace : List Action} {last : Node}
    (course : Course admits (HasPeer k) first ys trace last) {y : Happening}
    {added : List Action} {after : Node} (next : Becomes y last added after)
    (hstays : ∀ env, y ≠ .unregister env k) :
    (Rested settings draws k node → silenceOf k node = 0) ∧
    lossesOf k added =
      if y.isTick = true ∧ settings.silenceTicks < 255 ∧
        settings.silenceTicks.toNat < tallyOf partner (silenceOf k node) (ys ++ [y])
      then 1 else 0 := by
  obtain ⟨stance, hkeeps, -, hstanding⟩ := h.isFair.keeps hbefore
  obtain ⟨later, hlater, hfares⟩ := fares_of_becomes hkeeps h.wellFormed becomes
    (stays_of_becomes becomes (probe?_of_pairable? hacquired))
  have htaken : Tallies partner (silenceOf k node) later := by
    rw [hkeeps.silenceOf_eq]
    refine tallies_of_acquired hfares (hstanding.trans hunpaired) ?_
    rw [(hlater.of_pairable? hacquired).2]
    exact hpartner
  obtain ⟨hsettings, hwf, hroster⟩ := upkeep_of_becomes becomes h.wellFormed h.drivers
  obtain ⟨waiting, hwaiting, htally⟩ := tallies_of_course course hwf hroster hlater htaken
  obtain ⟨hsettingsLast, hwfLast, -⟩ := course.upkeep hwf hroster
  obtain ⟨ending, -, hlast⟩ := fares_of_becomes hwaiting hwfLast next hstays
  rw [hsettingsLast, hsettings, h.upkeep.1] at hlast
  refine ⟨fun hrested => ?_, ?_⟩
  · rw [hkeeps.silenceOf_eq, hrested.silence hkeeps]
    rfl
  · rw [tallyOf_append_singleton]
    exact htally.losses hlast

/-- A pairable host with its address drawn. -/
def drawnHost : Node :=
  (withDriver ⟨.pairableHost, 7, some 1, some 10⟩ (.pairable (.ofGated .idle))).tick .taking

theorem comes_drawnHost : ∃ xs, Comes {} ⟨fun _ => 0, 0⟩ Driver.IsUnbonded xs drawnHost :=
  ⟨_, (comes_withDriver Driver.IsUnbonded _ (.pairable (.ofGated .idle)) rfl).tick .taking⟩

/-- The host had no peer when it was asked to pair, and loses the peer with the fourth tick. -/
theorem patience_of_drawnHost :
    let bonded := drawnHost.receiveFrame .taking
      (pairingMessage ⟨10, 1, 7⟩ askingFlags ⟨20, 2, 7⟩).frame
    ∃ xs before taken acquired trace added,
      Comes {} ⟨fun _ => 0, 0⟩ Driver.IsUnbonded xs drawnHost ∧
      drawnHost.pairable? ⟨0, 0⟩ = some before ∧ before.state = .unpaired ∧
      Becomes (.receive .taking (pairingMessage ⟨10, 1, 7⟩ askingFlags ⟨20, 2, 7⟩).frame)
        drawnHost taken bonded ∧
      bonded.pairable? ⟨0, 0⟩ = some acquired ∧ acquired.state.peer = some ⟨20, 2, 7⟩ ∧
      Course (fun _ => True) (HasPeer ⟨0, 0⟩) bonded (List.replicate 3 (.tick .taking)) trace
        (bonded.afterTicks 3) ∧
      Becomes (.tick .taking) (bonded.afterTicks 3) added ((bonded.afterTicks 3).tick .taking) ∧
      silenceOf ⟨0, 0⟩ drawnHost = 0 ∧ lossesOf ⟨0, 0⟩ added = 1 := by
  intro bonded
  obtain ⟨xs, hcomes⟩ := comes_drawnHost
  obtain ⟨before, hbefore, hunpaired⟩ : ∃ driver,
      drawnHost.pairable? ⟨0, 0⟩ = some driver ∧ driver.state = .unpaired :=
    Option.map_eq_some_iff.1 (by decide +kernel :
      (drawnHost.pairable? ⟨0, 0⟩).map (fun driver => driver.state) = some .unpaired)
  obtain ⟨acquired, hacquired, hpartner⟩ : ∃ driver,
      bonded.pairable? ⟨0, 0⟩ = some driver ∧ driver.state.peer = some ⟨20, 2, 7⟩ :=
    Option.map_eq_some_iff.1 (by decide +kernel :
      (bonded.pairable? ⟨0, 0⟩).map (fun driver => driver.state.peer) = some (some ⟨20, 2, 7⟩))
  have hpeer : ∀ i ≤ 3, HasPeer ⟨0, 0⟩ (bonded.afterTicks i) := by
    have hstates : ∀ i ≤ 3, ((bonded.afterTicks i).pairable? ⟨0, 0⟩).map
        (fun driver => driver.state.peer.isSome) = some true := by
      decide +kernel
    exact fun i hi => Option.map_eq_some_iff.1 (hstates i hi)
  obtain ⟨taken, htaken, -⟩ := (spares_receiveFrame .taking
    (pairingMessage ⟨10, 1, 7⟩ askingFlags ⟨20, 2, 7⟩).frame drawnHost).trace
  obtain ⟨added, hadded, -⟩ := (spares_tick .taking (bonded.afterTicks 3)).trace
  obtain ⟨trace, hcourse⟩ : ∃ trace, Course (fun _ => True) (HasPeer ⟨0, 0⟩) bonded
      (List.replicate 3 (.tick .taking)) trace (bonded.afterTicks 3) :=
    exists_course_afterTicks _ hpeer
  have hrested : Rested {} ⟨fun _ => 0, 0⟩ ⟨0, 0⟩ drawnHost :=
    .tick (comes_withDriver Driver.IsUnbonded _ (.pairable (.ofGated .idle)) rfl) hbefore hunpaired
  obtain ⟨hzero, hlosses⟩ := patience_of_comes hcomes hbefore hunpaired (.receive .taking _ htaken)
    hacquired hpartner hcourse (.tick .taking hadded) fun _ => nofun
  rw [hzero hrested, if_pos (by decide)] at hlosses
  exact ⟨xs, before, taken, acquired, trace, added, hcomes, hbefore, hunpaired,
    .receive .taking _ htaken, hacquired, hpartner, hcourse, .tick .taking hadded, hzero hrested,
    hlosses⟩

/-- A connected host asks a device to pair, which is silent for three ticks and then rejects it. At
once another device pairs with the host, and is lost with the next tick. -/
theorem lost_of_carriedCount :
    let asking := (drawnHost.afterTicks 3).receiveFrame .taking
      { ControlPacket.hello 20 7 2 with flags := ControlFlags.pairable }.frame
    let rejected := (asking.afterTicks 3).receiveFrame .taking
      (pairingMessage ⟨10, 1, 7⟩ ControlFlags.nack ⟨20, 2, 7⟩).frame
    let bonded := rejected.receiveFrame .taking
      (pairingMessage ⟨10, 1, 7⟩ askingFlags ⟨30, 3, 7⟩).frame
    (∃ xs, Comes {} ⟨fun _ => 0, 0⟩ Driver.IsUnbonded xs rejected) ∧
    ({} : NodeSettings).silenceTicks = 3 ∧
    (rejected.pairable? ⟨0, 0⟩).map (fun driver => driver.state) = some .unpaired ∧
    (bonded.pairable? ⟨0, 0⟩).map (fun driver => driver.state) = some (.paired ⟨30, 3, 7⟩) ∧
    lossesOf ⟨0, 0⟩ bonded.log = 0 ∧ lossesOf ⟨0, 0⟩ (bonded.tick .taking).log = 1 ∧
    ((bonded.tick .taking).pairable? ⟨0, 0⟩).map (fun driver => driver.state) =
      some .unpaired := by
  intro asking rejected bonded
  refine ⟨?_, by decide, by decide +kernel, by decide +kernel, by decide +kernel,
    by decide +kernel, by decide +kernel⟩
  obtain ⟨xs, hcomes⟩ := comes_drawnHost
  have hasking := (hcomes.afterTicks 3).receive .taking
    { ControlPacket.hello 20 7 2 with flags := ControlFlags.pairable }.frame
  exact ⟨_, (hasking.afterTicks 3).receive .taking
    (pairingMessage ⟨10, 1, 7⟩ ControlFlags.nack ⟨20, 2, 7⟩).frame⟩

end Node

end DeviceBus
