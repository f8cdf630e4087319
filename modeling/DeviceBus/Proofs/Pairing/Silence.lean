import DeviceBus.Proofs.Node.Courses

/-!
# Silent peers

A node counts the ticks since the peer of a driver announced itself, and when they exceed a limit
the driver is told that its partner is lost. The count stops at 255. So a peer that stays silent is
let go after one tick more than the limit, unless the limit is 255, which no count exceeds.

The count belongs to the driver, not to the peer. It starts anew when the peer announces itself and
with every tick that ends without a peer. A driver that loses one peer and takes another between two
ticks carries the count over, and may lose the new peer early.

## Main results

* `silence_of_comes`: what becomes of a driver whose peer stays silent.
* `patience_of_comes`: when a driver loses a peer that it took.
-/

namespace DeviceBus

open EventKind

/-- Counting stops at 255. -/
theorem toNat_countUp (counter : UInt8) :
    (countUp counter).toNat = min 255 (counter.toNat + 1) := by
  unfold countUp
  have hlt := counter.toNat_lt
  split
  · rename_i h
    rw [h]
    rfl
  · rename_i h
    have hne : counter.toNat ≠ 255 := fun heq => h (UInt8.toNat_inj.1 heq)
    rw [UInt8.toNat_add]
    have hone : (1 : UInt8).toNat = 1 := rfl
    omega

namespace Stance

variable {limit : UInt8} {stance : Stance}

theorem exceeds_iff : stance.Exceeds limit ↔
    stance.standing.peer.isSome = true ∧ limit.toNat < min 255 (stance.silence.toNat + 1) := by
  unfold Exceeds
  rw [UInt8.lt_iff_toNat_lt, toNat_countUp]

/-- Patience with a peer that exceeds the limit ends. -/
theorem age_of_exceeds (h : stance.Exceeds limit) :
    stance.age limit = { stance with standing := .unpaired, silence := 0 } ∧
      stance.partings limit = stance.standing.parting ∧ stance.losses limit = 1 :=
  ⟨if_pos h, if_pos h, if_pos h⟩

/-- As long as the limit is not exceeded, ticks are counted. -/
theorem age_of_not_exceeds (h : ¬ stance.Exceeds limit) :
    stance.age limit =
        { stance with
          silence := if stance.standing.peer.isSome then countUp stance.silence else 0 } ∧
      stance.partings limit = [] ∧ stance.losses limit = 0 :=
  ⟨if_neg h, if_neg h, if_neg h⟩

/-- A count within the limit stays within it. -/
theorem silence_age_le (stance : Stance) (limit : UInt8) : (stance.age limit).silence ≤ limit := by
  by_cases h : stance.Exceeds limit
  · rw [(age_of_exceeds h).1]
    exact UInt8.zero_le
  · rw [(age_of_not_exceeds h).1]
    dsimp only
    split
    · rename_i hpeer
      exact UInt8.not_lt.1 fun hlt => h ⟨hpeer, hlt⟩
    · exact UInt8.zero_le

/-- An announce of the peer starts the count anew. -/
theorem silence_hear (cp : ControlPacket) (stance : Stance) :
    (stance.hear cp).silence =
      if stance.standing.peer.any (·.isSameDevice cp.announced) then 0 else stance.silence := by
  unfold hear
  split <;> rfl

theorem silence_hear_le (cp : ControlPacket) (stance : Stance) :
    (stance.hear cp).silence ≤ stance.silence := by
  rw [silence_hear]
  split
  · exact UInt8.zero_le
  · exact UInt8.le_refl _

end Stance

namespace Happening

/-- A tick. -/
def isTick : Happening → Bool
  | tick _ => true
  | _ => false

/-- No frame arrives, and the driver stays. -/
def LeavesAlone (k : Handle) : Happening → Prop
  | receive _ _ => False
  | unregister _ handle => handle ≠ k
  | _ => True

end Happening

/-! ## A silent peer -/

/-- What ticks make of a driver that waits for its peer: as long as the limit is not exceeded it
goes on waiting, then it lets the peer go. -/
inductive Stance.Waits (limit : UInt8) (stance : Stance) (ticks : Nat) :
    List EventKind → Nat → Stance → Prop where
  | still {later : Stance} (standing : later.standing = stance.standing)
      (silence : later.silence.toNat = min 255 (stance.silence.toNat + ticks))
      (patient : later.silence ≤ limit) : Waits limit stance ticks [] 0 later
  | ended {later : Stance} (impatient : limit.toNat < min 255 (stance.silence.toNat + ticks))
      (unpaired : later.standing = .unpaired) :
      Waits limit stance ticks stance.standing.parting 1 later

namespace Stance.Waits

variable {limit : UInt8} {stance later : Stance} {ticks : Nat} {events : List EventKind}
  {losses : Nat}

/-- A limit of 255 ticks is never exceeded. -/
theorem of_full (h : stance.Waits limit ticks events losses later) (hlimit : limit = 255) :
    later.standing = stance.standing ∧ losses = 0 ∧ events = [] := by
  cases h with
  | still standing _ _ => exact ⟨standing, rfl, rfl⟩
  | ended impatient _ =>
    have hfull : limit.toNat = 255 := by rw [hlimit]; rfl
    omega

/-- Any other limit is exceeded after one tick more. -/
theorem of_ticks (h : stance.Waits limit ticks events losses later) (hlimit : limit < 255)
    (hticks : limit.toNat < ticks) :
    later.standing = .unpaired ∧ losses = 1 ∧ events = stance.standing.parting := by
  cases h with
  | ended _ unpaired => exact ⟨unpaired, rfl, rfl⟩
  | still _ silence patient =>
    rw [UInt8.lt_iff_toNat_lt] at hlimit
    rw [UInt8.le_iff_toNat_le, silence] at patient
    have hfull : (255 : UInt8).toNat = 255 := rfl
    omega

end Stance.Waits

namespace Node

variable {settings : NodeSettings} {draws : Draws} {node : Node} {k : Handle} {stance : Stance}

/-- A tick is counted, anything else that leaves the driver alone is not. -/
theorem waits_of_fares {limit : UInt8} (hpeer : stance.standing.peer.isSome = true) {ticks : Nat}
    {events more : List EventKind} {losses others : Nat} {mid later : Stance}
    (h : stance.Waits limit ticks events losses mid) {x : Happening}
    (hfares : Fares limit x mid more others later) (halone : x.LeavesAlone k) :
    stance.Waits limit (ticks + if x.isTick then 1 else 0) (events ++ more) (losses + others)
      later := by
  cases hfares with
  | receive => exact halone.elim
  | aside _ _ hnoTick _ =>
    have hcount : x.isTick = false := by
      cases x with
      | tick env => exact absurd rfl (hnoTick env)
      | _ => rfl
    rw [hcount, List.append_nil]
    exact h
  | tick env =>
    show stance.Waits limit (ticks + 1) _ _ _
    cases h with
    | still standing silence patient =>
      by_cases hexceeds : mid.Exceeds limit
      · obtain ⟨hage, hpartings, hlosses⟩ := Stance.age_of_exceeds hexceeds
        rw [hage, hpartings, hlosses, standing]
        refine .ended ?_ rfl
        have hlt := (Stance.exceeds_iff.1 hexceeds).2
        omega
      · obtain ⟨hage, hpartings, hlosses⟩ := Stance.age_of_not_exceeds hexceeds
        have hpatient := mid.silence_age_le limit
        have hmid : mid.standing.peer.isSome = true := standing ▸ hpeer
        rw [hage] at hpatient ⊢
        rw [hpartings, hlosses]
        refine .still standing ?_ hpatient
        dsimp only
        rw [if_pos hmid, toNat_countUp]
        omega
    | ended impatient unpaired =>
      have hexceeds : ¬ mid.Exceeds limit := by
        intro hexceeds
        have hsome := hexceeds.1
        rw [unpaired] at hsome
        cases hsome
      obtain ⟨hage, hpartings, hlosses⟩ := Stance.age_of_not_exceeds hexceeds
      rw [hage, hpartings, hlosses, List.append_nil]
      exact .ended (by omega) unpaired

/-- What a course without frames makes of a driver that waits for its peer. -/
theorem waits_of_course {admits : Driver → Prop} {stays : Node → Prop} {first last : Node}
    {xs : List Happening} {trace : List Action} (h : Course admits stays first xs trace last)
    (wf : first.registry.WellFormed) {roster : List (Handle × DriverProfile)}
    (hroster : first.drivers = roster.map (·.1)) (hkeeps : first.Keeps k stance)
    (hpeer : stance.standing.peer.isSome = true)
    (hpatient : stance.silence ≤ first.settings.silenceTicks)
    (halone : ∀ x ∈ xs, x.LeavesAlone k) :
    ∃ later, last.Keeps k later ∧ later.pairs = stance.pairs ∧
      stance.Waits first.settings.silenceTicks (xs.countP (·.isTick))
        (peerOnly (reportsOf k trace)) (lossesOf k trace) later := by
  induction h with
  | here =>
    refine ⟨stance, hkeeps, rfl, .still rfl ?_ hpatient⟩
    have hlt := stance.silence.toNat_lt
    rw [List.countP_nil]
    omega
  | @next xs trace mid x added after before admitted becomes _ ih =>
    obtain ⟨later, hlater, hpairs, hwaits⟩ := ih fun x hx => halone x (List.mem_append_left _ hx)
    obtain ⟨hsettings, hwf, -⟩ := before.upkeep wf hroster
    have hx : x.LeavesAlone k := halone x (by simp)
    have hstays : ∀ env, x ≠ .unregister env k := by
      rintro env rfl
      exact hx rfl
    obtain ⟨next, hnext, hfares⟩ := fares_of_becomes hlater hwf becomes hstays
    refine ⟨next, hnext, hfares.same.2.2.2.trans hpairs, ?_⟩
    rw [hsettings] at hfares
    rw [reportsOf_append, peerOnly_append, lossesOf_append, List.countP_append]
    have hboth := waits_of_fares hpeer hwaits hfares hx
    rwa [← List.countP_singleton] at hboth

theorem Fares.silence_le {limit : UInt8} {x : Happening} {later : Stance}
    {events : List EventKind} {losses : Nat} (h : Fares limit x stance events losses later)
    (hle : stance.silence ≤ limit) : later.silence ≤ limit := by
  cases h with
  | tick env => exact stance.silence_age_le limit
  | receive env frame turn =>
    cases helloOf? frame with
    | none => exact hle
    | some cp => exact UInt8.le_trans (stance.silence_hear_le cp) hle
  | aside => exact hle

/-- The silence of a peer is within the limit at any time. -/
theorem Comes.silence_le {xs : List Happening}
    (h : Comes settings draws Driver.IsUnbonded xs node) (hkeeps : node.Keeps k stance) :
    stance.silence ≤ node.settings.silenceTicks := by
  obtain ⟨trace, hcourse⟩ := h
  induction hcourse generalizing stance with
  | here =>
    obtain ⟨status, registration, hkept, -⟩ := hkeeps
    cases hkept
  | @next xs trace node x added after before admitted becomes _ ih =>
    have hcomes : Comes settings draws Driver.IsUnbonded xs node := ⟨trace, before⟩
    have hsettings := (hcomes.next admitted becomes).upkeep.1.trans hcomes.upkeep.1.symm
    rw [hsettings]
    rcases keeps_of_becomes hcomes.isFair hcomes.wellFormed becomes admitted hkeeps.probe? with
      ⟨was, later, hwas, hlater, -, hfares⟩ | ⟨profile, driver, rfl, hstart⟩
    · rw [hkeeps.unique hlater]
      exact hfares.silence_le (ih hwas)
    · rw [hkeeps.unique hstart]
      exact UInt8.zero_le

/-- **A silent peer is let go, unless the limit is the highest count.** While no frame arrives and
the driver stays: within one tick more than the limit, a driver with a peer is told once that its
partner is lost, reports that it lets the peer go, and has none afterwards. But a limit of 255 ticks
is never exceeded; then the peer is kept, however long it is silent. -/
theorem silence_of_comes {xs : List Happening}
    (h : Comes settings draws Driver.IsUnbonded xs node) {driver : Pairable}
    (hdriver : node.pairable? k = some driver) (hpeer : driver.state.peer.isSome = true)
    {admits : Driver → Prop} {ys : List Happening} {trace : List Action} {last : Node}
    (course : Course admits (fun _ => True) node ys trace last)
    (halone : ∀ y ∈ ys, y.LeavesAlone k) :
    ∃ later, last.pairable? k = some later ∧
      (settings.silenceTicks < 255 → ys.countP (·.isTick) = settings.silenceTicks.toNat + 1 →
        lossesOf k trace = 1 ∧ peerOnly (reportsOf k trace) = driver.state.parting ∧
          later.state = .unpaired) ∧
      (settings.silenceTicks = 255 →
        lossesOf k trace = 0 ∧ peerOnly (reportsOf k trace) = [] ∧
          later.state = driver.state) := by
  obtain ⟨stance, hkeeps, hpairs, hstanding⟩ := h.isFair.keeps hdriver
  rw [← hstanding] at hpeer ⊢
  have hpatient := h.silence_le hkeeps
  obtain ⟨stanceLater, hlater, hpairsLater, hwaits⟩ :=
    waits_of_course course h.wellFormed h.drivers hkeeps hpeer hpatient halone
  obtain ⟨later, hlaterDriver, hstate⟩ := hlater.exists_pairable? (hpairsLater.trans hpairs)
  rw [h.upkeep.1] at hwaits
  refine ⟨later, hlaterDriver, fun hlimit hticks => ?_, fun hlimit => ?_⟩
  · obtain ⟨hunpaired, hlosses, hevents⟩ := hwaits.of_ticks hlimit (by omega)
    exact ⟨hlosses, hevents, hstate.trans hunpaired⟩
  · obtain ⟨hstill, hlosses, hevents⟩ := hwaits.of_full hlimit
    exact ⟨hlosses, hevents, hstate.trans hstill⟩

/-- A pairable host of a node with some settings that a device asked to pair. -/
def bondedHost (settings : NodeSettings) : Node :=
  match (withDraws settings ⟨fun _ => 0, 0⟩).register ⟨.pairableHost, 7, some 1, some 10⟩
    (.pairable (.ofGated .idle)) with
  | .ok (_, node) =>
    (node.tick .taking).receiveFrame .taking
      (pairingMessage ⟨10, 1, 7⟩ askingFlags ⟨20, 2, 7⟩).frame
  | .error _ => withDraws settings ⟨fun _ => 0, 0⟩

theorem comes_bondedHost (settings : NodeSettings) :
    ∃ xs, Comes settings ⟨fun _ => 0, 0⟩ Driver.IsUnbonded xs (bondedHost settings) := by
  unfold bondedHost
  split
  · rename_i handle node ok
    have hadmitted : Happening.IsAdmitted Driver.IsUnbonded (.register handle
        ⟨.pairableHost, 7, some 1, some 10⟩ (.pairable (.ofGated .idle))) := rfl
    exact ⟨_, ((Comes.start.next hadmitted (.register ok)).tick .taking).receive .taking _⟩
  · exact ⟨[], .start⟩

/-- With the usual settings four silent ticks end the bond. -/
theorem silence_of_bondedHost :
    ∃ xs driver trace later,
      Comes {} ⟨fun _ => 0, 0⟩ Driver.IsUnbonded xs (bondedHost {}) ∧
      (bondedHost {}).pairable? ⟨0, 0⟩ = some driver ∧ driver.state = .paired ⟨20, 2, 7⟩ ∧
      Course (fun _ => True) (fun _ => True) (bondedHost {}) (List.replicate 4 (.tick .taking))
        trace ((bondedHost {}).afterTicks 4) ∧
      ((bondedHost {}).afterTicks 4).pairable? ⟨0, 0⟩ = some later ∧
      lossesOf ⟨0, 0⟩ trace = 1 ∧ peerOnly (reportsOf ⟨0, 0⟩ trace) = [.unpaired] ∧
      later.state = .unpaired := by
  obtain ⟨xs, hcomes⟩ := comes_bondedHost {}
  obtain ⟨driver, hdriver, hpaired⟩ : ∃ driver,
      (bondedHost {}).pairable? ⟨0, 0⟩ = some driver ∧ driver.state = .paired ⟨20, 2, 7⟩ :=
    Option.map_eq_some_iff.1 (by decide +kernel :
      ((bondedHost {}).pairable? ⟨0, 0⟩).map (fun driver => driver.state) =
        some (.paired ⟨20, 2, 7⟩))
  obtain ⟨trace, hcourse⟩ : ∃ trace, Course (fun _ => True) (fun _ => True) (bondedHost {})
      (List.replicate 4 (.tick .taking)) trace ((bondedHost {}).afterTicks 4) :=
    exists_course_afterTicks _ fun _ _ => trivial
  obtain ⟨later, hlater, hends, -⟩ := silence_of_comes hcomes hdriver (by rw [hpaired]; rfl) hcourse
    fun y hy => by rw [List.eq_of_mem_replicate hy]; trivial
  obtain ⟨hlosses, hreports, hstate⟩ := hends (by decide) (by decide)
  rw [hpaired] at hreports
  exact ⟨xs, driver, trace, later, hcomes, hdriver, hpaired, hcourse, hlater, hlosses, hreports,
    hstate⟩

/-- With a limit of 255 ticks a bond outlives 256 silent ticks. -/
theorem kept_of_endless :
    let settings : NodeSettings := { tickTime := 1, silenceLimit := 255 }
    ∃ xs trace, settings.silenceTicks = 255 ∧
      Comes settings ⟨fun _ => 0, 0⟩ Driver.IsUnbonded xs (bondedHost settings) ∧
      ((bondedHost settings).pairable? ⟨0, 0⟩).map (fun driver => driver.state) =
        some (.paired ⟨20, 2, 7⟩) ∧
      Course (fun _ => True) (fun _ => True) (bondedHost settings)
        (List.replicate 256 (.tick .taking)) trace ((bondedHost settings).afterTicks 256) ∧
      lossesOf ⟨0, 0⟩ trace = 0 ∧ peerOnly (reportsOf ⟨0, 0⟩ trace) = [] ∧
      (((bondedHost settings).afterTicks 256).pairable? ⟨0, 0⟩).map (fun driver => driver.state) =
        some (.paired ⟨20, 2, 7⟩) := by
  intro settings
  have hlimit : settings.silenceTicks = 255 := by decide
  obtain ⟨xs, hcomes⟩ := comes_bondedHost settings
  have hpaired : ((bondedHost settings).pairable? ⟨0, 0⟩).map (fun driver => driver.state) =
      some (.paired ⟨20, 2, 7⟩) := by
    decide +kernel
  obtain ⟨driver, hdriver, hstate⟩ := Option.map_eq_some_iff.1 hpaired
  obtain ⟨stance, hkeeps, hpairs, hstanding⟩ := hcomes.isFair.keeps hdriver
  obtain ⟨trace, hcourse⟩ : ∃ trace, Course (fun _ => True) (fun _ => True) (bondedHost settings)
      (List.replicate 256 (.tick .taking)) trace ((bondedHost settings).afterTicks 256) :=
    exists_course_afterTicks _ fun _ _ => trivial
  obtain ⟨later, hlater, hpairsLater, hwaits⟩ := waits_of_course hcourse hcomes.wellFormed
    hcomes.drivers hkeeps (by rw [hstanding, hstate]; rfl) (hcomes.silence_le hkeeps)
    fun y hy => by rw [List.eq_of_mem_replicate hy]; trivial
  obtain ⟨driverLater, hdriverLater, hstateLater⟩ :=
    hlater.exists_pairable? (hpairsLater.trans hpairs)
  rw [hcomes.upkeep.1] at hwaits
  obtain ⟨hstill, hlosses, hreports⟩ := hwaits.of_full hlimit
  refine ⟨xs, trace, hlimit, hcomes, hpaired, hcourse, hlosses, hreports, ?_⟩
  rw [hdriverLater, Option.map_some, hstateLater, hstill, hstanding, hstate]

end Node

end DeviceBus
