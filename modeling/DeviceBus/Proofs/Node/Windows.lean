import Mathlib.Algebra.Order.Floor.Div
import DeviceBus.Proofs.Node.Expiry
import DeviceBus.Proofs.Node.Probation

/-!
# The windows of the settings

A node waits for whole ticks, so it counts the ticks that cover a window: the least number of them,
and at least one. The count is kept in a byte. A window that is longer than 255 ticks is cut there,
and the node waits for 255 ticks.

What a node waits for are the probation of an address and the silence of a device. `WaitsFor` says
for how many ticks no announce of its device has reached a virtual driver.

## Main results

* `windowed`: the tick counts of the settings.
* `WaitsFor.next`: how long a virtual driver waits for its device at least, in any run.
* `windows_of_comes`: no address is confirmed and no device removed before its window is over, as
  far as a window can be counted.
-/

namespace DeviceBus

open ControlPacket EventKind

/-! ## Counting a window -/

/-- The part of a window that can be counted. -/
def countable (window period : Nat) : Nat := min window (255 * period)

theorem countable_eq_of_le {window period : Nat} (h : window ≤ 255 * period) :
    countable window period = window :=
  Nat.min_eq_left h

/-- A number of ticks reaches the count of a window if it covers what can be counted of it. -/
theorem ticksCovering_le_iff {window period ticks : Nat} (hpos : 0 < period) (hsome : 1 ≤ ticks) :
    (ticksCovering window period).toNat ≤ ticks ↔ countable window period ≤ ticks * period := by
  have hceil : (window + period - 1) / period ≤ ticks ↔ window ≤ ticks * period := by
    rw [← Nat.ceilDiv_eq_add_pred_div, ceilDiv_le_iff_le_mul hpos, Nat.mul_comm]
  have hcap : 255 * period ≤ ticks * period ↔ 255 ≤ ticks := Nat.mul_le_mul_right_iff hpos
  rw [toNat_ticksCovering, Nat.max_eq_left hpos, countable, min_le_iff, max_le_iff, hceil,
    min_le_iff, hcap]
  exact or_congr_left (and_iff_left hsome)

/-- A count of ticks for a window: the least that covers it, as far as it can be counted. -/
structure Windowed (window period ticks : Nat) : Prop where
  /-- A window that can be counted is covered with no tick to spare. -/
  covers : window ≤ 255 * period → IsLeast {n | 1 ≤ n ∧ window ≤ n * period} ticks
  /-- A longer one is cut. -/
  cut : 255 * period < window → ticks = 255

theorem windowed {window period : Nat} (hpos : 0 < period) :
    Windowed window period (ticksCovering window period).toNat := by
  obtain ⟨hsome, hmost⟩ := ticksCovering_bounds window period
  have hcovers : countable window period ≤ (ticksCovering window period).toNat * period :=
    (ticksCovering_le_iff hpos hsome).1 (Nat.le_refl _)
  refine ⟨fun hle => ⟨⟨hsome, ?_⟩, fun n ⟨hn, hreaches⟩ => ?_⟩, fun hlt => ?_⟩
  · rwa [countable_eq_of_le hle] at hcovers
  · exact (ticksCovering_le_iff hpos hn).2 ((countable_eq_of_le hle).le.trans hreaches)
  · rw [countable, Nat.min_eq_right hlt.le, Nat.mul_le_mul_right_iff hpos] at hcovers
    exact Nat.le_antisymm hmost hcovers

theorem NodeSettings.period_pos (settings : NodeSettings) : 0 < settings.period :=
  Nat.lt_of_lt_of_le Nat.one_pos (Nat.le_max_right _ _)

/-- Ticks that reach a count are some ticks. -/
theorem countable_le_of_reached {window period ticks : Nat} (hpos : 0 < period)
    (h : (ticksCovering window period).toNat ≤ ticks) :
    countable window period ≤ ticks * period :=
  (ticksCovering_le_iff hpos ((ticksCovering_bounds window period).1.trans_le h)).1 h

theorem Happening.lasting_mono {few many : Nat} (h : few ≤ many) (x : Happening) :
    x.lasting few ≤ x.lasting many := by
  unfold lasting
  split <;> omega

namespace Node

variable {settings : NodeSettings} {draws : Draws} {k : Handle} {ticks : Nat} {device : Identity}
  {profile : DriverProfile} {before after : Kept} {story : List Action} {x : Happening}
  {start node last : Node} {xs : List Happening} {added : List Action}

/-! ## Waiting for a device -/

/-- An announce of a device reaches the virtual drivers of a node: no own driver has the announced
address. -/
def Reaches (x : Happening) (device : Identity) (node : Node) : Prop :=
  ∃ cp, x.Brings cp ∧ device.isSameDevice cp.announced = true ∧ ¬ node.IsTaken cp

/-- A frame makes no driver wait longer for its device. -/
theorem Receipt.misses_le (h : Receipt x start k before story after)
    (hmisses : before.1.Misses device ticks) (hreliable : IsReliable before) :
    ∃ n ≤ ticks, after.1.Misses device n := by
  have hremote : before.1.isLocal ≠ true := fun own =>
    hreliable.not_hears hmisses.virtual (.inl own)
  cases h with
  | passed => exact ⟨ticks, Nat.le_refl _, hmisses⟩
  | routed _ replies =>
    refine ⟨ticks, Nat.le_refl _, ?_⟩
    rw [replies.status_data]
    exact hmisses
  | shown hears => exact absurd hears (hreliable.not_hears hmisses.virtual)
  | sighted own => exact absurd own hremote
  | lost own => exact absurd own hremote
  | evicted own => exact absurd own hremote
  | moved _ _ replies => exact ⟨0, Nat.zero_le _, replies.misses_moved hmisses hreliable.mild⟩
  | adopted _ awaits => cases hmisses.connected.symm.trans (awaits_iff.1 awaits).2.1

/-- An announce that reaches a driver is a sign of its device, and apart from that only ticks count:
a driver loses its device with no tick but the one at the limit. -/
theorem Passage.waits (h : Passage settings start k x before story after)
    (hmisses : before.1.Misses device ticks) (hle : ticks ≤ settings.silenceTicks.toNat)
    (hreliable : IsReliable before) :
    x.isTick = true ∧ ticks = settings.silenceTicks.toNat ∧ after.1.isConnected = false ∨
      ∃ n ≤ x.lasting ticks, n ≤ settings.silenceTicks.toNat ∧ after.1.Misses device n ∧
        (Reaches x device start → n = 0) := by
  cases h with
  | tick turn =>
    have hturn := turn.misses hmisses hle hreliable
    split at hturn
    · rename_i hdue
      refine .inl ⟨rfl, hdue, ?_⟩
      rw [hturn.1]
      exact Status.isConnected_vacated _ _
    · refine .inr ⟨_, Nat.le_refl _, hturn.2.1, hturn.1, ?_⟩
      rintro ⟨cp, ⟨env, frame, heq, -⟩, -⟩
      cases heq
  | @receive env frame _ _ _ _ silence receipt =>
    by_cases hreaches : Reaches (.receive env frame) device start
    · obtain ⟨cp, hbrings, hsame, hfree⟩ := hreaches
      obtain ⟨hlater, -⟩ := receipt.misses hmisses ⟨hreliable.mild, hreliable.role⟩ rfl
        fun other hother _ => hbrings.eq hother ▸ hfree
      rw [tally_of_brings hbrings, if_pos hsame] at hlater
      exact .inr ⟨0, Nat.zero_le _, Nat.zero_le _, hlater, fun _ => rfl⟩
    · obtain ⟨n, hn, hlater⟩ := receipt.misses_le hmisses ⟨hreliable.mild, hreliable.role⟩
      exact .inr ⟨n, hn, hn.trans hle, hlater, fun h => absurd h hreaches⟩
  | work =>
    exact .inr ⟨ticks, Nat.le_refl _, hle, hmisses, fun ⟨_, ⟨_, _, heq, _⟩, _⟩ => nomatch heq⟩
  | aside noTick noFrame =>
    refine .inr ⟨ticks, ?_, hle, hmisses, fun ⟨_, ⟨env, frame, heq, _⟩, _⟩ =>
      absurd heq (noFrame env frame)⟩
    rw [x.lasting_of_isTick_eq_false ticks (Happening.isTick_eq_false noTick)]

/-- A virtual driver was connected to a device, and the last announce of the device that reached it
is some ticks past. -/
inductive WaitsFor (settings : NodeSettings) (draws : Draws) (k : Handle) (profile : DriverProfile)
    (device : Identity) : Nat → Node → Prop where
  /-- The device is found. -/
  | found {xs : List Happening} {node after : Node} {x : Happening} {added : List Action}
      {was is : Status} (before : Comes settings draws (fun _ => True) xs node)
      (mild : Registers k Driver.IsMild xs)
      (virtual : Virtual (rosterOf xs) node k profile was) (free : was.isConnected = false)
      (becomes : Becomes x node added after)
      (stays : ∀ env, x ≠ .unregister env k) (later : after.status? k = some is)
      (connected : is.isConnected = true) (finds : device.isSameDevice is.identity = true) :
      WaitsFor settings draws k profile device 0 after
  /-- The device is announced. -/
  | heard {ticks : Nat} {node after : Node} {x : Happening} {added : List Action} {is : Status}
      (before : WaitsFor settings draws k profile device ticks node)
      (becomes : Becomes x node added after) (stays : ∀ env, x ≠ .unregister env k)
      (reaches : Reaches x device node) (later : after.status? k = some is)
      (connected : is.isConnected = true) : WaitsFor settings draws k profile device 0 after
  /-- Something else happens, and the driver keeps the device. -/
  | unheard {ticks : Nat} {node after : Node} {x : Happening} {added : List Action} {is : Status}
      (before : WaitsFor settings draws k profile device ticks node)
      (becomes : Becomes x node added after) (stays : ∀ env, x ≠ .unregister env k)
      (unreached : ¬ Reaches x device node) (later : after.status? k = some is)
      (connected : is.isConnected = true) :
      WaitsFor settings draws k profile device (x.lasting ticks) after

/-- A driver of some run that is connected to a device and has counted some ticks without a sign
of it. -/
def Counts (settings : NodeSettings) (draws : Draws) (k : Handle) (profile : DriverProfile)
    (device : Identity) (ticks : Nat) (node : Node) : Prop :=
  ticks ≤ settings.silenceTicks.toNat ∧ ∃ xs kept, Comes settings draws (fun _ => True) xs node ∧
    Registers k Driver.IsMild xs ∧ Virtual (rosterOf xs) node k profile kept.1 ∧
    node.enrolled? k = some kept ∧ kept.1.Misses device ticks

/-- **What one happening makes of a driver that counts.** With the tick at the limit the driver is
no longer connected. -/
theorem Counts.next (h : Counts settings draws k profile device ticks node)
    (becomes : Becomes x node added last) (hstays : ∀ env, x ≠ .unregister env k) :
    ∃ status, last.status? k = some status ∧
      (x.isTick = true ∧ ticks = settings.silenceTicks.toNat ∧ status.isConnected = false ∨
        status.isConnected = true ∧ ∃ n ≤ x.lasting ticks, (Reaches x device node → n = 0) ∧
          Counts settings draws k profile device n last) := by
  obtain ⟨hle, xs, kept, hcomes, hmild, hv, hkept, hmisses⟩ := h
  have hreliable := hcomes.isReliable hmild hkept
  obtain ⟨later, hlater, hpassage⟩ :=
    passage_of_becomes hkept hreliable hcomes.wellFormed becomes hstays
  have hstatus := status?_of_enrolled? hlater
  rw [hcomes.upkeep.1] at hpassage
  refine ⟨later.1, hstatus, ?_⟩
  rcases hpassage.waits hmisses hle hreliable with hdue | ⟨n, hn, hlimit, hmisses', hreach⟩
  · exact .inl hdue
  · exact .inr ⟨hmisses'.connected, n, hn, hreach, hlimit, xs ++ [x], later,
      hcomes.next_of_true becomes, registers_next hmild (Option.isSome_of_eq_some hkept) becomes,
      ⟨rosterOf_append_singleton xs x ▸ x.mem_enroll_of_stays hv.member hstays, hv.role, hstatus⟩,
      hlater, hmisses'⟩

/-- A driver that finds its device starts to count. -/
theorem Comes.counts_zero {was is : Status} (h : Comes settings draws (fun _ => True) xs node)
    (hmild : Registers k Driver.IsMild xs) (hv : Virtual (rosterOf xs) node k profile was)
    (hfree : was.isConnected = false) (becomes : Becomes x node added last)
    (hstays : ∀ env, x ≠ .unregister env k) (his : last.status? k = some is)
    (hconnected : is.isConnected = true) (hfinds : device.isSameDevice is.identity = true) :
    Counts settings draws k profile device 0 last := by
  obtain ⟨⟨registration, hkept, -⟩, hvirtual, -⟩ := hv.serves_of_registers h hmild
  have hreliable := h.isReliable hmild hkept
  obtain ⟨mid, hmid, hpassage⟩ := passage_of_becomes hkept hreliable h.wellFormed becomes hstays
  cases (status?_of_enrolled? hmid).symm.trans his
  obtain ⟨cp, -, -, hmisses⟩ := hpassage.finds hreliable hvirtual hfree hconnected
  exact ⟨Nat.zero_le _, xs ++ [x], mid, h.next_of_true becomes,
    registers_next hmild (Option.isSome_of_eq_some hkept) becomes,
    ⟨rosterOf_append_singleton xs x ▸ x.mem_enroll_of_stays hv.member hstays, hv.role, his⟩, hmid,
    hmisses.virtual, hconnected, hfinds, hmisses.silent⟩

/-- **A driver counts no more ticks than there were** since its device was heard of. -/
theorem WaitsFor.counts (h : WaitsFor settings draws k profile device ticks node) :
    ∃ n ≤ ticks, Counts settings draws k profile device n node := by
  induction h with
  | found before mild virtual free becomes stays later connected finds =>
    exact ⟨0, Nat.le_refl _,
      before.counts_zero mild virtual free becomes stays later connected finds⟩
  | heard before becomes stays reaches later connected ih =>
    obtain ⟨n, -, hcounts⟩ := ih
    obtain ⟨status, hstatus, ⟨-, -, hoff⟩ | ⟨-, m, -, hreach, hlater⟩⟩ :=
      hcounts.next becomes stays
    · cases hstatus.symm.trans later
      cases hoff.symm.trans connected
    · exact ⟨m, (hreach reaches).le, hlater⟩
  | unheard before becomes stays unreached later connected ih =>
    obtain ⟨n, hn, hcounts⟩ := ih
    obtain ⟨status, hstatus, ⟨-, -, hoff⟩ | ⟨-, m, hm, -, hlater⟩⟩ :=
      hcounts.next becomes stays
    · cases hstatus.symm.trans later
      cases hoff.symm.trans connected
    · exact ⟨m, hm.trans (Happening.lasting_mono hn _), hlater⟩

/-- **Every virtual driver that is connected waits for its device.** -/
theorem Comes.exists_waitsFor {is : Status} (h : Comes settings draws (fun _ => True) xs node)
    (hmild : Registers k Driver.IsMild xs) (hv : Virtual (rosterOf xs) node k profile is)
    (hconnected : is.isConnected = true) :
    ∃ device ticks, WaitsFor settings draws k profile device ticks node := by
  obtain ⟨trace, hcourse⟩ := h
  induction hcourse generalizing is with
  | here => cases hv.member
  | @next xs trace node x added last hbefore admitted becomes _ ih =>
    have hcomes : Comes settings draws (fun _ => True) xs node := ⟨trace, hbefore⟩
    have hmember := hv.member
    rw [rosterOf_append_singleton] at hmember
    rcases x.mem_enroll hmember with hold | ⟨driver, rfl⟩
    · obtain ⟨was, hserves⟩ := hcomes.serves_of_registers hmild.of_append hold
      obtain ⟨registration, hkept, -⟩ := hserves.has
      have hvirtual : Virtual (rosterOf xs) node k profile was :=
        ⟨hold, hv.role, status?_of_enrolled? hkept⟩
      have hstays : ∀ env, x ≠ .unregister env k := by
        obtain ⟨kept, hlater⟩ :=
          Option.isSome_iff_exists.1 ((hcomes.next admitted becomes).isSome_of_mem_roster hv.member)
        have hprobe : last.probe? k = some kept.2.driver.isProbe := probe?_of_enrolled? hlater
        exact stays_of_becomes becomes hprobe
      cases hwas : was.isConnected with
      | false =>
        exact ⟨is.identity, 0, .found hcomes hmild.of_append hvirtual hwas becomes hstays
          hv.status hconnected (Identity.isSameDevice_iff.2 ⟨rfl, rfl⟩)⟩
      | true =>
        obtain ⟨device, ticks, hwaits⟩ := ih hmild.of_append hvirtual hwas
        by_cases hreaches : Reaches x device node
        · exact ⟨device, 0, hwaits.heard becomes hstays hreaches hv.status hconnected⟩
        · exact ⟨device, _, hwaits.unheard becomes hstays hreaches hv.status hconnected⟩
    · cases becomes with
      | register ok =>
        -- a newcomer has no device
        have hstatus := hv.status
        rw [status?_of_enrolled? (joins_register ok).newcomer, Option.some.injEq] at hstatus
        rw [← hstatus] at hconnected
        have hvacant := congrArg Status.isConnected (startStatus_of_virtual node.settings hv.role)
        rw [isConnected_vacantFor] at hvacant
        cases hvacant.symm.trans hconnected

/-- A driver loses its device with a tick, and only when the ticks without an announce that reached
it cover the window. -/
theorem WaitsFor.next {status : Status} (h : WaitsFor settings draws k profile device ticks node)
    (becomes : Becomes x node added last) (hstays : ∀ env, x ≠ .unregister env k)
    (hstatus : last.status? k = some status) (hoff : status.isConnected = false) :
    x.isTick = true ∧
      countable settings.silenceLimit settings.period ≤ ticks * settings.period := by
  obtain ⟨n, hn, hcounts⟩ := h.counts
  obtain ⟨shown, hshown, ⟨htick, hdue, -⟩ | ⟨hon, -⟩⟩ := hcounts.next becomes hstays
  · exact ⟨htick, countable_le_of_reached settings.period_pos (hdue.symm.le.trans hn)⟩
  · cases hshown.symm.trans hstatus
    cases hoff.symm.trans hon

/-- A record goes with a tick, and only when the ticks since its last mark cover the window. -/
theorem Lingers.next (h : Lingers settings draws k ticks node) (becomes : Becomes x node added last)
    (hstays : ∀ env, x ≠ .unregister env k) (hgone : last.record? k = none) :
    x.isTick = true ∧
      countable settings.silenceLimit settings.period ≤ ticks * settings.period := by
  obtain ⟨hle, xs, status, hcomes, hstatus, hsilent⟩ := h.isSilentFor
  have hpast := hcomes.lingers hstatus hsilent hle becomes hstays
  split at hpast
  · rename_i hdue
    exact ⟨hdue.1, countable_le_of_reached settings.period_pos hdue.2.symm.le⟩
  · obtain ⟨is, his, -⟩ := hpast
    cases hgone.symm.trans his

/-! ## The windows -/

/-- How the windows of the settings show in what a node makes of a driver or a record. -/
structure KeepsWindows (settings : NodeSettings) (draws : Draws) (k : Handle) : Prop where
  /-- The ticks of a probation cover its window. -/
  probation : Windowed settings.probationTime settings.period settings.probationTicks.toNat
  /-- The ticks of a silence cover its window. -/
  silence : Windowed settings.silenceLimit settings.period settings.silenceTicks.toNat
  /-- A discreet own driver with an address has held it for a number of ticks. -/
  holds {xs : List Happening} {node : Node} {status : Status} :
    Comes settings draws (fun _ => True) xs node → Registers k Driver.IsDiscreet xs →
    node.status? k = some status → status.isLocal = true → status.address ≠ 0 →
    ∃ ticks x added, Holds settings draws (fun _ => True) k status.address ticks x added node
  /-- The address is confirmed as soon as these cover the window, and not before. -/
  confirmed {address : UInt8} {ticks : Nat} {x : Happening} {added : List Action} {node : Node} :
    Holds settings draws (fun _ => True) k address ticks x added node → ∃ status,
      node.status? k = some status ∧ (status.isConnected = true ↔
        1 ≤ ticks ∧ countable settings.probationTime settings.period ≤ ticks * settings.period)
  /-- A mild virtual driver with a device has waited for it for a number of ticks. -/
  waits {xs : List Happening} {node : Node} {profile : DriverProfile} {status : Status} :
    Comes settings draws (fun _ => True) xs node → Registers k Driver.IsMild xs →
    Virtual (rosterOf xs) node k profile status → status.isConnected = true →
    ∃ device ticks, WaitsFor settings draws k profile device ticks node
  /-- It loses the device with a tick, when these cover the window. -/
  removed {profile : DriverProfile} {device : Identity} {ticks : Nat} {x : Happening}
      {added : List Action} {node after : Node} {status : Status} :
    WaitsFor settings draws k profile device ticks node → Becomes x node added after →
    (∀ env, x ≠ .unregister env k) → after.status? k = some status →
    status.isConnected = false → x.isTick = true ∧
      countable settings.silenceLimit settings.period ≤ ticks * settings.period
  /-- A record was last marked a number of ticks ago. -/
  lingers {xs : List Happening} {node : Node} {status : Status} :
    Comes settings draws (fun _ => True) xs node → node.record? k = some status →
    ∃ ticks, Lingers settings draws k ticks node
  /-- It goes with a tick, when these cover the window. -/
  expired {ticks : Nat} {x : Happening} {added : List Action} {node after : Node} :
    Lingers settings draws k ticks node → Becomes x node added after →
    (∀ env, x ≠ .unregister env k) → after.record? k = none → x.isTick = true ∧
      countable settings.silenceLimit settings.period ≤ ticks * settings.period

/-- **Windows are kept, as far as they can be counted**: in any run, no address is confirmed and no
device removed before. -/
theorem windows_of_comes (settings : NodeSettings) (draws : Draws) (k : Handle) :
    KeepsWindows settings draws k where
  probation := windowed settings.period_pos
  silence := windowed settings.period_pos
  holds hcomes hdiscreet hstatus own pos := by
    obtain ⟨registration, hkept⟩ := hcomes.enrolled_of_own hstatus own
    exact hcomes.exists_holds hdiscreet hkept own pos
  confirmed h := by
    obtain ⟨-, ⟨status, registration⟩, -, -, hkept, htried, -⟩ := h.isTried
    refine ⟨status, status?_of_enrolled? hkept, htried.isConnected_iff.trans ⟨fun hle => ?_, ?_⟩⟩
    · have hsome := (ticksCovering_bounds settings.probationTime settings.period).1
      exact ⟨hsome.trans_le hle, countable_le_of_reached settings.period_pos hle⟩
    · rintro ⟨hsome, hcovers⟩
      exact (ticksCovering_le_iff settings.period_pos hsome).2 hcovers
  waits hcomes hmild hv hconnected := hcomes.exists_waitsFor hmild hv hconnected
  removed h becomes hstays hstatus hoff := h.next becomes hstays hstatus hoff
  lingers hcomes hstatus := hcomes.exists_lingers hstatus
  expired h becomes hstays hgone := h.next becomes hstays hgone

/-- A driver that is connected after each of some ticks has waited for that many ticks more. -/
theorem WaitsFor.afterTicks (h : WaitsFor settings draws k profile device ticks node) {more : Nat}
    (hconnected : ∀ n < more,
      ((node.afterTicks (n + 1)).status? k).map (·.isConnected) = some true) :
    WaitsFor settings draws k profile device (ticks + more) (node.afterTicks more) := by
  induction more with
  | zero => exact h
  | succ more ih =>
    have hbefore := ih fun n hn => hconnected n (Nat.lt_succ_of_lt hn)
    obtain ⟨is, his, hon⟩ := Option.map_eq_some_iff.1 (hconnected more (Nat.lt_succ_self more))
    rw [afterTicks_succ] at his ⊢
    obtain ⟨added, hlog, -⟩ := (spares_tick .taking (node.afterTicks more)).trace
    exact hbefore.unheard (x := .tick .taking) (.tick .taking hlog) nofun
      (fun ⟨_, ⟨_, _, heq, _⟩, _⟩ => nomatch heq) his hon

/-- A device announces itself once. With the usual settings the virtual driver that it was connected
to loses it with the fourth tick, when it has waited for three, which cover 254 ms. -/
theorem windows_of_silentDevice :
    let frame := (ControlPacket.hello 20 7 2).frame
    let found := (withDriver ⟨.virtual, 7, none, none⟩ .quiet).receiveFrame .taking frame
    WaitsFor {} ⟨fun _ => 0, 0⟩ ⟨0, 0⟩ ⟨.virtual, 7, none, none⟩ ⟨20, 2, 7⟩ 3
      (found.afterTicks 3) ∧
      ((found.afterTicks 4).status? ⟨0, 0⟩).map (·.isConnected) = some false ∧
      countable 254 112 ≤ 3 * 112 := by
  intro frame found
  obtain ⟨_, hfound, -⟩ := (spares_receiveFrame .taking frame
    (withDriver ⟨.virtual, 7, none, none⟩ .quiet)).trace
  obtain ⟨is, his, hfinds⟩ := Option.map_eq_some_iff.1
    (show (found.status? ⟨0, 0⟩).map (fun s => (s.isConnected, s.identity)) =
      some (true, ⟨20, 2, 7⟩) by decide +kernel)
  obtain ⟨hconnected, hidentity⟩ := Prod.mk.inj hfinds
  have hcomes := comes_withDriver Driver.IsMild ⟨.virtual, 7, none, none⟩ .quiet trivial
  have hstart : WaitsFor {} ⟨fun _ => 0, 0⟩ ⟨0, 0⟩ ⟨.virtual, 7, none, none⟩ ⟨20, 2, 7⟩ 0 found :=
    .found (x := .receive .taking frame) (hcomes.mono fun _ _ => trivial)
      (hcomes.registers ⟨0, 0⟩) ⟨List.mem_singleton.2 rfl, rfl, rfl⟩ rfl
      (.receive .taking frame hfound) nofun his hconnected (by rw [hidentity]; decide)
  have hwaits := hstart.afterTicks (show ∀ n < 3,
    ((found.afterTicks (n + 1)).status? ⟨0, 0⟩).map (·.isConnected) = some true by decide +kernel)
  have hoff : ((found.afterTicks 4).status? ⟨0, 0⟩).map (·.isConnected) = some false := by
    decide +kernel
  obtain ⟨status, hstatus, hlost⟩ := Option.map_eq_some_iff.1 hoff
  obtain ⟨_, hlog, -⟩ := (spares_tick .taking (found.afterTicks 3)).trace
  exact ⟨hwaits, hoff, ((windows_of_comes {} ⟨fun _ => 0, 0⟩ ⟨0, 0⟩).removed hwaits
    (.tick .taking hlog) nofun hstatus hlost).2⟩

/-- Not every window is covered: one of 300 ms is cut if a tick takes 1 ms. -/
theorem cut_of_longWindow :
    ¬ ∀ settings : NodeSettings,
      IsLeast {n | 1 ≤ n ∧ settings.probationTime ≤ n * settings.period}
        settings.probationTicks.toNat ∧
      IsLeast {n | 1 ≤ n ∧ settings.silenceLimit ≤ n * settings.period}
        settings.silenceTicks.toNat := by
  intro h
  have hcovers := (h { tickTime := 1, probationTime := 300 }).1.1.2
  exact absurd hcovers (by decide)

end Node

end DeviceBus
