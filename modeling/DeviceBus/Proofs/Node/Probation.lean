import DeviceBus.Proofs.Node.Announcing
import DeviceBus.Proofs.Node.Protocol
import DeviceBus.Proofs.Node.Reception

/-!
# Probation

An own driver that draws an address is on probation: it announces the address as uncertain, and it
is connected after a number of ticks that follows from the settings alone. The ticks are counted in
the driver's status, where remote drivers count the ticks since their device was announced. No
frame touches the count of an own driver unless it takes the address, and a new address is counted
from the start.

`Holds` says for how many ticks a driver has held an address, and what happened last.

## Main results

* `Passage.isTried`: what one happening makes of a driver on probation.
* `probation_of_comes`: when a driver is connected and what it announces, in any run.
-/

namespace DeviceBus

open ControlPacket EventKind

/-! ## Discreet drivers -/

theorem Driver.IsDiscreet.isMild {driver : Driver} (h : driver.IsDiscreet) : driver.IsMild := by
  cases driver with
  | probe p => exact h.1
  | _ => trivial

theorem Driver.persists_isDiscreet : Driver.Persists Driver.IsDiscreet where
  respond callback ctx h := (h.respond callback ctx).1
  works h works := h.works works

/-! ## A status on probation -/

/-- The status of an own driver that has held an address for some ticks: until the limit is reached
the address is uncertain and the ticks are counted, from then on it is certain. -/
structure Status.IsTried (limit : UInt8) (address : UInt8) (ticks : Nat) (status : Status) :
    Prop where
  own : status.isLocal = true
  holds : status.address = address
  uncertain : ticks < limit.toNat →
    status.isConfirmed = false ∧ status.isUnconfirmed = true ∧ status.counter.toNat = ticks
  certain : limit.toNat ≤ ticks → status.isConfirmed = true ∧ status.isUnconfirmed = false

namespace Status.IsTried

variable {limit address : UInt8} {ticks : Nat} {status after : Status}

/-- Nothing but the tenancy and the count matters. -/
theorem congr (h : status.IsTried limit address ticks) (htenancy : after.tenancy = status.tenancy)
    (hcounter : after.counter = status.counter) : after.IsTried limit address ticks := by
  have hconfirmed : after.isConfirmed = status.isConfirmed :=
    congrArg Tenancy.isConfirmed htenancy
  have hunconfirmed : after.isUnconfirmed = status.isUnconfirmed :=
    congrArg Tenancy.isUnconfirmed htenancy
  refine ⟨(Status.isLocal_eq_of_tenancy_eq htenancy).trans h.own,
    (congrArg Tenancy.address htenancy).trans h.holds, fun hlt => ?_, fun hle => ?_⟩
  · rw [hconfirmed, hunconfirmed, hcounter]
    exact h.uncertain hlt
  · rw [hconfirmed, hunconfirmed]
    exact h.certain hle

theorem lt_of_isUnconfirmed (h : status.IsTried limit address ticks)
    (hprobation : status.isUnconfirmed = true) : ticks < limit.toNat := by
  by_contra hle
  rw [(h.certain (Nat.le_of_not_lt hle)).2] at hprobation
  cases hprobation

theorem le_of_not_isUnconfirmed (h : status.IsTried limit address ticks)
    (hcertain : status.isUnconfirmed = false) : limit.toNat ≤ ticks := by
  by_contra hlt
  rw [(h.uncertain (Nat.lt_of_not_le hlt)).2.1] at hcertain
  cases hcertain

theorem isConnected_iff (h : status.IsTried limit address ticks) :
    status.isConnected = true ↔ limit.toNat ≤ ticks := by
  refine ⟨fun hon => ?_, fun hle => (h.certain hle).1⟩
  by_contra hlt
  cases (h.uncertain (Nat.lt_of_not_le hlt)).1.symm.trans hon

theorem isUnconfirmed_iff (h : status.IsTried limit address ticks) :
    status.isUnconfirmed = true ↔ ticks < limit.toNat :=
  ⟨h.lt_of_isUnconfirmed, fun hlt => (h.uncertain hlt).2.1⟩

/-- While a status is on probation, its count does not saturate. -/
theorem toNat_countUp (h : status.IsTried limit address ticks) (hlt : ticks < limit.toNat) :
    (countUp status.counter).toNat = ticks + 1 := by
  rw [DeviceBus.toNat_countUp, (h.uncertain hlt).2.2]
  have hlimit := limit.toNat_lt
  omega

end Status.IsTried

namespace Node

variable {settings : NodeSettings} {draws : Draws} {k : Handle} {address : UInt8} {ticks : Nat}
  {before mid after : Kept} {story more : List Action} {x : Happening} {start : Node}

/-- What a driver on probation makes of something it is told. -/
theorem Replies.isTried {limit : UInt8} {callback : Callback} {talk : List EventKind}
    (h : Replies k callback before talk after) (hdiscreet : before.2.driver.IsDiscreet)
    (htried : before.1.IsTried limit address ticks) : after.1.IsTried limit address ticks :=
  htried.congr (h.discreet hdiscreet).2 (congrArg (·.counter) (h.official hdiscreet.isMild).2)

theorem Replies.drives {kind : Driver → Prop} (hkind : Driver.Persists kind) {callback : Callback}
    {talk : List EventKind} (h : Replies k callback before talk after)
    (hbefore : kind before.2.driver) : kind after.2.driver := by
  obtain ⟨ctx, -, -, rfl⟩ := h.place
  exact hkind.respond callback ctx hbefore

/-- Whatever a driver goes through, it stays of its kind. -/
theorem Episode.drives {kind : Driver → Prop} (hkind : Driver.Persists kind)
    (h : Episode x start k before story after) (hbefore : kind before.2.driver) :
    kind after.2.driver := by
  cases h with
  | booked driver => exact driver ▸ hbefore
  | noticed => exact hbefore
  | told _ replies => exact replies.drives hkind hbefore
  | moved _ _ replies => exact replies.drives hkind hbefore
  | adopted _ _ connected replies => exact replies.drives hkind (connected.drives hkind hbefore)
  | drawn => exact hbefore
  | confirmed _ _ _ replies => exact replies.drives hkind hbefore
  | lost => exact hbefore
  | evicted _ _ _ replies => exact replies.drives hkind hbefore
  | vacated _ _ replies => exact replies.drives hkind hbefore
  | worked works => exact hkind.works hbefore works

/-- A driver that was discreet when it was registered is discreet and reliable. -/
theorem Comes.isDiscreet {admits : Driver → Prop} {xs : List Happening} {node : Node}
    (h : Comes settings draws admits xs node) (hreg : Registers k Driver.IsDiscreet xs)
    (hk : node.enrolled? k = some before) :
    before.2.driver.IsDiscreet ∧ IsReliable before :=
  ⟨h.keeps_driver hreg (fun _ _ hnew => hnew)
      (fun hbefore episode => episode.drives Driver.persists_isDiscreet hbefore) hk,
    h.isReliable (fun profile driver hmem => (hreg profile driver hmem).isMild) hk⟩

/-! ## A tick -/

/-- What a tick reports about the device of a driver that has held its address for some ticks. -/
def newsOf (limit address : UInt8) : Nat → List EventKind
  | 0 => [.addressDrawn address]
  | ticks + 1 => if ticks + 1 = limit.toNat then [.connected address] else []

/-- A tick of the address that a driver holds. -/
theorem DeviceTick.isTried (h : DeviceTick settings k before story after)
    (htried : before.1.IsTried settings.probationTicks address ticks) (hpos : address ≠ 0)
    (hdiscreet : before.2.driver.IsDiscreet) :
    after.1.IsTried settings.probationTicks address (ticks + 1) ∧ after.2.driver.IsDiscreet ∧
      milestones (reportsOf k story) = newsOf settings.probationTicks address (ticks + 1) := by
  have hremote : before.1.isLocal ≠ false := by
    rw [htried.own]
    exact Bool.noConfusion
  have hwith : before.1.address ≠ 0 := htried.holds ▸ hpos
  cases h with
  | drawn own without => exact absurd without hwith
  | crowded own without => exact absurd without hwith
  | @counted status registration own pos onProbation early =>
    have hlt := htried.lt_of_isUnconfirmed onProbation
    have hcount := htried.toNat_countUp hlt
    rw [UInt8.lt_iff_toNat_lt, hcount] at early
    obtain ⟨hconfirmed, hunconfirmed, -⟩ := htried.uncertain hlt
    exact ⟨⟨own, htried.holds, fun _ => ⟨hconfirmed, hunconfirmed, hcount⟩,
      fun hle => absurd early (Nat.not_lt.2 hle)⟩, hdiscreet, (if_neg (Nat.ne_of_lt early)).symm⟩
  | @confirmed status registration after talk own pos onProbation due replies =>
    have hlt := htried.lt_of_isUnconfirmed onProbation
    have hcount := htried.toNat_countUp hlt
    rw [UInt8.le_iff_toNat_le, hcount] at due
    have heq : ticks + 1 = settings.probationTicks.toNat := by omega
    obtain ⟨hafter, htenancy⟩ := replies.discreet hdiscreet
    have hsettled : after.1.tenancy = status.tenancy.confirmed :=
      htenancy.trans status.tenancy_confirm
    refine ⟨⟨?_, ?_, fun hless => absurd hless (by omega), fun _ => ?_⟩, hafter, ?_⟩
    · exact (Status.isLocal_of_mode_eq (congrArg Tenancy.mode hsettled)).trans own
    · exact (congrArg Tenancy.address hsettled).trans htried.holds
    · exact ⟨congrArg Tenancy.isConfirmed hsettled, congrArg Tenancy.isUnconfirmed hsettled⟩
    · rw [milestones_sequel _ replies.peer, newsOf, if_pos heq, ← htried.holds]
      rfl
  | resting own pos certain =>
    have hle := htried.le_of_not_isUnconfirmed certain
    exact ⟨⟨own, htried.holds, fun hless => absurd hless (by omega), fun _ => htried.certain hle⟩,
      hdiscreet, (if_neg (by omega)).symm⟩
  | present remote => exact absurd remote hremote
  | missed remote => exact absurd remote hremote
  | vacated remote => exact absurd remote hremote
  | apart remote => exact absurd remote hremote

theorem PartnerTick.isTried {limit : UInt8} (h : PartnerTick k before story after)
    (htried : before.1.IsTried limit address ticks) (hdiscreet : before.2.driver.IsDiscreet) :
    after.1.IsTried limit address ticks ∧ milestones (reportsOf k story) = [] := by
  cases h with
  | waits => exact ⟨htried, rfl⟩
  | givesUp replies => exact ⟨replies.isTried hdiscreet htried, milestones_sequel [] replies.peer⟩

/-- A driver that draws an address in a tick is on probation from then on. -/
theorem DeviceTick.isTried_zero (h : DeviceTick settings k before story after)
    (own : before.1.isLocal = true) (without : before.1.address = 0) (holds : after.1.address ≠ 0)
    (hdiscreet : before.2.driver.IsDiscreet) :
    after.1.IsTried settings.probationTicks after.1.address 0 ∧ after.2.driver.IsDiscreet ∧
      milestones (reportsOf k story) = [.addressDrawn after.1.address] := by
  cases h with
  | @drawn address status registration =>
    have hdrew : (status.drew address).tenancy = status.tenancy.drawn address :=
      status.tenancy_draw address
    refine ⟨⟨?_, rfl, fun _ => ⟨congrArg Tenancy.isConfirmed hdrew,
      congrArg Tenancy.isUnconfirmed hdrew, rfl⟩, fun hle => ?_⟩, hdiscreet, ?_⟩
    · exact (Status.isLocal_of_mode_eq (congrArg Tenancy.mode hdrew)).trans own
    · have hsome := (ticksCovering_bounds settings.probationTime settings.period).1
      exact absurd hsome (Nat.not_lt.2 hle)
    · rw [reportsOf_event_self]
      rfl
  | crowded => exact absurd without holds
  | counted _ pos => exact absurd without pos
  | confirmed _ pos => exact absurd without pos
  | resting _ pos => exact absurd without pos
  | present remote => cases own.symm.trans remote
  | missed remote => cases own.symm.trans remote
  | vacated remote => cases own.symm.trans remote
  | apart remote => cases own.symm.trans remote

/-! ## A frame -/

/-- A frame takes the address from a driver on probation, or it makes no difference. -/
theorem Receipt.isTried {limit : UInt8} (h : Receipt x start k before story after)
    (htried : before.1.IsTried limit address ticks) (hdiscreet : before.2.driver.IsDiscreet)
    (hreliable : IsReliable before) :
    after.1.address = 0 ∨
      after.1.IsTried limit address ticks ∧ milestones (reportsOf k story) = [] := by
  have hremote : ∀ {s : Status} {r : Registration}, before = (s, r) → s.isVirtual ≠ true := by
    rintro s r rfl hvirtual
    rw [hreliable.isVirtual_eq_false htried.own] at hvirtual
    cases hvirtual
  cases h with
  | passed => exact .inr ⟨htried, rfl⟩
  | routed _ replies =>
    exact .inr ⟨replies.isTried hdiscreet htried, milestones_sequel [] replies.peer⟩
  | shown _ replies =>
    exact .inr ⟨replies.isTried hdiscreet htried, milestones_sequel [] replies.peer⟩
  | @sighted _ status _ _ _ _ replies =>
    exact .inr ⟨replies.isTried hdiscreet (htried.congr status.tenancy_mark_seen rfl),
      milestones_sequel [] replies.peer⟩
  | lost => exact .inl rfl
  | evicted _ _ _ replies =>
    exact .inl (Status.address_of_official_eq (replies.official hdiscreet.isMild).2)
  | moved _ follows => exact absurd (follows_iff.1 follows).1 (hremote rfl)
  | adopted _ awaits => exact absurd (awaits_iff.1 awaits).1 (hremote rfl)

/-- No frame gives an address to an own driver. -/
theorem Receipt.address_eq_zero (h : Receipt x start k before story after)
    (hreliable : IsReliable before) (own : before.1.isLocal = true)
    (without : before.1.address = 0) : after.1.address = 0 := by
  have hreply : ∀ {callback : Callback} {talk : List EventKind} {shown : Kept},
      Replies k callback shown talk after → shown.2.driver.IsMild → shown.1.address = 0 →
      after.1.address = 0 := fun replies hmild hzero =>
    (Status.address_of_official_eq (replies.official hmild).2).trans hzero
  cases h with
  | passed => exact without
  | routed _ replies => exact hreply replies hreliable.mild without
  | shown _ replies => exact hreply replies hreliable.mild without
  | sighted _ replies => exact hreply replies hreliable.mild without
  | lost => rfl
  | evicted _ _ _ replies => exact hreply replies hreliable.mild rfl
  | moved _ follows =>
    cases (hreliable.isVirtual_eq_false own).symm.trans (follows_iff.1 follows).1
  | adopted _ awaits =>
    cases (hreliable.isVirtual_eq_false own).symm.trans (awaits_iff.1 awaits).1

/-! ## Whatever happens -/

/-- **What one happening makes of a driver on probation.** A frame may take the address; otherwise
nothing but a tick makes a difference. -/
theorem Passage.isTried (h : Passage settings start k x before story after)
    (htried : before.1.IsTried settings.probationTicks address ticks) (hpos : address ≠ 0)
    (hdiscreet : before.2.driver.IsDiscreet) (hreliable : IsReliable before)
    (hkeeps : after.1.address ≠ 0) :
    after.1.IsTried settings.probationTicks address (x.lasting ticks) ∧
      milestones (reportsOf k story) =
        if x.isTick then newsOf settings.probationTicks address (x.lasting ticks) else [] := by
  cases h with
  | tick turn =>
    cases turn with
    | turn device partner =>
      obtain ⟨hmid, hmild, hnews⟩ := device.isTried htried hpos hdiscreet
      obtain ⟨hafter, hnone⟩ := partner.isTried hmid hmild
      refine ⟨hafter, ?_⟩
      rw [reportsOf_append, milestones_append, hnews, hnone, List.append_nil]
      rfl
  | receive silence receipt =>
    exact (receipt.isTried htried hdiscreet ⟨hreliable.mild, hreliable.role⟩).resolve_left hkeeps
  | work => exact ⟨htried, rfl⟩
  | aside noTick =>
    have hnoTick := Happening.isTick_eq_false noTick
    rw [x.lasting_of_isTick_eq_false ticks hnoTick, hnoTick]
    exact ⟨htried, rfl⟩

/-! ## Holding an address -/

/-- A discreet driver drew an address some ticks ago and has held it since. The last that happened,
and what that added to the log, are told too. -/
inductive Holds (settings : NodeSettings) (draws : Draws) (admits : Driver → Prop) (k : Handle)
    (address : UInt8) : Nat → Happening → List Action → Node → Prop where
  /-- The driver draws the address. -/
  | drawn {xs : List Happening} {node : Node} {env : Env} {added : List Action} {was is : Status}
      (before : Comes settings draws admits xs node)
      (discreet : Registers k Driver.IsDiscreet xs)
      (log : (node.tick env).log = node.log ++ added)
      (status : node.status? k = some was) (own : was.isLocal = true) (without : was.address = 0)
      (later : (node.tick env).status? k = some is) (holds : is.address = address)
      (pos : address ≠ 0) :
      Holds settings draws admits k address 0 (.tick env) added (node.tick env)
  /-- Something happens, and the driver keeps the address. -/
  | kept {ticks : Nat} {y x : Happening} {old added : List Action} {node after : Node}
      {is : Status} (before : Holds settings draws admits k address ticks y old node)
      (admitted : x.IsAdmitted admits) (becomes : Becomes x node added after)
      (stays : ∀ env, x ≠ .unregister env k) (later : after.status? k = some is)
      (holds : is.address = address) :
      Holds settings draws admits k address (x.lasting ticks) x added after

namespace Holds

variable {admits : Driver → Prop} {added : List Action} {node : Node}

theorem pos (h : Holds settings draws admits k address ticks x added node) : address ≠ 0 := by
  induction h with
  | drawn _ _ _ _ _ _ _ _ pos => exact pos
  | kept _ _ _ _ _ _ ih => exact ih

end Holds

/-- The driver whose status is known is enrolled, if it is an own one. -/
theorem Comes.enrolled_of_own {xs : List Happening} {node : Node} {admits : Driver → Prop}
    (h : Comes settings draws admits xs node) {status : Status}
    (hk : node.status? k = some status) (own : status.isLocal = true) :
    ∃ registration, node.enrolled? k = some (status, registration) := by
  obtain ⟨⟨held, kind⟩, hentry, rfl⟩ := Option.map_eq_some_iff.1 hk
  cases kind with
  | driver registration => exact ⟨registration, enrolled?_eq_some_iff.2 hentry⟩
  | record =>
    have hmode := (h.isRecorded (record?_eq_some_iff.2 hentry)).mode
    rw [Status.isLocal_eq_mode, hmode] at own
    cases own

/-- **A driver that holds an address is on probation or confirmed, as the ticks say**, and no report
about its device comes at another time. -/
theorem Holds.isTried {admits : Driver → Prop} {added : List Action} {node : Node}
    (h : Holds settings draws admits k address ticks x added node) :
    ∃ xs kept, Comes settings draws admits xs node ∧ Registers k Driver.IsDiscreet xs ∧
      node.enrolled? k = some kept ∧ kept.1.IsTried settings.probationTicks address ticks ∧
      milestones (reportsOf k added) =
        if x.isTick then newsOf settings.probationTicks address ticks else [] := by
  induction h with
  | @drawn xs node env added was is before discreet log status own without later holds pos =>
    obtain ⟨registration, hkept⟩ := before.enrolled_of_own status own
    obtain ⟨hdiscreet, -⟩ := before.isDiscreet discreet hkept
    have hreg := registers_next discreet (Option.isSome_of_eq_some hkept) (.tick env log)
    obtain ⟨⟨last, held⟩, story, hturn, hchronicle⟩ := ages_tick hkept before.wellFormed env
    obtain ⟨hlast, hstory⟩ := hchronicle.of_log log
    cases (status?_of_enrolled? hlast).symm.trans later
    rw [before.upkeep.1] at hturn
    rw [← reportsOf_storyOf, hstory]
    cases hturn with
    | @turn mid _ _ _ device partner =>
      have haddress : is.address = mid.1.address :=
        congrArg Identity.address (Status.identity_of_unbonded_eq partner.unbonded)
      rw [holds] at haddress
      obtain ⟨hmid, hmild, hnews⟩ :=
        device.isTried_zero own without (haddress ▸ pos) hdiscreet
      rw [← haddress] at hmid hnews
      obtain ⟨hafter, hnone⟩ := partner.isTried hmid hmild
      refine ⟨_, _, before.tick env, hreg, hlast, hafter, ?_⟩
      rw [reportsOf_append, milestones_append, hnews, hnone, List.append_nil]
      rfl
  | kept before admitted becomes stays later holds ih =>
    obtain ⟨xs, held, hcomes, hreg, hheld, htried, -⟩ := ih
    obtain ⟨hdiscreet, hreliable⟩ := hcomes.isDiscreet hreg hheld
    obtain ⟨last, hlast, hpassage⟩ :=
      passage_of_becomes hheld hreliable hcomes.wellFormed becomes stays
    cases (status?_of_enrolled? hlast).symm.trans later
    rw [hcomes.upkeep.1] at hpassage
    rw [← reportsOf_storyOf]
    obtain ⟨hafter, hnews⟩ := hpassage.isTried htried before.pos hdiscreet hreliable
      (holds ▸ before.pos)
    exact ⟨_, last, hcomes.next admitted becomes,
      registers_next hreg (Option.isSome_of_eq_some hheld) becomes, hlast, hafter, hnews⟩

theorem Holds.mono {admits others : Driver → Prop} {added : List Action} {node : Node}
    (h : Holds settings draws admits k address ticks x added node)
    (hsub : ∀ driver, admits driver → others driver) :
    Holds settings draws others k address ticks x added node := by
  induction h with
  | drawn before discreet log status own without later holds pos =>
    exact .drawn (before.mono hsub) discreet log status own without later holds pos
  | @kept _ _ x _ _ _ _ _ _ admitted becomes stays later holds ih =>
    refine .kept ih ?_ becomes stays later holds
    cases x with
    | register handle profile driver => exact hsub driver admitted
    | _ => trivial

/-- **Whoever has an address holds it since it was drawn.** -/
theorem Comes.exists_holds {admits : Driver → Prop} {xs : List Happening} {node : Node}
    (h : Comes settings draws admits xs node) (hreg : Registers k Driver.IsDiscreet xs)
    (hk : node.enrolled? k = some after) (own : after.1.isLocal = true)
    (pos : after.1.address ≠ 0) :
    ∃ ticks x added, Holds settings draws admits k after.1.address ticks x added node := by
  obtain ⟨trace, hcourse⟩ := h
  induction hcourse generalizing after with
  | here => simp [enrolled?, withDraws] at hk
  | @next xs trace node x added last hbefore admitted becomes _ ih =>
    have hcomes : Comes settings draws admits xs node := ⟨trace, hbefore⟩
    have hprobe : last.probe? k = some after.2.driver.isProbe := probe?_of_enrolled? hk
    rcases probe?_of_becomes becomes hprobe with ⟨hwas, hstays⟩ | ⟨profile, driver, rfl, -⟩
    · obtain ⟨was, hwas, -⟩ := Option.map_eq_some_iff.1 hwas
      obtain ⟨hdiscreet, hreliable⟩ := hcomes.isDiscreet hreg.of_append hwas
      obtain ⟨later, hlater, hpassage⟩ :=
        passage_of_becomes hwas hreliable hcomes.wellFormed becomes hstays
      cases hk.symm.trans hlater
      have hown : was.1.isLocal = true := (hpassage.isLocal_eq hreliable.mild).symm.trans own
      by_cases hzero : was.1.address = 0
      · -- only a tick gives an address to a driver that has none
        generalize storyOf k added = story at hpassage
        cases hpassage with
        | @tick env =>
          cases becomes with
          | tick _ log =>
            exact ⟨0, _, added, .drawn hcomes hreg.of_append log (status?_of_enrolled? hwas) hown
              hzero (status?_of_enrolled? hk) rfl pos⟩
        | receive silence receipt =>
          exact absurd (receipt.address_eq_zero ⟨hreliable.mild, hreliable.role⟩ hown hzero) pos
        | work => exact absurd hzero pos
        | aside => exact absurd hzero pos
      · obtain ⟨ticks, y, old, hholds⟩ := ih hreg.of_append hwas hown hzero
        obtain ⟨-, held, -, -, hheld, htried, -⟩ := hholds.isTried
        cases hwas.symm.trans hheld
        rw [hcomes.upkeep.1] at hpassage
        have hsame := (hpassage.isTried htried hzero hdiscreet hreliable pos).1.holds
        rw [hsame]
        exact ⟨_, x, added, hholds.kept admitted becomes hstays (status?_of_enrolled? hk) hsame⟩
    · cases becomes with
      | register ok =>
        cases hk.symm.trans (joins_register ok).newcomer
        refine absurd ?_ pos
        show (startStatus node.settings profile).address = 0
        unfold startStatus
        dsimp only
        split <;> rfl

/-! ## What the driver announces -/

/-- The announces among some actions that name an address and a serial number. -/
def hellosAt (address : UInt8) (serial : UInt32) (log : List Action) : List ControlPacket :=
  (hellosOf (framesOf log)).filter fun cp => cp.address == address && cp.serial == serial

theorem hellosAt_eq_nil {serial : UInt32} {log : List Action} (h : hellosOf (framesOf log) = []) :
    hellosAt address serial log = [] := by
  unfold hellosAt
  rw [h]
  rfl

/-- Where ordinary drivers are registered, addresses are in order. -/
theorem Comes.orderly {admits : Driver → Prop} {xs : List Happening} {node : Node}
    (h : Comes settings draws admits xs node)
    (hordinary : ∀ driver, admits driver → driver.IsOrdinary) : node.Orderly := by
  obtain ⟨trace, hcourse⟩ := h
  induction hcourse with
  | here => exact orderly_withDraws settings draws
  | next _ admitted becomes _ ih =>
    cases becomes with
    | register ok => exact ih.register (hordinary _ admitted) ok
    | unregister ok => exact ih.unregister ok
    | receive env frame => exact ih.receiveFrame env frame
    | tick env => exact ih.tick env
    | work held works => exact ih.quiet (quiet_work ih.sound held works)
    | takeLog => exact ⟨⟨ih.sound.wellFormed, ih.sound.entries⟩, ih.lawful, ih.distinct⟩

variable {node last : Node} {added : List Action}

/-- What two logs are told to have added is the same. -/
theorem hellosOf_of_trace {said : List ControlPacket} (hlog : last.log = node.log ++ added)
    (htrace : ∃ other, last.log = node.log ++ other ∧ hellosOf (framesOf other) = said) :
    hellosOf (framesOf added) = said := by
  obtain ⟨other, hother, hsaid⟩ := htrace
  rw [List.append_cancel_left (hlog.symm.trans hother)]
  exact hsaid

/-- No frame makes a node announce an own driver: what is sent back is the announce of another
device. -/
theorem hellosAt_receiveFrame (h : node.Orderly) {t : Tenancy} (ht : node.tenancy? k = some t)
    (hpos : t.address ≠ 0) {env : Env} {frame : Bytes}
    (hlog : (node.receiveFrame env frame).log = node.log ++ added) :
    hellosAt t.address t.serial added = [] := by
  rcases receiveFrame_cases h.sound h.distinct env frame with
    ⟨_, _, _, -, -, -, -, hevolves⟩ | ⟨cp, j, u, hhello, hu, howns, hverdict, mid, hmid, heq⟩ |
    ⟨hquiet, -⟩
  · exact hellosAt_eq_nil (hellosOf_of_trace hlog hevolves.trace)
  · obtain ⟨first, hfirst, hnone⟩ := hmid.trace
    obtain ⟨hframe, htype⟩ := helloOf?_eq_some_iff.1 hhello
    have hsent : hellosOf [cp.flagged.frame] = [cp.flagged] :=
      hellosOf_frame htype (fits_of_ofFrame? hframe).1
    obtain ⟨posted, hposted, hsaid⟩ : ∃ posted, (mid.post env cp.flagged).log =
        mid.log ++ posted ∧ ∀ said ∈ hellosOf (framesOf posted), said = cp.flagged := by
      unfold post
      split
      · rename_i taken htaken
        obtain ⟨-, -, rfl⟩ := Env.controlFrame_eq_ok_iff.1 htaken
        refine ⟨[.sent cp.flagged.frame], rfl, fun said hmem => ?_⟩
        rw [framesOf_sent, hsent] at hmem
        exact List.mem_singleton.1 hmem
      · exact ⟨[], (List.append_nil _).symm, nofun⟩
    have hsplit : added = first ++ posted := by
      refine List.append_cancel_left (hlog.symm.trans ?_)
      rw [heq, hposted, hfirst, List.append_assoc]
    unfold hellosAt
    rw [hsplit, framesOf_append, hellosOf_append, hnone, List.nil_append, List.filter_eq_nil_iff]
    intro said hmem hnames
    rw [hsaid said hmem, Bool.and_eq_true, beq_iff_eq, beq_iff_eq] at hnames
    obtain ⟨haddress, hserial⟩ := hnames
    -- the owner of the announced address is the driver, whose serial number is another one
    have hj : k = j := h.distinct k j t u ht hu hpos (haddress.symm.trans howns.2.symm)
    subst hj
    cases ht.symm.trans hu
    exact (Tenancy.verdict_eq_rebuke_iff.1 hverdict).2.1 hserial.symm
  · exact hellosAt_eq_nil (hellosOf_of_trace hlog hquiet.trace)

/-- An announce shows whether the address is certain. -/
theorem contains_uncertain_announced (was is : Status) :
    (was.announced is).flags.contains ControlFlags.uncertain = is.isUnconfirmed := by
  show (Flags.insertIf is.isUnconfirmed ControlFlags.uncertain _).contains _ = is.isUnconfirmed
  cases is.isUnconfirmed with
  | true => exact Flags.contains_insert_of_subset _ (by decide)
  | false =>
    show (Flags.insertIf is.isPairable ControlFlags.pairable _).contains _ = false
    rw [contains_insertIf_of_disjoint _ _ (by decide),
      contains_insertIf_of_disjoint _ _ (by decide), contains_insertIf_of_disjoint _ _ (by decide)]
    decide

theorem hellosOf_map_frame {said : List ControlPacket}
    (h : ∀ cp ∈ said, cp.type = .hello ∧ cp.payload.length ≤ controlPayloadLimit) :
    hellosOf (said.map ControlPacket.frame) = said := by
  induction said with
  | nil => rfl
  | cons cp rest ih =>
    obtain ⟨htype, hfit⟩ := h cp List.mem_cons_self
    have hfirst : hellosOf [cp.frame] = [cp] := hellosOf_frame htype hfit
    rw [List.map_cons, ← List.singleton_append, hellosOf_append, hfirst,
      ih fun other hother => h other (List.mem_cons_of_mem _ hother)]
    rfl

theorem announced?_eq_some {before after : Node} {cp : ControlPacket}
    (h : before.announced? after k = some cp) : ∃ was is : Kept,
      before.enrolled? k = some was ∧ after.enrolled? k = some is ∧ is.1.isLocal = true ∧
      is.1.address ≠ 0 ∧ cp = (was.1.announced is.1).carrying was.2.driver.payload? := by
  unfold announced? at h
  split at h
  · rename_i was registration is held hwas his
    split at h
    · rename_i hsays
      rw [Bool.and_eq_true, bne_iff_ne] at hsays
      cases h
      exact ⟨(was, registration), (is, held), hwas, his, hsays.1, hsays.2, rfl⟩
    · cases h
  · cases h

/-- What one of several handles alone has. -/
theorem filterMap_eq_singleton {α : Type} {handles : List Handle} (hnodup : handles.Nodup)
    (hmem : k ∈ handles) {f : Handle → Option α} {a : α} (hk : f k = some a)
    (hothers : ∀ j, j ≠ k → f j = none) : handles.filterMap f = [a] := by
  obtain ⟨earlier, later, rfl, hearlier, hlater⟩ := split_of_nodup hnodup hmem
  have hnone : ∀ {rest : List Handle}, k ∉ rest → rest.filterMap f = [] := by
    intro rest hrest
    refine List.filterMap_eq_nil_iff.2 fun j hj => hothers j ?_
    rintro rfl
    exact hrest hj
  rw [List.filterMap_append, List.filterMap_cons, hk, hnone hearlier, hnone hlater]
  rfl

/-- In a tick an own driver announces itself once, if it has an address by then. -/
theorem hellosAt_tick (h : node.Each Entry.IsBrief) (wf : node.registry.WellFormed) {env : Env}
    (hopen : env.refusal = none) (hdistinct : (node.tick env).IsDistinct)
    (hlog : (node.tick env).log = node.log ++ added) (hwas : node.enrolled? k = some before)
    (his : (node.tick env).enrolled? k = some after) (own : after.1.isLocal = true)
    (pos : after.1.address ≠ 0) :
    hellosAt after.1.address after.1.serial added =
      [(before.1.announced after.1).carrying before.2.driver.payload?] := by
  obtain ⟨more, hmore, hframes⟩ := sends_tick h wf hopen
  have hadded : added = more := List.append_cancel_left (hlog.symm.trans hmore)
  have hself : node.announced? (node.tick env) k =
      some ((before.1.announced after.1).carrying before.2.driver.payload?) := by
    rw [announced?_of_enrolled? hwas his, own, Bool.true_and, if_pos (bne_iff_ne.2 pos)]
  have hmem : k ∈ node.drivers := (mem_drivers_iff wf).2 (Option.isSome_of_eq_some hwas)
  unfold hellosAt
  rw [hadded, hframes, hellosOf_map_frame, List.filter_filterMap]
  · refine filterMap_eq_singleton (wf.nodup_handles.filter _) hmem ?_ ?_
    · rw [hself, Option.filter_some, if_pos]
      exact Bool.and_eq_true_iff.2 ⟨beq_self_eq_true _, beq_self_eq_true _⟩
    · intro j hj
      rw [Option.filter_eq_none_iff]
      intro cp hcp hnames
      obtain ⟨was, is, -, hthere, hlocal, -, rfl⟩ := announced?_eq_some hcp
      have haddress : after.1.address = is.1.address :=
        (beq_iff_eq.1 (Bool.and_eq_true_iff.1 hnames).1).symm
      -- no two own drivers have the same address
      exact hj (hdistinct k j _ _ (tenancy?_of_status? (status?_of_enrolled? his) own)
        (tenancy?_of_status? (status?_of_enrolled? hthere) hlocal) pos haddress).symm
  · intro cp hcp
    obtain ⟨j, -, hj⟩ := List.mem_filterMap.1 hcp
    obtain ⟨was, is, hthere, -, -, -, rfl⟩ := announced?_eq_some hj
    exact ⟨rfl, (h.drives hthere).length_carrying rfl⟩

/-- The last that happened to a driver that holds an address. -/
theorem Holds.exists_last {admits : Driver → Prop}
    (h : Holds settings draws admits k address ticks x added last) : ∃ xs node was,
      Comes settings draws admits xs node ∧ Becomes x node added last ∧
      node.enrolled? k = some was ∧ was.1.isLocal = true ∧
      (x.isTick = false → was.1.address = address) := by
  cases h with
  | drawn before _ log status own =>
    obtain ⟨registration, hkept⟩ := before.enrolled_of_own status own
    exact ⟨_, _, _, before, .tick _ log, hkept, own, nofun⟩
  | kept before admitted becomes stays later holds =>
    obtain ⟨xs, was, hcomes, -, hwas, htried, -⟩ := before.isTried
    exact ⟨xs, _, was, hcomes, becomes, hwas, htried.own, fun _ => htried.holds⟩

/-- What a driver announces that holds an address: with every tick the address, as certain as it is,
and nothing in between. -/
theorem Holds.says (h : Holds settings draws Driver.IsBrief k address ticks x added last)
    {is : Kept} (his : last.enrolled? k = some is)
    (htried : is.1.IsTried settings.probationTicks address ticks) :
    (x.isTick = false → hellosAt address is.1.serial added = []) ∧
      ∀ env, x = .tick env → env.refusal = none → ∃ cp,
        hellosAt address is.1.serial added = [cp] ∧
          cp.flags.contains ControlFlags.uncertain = is.1.isUnconfirmed := by
  have hordinary : ∀ driver : Driver, driver.IsBrief → driver.IsOrdinary := fun _ h => h.ordinary
  obtain ⟨xs, node, was, hcomes, becomes, hwas, own, hsame⟩ := h.exists_last
  have horderly := hcomes.orderly hordinary
  obtain ⟨ys, -, hlater, -⟩ := h.isTried
  have htenancy := tenancy?_of_status? (status?_of_enrolled? hwas) own
  refine ⟨fun hnoTick => ?_, fun env hx hopen => ?_⟩
  · cases becomes with
    | register => rfl
    | unregister ok log =>
      exact hellosAt_eq_nil (hellosOf_of_trace log (unregister_spec horderly.sound ok).1.trace)
    | receive env frame log =>
      -- whoever keeps its address keeps its serial number
      obtain ⟨change, said, hevolves, hchange⟩ := receiveFrame_evolves horderly env frame
      have hafter := hevolves.tenancy k
      rw [tenancy?_of_status? (status?_of_enrolled? his) htried.own, htenancy] at hafter
      have hserial : is.1.serial = was.1.serial := by
        have htold := congrArg Tenancy.serial (Option.some.inj hafter)
        rcases hchange k _ htenancy with heq | heq <;> rw [heq] at htold <;> exact htold
      have haddress := hsame rfl
      rw [hserial, ← haddress]
      exact hellosAt_receiveFrame horderly htenancy
        (fun hzero => h.pos (haddress.symm.trans hzero)) log
    | tick => cases hnoTick
    | work => rfl
    | takeLog => rfl
  · subst hx
    cases becomes with
    | tick _ log =>
      have hsaid := hellosAt_tick (hcomes.drives Driver.persists_isBrief) hcomes.wellFormed hopen
        (hlater.orderly hordinary).distinct log hwas his htried.own (htried.holds ▸ h.pos)
      rw [htried.holds] at hsaid
      exact ⟨_, hsaid, contains_uncertain_announced was.1 is.1⟩

/-- **Probation is exact.** In any run, and whatever other drivers do, a discreet own driver that
has an address has held it for a number of ticks. It is connected from the tick on with which that
number reaches the limit, not before and not later, and until then its address is uncertain. Where
no driver sends announces of its own, every tick announces the address, as uncertain exactly before
the limit is reached; nothing else makes the node announce it. -/
theorem probation_of_comes (settings : NodeSettings) (draws : Draws) (k : Handle) :
    (∀ xs node status, Comes settings draws (fun _ => True) xs node →
      Registers k Driver.IsDiscreet xs →
      node.status? k = some status → status.isLocal = true → status.address ≠ 0 →
      ∃ ticks x added,
        Holds settings draws (fun _ => True) k status.address ticks x added node) ∧
    (∀ address ticks x added node,
      Holds settings draws (fun _ => True) k address ticks x added node → ∃ status,
        node.status? k = some status ∧ status.address = address ∧
        (status.isConnected = true ↔ settings.probationTicks.toNat ≤ ticks) ∧
        (status.isUnconfirmed = true ↔ ticks < settings.probationTicks.toNat) ∧
        milestones (reportsOf k added) =
          if x.isTick then newsOf settings.probationTicks address ticks else []) ∧
    ∀ address ticks x added node,
      Holds settings draws Driver.IsBrief k address ticks x added node → ∃ status,
        node.status? k = some status ∧
        (x.isTick = false → hellosAt address status.serial added = []) ∧
        ∀ env, x = .tick env → env.refusal = none → ∃ cp,
          hellosAt address status.serial added = [cp] ∧
          (cp.flags.contains ControlFlags.uncertain = true ↔
            ticks < settings.probationTicks.toNat) := by
  refine ⟨fun xs node status hcomes hreg hstatus own pos => ?_,
    fun address ticks x added node h => ?_, fun address ticks x added node h => ?_⟩
  · obtain ⟨registration, hkept⟩ := hcomes.enrolled_of_own hstatus own
    exact hcomes.exists_holds hreg hkept own pos
  · obtain ⟨-, ⟨status, registration⟩, -, -, hkept, htried, hnews⟩ := h.isTried
    exact ⟨status, status?_of_enrolled? hkept, htried.holds, htried.isConnected_iff,
      htried.isUnconfirmed_iff, hnews⟩
  · obtain ⟨-, ⟨status, registration⟩, -, -, hkept, htried, -⟩ := h.isTried
    obtain ⟨hnone, hsays⟩ := h.says hkept htried
    refine ⟨status, status?_of_enrolled? hkept, hnone, fun env hx hopen => ?_⟩
    obtain ⟨cp, hcp, huncertain⟩ := hsays env hx hopen
    refine ⟨cp, hcp, ?_⟩
    rw [huncertain]
    exact htried.isUnconfirmed_iff

/-- A driver that still shows its address after a tick has held it for one tick more. -/
theorem Holds.tick {admits : Driver → Prop}
    (h : Holds settings draws admits k address ticks x added node) (env : Env)
    (hshows : ((node.tick env).status? k).map (·.address) = some address) :
    ∃ more, Holds settings draws admits k address (ticks + 1) (.tick env) more (node.tick env) := by
  obtain ⟨is, his, haddress⟩ := Option.map_eq_some_iff.1 hshows
  obtain ⟨more, hlog, -⟩ := (spares_tick env node).trace
  have admitted : (Happening.tick env).IsAdmitted admits := trivial
  exact ⟨more, h.kept admitted (.tick env hlog) nofun his haddress⟩

/-- A host is connected with the third tick after the one with which it drew its address, if the
settings are the usual ones, and then its announce is certain. -/
theorem probation_of_drawingHost :
    let node := withDriver ⟨.pairableHost, 5, some 9, some 1⟩ (.pairable (.ofGated .idle))
    ({} : NodeSettings).probationTicks = 3 ∧ ∃ added,
      Holds {} ⟨fun _ => 0, 0⟩ Driver.IsBrief ⟨0, 0⟩ 1 3 (.tick .taking) added
        (node.afterTicks 4) ∧
      (∃ status, (node.afterTicks 4).status? ⟨0, 0⟩ = some status ∧ status.isConnected = true) ∧
      ∃ serial cp, hellosAt 1 serial added = [cp] ∧
        cp.flags.contains ControlFlags.uncertain = false := by
  intro node
  have hlimit : ({} : NodeSettings).probationTicks = 3 := by decide
  have hcomes := comes_withDriver Driver.IsBrief ⟨.pairableHost, 5, some 9, some 1⟩
    (.pairable (.ofGated .idle)) ⟨trivial, nofun⟩
  have hshows : ∀ ticks < 4,
      ((node.afterTicks (ticks + 1)).status? ⟨0, 0⟩).map (·.address) = some 1 := by
    decide +kernel
  obtain ⟨is, his, haddress⟩ := Option.map_eq_some_iff.1 (hshows 0 (by decide))
  obtain ⟨first, hlog, -⟩ := (spares_tick .taking node).trace
  have hdrawn : Holds {} ⟨fun _ => 0, 0⟩ Driver.IsBrief ⟨0, 0⟩ 1 0 (.tick .taking) first
      (node.tick .taking) :=
    .drawn hcomes (fun profile driver hmem =>
      (hcomes.registers ⟨0, 0⟩ profile driver hmem).ordinary.isDiscreet)
      hlog rfl rfl rfl his haddress (by decide)
  obtain ⟨_, hsecond⟩ := hdrawn.tick .taking (hshows 1 (by decide))
  obtain ⟨_, hthird⟩ := hsecond.tick .taking (hshows 2 (by decide))
  obtain ⟨added, hlast⟩ := hthird.tick .taking (hshows 3 (by decide))
  obtain ⟨-, hstatus, hsays⟩ := probation_of_comes {} ⟨fun _ => 0, 0⟩ ⟨0, 0⟩
  obtain ⟨status, hthere, -, hconnected, -⟩ :=
    hstatus _ _ _ _ _ (hlast.mono fun _ _ => trivial)
  obtain ⟨_, -, -, hannounces⟩ := hsays _ _ _ _ _ hlast
  obtain ⟨cp, hcp, huncertain⟩ := hannounces .taking rfl rfl
  rw [hlimit] at hconnected huncertain
  refine ⟨hlimit, added, hlast, ⟨status, hthere, hconnected.2 (by decide)⟩, _, cp, hcp, ?_⟩
  rw [← Bool.not_eq_true]
  exact fun h => absurd (huncertain.1 h) (by decide)

end Node

end DeviceBus
