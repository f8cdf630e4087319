import DeviceBus.Proofs.Node.Protocol
import DeviceBus.Proofs.Pairing.Signs

/-!
# What is not reported

Whether a driver is connected and whether it is paired does not change without a report about the
driver, whatever happens to its node, as long as the driver is there. A driver that is taken out is
reported as well, but only if it is connected.

## Main results

* `unchanged_of_becomes`: a happening that nothing is reported of.
* `unchanged_or_slipsAway`: happenings that nothing is reported of, one after the other.
-/

namespace DeviceBus

open EventKind

/-- A turn that is not reported neither makes nor ends a bond. -/
theorem Standing.Turn.isPaired_eq {before after : Standing} {events : List EventKind}
    (h : Turn before events after) (hquiet : events = []) : after.isPaired = before.isPaired := by
  cases h with
  | stay | ask | retry | follow => rfl
  | bond | agree | renew => cases hquiet
  | letGo =>
    cases before with
    | unpaired => rfl
    | pairing target => cases hquiet
    | paired partner => cases hquiet

/-- Who is reported about in an event of a trace. -/
theorem reportsOf_eq_nil {k : Handle} {trace : List Action}
    (h : ∀ event ∈ eventsOf trace, event.handle ≠ k) : reportsOf k trace = [] := by
  rw [reportsOf_eq_filterMap, List.filterMap_eq_nil_iff]
  exact fun event hevent => if_neg (h event hevent)

namespace Node

variable {k : Handle} {x : Happening} {node start : Node} {role : Role}

theorem Advances.isConfirmed_eq {t u : Tenancy} {reports : List EventKind}
    (h : Advances role t reports u) (hquiet : reports = []) : u.isConfirmed = t.isConfirmed := by
  cases h with
  | still => rfl
  | moved _ _ was is => rw [was, is]
  | _ => cases hquiet

/-- A driver that keeps to its status stays connected, or not, in a story without reports. -/
theorem Story.isConnected_eq {first last : Kept} {story : List Action}
    (h : Story x start k first story last) (hdiscreet : first.2.driver.IsDiscreet)
    (hmode : DeviceFlags.mode first.1.flags = role.flags) (hquiet : reportsOf k story = []) :
    last.1.isConnected = first.1.isConnected := by
  suffices last.2.driver.IsDiscreet ∧ DeviceFlags.mode last.1.flags = role.flags ∧
      last.1.isConnected = first.1.isConnected from this.2.2
  induction h with
  | still => exact ⟨hdiscreet, hmode, rfl⟩
  | more _ episode ih =>
    rw [reportsOf_append, List.append_eq_nil_iff] at hquiet
    obtain ⟨hmid, hmidMode, hsame⟩ := ih hquiet.1
    obtain ⟨hlater, hadvances⟩ := episode.advances hmid hmidMode
    refine ⟨hlater, hadvances.mode_eq.trans hmidMode, ?_⟩
    exact (hadvances.isConfirmed_eq (by rw [hquiet.2]; rfl)).trans hsame

/-- A driver whose standing is not reported about stays paired, or not. -/
theorem Fares.isPaired_eq {limit : UInt8} {stance later : Stance} {events : List EventKind}
    {losses : Nat} (h : Fares limit x stance events losses later) (hquiet : events = []) :
    later.standing.isPaired = stance.standing.isPaired := by
  cases h with
  | tick =>
    unfold Stance.partings at hquiet
    unfold Stance.age
    split
    · rename_i hexceeds
      rw [if_pos hexceeds] at hquiet
      exact (Standing.Turn.letGo stance.standing).isPaired_eq hquiet
    · rfl
  | receive env frame turn => exact turn.isPaired_eq hquiet
  | aside => rfl

/-- What a wait can be about is the same in two statuses. -/
structure IsUnchanged (before after : Status) : Prop where
  connected : after.isConnected = before.isConnected
  paired : after.isPaired = before.isPaired

/-- **A happening that nothing is reported of** leaves a driver that stays connected and paired if it
was, and neither if it was not. -/
theorem unchanged_of_becomes {status : Status} {registration : Registration}
    (hkept : node.enrolled? k = some (status, registration))
    (hfair : registration.driver.Fair status) (wf : node.registry.WellFormed)
    {added : List Action} {after : Node} (becomes : Becomes x node added after)
    (hstays : ∀ env, x ≠ .unregister env k) (hquiet : reportsOf k added = []) :
    ∃ later registration', after.enrolled? k = some (later, registration') ∧
      registration'.driver.Fair later ∧ IsUnchanged status later := by
  obtain ⟨stance, ⟨later, registration', hlater, hfair', rfl⟩, hfares⟩ :=
    fares_of_becomes ⟨status, registration, hkept, hfair, rfl⟩ wf becomes hstays
  obtain ⟨last, hlast, hstory⟩ := story_of_becomes hkept wf becomes hstays
  rw [hlater] at hlast
  cases hlast
  obtain ⟨role, hrole⟩ := hfair.role
  refine ⟨later, registration', hlater, hfair', ?_, ?_⟩
  · exact hstory.isConnected_eq hfair.ordinary.isDiscreet hrole (by rw [reportsOf_storyOf, hquiet])
  · rw [(Status.shows_of_marks hfair'.marks).paired, (Status.shows_of_marks hfair.marks).paired]
    exact hfares.isPaired_eq (by rw [hquiet]; rfl)

/-- A driver is taken out while it is not connected, and nothing was reported about it before. -/
def SlipsAway (admits : Driver → Prop) (k : Handle) (first : Node) (xs : List Happening) : Prop :=
  ∃ earlier env later trace mid status registration,
    xs = earlier ++ .unregister env k :: later ∧
      Course admits (fun _ => True) first earlier trace mid ∧ reportsOf k trace = [] ∧
      mid.enrolled? k = some (status, registration) ∧ status.isConnected = false

/-- **Happenings that nothing is reported of** leave a driver connected and paired if it was, and
neither if it was not, unless it slips away. -/
theorem unchanged_or_slipsAway {admits : Driver → Prop} {first last : Node} {xs : List Happening}
    {trace : List Action} (h : Course admits (fun _ => True) first xs trace last)
    (wf : first.registry.WellFormed) {status : Status} {registration : Registration}
    (hkept : first.enrolled? k = some (status, registration))
    (hfair : registration.driver.Fair status) (hquiet : reportsOf k trace = []) :
    (∃ later registration', last.enrolled? k = some (later, registration') ∧
      registration'.driver.Fair later ∧ IsUnchanged status later) ∨
    SlipsAway admits k first xs := by
  induction h with
  | here => exact .inl ⟨status, registration, hkept, hfair, rfl, rfl⟩
  | @next xs trace node x added after before admitted becomes _ ih =>
    rw [reportsOf_append, List.append_eq_nil_iff] at hquiet
    rcases ih hquiet.1 with ⟨mid, registration', hmid, hfair', hsame⟩ | hslips
    · by_cases hleaves : ∃ env, x = .unregister env k
      · -- who leaves connected is reported
        obtain ⟨env, rfl⟩ := hleaves
        refine .inr ⟨xs, env, [], trace, node, mid, registration', rfl, before, hquiet.1, hmid, ?_⟩
        cases becomes with
        | unregister ok log =>
          have hfarewell := (farewell_of_unregister hmid ok log).1
          rw [hquiet.2] at hfarewell
          cases hconnected : mid.isConnected with
          | false => rfl
          | true =>
            rw [hconnected] at hfarewell
            cases hfarewell
      · have hstays : ∀ env, x ≠ .unregister env k := fun env heq => hleaves ⟨env, heq⟩
        obtain ⟨later, registration'', hlater, hfair'', hsame'⟩ :=
          unchanged_of_becomes hmid hfair' (before.wellFormed wf) becomes hstays hquiet.2
        exact .inl ⟨later, registration'', hlater, hfair'',
          hsame'.connected.trans hsame.connected, hsame'.paired.trans hsame.paired⟩
    · obtain ⟨earlier, env, later, past, mid, was, registration', rfl, hrest⟩ := hslips
      exact .inr ⟨earlier, env, later ++ [x], past, mid, was, registration', by simp, hrest⟩

end Node

end DeviceBus
