import DeviceBus.Proofs.Node.Happenings

/-!
# Courses of events

A `Course` is a list of happenings, one after the other, with something that holds of the node all
along. What `Comes` of a fresh node is where a course from the start leads.

Where drivers are registered without a peer, every driver but a probe is fair at any time. Which
drivers there are, in which order they came and what they were registered as can be told from the
happenings alone.

## Main results

* `Comes.isFair`: every driver but a probe is fair at any time.
* `Comes.drivers`, `Comes.madeFor`: the happenings tell which drivers there are, in the order in
  which they were registered, and what they were registered as.
-/

namespace DeviceBus

open EventKind

namespace Node

variable {node : Node}

/-! ## All drivers -/

/-- Who there is after a happening was there before or was just registered. -/
theorem probe?_of_becomes {x : Happening} {added : List Action} {after : Node}
    (becomes : Becomes x node added after) {k : Handle} {isProbe : Bool}
    (h : after.probe? k = some isProbe) :
    (node.probe? k = some isProbe ∧ ∀ env, x ≠ .unregister env k) ∨
      ∃ profile driver, x = .register k profile driver ∧ driver.isProbe = isProbe := by
  have hspares : ∀ {who : Handle → Prop}, Spares who node after →
      node.probe? k = some isProbe := fun hspares => (hspares.probe? k).symm.trans h
  cases becomes with
  | @register _ _ handle profile driver ok =>
    have hjoins := joins_register ok
    by_cases hk : k = handle
    · subst hk
      unfold probe? at h
      rw [hjoins.newcomer] at h
      exact .inr ⟨profile, driver, rfl, Option.some.inj h⟩
    · exact .inl ⟨(probe?_of_enrolled?_eq (hjoins.others k hk)).symm.trans h, fun _ => nofun⟩
  | @unregister _ _ env handle left _ ok log =>
    obtain ⟨told, hdeparts, -, htold⟩ := unregister_cases ok
    by_cases hk : k = handle
    · subst hk
      unfold probe? at h
      rw [hdeparts.gone] at h
      cases h
    · have hmid : told.probe? k = some isProbe :=
        (probe?_of_enrolled?_eq (hdeparts.others k hk)).symm.trans h
      refine .inl ⟨?_, fun other heq => hk (by cases heq; rfl)⟩
      rcases htold with ⟨rfl, -⟩ | ⟨rfl, -⟩
      · exact hmid
      · exact ((spares_tellRemoved env handle node).probe? k).symm.trans hmid
  | receive env frame log =>
    exact .inl ⟨hspares (spares_receiveFrame env frame node), fun _ => nofun⟩
  | tick env log => exact .inl ⟨hspares (spares_tick env node), fun _ => nofun⟩
  | work held works => exact .inl ⟨hspares (spares_work held works), fun _ => nofun⟩
  | takeLog => exact .inl ⟨h, fun _ => nofun⟩

/-- Who is there afterwards was not taken out. -/
theorem stays_of_becomes {x : Happening} {added : List Action} {after : Node}
    (becomes : Becomes x node added after) {k : Handle} {isProbe : Bool}
    (h : after.probe? k = some isProbe) (env : Env) : x ≠ .unregister env k := by
  rintro rfl
  cases becomes with
  | unregister ok =>
    obtain ⟨told, hdeparts, -, -⟩ := unregister_cases ok
    unfold probe? at h
    rw [hdeparts.gone] at h
    cases h

/-- The settings are what they are, the registry stays in order, and the roster is kept. -/
theorem upkeep_of_becomes {x : Happening} {added : List Action} {after : Node}
    (becomes : Becomes x node added after) (wf : node.registry.WellFormed)
    {roster : List (Handle × DriverProfile)} (hroster : node.drivers = roster.map (·.1)) :
    after.settings = node.settings ∧ after.registry.WellFormed ∧
      after.drivers = (x.enroll roster).map (·.1) := by
  have hspares : ∀ {who : Handle → Prop}, Spares who node after →
      after.settings = node.settings ∧ after.registry.WellFormed ∧
        after.drivers = roster.map (·.1) :=
    fun hspares => ⟨hspares.settings, hspares.wellFormed wf, (hspares.drivers wf).trans hroster⟩
  cases becomes with
  | @register _ _ handle profile driver ok =>
    have hjoins := joins_register ok
    refine ⟨hjoins.settings, hjoins.wellFormed wf, ?_⟩
    show after.drivers = (roster ++ [(handle, profile)]).map (·.1)
    rw [hjoins.drivers wf, hroster, List.map_append]
    rfl
  | @unregister _ _ env handle left _ ok log =>
    obtain ⟨told, hdeparts, -, htold⟩ := unregister_cases ok
    have hmid : told.settings = node.settings ∧ told.registry.WellFormed ∧
        told.drivers = node.drivers := by
      rcases htold with ⟨rfl, -⟩ | ⟨rfl, -⟩
      · exact ⟨rfl, wf, rfl⟩
      · have htell := spares_tellRemoved env handle node
        exact ⟨htell.settings, htell.wellFormed wf, htell.drivers wf⟩
    refine ⟨hdeparts.settings.trans hmid.1, hdeparts.wellFormed hmid.2.1, ?_⟩
    rw [hdeparts.drivers, hmid.2.2, hroster, List.filter_map]
    rfl
  | receive env frame log => exact hspares (spares_receiveFrame env frame node)
  | tick env log => exact hspares (spares_tick env node)
  | work held works => exact hspares (spares_work held works)
  | takeLog => exact ⟨rfl, wf, hroster⟩

theorem wellFormed_of_becomes {x : Happening} {added : List Action} {after : Node}
    (becomes : Becomes x node added after) (wf : node.registry.WellFormed) :
    after.registry.WellFormed := by
  have hroster : node.drivers =
      (node.drivers.map fun k => (k, (default : DriverProfile))).map (·.1) := by
    rw [List.map_map]
    exact (List.map_id _).symm
  exact (upkeep_of_becomes becomes wf hroster).2.1

/-- A happening keeps an invariant of entries that holds of who is registered and survives work. -/
theorem each_of_becomes {P : Handle → Entry → Prop} (inv : Entry.IsInvariant (fun _ _ => True) P)
    (hwork : ∀ {handle : Handle} {status : Status} {registration : Registration} {driver : Driver},
      registration.driver.Works driver → P handle ⟨status, .driver registration⟩ →
      P handle ⟨status, .driver { registration with driver }⟩)
    {x : Happening} {added : List Action} {after : Node} (becomes : Becomes x node added after)
    (hnew : ∀ handle profile driver, x = .register handle profile driver →
      node.enrolled? handle = none → P handle ⟨(newcomer node.settings profile driver).1,
        .driver (newcomer node.settings profile driver).2⟩)
    (wf : node.registry.WellFormed) (h : node.Each P) : after.Each P := by
  cases becomes with
  | @register _ _ handle profile driver ok =>
    have hentry := hnew handle profile driver rfl (joins_register ok).fresh
    obtain ⟨registry, hinsert, rfl⟩ := insert_of_register ok
    exact h.insert hinsert hentry
  | unregister ok => exact h.unregister inv ok
  | receive env frame =>
    exact h.receiveFrame inv wf env fun _ _ => ⟨fun _ _ => trivial, fun _ _ _ _ _ => trivial⟩
  | tick env => exact h.tick inv env
  | @work _ handle registration driver held works =>
    obtain ⟨status, hentry⟩ := registration?_eq_some_iff.1 held
    refine h.update (node.registry.get?_modify handle _) ?_
    intro entry hentry' hold
    rw [hentry] at hentry'
    cases hentry'
    exact hwork works hold
  | takeLog => exact h

/-! ## Courses -/

/-- Happenings, one after the other, what they add to the log, and where they lead; `stays` holds of
the node all along. -/
inductive Course (admits : Driver → Prop) (stays : Node → Prop) (first : Node) :
    List Happening → List Action → Node → Prop where
  | here (stay : stays first) : Course admits stays first [] [] first
  | next {xs : List Happening} {trace : List Action} {last : Node} {x : Happening}
      {added : List Action} {after : Node} (before : Course admits stays first xs trace last)
      (admitted : x.IsAdmitted admits) (becomes : Becomes x last added after)
      (stay : stays after) : Course admits stays first (xs ++ [x]) (trace ++ added) after

/-- What comes of a fresh node with some happenings. -/
def Comes (settings : NodeSettings) (draws : Draws) (admits : Driver → Prop)
    (xs : List Happening) (node : Node) : Prop :=
  ∃ trace, Course admits (fun _ => True) (withDraws settings draws) xs trace node

/-- Every driver but a probe is fair. -/
def IsFair (node : Node) : Prop := ∀ k, node.probe? k = some false → ∃ stance, node.Keeps k stance

theorem Keeps.probe? {k : Handle} {stance : Stance} (h : node.Keeps k stance) :
    node.probe? k = some false := by
  obtain ⟨status, registration, hkept, hfair, -⟩ := h
  unfold Node.probe?
  rw [hkept]
  exact congrArg some (Driver.isOrdinary_iff.1 hfair.ordinary)

/-- There is only one stance that a driver has. -/
theorem Keeps.unique {k : Handle} {v w : Stance} (h : node.Keeps k v) (h' : node.Keeps k w) :
    v = w := by
  obtain ⟨status, registration, hkept, -, rfl⟩ := h
  obtain ⟨status', registration', hkept', -, rfl⟩ := h'
  rw [hkept] at hkept'
  cases hkept'
  rfl

/-- The driver of a stance, if it pairs. -/
theorem Keeps.exists_pairable? {k : Handle} {stance : Stance} (h : node.Keeps k stance)
    (hpairs : stance.pairs = true) :
    ∃ driver, node.pairable? k = some driver ∧ driver.state = stance.standing := by
  obtain ⟨status, registration, hkept, -, rfl⟩ := h
  cases hdriver : registration.driver with
  | pairable driver =>
    refine ⟨driver, pairable?_of_get? (enrolled?_eq_some_iff.1 hkept) hdriver, ?_⟩
    unfold Stance.of
    rw [hdriver]
    rfl
  | _ =>
    unfold Stance.of at hpairs
    rw [hdriver] at hpairs
    cases hpairs

/-- The stance of a driver that pairs tells where the driver stands. -/
theorem Keeps.of_pairable? {k : Handle} {stance : Stance} (h : node.Keeps k stance)
    {driver : Pairable} (hdriver : node.pairable? k = some driver) :
    stance.pairs = true ∧ stance.standing = driver.state := by
  obtain ⟨status, registration, hkept, -, rfl⟩ := h
  obtain ⟨held, hheld, hpairs⟩ := Option.bind_eq_some_iff.1 hdriver
  obtain ⟨status', hentry⟩ := registration?_eq_some_iff.1 hheld
  rw [enrolled?_eq_some_iff.2 hentry] at hkept
  cases hkept
  unfold Stance.of
  rw [Driver.pairable?_eq_some_iff.1 hpairs]
  exact ⟨rfl, rfl⟩

theorem probe?_of_pairable? {k : Handle} {driver : Pairable}
    (hdriver : node.pairable? k = some driver) : node.probe? k = some false := by
  obtain ⟨registration, hheld, hpairs⟩ := Option.bind_eq_some_iff.1 hdriver
  obtain ⟨status, hentry⟩ := registration?_eq_some_iff.1 hheld
  unfold probe?
  rw [enrolled?_eq_some_iff.2 hentry, Option.map_some, Driver.pairable?_eq_some_iff.1 hpairs]
  rfl

theorem IsFair.keeps (h : node.IsFair) {k : Handle} {driver : Pairable}
    (hdriver : node.pairable? k = some driver) :
    ∃ stance, node.Keeps k stance ∧ stance.pairs = true ∧ stance.standing = driver.state := by
  obtain ⟨stance, hkeeps⟩ := h k (probe?_of_pairable? hdriver)
  exact ⟨stance, hkeeps, hkeeps.of_pairable? hdriver⟩

/-- A driver that has no peer and is no probe starts fair. -/
theorem fair_newcomer (settings : NodeSettings) (profile : DriverProfile) {driver : Driver}
    (hordinary : driver.IsOrdinary) (hunbonded : driver.IsUnbonded) :
    driver.Fair (startStatus settings profile) := by
  have hstanding : driver.standing = .unpaired := by
    cases driver with
    | pairable p => exact hunbonded
    | _ => rfl
  refine ⟨hordinary, ⟨profile.role, mode_startStatus settings profile⟩, ?_, fun _ => hstanding⟩
  rw [hstanding]
  unfold startStatus
  dsimp only
  obtain ⟨role, deviceClass, serial, wantedAddress⟩ := profile
  split
  · show (role.flags.insert DeviceFlags.confirmed).restrict DeviceFlags.bond = Flags.none
    cases role <;> rfl
  · show role.flags.restrict DeviceFlags.bond = Flags.none
    cases role <;> rfl

/-- The stance of a driver that was just registered. -/
def startStance (settings : NodeSettings) (profile : DriverProfile) (driver : Driver) : Stance :=
  .of (newcomer settings profile driver).1 (newcomer settings profile driver).2

theorem Joins.keeps {handle : Handle} {profile : DriverProfile} {driver : Driver} {after : Node}
    (h : Joins handle profile driver node after) (hordinary : driver.IsOrdinary)
    (hunbonded : driver.IsUnbonded) :
    after.Keeps handle (startStance node.settings profile driver) :=
  ⟨_, _, h.newcomer, fair_newcomer node.settings profile hordinary hunbonded, rfl⟩

/-- Who is fair after a happening was fair before, or was just registered. -/
theorem keeps_of_becomes (hfair : node.IsFair) (wf : node.registry.WellFormed) {x : Happening}
    {added : List Action} {after : Node} (becomes : Becomes x node added after)
    (admitted : x.IsAdmitted Driver.IsUnbonded) {k : Handle} (h : after.probe? k = some false) :
    (∃ stance later, node.Keeps k stance ∧ after.Keeps k later ∧
        (∀ env, x ≠ .unregister env k) ∧
        Fares node.settings.silenceTicks x stance (peerOnly (reportsOf k added))
          (lossesOf k added) later) ∨
      ∃ profile driver, x = .register k profile driver ∧
        after.Keeps k (startStance node.settings profile driver) := by
  rcases probe?_of_becomes becomes h with ⟨hbefore, hstays⟩ | ⟨profile, driver, rfl, hprobe⟩
  · obtain ⟨stance, hkeeps⟩ := hfair k hbefore
    obtain ⟨later, hlater, hfares⟩ := fares_of_becomes hkeeps wf becomes hstays
    exact .inl ⟨stance, later, hkeeps, hlater, hstays, hfares⟩
  · cases becomes with
    | register ok =>
      exact .inr ⟨profile, driver, rfl,
        (joins_register ok).keeps (Driver.isOrdinary_iff.2 hprobe) admitted⟩

section

variable {admits : Driver → Prop} {stays : Node → Prop} {first last : Node} {xs : List Happening}
  {trace : List Action}

theorem Course.upkeep (h : Course admits stays first xs trace last)
    (wf : first.registry.WellFormed) {roster : List (Handle × DriverProfile)}
    (hroster : first.drivers = roster.map (·.1)) :
    last.settings = first.settings ∧ last.registry.WellFormed ∧
      last.drivers = (xs.foldl Happening.enroll roster).map (·.1) := by
  induction h with
  | here => exact ⟨rfl, wf, hroster⟩
  | next _ _ becomes _ ih =>
    obtain ⟨hsettings, hwf, hdrivers⟩ := ih
    obtain ⟨hsettings', hwf', hdrivers'⟩ := upkeep_of_becomes becomes hwf hdrivers
    rw [List.foldl_append]
    exact ⟨hsettings'.trans hsettings, hwf', hdrivers'⟩

/-- A course goes on with a tick. -/
theorem Course.tick (h : Course admits stays first xs trace last) (env : Env)
    (stay : stays (last.tick env)) :
    ∃ trace, Course admits stays first (xs ++ [.tick env]) trace (last.tick env) := by
  obtain ⟨added, hlog, -⟩ := (spares_tick env last).trace
  exact ⟨_, .next h trivial (.tick env hlog) stay⟩

/-- A course goes on with a frame. -/
theorem Course.receive (h : Course admits stays first xs trace last) (env : Env) (frame : Bytes)
    (stay : stays (last.receiveFrame env frame)) :
    ∃ trace, Course admits stays first (xs ++ [.receive env frame]) trace
      (last.receiveFrame env frame) := by
  obtain ⟨added, hlog, -⟩ := (spares_receiveFrame env frame last).trace
  exact ⟨_, .next h trivial (.receive env frame hlog) stay⟩

/-- While the log is not taken, it grows by what the course adds. -/
theorem Course.log_eq (h : Course admits stays first xs trace last)
    (hkept : .takeLog ∉ xs) : last.log = first.log ++ trace := by
  induction h with
  | here => exact (List.append_nil _).symm
  | @next xs trace node x added after before admitted becomes _ ih =>
    have hgrows : after.log = node.log ++ added := by
      cases becomes with
      | register ok => exact (joins_register ok).log.trans (List.append_nil _).symm
      | unregister ok log => exact log
      | receive env frame log => exact log
      | tick env log => exact log
      | work held works => exact (List.append_nil _).symm
      | takeLog => exact absurd (List.mem_append_right _ List.mem_cons_self) hkept
    rw [hgrows, ih fun hmem => hkept (List.mem_append_left _ hmem), List.append_assoc]

/-- Drivers that are admitted are admitted where more are. -/
theorem Course.mono {others : Driver → Prop} (h : Course admits stays first xs trace last)
    (hsub : ∀ driver, admits driver → others driver) :
    Course others stays first xs trace last := by
  induction h with
  | here stay => exact .here stay
  | @next xs trace node x added after _ admitted becomes stay ih =>
    refine .next ih ?_ becomes stay
    cases x with
    | register handle profile driver => exact hsub driver admitted
    | _ => trivial

/-- What holds all along holds where a course leads. -/
theorem Course.stay (h : Course admits stays first xs trace last) : stays last := by
  cases h with
  | here stay => exact stay
  | next _ _ _ stay => exact stay

/-- What every happening keeps holds all along. -/
theorem Course.holds {J : Node → Prop} (h : Course admits stays first xs trace last)
    (hfirst : J first) (hstep : ∀ {x : Happening} {added : List Action} {node after : Node},
      x ∈ xs → Becomes x node added after → J node → J after) :
    Course admits (fun node => stays node ∧ J node) first xs trace last := by
  induction h with
  | here stay => exact .here ⟨stay, hfirst⟩
  | next before admitted becomes stay ih =>
    have hbefore := ih fun hmem => hstep (List.mem_append_left _ hmem)
    exact .next hbefore admitted becomes
      ⟨stay, hstep (List.mem_append_right _ List.mem_cons_self) becomes hbefore.stay.2⟩

theorem Course.wellFormed (h : Course admits stays first xs trace last)
    (wf : first.registry.WellFormed) : last.registry.WellFormed :=
  (h.holds wf fun _ becomes wf => wellFormed_of_becomes becomes wf).stay.2

/-- A driver that is fair and is not taken out is fair all along. -/
theorem Course.keeps (h : Course admits stays first xs trace last)
    (wf : first.registry.WellFormed) {k : Handle} {stance : Stance}
    (hkeeps : first.Keeps k stance) (hstays : ∀ env, .unregister env k ∉ xs) :
    Course admits (fun node => stays node ∧ node.registry.WellFormed ∧
      ∃ stance, node.Keeps k stance) first xs trace last := by
  refine h.holds ⟨wf, stance, hkeeps⟩ ?_
  rintro x added node after hmem becomes ⟨wf, stance, hkeeps⟩
  obtain ⟨later, hlater, -⟩ := fares_of_becomes hkeeps wf becomes fun env heq =>
    hstays env (heq ▸ hmem)
  exact ⟨wellFormed_of_becomes becomes wf, later, hlater⟩

/-- Everything along a course stays fair. -/
theorem Course.isFair (h : Course Driver.IsUnbonded stays first xs trace last)
    (wf : first.registry.WellFormed) {roster : List (Handle × DriverProfile)}
    (hroster : first.drivers = roster.map (·.1)) (hfair : first.IsFair) : last.IsFair := by
  induction h with
  | here => exact hfair
  | next before admitted becomes _ ih =>
    obtain ⟨-, hwf, -⟩ := before.upkeep wf hroster
    intro k hk
    rcases keeps_of_becomes ih hwf becomes admitted hk with
      ⟨stance, later, -, hlater, -⟩ | ⟨profile, driver, -, hkeeps⟩
    · exact ⟨later, hlater⟩
    · exact ⟨_, hkeeps⟩

end

/-- Nobody else is registered under the handle of a driver. -/
theorem registers_next {k : Handle} {kind : Driver → Prop} {xs : List Happening}
    (h : Registers k kind xs) (hk : (node.enrolled? k).isSome = true) {x : Happening}
    {added : List Action} {after : Node} (becomes : Becomes x node added after) :
    Registers k kind (xs ++ [x]) := by
  intro profile driver hmem
  rcases List.mem_append.1 hmem with hold | hlast
  · exact h profile driver hold
  · have hx := List.mem_singleton.1 hlast
    subst hx
    cases becomes with
    | register ok =>
      rw [(joins_register ok).fresh] at hk
      cases hk

namespace Comes

variable {settings : NodeSettings} {draws : Draws} {admits : Driver → Prop} {xs : List Happening}

theorem start : Comes settings draws admits [] (withDraws settings draws) := ⟨[], .here trivial⟩

theorem mono {others : Driver → Prop} (h : Comes settings draws admits xs node)
    (hsub : ∀ driver, admits driver → others driver) : Comes settings draws others xs node := by
  obtain ⟨trace, hcourse⟩ := h
  exact ⟨trace, hcourse.mono hsub⟩

/-- Only admitted drivers were registered, under any handle. -/
theorem registers (h : Comes settings draws admits xs node) (k : Handle) :
    Registers k admits xs := by
  obtain ⟨trace, hcourse⟩ := h
  induction hcourse with
  | here => exact fun _ _ hmem => (List.not_mem_nil hmem).elim
  | next _ admitted _ _ ih =>
    intro profile driver hmem
    rcases List.mem_append.1 hmem with hold | hlast
    · exact ih profile driver hold
    · rw [← List.mem_singleton.1 hlast] at admitted
      exact admitted

theorem next (h : Comes settings draws admits xs node) {x : Happening} {added : List Action}
    {after : Node} (admitted : x.IsAdmitted admits) (becomes : Becomes x node added after) :
    Comes settings draws admits (xs ++ [x]) after := by
  obtain ⟨trace, hcourse⟩ := h
  exact ⟨_, .next hcourse admitted becomes trivial⟩

/-- Any happening goes where any driver is admitted. -/
theorem next_of_true (h : Comes settings draws (fun _ => True) xs node) {x : Happening}
    {added : List Action} {after : Node} (becomes : Becomes x node added after) :
    Comes settings draws (fun _ => True) (xs ++ [x]) after := by
  refine h.next ?_ becomes
  cases x <;> trivial

theorem tick (h : Comes settings draws admits xs node) (env : Env) :
    Comes settings draws admits (xs ++ [.tick env]) (node.tick env) := by
  obtain ⟨added, hlog, -⟩ := (spares_tick env node).trace
  exact h.next trivial (.tick env hlog)

theorem receive (h : Comes settings draws admits xs node) (env : Env) (frame : Bytes) :
    Comes settings draws admits (xs ++ [.receive env frame]) (node.receiveFrame env frame) := by
  obtain ⟨added, hlog, -⟩ := (spares_receiveFrame env frame node).trace
  exact h.next trivial (.receive env frame hlog)

theorem afterTicks (h : Comes settings draws admits xs node) (ticks : Nat) :
    Comes settings draws admits (xs ++ List.replicate ticks (.tick .taking))
      (node.afterTicks ticks) := by
  induction ticks with
  | zero => rwa [List.replicate_zero, List.append_nil]
  | succ ticks ih =>
    rw [List.replicate_succ', ← List.append_assoc, afterTicks_succ]
    exact ih.tick .taking

theorem drivers_withDraws (settings : NodeSettings) (draws : Draws) :
    (withDraws settings draws).drivers =
      ([] : List (Handle × DriverProfile)).map (·.1) := rfl

/-- The upkeep of what comes of a fresh node. -/
theorem upkeep (h : Comes settings draws admits xs node) :
    node.settings = settings ∧ node.registry.WellFormed ∧
      node.drivers = (rosterOf xs).map (·.1) := by
  obtain ⟨trace, hcourse⟩ := h
  exact hcourse.upkeep (Registry.WellFormed.empty _) (drivers_withDraws settings draws)

theorem wellFormed (h : Comes settings draws admits xs node) : node.registry.WellFormed :=
  h.upkeep.2.1

/-- **The roster.** The happenings tell which drivers there are, the oldest first. -/
theorem drivers (h : Comes settings draws admits xs node) :
    node.drivers = (rosterOf xs).map (·.1) := h.upkeep.2.2

theorem mem_roster (h : Comes settings draws admits xs node) {k : Handle} {isProbe : Bool}
    (hk : node.probe? k = some isProbe) : ∃ profile, (k, profile) ∈ rosterOf xs := by
  obtain ⟨kept, hkept, -⟩ := Option.map_eq_some_iff.1 hk
  have hmem := (mem_drivers_iff h.wellFormed).2 (Option.isSome_iff_exists.2 ⟨kept, hkept⟩)
  rw [h.drivers] at hmem
  obtain ⟨⟨handle, profile⟩, hroster, rfl⟩ := List.mem_map.1 hmem
  exact ⟨profile, hroster⟩

theorem isSome_of_mem_roster (h : Comes settings draws admits xs node) {k : Handle}
    {profile : DriverProfile} (hk : (k, profile) ∈ rosterOf xs) :
    (node.enrolled? k).isSome = true := by
  refine (mem_drivers_iff h.wellFormed).1 ?_
  rw [h.drivers]
  exact List.mem_map_of_mem hk

/-- Every driver but a probe is fair, if drivers without a peer are registered. -/
theorem isFair (h : Comes settings draws Driver.IsUnbonded xs node) : node.IsFair := by
  obtain ⟨trace, hcourse⟩ := h
  refine hcourse.isFair (Registry.WellFormed.empty _) (drivers_withDraws settings draws)
    fun k hk => ?_
  cases hk

end Comes

/-- The stance of a driver that was registered with a profile. -/
structure MadeFor (settings : NodeSettings) (profile : DriverProfile) (stance : Stance) :
    Prop where
  mode : stance.mode = profile.role.flags
  deviceClass : stance.deviceClass = (startStatus settings profile).deviceClass
  requiredSerial :
    stance.requiredSerial = if profile.role.isLocal then 0 else startSerial settings profile

/-- A driver is what it was registered as. -/
theorem Comes.madeFor {settings : NodeSettings} {draws : Draws} {xs : List Happening}
    (h : Comes settings draws Driver.IsUnbonded xs node) {k : Handle} {profile : DriverProfile}
    (hk : (k, profile) ∈ rosterOf xs) {stance : Stance} (hkeeps : node.Keeps k stance) :
    MadeFor settings profile stance := by
  obtain ⟨trace, hcourse⟩ := h
  induction hcourse generalizing stance with
  | here => cases hk
  | @next xs trace node x added after before admitted becomes _ ih =>
    have hcomes : Comes settings draws Driver.IsUnbonded xs node := ⟨trace, before⟩
    rw [rosterOf_append_singleton] at hk
    rcases keeps_of_becomes hcomes.isFair hcomes.wellFormed becomes admitted hkeeps.probe? with
      ⟨was, later, hwas, hlater, -, hfares⟩ | ⟨other, driver, rfl, hstart⟩
    · rcases x.mem_enroll hk with hold | ⟨driver, rfl⟩
      · have hmade := ih hold hwas
        obtain ⟨hmode, hclass, hserial, -⟩ := hfares.same
        rw [hkeeps.unique hlater]
        exact ⟨hmode.trans hmade.mode, hclass.trans hmade.deviceClass,
          hserial.trans hmade.requiredSerial⟩
      · cases becomes with
        | register ok =>
          -- The handle of a newcomer was nobody's.
          obtain ⟨status, registration, hkept, -⟩ := hwas
          rw [(joins_register ok).fresh] at hkept
          cases hkept
    · cases becomes with
      | register ok =>
        rcases Happening.mem_enroll hk with hk | ⟨newcomer, heq⟩
        · have hsome := hcomes.isSome_of_mem_roster hk
          rw [(joins_register ok).fresh] at hsome
          cases hsome
        · cases heq
          rw [hkeeps.unique hstart, ← hcomes.upkeep.1]
          exact ⟨mode_startStatus _ profile, rfl, rfl⟩

/-- A course of ticks alone. -/
theorem exists_course_afterTicks (admits : Driver → Prop) {stays : Node → Prop} {ticks : Nat}
    {node : Node} (hstays : ∀ i ≤ ticks, stays (node.afterTicks i)) :
    ∃ trace, Course admits stays node (List.replicate ticks (.tick .taking)) trace
      (node.afterTicks ticks) := by
  induction ticks with
  | zero => exact ⟨[], .here (hstays 0 (Nat.le_refl 0))⟩
  | succ ticks ih =>
    obtain ⟨trace, hcourse⟩ := ih fun i hi => hstays i (Nat.le_succ_of_le hi)
    have hlast := hstays (ticks + 1) (Nat.le_refl _)
    rw [afterTicks_succ] at hlast ⊢
    rw [List.replicate_succ']
    exact hcourse.tick .taking hlast

/-- A node that one driver was registered with. -/
theorem comes_withDriver (admits : Driver → Prop) (profile : DriverProfile) (driver : Driver)
    (hadmits : admits driver) :
    Comes {} ⟨fun _ => 0, 0⟩ admits [.register ⟨0, 0⟩ profile driver]
      (withDriver profile driver) := by
  refine Comes.start.next (x := .register ⟨0, 0⟩ profile driver) hadmits (.register ?_)
  rfl

end Node

end DeviceBus
