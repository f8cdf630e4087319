import DeviceBus.Proofs.Node.Courses

/-!
# The signs of a bond

Where a driver stands with its peer can be seen from outside in two ways: by the flags of its status
and by what is reported about it. Both are in step with what the driver itself knows, whatever
happens to its node: the flags show the standing at any time, and each happening reports what it
does to the standing, once.

## Main results

* `signs_of_comes`: flags and reports are in step with the standing of every driver that pairs.
-/

namespace DeviceBus

open EventKind

namespace Standing

/-- A peer was asked, and did not answer yet. -/
def isPairing : Standing → Bool
  | pairing _ => true
  | _ => false

/-- What is reported when one standing follows on another. The end of a bond and the end of an
attempt are reported as what they are, and a bond is reported when it is made. -/
structure Told (before : Standing) (events : List EventKind) (after : Standing) : Prop where
  unpaired : events.count .unpaired =
    if before.isPaired = true ∧ after = .unpaired then 1 else 0
  rejected : events.count .pairRejected =
    if before.isPairing = true ∧ after = .unpaired then 1 else 0
  paired : ∀ peer, after = .paired peer → before.isPaired = false → events = [.paired peer]
  bonded : ∀ peer, .paired peer ∈ events → after = .paired peer

/-- Every turn is told. -/
theorem Turn.told {before after : Standing} {events : List EventKind}
    (h : Turn before events after) : Told before events after := by
  cases h with
  | stay =>
    cases before with
    | unpaired => exact ⟨rfl, rfl, nofun, nofun⟩
    | pairing target => exact ⟨rfl, rfl, nofun, nofun⟩
    | paired partner => exact ⟨rfl, rfl, nofun, nofun⟩
  | ask | retry | follow => exact ⟨rfl, rfl, nofun, nofun⟩
  | bond peer | agree | renew =>
    refine ⟨rfl, rfl, fun other heq _ => ?_, fun other hmem => ?_⟩
    · cases heq
      rfl
    · cases List.mem_singleton.1 hmem
      rfl
  | letGo =>
    cases before with
    | unpaired => exact ⟨rfl, rfl, nofun, nofun⟩
    | pairing target => exact ⟨rfl, rfl, nofun, by simp [parting]⟩
    | paired partner => exact ⟨rfl, rfl, nofun, by simp [parting]⟩

end Standing

namespace Status

/-- The flags of a status show a standing. -/
structure Shows (status : Status) (standing : Standing) : Prop where
  paired : status.isPaired = standing.isPaired
  pairing : status.isPairing = standing.isPairing
  single : (status.isPaired && status.isPairing) = false

/-- The flags of a fair driver show where it stands. -/
theorem shows_of_marks {status : Status} {standing : Standing}
    (h : status.flags.restrict DeviceFlags.bond = standing.marks) : status.Shows standing := by
  have hcontains : ∀ {asked : DeviceFlags}, asked.IsSubset DeviceFlags.bond →
      status.flags.contains asked = standing.marks.contains asked := by
    intro asked hsub
    rw [← Flags.contains_restrict_of_subset _ hsub, h]
  have hpaired : status.isPaired = standing.isPaired := by
    rw [isPaired, hcontains (by decide)]
    cases standing with
    | unpaired => decide
    | pairing target =>
      exact (by decide : Flags.contains DeviceFlags.pairing DeviceFlags.paired = false)
    | paired partner =>
      exact (by decide : Flags.contains DeviceFlags.paired DeviceFlags.paired = true)
  have hpairing : status.isPairing = standing.isPairing := by
    rw [isPairing, hcontains (by decide)]
    cases standing with
    | unpaired => decide
    | pairing target =>
      exact (by decide : Flags.contains DeviceFlags.pairing DeviceFlags.pairing = true)
    | paired partner =>
      exact (by decide : Flags.contains DeviceFlags.paired DeviceFlags.pairing = false)
  refine ⟨hpaired, hpairing, ?_⟩
  rw [hpaired, hpairing]
  cases standing <;> rfl

end Status

namespace Node

variable {settings : NodeSettings} {draws : Draws} {node : Node}

/-- What a happening does to the standing of a driver is told. -/
theorem Fares.told {limit : UInt8} {x : Happening} {stance later : Stance}
    {events : List EventKind} {losses : Nat} (h : Fares limit x stance events losses later) :
    Standing.Told stance.standing events later.standing := by
  cases h with
  | tick env =>
    unfold Stance.partings Stance.age
    split
    · exact (Standing.Turn.letGo _).told
    · exact (Standing.Turn.stay _).told
  | receive env frame turn => exact turn.told
  | aside => exact (Standing.Turn.stay _).told

/-- A driver that is taken out lets its peer go first, if its device is there. -/
theorem told_of_unregister {k : Handle} {stance : Stance} (h : node.Keeps k stance)
    (hpairs : stance.pairs = true) {env : Env} {left : Option Driver} {after : Node}
    {added : List Action} (ok : node.unregister env k = .ok (left, after))
    (hlog : after.log = node.log ++ added) :
    ∃ driver, left = some (.pairable driver) ∧
      Standing.Told stance.standing (peerOnly (reportsOf k added)) driver.state := by
  obtain ⟨told, hdeparts, rfl, htold⟩ := unregister_cases ok
  have hturn : ∃ reports standing, stance.standing.Turn (peerOnly reports) standing ∧
      Deals k node told { stance with standing } reports 0 := by
    rcases htold with ⟨rfl, -⟩ | ⟨rfl, -⟩
    · exact ⟨[], _, .stay _, .refl h⟩
    · refine ⟨_, .unpaired, ?_, deals_tellRemoved h env⟩
      have honly : peerOnly (.removed :: stance.standing.parting) =
          peerOnly stance.standing.parting := rfl
      rw [honly, (Standing.Turn.letGo _).peerOnly_eq]
      exact .letGo _
  obtain ⟨reports, standing, hturn, hdeals⟩ := hturn
  obtain ⟨driver, hdriver, hstate⟩ := hdeals.keeps.exists_pairable? hpairs
  refine ⟨driver, ?_, ?_⟩
  · obtain ⟨registration, hheld, hkind⟩ := Option.bind_eq_some_iff.1 hdriver
    rw [hheld, Option.map_some, Driver.pairable?_eq_some_iff.1 hkind]
  · obtain ⟨more, hmore, hreports, -⟩ := hdeals.trace
    rw [hdeparts.log, hmore] at hlog
    rw [← List.append_cancel_left hlog, hreports, hstate]
    exact hturn.told

/-- The signs of a driver that pairs: the flags of its status show where it stands, it has no peer
if it was registered in a remote role, and every happening reports what becomes of the bond, and
nothing else about it, even that the driver is taken out. -/
structure Signs (xs : List Happening) (k : Handle) (driver : Pairable) (node : Node) : Prop where
  flags : ∃ status, node.status? k = some status ∧ status.Shows driver.state
  profile : ∃ profile, (k, profile) ∈ rosterOf xs
  remote : ∀ profile, (k, profile) ∈ rosterOf xs → profile.role.isLocal = false →
    driver.state = .unpaired
  reports : ∀ x added after, Becomes x node added after → (∀ env, x ≠ .unregister env k) →
    ∃ later, after.pairable? k = some later ∧
      Standing.Told driver.state (peerOnly (reportsOf k added)) later.state
  farewell : ∀ env left after added, node.unregister env k = .ok (left, after) →
    after.log = node.log ++ added →
    ∃ later, left = some (.pairable later) ∧
      Standing.Told driver.state (peerOnly (reportsOf k added)) later.state

/-- **Flags and reports are in step with every standing.** Whatever happens to a node where drivers
without a peer are registered, the signs of every driver that pairs are what they should be. -/
theorem signs_of_comes {xs : List Happening}
    (h : Comes settings draws Driver.IsUnbonded xs node) {k : Handle} {driver : Pairable}
    (hdriver : node.pairable? k = some driver) : Signs xs k driver node := by
  obtain ⟨stance, hkeeps, hpairs, hstanding⟩ := h.isFair.keeps hdriver
  refine ⟨?_, h.mem_roster hkeeps.probe?, fun profile hroster hremote => ?_,
    fun x added after becomes hstays => ?_, fun env left after added ok hlog => ?_⟩ <;>
    rw [← hstanding]
  · obtain ⟨status, registration, hkept, hfair, rfl⟩ := hkeeps
    refine ⟨status, ?_, Status.shows_of_marks hfair.marks⟩
    unfold status?
    rw [enrolled?_eq_some_iff.1 hkept]
    rfl
  · have hmode := (h.madeFor hroster hkeeps).mode
    obtain ⟨status, registration, -, hfair, rfl⟩ := hkeeps
    refine hfair.remote ?_
    rw [Status.isLocal_eq_mode]
    exact (congrArg (Flags.contains · DeviceFlags.own) hmode).trans hremote
  · obtain ⟨later, hlater, hfares⟩ := fares_of_becomes hkeeps h.wellFormed becomes hstays
    obtain ⟨driver', hdriver', hstate⟩ :=
      hlater.exists_pairable? (hfares.same.2.2.2.trans hpairs)
    refine ⟨driver', hdriver', ?_⟩
    rw [hstate]
    exact hfares.told
  · exact told_of_unregister hkeeps hpairs ok hlog

/-- A pairable host that a device of its class asked to pair. -/
theorem signs_of_askedHost :
    let profile : DriverProfile := ⟨.pairableHost, 7, some 1, some 10⟩
    let asked := (((withDriver profile (.pairable (.ofGated .idle))).tick .taking).receiveFrame
      .taking (pairingMessage ⟨10, 1, 7⟩ askingFlags ⟨20, 2, 7⟩).frame)
    let happened : List Happening := [.register ⟨0, 0⟩ profile (.pairable (.ofGated .idle)),
      .tick .taking, .receive .taking (pairingMessage ⟨10, 1, 7⟩ askingFlags ⟨20, 2, 7⟩).frame]
    ∃ driver, Comes {} ⟨fun _ => 0, 0⟩ Driver.IsUnbonded happened asked ∧
      asked.pairable? ⟨0, 0⟩ = some driver ∧ driver.state = .paired ⟨20, 2, 7⟩ ∧
      Signs happened ⟨0, 0⟩ driver asked := by
  intro profile asked happened
  have hcomes : Comes {} ⟨fun _ => 0, 0⟩ Driver.IsUnbonded happened asked :=
    ((comes_withDriver Driver.IsUnbonded profile (.pairable (.ofGated .idle)) rfl).tick
      .taking).receive .taking _
  obtain ⟨driver, hdriver, hpaired⟩ : ∃ driver,
      asked.pairable? ⟨0, 0⟩ = some driver ∧ driver.state = .paired ⟨20, 2, 7⟩ :=
    Option.map_eq_some_iff.1 (by decide +kernel :
      (asked.pairable? ⟨0, 0⟩).map (fun driver => driver.state) = some (.paired ⟨20, 2, 7⟩))
  exact ⟨driver, hcomes, hdriver, hpaired, signs_of_comes hcomes hdriver⟩

end Node

end DeviceBus
