import DeviceBus.Proofs.Node.Adoption

/-!
# Discovery

A virtual driver waits until a device of its class announces itself, is connected to it, follows it,
and waits again when the device is gone. Which driver gets a device is settled by age. So no two
drivers ever follow one device, and a driver that was registered with a serial number follows that
device only.

All drivers are mild here: what they were registered as and whether their devices are there is for
the node to say.

## Main results

* `Comes.serves_of_registers`: a mild driver is what it was registered as.
* `Comes.seated`: no device has two drivers, and no driver a device that is not its own.
* `discovery_of_comes`: both of these, and that an announce connects one driver or none, in terms of
  what the drivers were registered as.
-/

namespace DeviceBus

open ControlPacket EventKind

namespace Node

/-! ## What drivers were registered as -/

/-- The serial number that a driver returns to: for a remote one the number that it was registered
with. -/
def returnSerial (settings : NodeSettings) (profile : DriverProfile) : UInt32 :=
  if profile.role.isLocal then 0 else startSerial settings profile

/-- A node has a mild driver that was registered with a profile. -/
structure Serves (settings : NodeSettings) (k : Handle) (profile : DriverProfile) (status : Status)
    (node : Node) : Prop where
  has : node.Has k (returnSerial settings profile) status
  mode : DeviceFlags.mode status.flags = profile.role.flags
  deviceClass : status.deviceClass = (startStatus settings profile).deviceClass

end Node

/-- What an entry is, if it is under a handle and a mild driver was registered there. -/
def Entry.FitsAt (k : Handle) (settings : NodeSettings) (profile : DriverProfile) (handle : Handle)
    (entry : Entry) : Prop :=
  handle = k → ∀ registration, entry.kind = .driver registration →
    registration.driver.IsMild ∧
      registration.requiredSerial = Node.returnSerial settings profile ∧
      DeviceFlags.mode entry.status.flags = profile.role.flags ∧
      entry.status.deviceClass = (Node.startStatus settings profile).deviceClass

/-- Nothing changes what a driver was registered as. -/
theorem Entry.isInvariant_fitsAt (k : Handle) (settings : NodeSettings) (profile : DriverProfile) :
    Entry.IsInvariant (fun _ _ => True) (Entry.FitsAt k settings profile) where
  record _ _ _ _ _ hkind := by cases hkind
  restate hmode hclass h hk registration hkind := by
    obtain ⟨hmild, hserial, hmode', hclass'⟩ := h hk registration hkind
    exact ⟨hmild, hserial, hmode.trans hmode', hclass.trans hclass'⟩
  rebook hdriver hserial h hk registration hkind := by
    cases hkind
    rw [hdriver, hserial]
    exact h hk _ rfl
  tell {callback ctx registration} _ h hk other hkind := by
    cases hkind
    obtain ⟨hmild, hserial, hmode, hclass⟩ := h hk _ rfl
    have hreply := hmild.respond callback ctx
    exact ⟨hreply.mild, hserial, (Status.mode_of_official_eq hreply.official).trans hmode,
      (Status.deviceClass_of_official_eq hreply.official).trans hclass⟩

namespace Node

variable {settings : NodeSettings} {draws : Draws} {xs : List Happening} {node : Node} {k : Handle}
  {profile : DriverProfile}

theorem Serves.each {status : Status} (h : node.Serves settings k profile status) :
    node.Each (Entry.FitsAt k settings profile) := by
  intro handle entry hentry hk registration hkind
  obtain ⟨other, hkept, hmild, hserial, -⟩ := h.has
  subst hk
  rw [enrolled?_eq_some_iff.1 hkept] at hentry
  cases hentry
  cases hkind
  exact ⟨hmild, hserial, h.mode, h.deviceClass⟩

theorem each_fitsAt_of_fresh (h : node.enrolled? k = none) (settings : NodeSettings)
    (profile : DriverProfile) : node.Each (Entry.FitsAt k settings profile) := by
  rintro handle ⟨status, kind⟩ hentry hk registration rfl
  subst hk
  rw [enrolled?_eq_some_iff.2 hentry] at h
  cases h

/-- **A mild driver is what it was registered as**, whatever the other drivers are. -/
theorem Comes.serves_of_registers {admits : Driver → Prop}
    (h : Comes settings draws admits xs node) (hmild : Registers k Driver.IsMild xs)
    (hk : (k, profile) ∈ rosterOf xs) : ∃ status, node.Serves settings k profile status := by
  obtain ⟨trace, hcourse⟩ := h
  induction hcourse with
  | here => cases hk
  | @next xs trace node x added after before admitted becomes _ ih =>
    have hcomes : Comes settings draws admits xs node := ⟨trace, before⟩
    obtain ⟨⟨status, registration⟩, hkept⟩ :=
      Option.isSome_iff_exists.1 ((hcomes.next admitted becomes).isSome_of_mem_roster hk)
    rw [rosterOf_append_singleton] at hk
    have heach := fun hnew => each_of_becomes (Entry.isInvariant_fitsAt k settings profile)
      (fun works hold hk registration hkind => by
        cases hkind
        obtain ⟨hmild, hrest⟩ := hold hk _ rfl
        exact ⟨hmild.works works, hrest⟩) becomes hnew hcomes.wellFormed
    have hfits : after.Each (Entry.FitsAt k settings profile) := by
      rcases x.mem_enroll hk with hold | ⟨driver, rfl⟩
      · obtain ⟨was, hserves⟩ := ih hmild.of_append hold
        refine heach (fun handle other driver hx hfresh hhandle => ?_) hserves.each
        -- The handle of a newcomer was nobody's.
        obtain ⟨held, hheld, -⟩ := hserves.has
        rw [← hhandle, hfresh] at hheld
        cases hheld
      · have hfresh : node.enrolled? k = none := by
          cases becomes with
          | register ok => exact (joins_register ok).fresh
        refine heach (fun handle other newcomer hx _ _ held hheld => ?_)
          (each_fitsAt_of_fresh hfresh settings profile)
        cases hx
        cases hheld
        rw [hcomes.upkeep.1]
        have hnewcomer := hmild profile driver (List.mem_append_right _ List.mem_cons_self)
        exact ⟨hnewcomer, rfl, mode_startStatus settings profile, rfl⟩
    obtain ⟨hmild, hserial, hmode, hclass⟩ :=
      hfits k _ (enrolled?_eq_some_iff.1 hkept) rfl registration rfl
    exact ⟨status, ⟨registration, hkept, hmild, hserial, profile.role, hmode⟩, hmode, hclass⟩

theorem Comes.serves (h : Comes settings draws Driver.IsMild xs node)
    (hk : (k, profile) ∈ rosterOf xs) : ∃ status, node.Serves settings k profile status :=
  h.serves_of_registers (h.registers k) hk

theorem Comes.isMild (h : Comes settings draws Driver.IsMild xs node) : node.IsMild := by
  intro k hk
  obtain ⟨kept, hkept⟩ := Option.isSome_iff_exists.1 hk
  have hprobe : node.probe? k = some kept.2.driver.isProbe := probe?_of_enrolled? hkept
  obtain ⟨profile, hmember⟩ := h.mem_roster hprobe
  obtain ⟨status, hserves⟩ := h.serves hmember
  exact ⟨_, status, hserves.has⟩

/-! ## Drivers that are registered as virtual -/

end Node

/-- The serial number that a remote driver is registered for; 0 for any. -/
def DriverProfile.pinned (profile : DriverProfile) : UInt32 := profile.serial.getD 0

namespace Node

variable {settings : NodeSettings} {draws : Draws} {xs : List Happening} {node : Node} {k : Handle}
  {pinned : UInt32} {profile : DriverProfile} {roster : List (Handle × DriverProfile)}

/-- A driver that was registered as virtual, and its status. -/
structure Virtual (roster : List (Handle × DriverProfile)) (node : Node) (k : Handle)
    (profile : DriverProfile) (status : Status) : Prop where
  member : (k, profile) ∈ roster
  role : profile.role = .virtual
  status : node.status? k = some status

/-- The status of a virtual driver that has no device. -/
def vacantFor (settings : NodeSettings) (profile : DriverProfile) : Status :=
  ⟨0, 0, Role.virtual.flags, profile.pinned, (startStatus settings profile).deviceClass⟩

theorem isConnected_vacantFor (settings : NodeSettings) (profile : DriverProfile) :
    (vacantFor settings profile).isConnected = false := by
  show Role.virtual.flags.contains DeviceFlags.confirmed = false
  decide

theorem startSerial_of_virtual (settings : NodeSettings) (hrole : profile.role = .virtual) :
    startSerial settings profile = profile.pinned := by
  unfold startSerial DriverProfile.pinned
  cases profile.serial with
  | some serial => rfl
  | none =>
    rw [hrole]
    exact if_neg (by decide)

/-- A virtual driver starts without a device. -/
theorem startStatus_of_virtual (settings : NodeSettings) (hrole : profile.role = .virtual) :
    startStatus settings profile = vacantFor settings profile := by
  have hstart : startStatus settings profile = Status.ofRole .virtual
      (if profile.deviceClass = 0 then settings.defaultClass else profile.deviceClass)
      profile.pinned := by
    unfold startStatus
    dsimp only
    rw [hrole, if_neg (by decide), startSerial_of_virtual settings hrole]
  unfold vacantFor
  rw [hstart]
  rfl

/-- A virtual driver is a mild driver that returns to the serial number it was registered for. -/
theorem Virtual.serves_of_registers {admits : Driver → Prop}
    (h : Comes settings draws admits xs node) (hmild : Registers k Driver.IsMild xs)
    {status : Status} (hv : Virtual (rosterOf xs) node k profile status) :
    node.Has k profile.pinned status ∧ status.isVirtual = true ∧
      status.vacated profile.pinned = vacantFor settings profile := by
  obtain ⟨other, hserves⟩ := h.serves_of_registers hmild hv.member
  obtain ⟨hhas, hmode, hclass⟩ := hserves
  cases hhas.status_eq hv.status
  have hserial : returnSerial settings profile = profile.pinned := by
    unfold returnSerial
    rw [startSerial_of_virtual settings hv.role, hv.role]
    exact if_neg (by decide)
  rw [hserial] at hhas
  refine ⟨hhas, ?_, ?_⟩
  · rw [Status.isVirtual_eq_mode, hmode, hv.role]
    decide
  · unfold Status.vacated vacantFor
    rw [hmode, hclass, hv.role]

theorem Virtual.serves (h : Comes settings draws Driver.IsMild xs node) {status : Status}
    (hv : Virtual (rosterOf xs) node k profile status) :
    node.Has k profile.pinned status ∧ status.isVirtual = true ∧
      status.vacated profile.pinned = vacantFor settings profile :=
  hv.serves_of_registers h (h.registers k)

/-! ## Who has which device -/

/-- No device has two drivers, no driver a device that is not its own, and a driver that has no
device is vacant. -/
structure Seated (settings : NodeSettings) (roster : List (Handle × DriverProfile)) (node : Node) :
    Prop where
  injective : ∀ {j k p q s t}, Virtual roster node j p s → Virtual roster node k q t →
    s.isConnected = true → t.isConnected = true → s.serial = t.serial →
    s.deviceClass = t.deviceClass → j = k
  pinned : ∀ {k p s}, Virtual roster node k p s → s.isConnected = true → p.pinned ≠ 0 →
    s.serial = p.pinned
  vacant : ∀ {k p s}, Virtual roster node k p s → s.isConnected = false →
    s = vacantFor settings p

theorem Seated.isBare {status : Status} (h : Seated settings roster node)
    (hv : Virtual roster node k profile status) : IsBare status := by
  intro hoff
  rw [h.vacant hv hoff]
  show Role.virtual.flags.restrict DeviceFlags.bond = Flags.none
  decide

/-- Where the status of a virtual driver comes from. -/
theorem Seated.origin (seated : Seated settings (rosterOf xs) node)
    (h : Comes settings draws Driver.IsMild xs node) {x : Happening} {added : List Action}
    {after : Node} (admitted : x.IsAdmitted Driver.IsMild) (becomes : Becomes x node added after)
    {later : Status} (hv : Virtual (rosterOf (xs ++ [x])) after k profile later) :
    (∃ status, Virtual (rosterOf xs) node k profile status ∧ status.Tracks later) ∨
      later = vacantFor settings profile ∨
      ∃ cp status, Virtual (rosterOf xs) node k profile status ∧ Adopts cp k node after ∧
        awaits cp status = true ∧ Meets cp status later := by
  have hhas := (hv.serves (h.next admitted becomes)).1
  have hmember := hv.member
  rw [rosterOf_append_singleton] at hmember
  by_cases hold : (k, profile) ∈ rosterOf xs
  · obtain ⟨status, hserves⟩ := h.serves hold
    have hbefore : Virtual (rosterOf xs) node k profile status :=
      ⟨hold, hv.role, hserves.has.status?⟩
    obtain ⟨hk, hvirtual, hvacated⟩ := hbefore.serves h
    have hfate : Fate k profile.pinned status after →
        (∃ status, Virtual (rosterOf xs) node k profile status ∧ status.Tracks later) ∨
          later = vacantFor settings profile := by
      rintro ⟨other, hother, hfate⟩
      cases hother.status_eq hv.status
      rw [hvacated] at hfate
      exact hfate.imp_left fun htracks => ⟨status, hbefore, htracks⟩
    have hstays : ∀ env, x ≠ .unregister env k := by
      obtain ⟨registration, hkept, -⟩ := hhas
      have hprobe : after.probe? k = some registration.driver.isProbe := probe?_of_enrolled? hkept
      exact stays_of_becomes becomes hprobe
    rcases fate_or_adopts h.isMild h.wellFormed becomes with hfates | ⟨cp, j, hadopts⟩
    · exact (hfate (hfates k _ status hk hvirtual (seated.isBare hbefore) hstays)).imp_right .inl
    · by_cases hj : k = j
      · subst hj
        obtain ⟨pinned, was, found, hwas, hawaits, hleads, hmeets⟩ := hadopts.connects
        cases hwas.status_eq hbefore.status
        cases hleads.has.status_eq hv.status
        exact .inr (.inr ⟨cp, status, hbefore, hadopts, hawaits, hmeets⟩)
      · exact (hfate ((hadopts.others k _ status hj hk).fate hvirtual)).imp_right .inl
  · rcases x.mem_enroll hmember with hmember | ⟨driver, rfl⟩
    · exact absurd hmember hold
    · cases becomes with
      | register ok =>
        refine .inr (.inl ?_)
        have hstatus := hv.status
        rw [status?_of_enrolled? (joins_register ok).newcomer, h.upkeep.1] at hstatus
        exact (Option.some.inj hstatus).symm.trans (startStatus_of_virtual settings hv.role)

/-- A device that an announce connects to a driver is nobody's. -/
theorem Adopts.not_connected {cp : ControlPacket} {j : Handle} {status : Status} {after : Node}
    (hadopts : Adopts cp j node after) (h : Comes settings draws Driver.IsMild xs node)
    (hv : Virtual (rosterOf xs) node k profile status) (hserial : status.serial = cp.serial)
    (hclass : status.deviceClass = cp.deviceClass) : status.isConnected = false := by
  obtain ⟨hk, hvirtual, -⟩ := hv.serves h
  rw [← Bool.not_eq_true]
  intro hon
  have hfollows := follows_iff.2 ⟨hvirtual, hon, hserial, hclass⟩
  rw [hadopts.unfollowed k _ status hk] at hfollows
  cases hfollows

/-- Who waited and is connected now is the one that the announce connects. -/
theorem Adopts.eq_of_connected {cp : ControlPacket} {j : Handle} {status later : Status}
    {after : Node} (hadopts : Adopts cp j node after) (hk : node.Has k pinned status)
    (hoff : status.isConnected = false) (hs : after.status? k = some later)
    (hon : later.isConnected = true) : j = k := by
  by_contra hne
  obtain ⟨heard, hleads, hminds⟩ := hadopts.others k _ status (Ne.symm hne) hk
  cases hleads.has.status_eq hs
  rw [hminds.connected hon] at hoff
  cases hoff

/-- Whatever happens, drivers and devices stay seated. -/
theorem Seated.next (seated : Seated settings (rosterOf xs) node)
    (h : Comes settings draws Driver.IsMild xs node) {x : Happening} {added : List Action}
    {after : Node} (admitted : x.IsAdmitted Driver.IsMild) (becomes : Becomes x node added after) :
    Seated settings (rosterOf (xs ++ [x])) after where
  injective := by
    -- A device that was kept is not one that was just found, and only one was found.
    intro j k p q s t hj hk hs ht hserial hclass
    rcases seated.origin h admitted becomes hj with
      ⟨s', hj', htracks⟩ | rfl | ⟨cp, s', hj', hadopts, hawaits, hmeets⟩
    · obtain ⟨hon, hserial', hclass'⟩ := htracks.connected hs
      rcases seated.origin h admitted becomes hk with
        ⟨t', hk', htracks'⟩ | rfl | ⟨cp, t', hk', hadopts, hawaits, hmeets⟩
      · obtain ⟨hon', hserial'', hclass''⟩ := htracks'.connected ht
        exact seated.injective hj' hk' hon hon' (hserial'.symm.trans (hserial.trans hserial''))
          (hclass'.symm.trans (hclass.trans hclass''))
      · cases (isConnected_vacantFor settings q).symm.trans ht
      · rw [hadopts.not_connected h hj' (hserial'.symm.trans (hserial.trans hmeets.serial))
          (hclass'.symm.trans (hclass.trans (hmeets.deviceClass.trans
            (awaits_iff.1 hawaits).2.2.1)))] at hon
        cases hon
    · cases (isConnected_vacantFor settings p).symm.trans hs
    · rcases seated.origin h admitted becomes hk with
        ⟨t', hk', htracks'⟩ | rfl | ⟨cp', t', hk', hadopts', hawaits', hmeets'⟩
      · obtain ⟨hon', hserial', hclass'⟩ := htracks'.connected ht
        rw [hadopts.not_connected h hk' (hserial'.symm.trans (hserial.symm.trans hmeets.serial))
          (hclass'.symm.trans (hclass.symm.trans (hmeets.deviceClass.trans
            (awaits_iff.1 hawaits).2.2.1)))] at hon'
        cases hon'
      · cases (isConnected_vacantFor settings q).symm.trans ht
      · exact hadopts.eq_of_connected (hk'.serves h).1 (awaits_iff.1 hawaits').2.1 hk.status ht
  pinned := by
    intro k p s hk hs hpinned
    rcases seated.origin h admitted becomes hk with
      ⟨s', hk', htracks⟩ | rfl | ⟨cp, s', hk', hadopts, hawaits, hmeets⟩
    · obtain ⟨hon, hserial, -⟩ := htracks.connected hs
      exact hserial.trans (seated.pinned hk' hon hpinned)
    · cases (isConnected_vacantFor settings p).symm.trans hs
    · obtain ⟨-, hoff, -, hserial⟩ := awaits_iff.1 hawaits
      rw [seated.vacant hk' hoff] at hserial
      exact hmeets.serial.trans (hserial.resolve_left hpinned).symm
  vacant := by
    intro k p s hk hs
    rcases seated.origin h admitted becomes hk with
      ⟨s', hk', htracks⟩ | rfl | ⟨cp, s', hk', hadopts, hawaits, hmeets⟩
    · have heq := htracks.waiting hs
      rw [heq] at hs ⊢
      exact seated.vacant hk' hs
    · rfl
    · rw [hmeets.connected] at hs
      cases hs

/-- **Drivers and devices are always seated.** -/
theorem Comes.seated (h : Comes settings draws Driver.IsMild xs node) :
    Seated settings (rosterOf xs) node := by
  obtain ⟨trace, hcourse⟩ := h
  induction hcourse with
  | here => exact ⟨fun hj => (List.not_mem_nil hj.member).elim,
      fun hk => (List.not_mem_nil hk.member).elim, fun hk => (List.not_mem_nil hk.member).elim⟩
  | next before admitted becomes _ ih => exact ih.next ⟨_, before⟩ admitted becomes

/-! ## Discovery, in terms of the roster -/

/-- A driver on the roster that was registered as virtual and waits for the announced device. -/
structure Waits (cp : ControlPacket) (node : Node) (member : Handle × DriverProfile) : Prop where
  role : member.2.role = .virtual
  status : ∃ status, node.status? member.1 = some status ∧ status.isConnected = false ∧
    status.deviceClass = cp.deviceClass ∧ (status.serial = 0 ∨ status.serial = cp.serial)

/-- A driver is not connected by an announce, and no connection of it is reported. -/
structure StaysOut (k : Handle) (node : Node) (added : List Action) (after : Node) : Prop where
  connected : ∀ later, after.status? k = some later → later.isConnected = true →
    ∃ status, node.status? k = some status ∧ status.isConnected = true
  reports : connections (reportsOf k added) = []

/-- A safe announce connects the first driver on the roster that waits for its device, and nobody
else. The connection is reported with the announced address. -/
structure Finds (cp : ControlPacket) (roster : List (Handle × DriverProfile)) (k : Handle)
    (node : Node) (added : List Action) (after : Node) : Prop where
  certain : cp.flags.contains ControlFlags.uncertain = false
  settled : cp.flags.contains ControlFlags.pairingMode = false
  first : ∃ earlier profile later, roster = earlier ++ (k, profile) :: later ∧
    Waits cp node (k, profile) ∧ ∀ member ∈ earlier, ¬ Waits cp node member
  connects : ∃ status, after.status? k = some status ∧ status.isConnected = true ∧
    status.address = cp.address ∧ status.serial = cp.serial
  reports : connections (reportsOf k added) = [.connected cp.address]
  others : ∀ member ∈ roster, member.1 ≠ k → StaysOut member.1 node added after

/-- What discovery promises of a node: no two virtual drivers have one device, one that was
registered with a serial number has that device or none, one without a device shows none, and an
announce connects nobody or the first that waits. -/
structure Discovery (roster : List (Handle × DriverProfile)) (node : Node) : Prop where
  injective : ∀ j k p q s t, Virtual roster node j p s → Virtual roster node k q t →
    s.isConnected = true → t.isConnected = true → s.serial = t.serial →
    s.deviceClass = t.deviceClass → j = k
  pinned : ∀ k profile status, Virtual roster node k profile status →
    status.isConnected = true → profile.pinned ≠ 0 → status.serial = profile.pinned
  vacant : ∀ k profile status, Virtual roster node k profile status →
    status.isConnected = false → status.address = 0 ∧ status.serial = profile.pinned ∧
      status.counter = 0 ∧ status.flags = Role.virtual.flags
  announces : ∀ env frame cp added, helloOf? frame = some cp →
    (node.receiveFrame env frame).log = node.log ++ added →
    (∀ member ∈ roster, StaysOut member.1 node added (node.receiveFrame env frame)) ∨
      ∃ k, Finds cp roster k node added (node.receiveFrame env frame)

theorem Leads.reports_eq {before after : Node} {status : Status} {reports : List EventKind}
    (h : Leads k pinned before after status reports) {added : List Action}
    (hlog : after.log = before.log ++ added) :
    connections (reportsOf k added) = reports := by
  obtain ⟨more, hmore, hreports⟩ := h.trace
  rw [List.append_cancel_left (hlog.symm.trans hmore), hreports]

theorem Listens.staysOut {status : Status} {after : Node}
    (h : Listens k pinned status node after) (hk : node.Has k pinned status) {added : List Action}
    (hlog : after.log = node.log ++ added) : StaysOut k node added after := by
  obtain ⟨heard, hleads, hminds⟩ := h
  refine ⟨fun later hlater hon => ?_, hleads.reports_eq hlog⟩
  cases hleads.has.status_eq hlater
  exact ⟨status, hk.status?, hminds.connected hon⟩

/-- Who waits for an announced device, in terms of the status alone. -/
theorem Serves.waits_iff {status : Status} (h : node.Serves settings k profile status)
    {cp : ControlPacket} : Waits cp node (k, profile) ↔ awaits cp status = true := by
  have hvirtual : status.isVirtual = true ↔ profile.role = .virtual := by
    rw [Status.isVirtual_eq_mode, h.mode]
    cases profile.role <;> decide
  rw [awaits_iff, hvirtual]
  constructor
  · rintro ⟨hrole, other, hother, hwaits⟩
    cases h.has.status_eq hother
    exact ⟨hrole, hwaits⟩
  · rintro ⟨hrole, hwaits⟩
    exact ⟨hrole, status, h.has.status?, hwaits⟩

/-- The driver that an announce connects is the first on the roster that waits. -/
theorem Adopts.first {cp : ControlPacket} {after : Node} (hadopts : Adopts cp k node after)
    (h : Comes settings draws Driver.IsMild xs node) :
    ∃ earlier profile later, rosterOf xs = earlier ++ (k, profile) :: later ∧
      Waits cp node (k, profile) ∧ ∀ member ∈ earlier, ¬ Waits cp node member := by
  obtain ⟨earlier, later, hdrivers, hnone⟩ := hadopts.oldest
  obtain ⟨pinned, status, -, hk, hawaits, -⟩ := hadopts.connects
  rw [h.drivers] at hdrivers
  obtain ⟨front, back, hroster, hfront, hback⟩ := List.map_eq_append_iff.1 hdrivers
  obtain ⟨⟨handle, profile⟩, rest, rfl, hhandle, -⟩ := List.map_eq_cons_iff.1 hback
  obtain rfl : k = handle := hhandle.symm
  have hserves : ∀ j q, (j, q) ∈ front ++ (k, profile) :: rest →
      ∃ status, node.Serves settings j q status := by
    rw [← hroster]
    exact fun j q => h.serves
  refine ⟨front, profile, rest, hroster, ?_, fun member hmember hwaits => ?_⟩
  · obtain ⟨shown, hserves⟩ := hserves k profile (List.mem_append_right _ List.mem_cons_self)
    cases hserves.has.status_eq hk.status?
    exact hserves.waits_iff.2 hawaits
  · obtain ⟨shown, hserves⟩ := hserves member.1 member.2 (List.mem_append_left _ hmember)
    have hawaits := hserves.waits_iff.1 hwaits
    rw [hnone member.1 (hfront ▸ List.mem_map_of_mem hmember) _ shown hserves.has] at hawaits
    cases hawaits

theorem Adopts.finds {cp : ControlPacket} {after : Node} (hadopts : Adopts cp k node after)
    (h : Comes settings draws Driver.IsMild xs node) {added : List Action}
    (hlog : after.log = node.log ++ added) : Finds cp (rosterOf xs) k node added after := by
  have hsafe : cp.flags.intersects (ControlFlags.uncertain ∪ ControlFlags.pairingMode) = false := by
    have hsafe := hadopts.safe
    unfold ControlFlags.isSafe at hsafe
    rwa [Bool.not_eq_true'] at hsafe
  obtain ⟨pinned, status, later, hk, -, hleads, hmeets⟩ := hadopts.connects
  exact ⟨Flags.contains_eq_false_of_not_intersects hsafe (by decide) (by decide),
    Flags.contains_eq_false_of_not_intersects hsafe (by decide) (by decide), hadopts.first h,
    ⟨later, hleads.has.status?, hmeets.connected, hmeets.address, hmeets.serial⟩,
    hleads.reports_eq hlog, fun member hmember hne => by
      obtain ⟨shown, hserves⟩ := h.serves hmember
      exact (hadopts.others member.1 _ shown hne hserves.has).staysOut hserves.has hlog⟩

/-- **Discovery is injective, pinned and first-come.** This holds of whatever comes of a node where
mild drivers are registered. -/
theorem discovery_of_comes (h : Comes settings draws Driver.IsMild xs node) :
    Discovery (rosterOf xs) node where
  injective _ _ _ _ _ _ := h.seated.injective
  pinned _ _ _ := h.seated.pinned
  vacant k profile status hk hoff := by
    rw [h.seated.vacant hk hoff]
    exact ⟨rfl, rfl, rfl, rfl⟩
  announces env frame cp added hhello hlog := by
    rw [receiveFrame_of_hello node env hhello] at hlog ⊢
    rcases listens_or_adopts h.isMild h.wellFormed env cp with hlistens | ⟨k, hadopts⟩
    · refine .inl fun member hmember => ?_
      obtain ⟨status, hserves⟩ := h.serves hmember
      exact (hlistens member.1 _ status hserves.has).staysOut hserves.has hlog
    · exact .inr ⟨k, hadopts.finds h hlog⟩

/-- A driver that was registered for a device with serial number 2, which announced itself. -/
theorem discovery_of_pinnedDriver :
    let profile : DriverProfile := ⟨.virtual, 7, some 2, none⟩
    let found := (withDriver profile .quiet).receiveFrame .taking (ControlPacket.hello 20 7 2).frame
    let happened : List Happening := [.register ⟨0, 0⟩ profile .quiet,
      .receive .taking (ControlPacket.hello 20 7 2).frame]
    Comes {} ⟨fun _ => 0, 0⟩ Driver.IsMild happened found ∧
      (found.status? ⟨0, 0⟩).map (fun s => (s.isConnected, s.address, s.serial)) =
        some (true, 20, 2) ∧
      Discovery (rosterOf happened) found := by
  intro profile found happened
  have hcomes : Comes {} ⟨fun _ => 0, 0⟩ Driver.IsMild happened found :=
    (comes_withDriver Driver.IsMild profile .quiet trivial).receive .taking _
  exact ⟨hcomes, by decide +kernel, discovery_of_comes hcomes⟩

end Node

end DeviceBus
