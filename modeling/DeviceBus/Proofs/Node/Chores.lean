import DeviceBus.Node.Tick
import DeviceBus.Proofs.Registry.View
import DeviceBus.Proofs.Tenancy

/-!
# Chores

What a node does about one entry in a tick is a `Chore`, but for the announces of own drivers: a few
small things, one after the other. The status of the entry changes, but neither its role nor its
class; what is booked beside its driver changes; an address is drawn; something is reported about
it; its driver is told something, if it has one, but of no control packet; and a record that was
silent for too long is taken out. What each of these small things keeps, the chore keeps.

## Main results

* `chore_assignAddress`, `chore_probation`: what is done about the address of an own driver.
* `chore_ageDevice`, `chore_agePartner`: what is done about a silent device and a silent partner.
* `tickEntry_of_chore`: what chores and announces keep, the turn of an entry in a tick keeps.
-/

namespace DeviceBus

namespace Node

/-- What a node does about one entry in a tick, but for announces. -/
inductive Chore (env : Env) (handle : Handle) (first : Node) : Node → Prop where
  /-- Nothing yet. -/
  | start : Chore env handle first first
  /-- The status changes, but neither the role nor the class. -/
  | restate {mid : Node} (before : Chore env handle first mid) (change : Status → Status)
      (keeps : ∀ status, DeviceFlags.mode (change status).flags = DeviceFlags.mode status.flags ∧
        (change status).deviceClass = status.deviceClass) :
      Chore env handle first (mid.modifyStatus handle change)
  /-- Something is booked beside the driver. -/
  | rebook {mid : Node} (before : Chore env handle first mid)
      (change : Registration → Registration)
      (keeps : ∀ registration, (change registration).driver = registration.driver ∧
        (change registration).requiredSerial = registration.requiredSerial) :
      Chore env handle first (mid.modifyRegistration handle change)
  /-- An address is drawn. -/
  | draw {mid : Node} (before : Chore env handle first mid) (draws : Draws) :
      Chore env handle first { mid with draws }
  /-- Something is reported. -/
  | report {mid : Node} (before : Chore env handle first mid) (kind : EventKind) :
      Chore env handle first (mid.queueEvent handle kind)
  /-- The driver is told something, but of no control packet. -/
  | tell {mid : Node} (before : Chore env handle first mid) (callback : Callback)
      (other : ∀ cp, callback ≠ .control cp) :
      Chore env handle first (mid.call env handle callback).2
  /-- A record is taken out. -/
  | drop {mid : Node} {status : Status} {registry : Registry Entry}
      (before : Chore env handle first mid)
      (removed : mid.registry.remove handle = some (⟨status, .record⟩, registry)) :
      Chore env handle first { mid with registry }

variable {env : Env} {handle : Handle} {first mid : Node}

/-- A driver whose device is gone is told so. -/
theorem Chore.tellRemoved (h : Chore env handle first mid) :
    Chore env handle first (mid.tellRemoved env handle) :=
  (h.report .removed).tell .removed nofun

/-! ## Own drivers -/

theorem chore_chooseAddress (env : Env) (handle : Handle) (node : Node) :
    Chore env handle node (node.chooseAddress handle).2 := by
  have hused : Chore env handle node
      (node.modifyRegistration handle fun r => { r with wantedAddress := none }) :=
    Chore.start.rebook _ fun _ => ⟨rfl, rfl⟩
  unfold chooseAddress
  dsimp only
  split
  · exact hused
  · unfold drawFree
    dsimp only
    split
    · exact hused
    · exact hused.draw _

theorem chore_assignAddress (env : Env) (handle : Handle) (node : Node) :
    Chore env handle node (node.assignAddress handle) := by
  have hchosen := chore_chooseAddress env handle node
  unfold assignAddress
  split
  · rename_i mid heq
    rw [heq] at hchosen
    exact hchosen
  · rename_i address mid heq
    rw [heq] at hchosen
    exact (hchosen.restate _ fun status =>
      ⟨congrArg Tenancy.mode (status.tenancy_draw address), rfl⟩).report _

theorem Chore.confirm (h : Chore env handle first mid) :
    Chore env handle first (mid.confirm env handle) := by
  unfold Node.confirm
  split
  · exact h
  · exact ((h.restate _ fun status =>
      ⟨congrArg Tenancy.mode status.tenancy_confirm, rfl⟩).report _).tell .connected nofun

theorem chore_probation (env : Env) (handle : Handle) (status : Status) (node : Node) :
    Chore env handle node (node.probation env handle status) := by
  have hcounted : Chore env handle node
      (node.modifyStatus handle (·.counted)) :=
    Chore.start.restate _ fun _ => ⟨rfl, rfl⟩
  unfold probation
  dsimp only
  split
  · exact hcounted.confirm
  · exact hcounted

theorem chore_enumerate (env : Env) (handle : Handle) (status : Status) (node : Node) :
    Chore env handle node (node.enumerate env handle status) := by
  unfold enumerate
  split
  · exact chore_assignAddress env handle node
  · split
    · exact chore_probation env handle status node
    · exact .start

theorem tickDevice_of_own (env : Env) {status : Status} (hlocal : status.isLocal = true)
    (node : Node) :
    node.tickDevice env handle status = (node.enumerate env handle status).announce env handle := by
  unfold tickDevice
  rw [if_pos hlocal]

theorem tickDevice_of_remote (env : Env) {status : Status} (hremote : status.isLocal = false)
    (node : Node) :
    node.tickDevice env handle status =
      if status.isVirtual && status.isConnected then node.ageDevice env handle else node := by
  unfold tickDevice
  rw [hremote, if_neg Bool.false_ne_true]

/-! ## Silence -/

theorem chore_ageDevice (env : Env) (handle : Handle) (node : Node) :
    Chore env handle node (node.ageDevice env handle) := by
  unfold ageDevice
  split
  · exact .start
  · rename_i entry hentry
    dsimp only
    have hcounted : Chore env handle node
        (node.modifyStatus handle (·.counted)) :=
      Chore.start.restate _ fun _ => ⟨rfl, rfl⟩
    split
    · exact Chore.start.restate _ fun status =>
        ⟨DeviceFlags.mode_remove status.flags (by decide), rfl⟩
    · split
      · exact hcounted
      · split
        · rename_i hrecord
          split
          · rename_i gone registry hremove
            -- what is taken out is the entry that was counted, a record
            have hthere := (Registry.get?_of_remove hremove).1
            unfold modifyStatus at hthere
            rw [Registry.get?_modify, if_pos rfl, hentry] at hthere
            obtain ⟨status, kind⟩ := entry
            cases hrecord
            cases hthere
            exact hcounted.drop hremove
          · exact hcounted
        · unfold loseRemote
          refine Chore.tellRemoved (hcounted.restate _ fun status => ⟨?_, rfl⟩)
          exact Flags.restrict_restrict_of_subset status.flags (by decide)

/-- What a node does about the device of a driver that is not its own is a chore. -/
theorem chore_tickDevice_of_remote (env : Env) (handle : Handle) {status : Status}
    (hremote : status.isLocal = false) (node : Node) :
    Chore env handle node (node.tickDevice env handle status) := by
  rw [tickDevice_of_remote env hremote]
  split
  · exact chore_ageDevice env handle node
  · exact .start

theorem chore_agePartner (env : Env) (handle : Handle) (node : Node) :
    Chore env handle node (node.agePartner env handle) := by
  have hset : ∀ silence : UInt8, Chore env handle node
      (node.modifyRegistration handle fun r => { r with partnerSilence := silence }) :=
    fun silence => Chore.start.rebook _ fun _ => ⟨rfl, rfl⟩
  unfold agePartner
  split
  · exact .start
  · dsimp only
    split
    · exact hset 0
    · split
      · exact hset _
      · exact (hset 0).tell .partnerLost nofun

/-! ## Turns in a tick -/

theorem tickEntry_of_none (env : Env) (h : node.registry.get? handle = none) :
    tickEntry env node handle = node := by
  unfold tickEntry
  rw [h]

theorem tickEntry_of_record (env : Env) {status : Status}
    (h : node.registry.get? handle = some ⟨status, .record⟩) :
    tickEntry env node handle = node.ageDevice env handle := by
  unfold tickEntry
  rw [h]
  rfl

theorem tickEntry_of_driver (env : Env) {status : Status} {registration : Registration}
    (h : node.registry.get? handle = some ⟨status, .driver registration⟩) :
    tickEntry env node handle = (node.tickDevice env handle status).agePartner env handle := by
  unfold tickEntry
  rw [h]
  rfl

section

variable {R : Node → Node → Prop} (htrans : ∀ {a b c}, R a b → R b c → R a c)
  (hchore : ∀ {before after}, Chore env handle before after → R before after)
  (hannounce : ∀ node, R node (node.announce env handle))

include htrans hchore hannounce

/-- What chores and announces keep, what is done about a device keeps. -/
theorem tickDevice_of_chore (status : Status) (node : Node) :
    R node (node.tickDevice env handle status) := by
  cases hlocal : status.isLocal with
  | true =>
    rw [tickDevice_of_own env hlocal]
    exact htrans (hchore (chore_enumerate env handle status node)) (hannounce _)
  | false => exact hchore (chore_tickDevice_of_remote env handle hlocal node)

/-- **What chores and announces keep, the turn of an entry in a tick keeps.** -/
theorem tickEntry_of_chore (node : Node) : R node (tickEntry env node handle) := by
  cases hentry : node.registry.get? handle with
  | none =>
    rw [tickEntry_of_none env hentry]
    exact hchore .start
  | some entry =>
    obtain ⟨status, kind⟩ := entry
    cases kind with
    | record =>
      rw [tickEntry_of_record env hentry]
      exact hchore (chore_ageDevice env handle node)
    | driver registration =>
      rw [tickEntry_of_driver env hentry]
      exact htrans (tickDevice_of_chore (R := R) htrans hchore hannounce _ node)
        (hchore (chore_agePartner env handle _))

end

end Node

end DeviceBus
