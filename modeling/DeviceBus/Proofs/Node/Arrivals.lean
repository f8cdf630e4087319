import DeviceBus.Proofs.OrdinaryDrivers
import DeviceBus.Proofs.Registry.View

/-!
# How a frame arrives

What a received frame is to a node: an announce, a pairing packet, data, or nothing that the node
can make anything of. Each of them is taken apart here once, down to the calls that it leads to.

An announce has three parts. The partners of drivers are heard of, then the announce goes round, and
what no driver handled is settled in the end. When it goes round it is shown to one entry after the
other: records let it pass, and what comes of it at a driver is a matter of the driver's status and
the announce. On the way its device may be recorded, which is a matter of one entry.

## Main results

* `arrival`: the four things that a frame can be.
* `showing`: what comes of an announce that is shown to a driver.
* `noting`: what recording a device makes of an entry.
* `receiveAnnounce_cases`: an announce is over after its round, or it is settled.
* `settle_cases`: settling an announce changes the filter, and connects one driver at most.
-/

namespace DeviceBus

open ControlPacket

namespace Node

/-! ## Frames -/

/-- What a frame is to a node, and what the node is afterwards. -/
inductive Arrival (env : Env) (frame : Bytes) (node after : Node) : Prop where
  /-- An announce. -/
  | announce {cp : ControlPacket} (hello : helloOf? frame = some cp)
      (eq : after = node.receiveAnnounce env cp)
  /-- A pairing packet. -/
  | pairing {cp : ControlPacket} (silent : helloOf? frame = none) (heard : ofFrame? frame = some cp)
      (type : cp.type = .pairing) (eq : after = node.receivePairing env cp)
  /-- A data packet. -/
  | data {packet : Packet} (silent : helloOf? frame = none)
      (read : Packet.decode frame = .ok packet)
      (isData : packet.isControl = false) (eq : after = node.receiveData env packet)
  /-- Nothing that can be read, or a control packet of an unknown type. -/
  | nothing (silent : helloOf? frame = none) (eq : after = node)

/-- **What a frame is to a node.** -/
theorem arrival (env : Env) (frame : Bytes) (node : Node) :
    Arrival env frame node (node.receiveFrame env frame) := by
  cases hframe : ofFrame? frame with
  | some cp =>
    have hsame : node.receiveFrame env frame = node.receiveControl env cp :=
      receiveFrame_of_control node hframe
    have hsilent : cp.type ≠ .hello → helloOf? frame = none := fun htype => by
      simp [helloOf?, hframe, htype]
    unfold receiveControl at hsame
    cases htype : cp.type with
    | hello =>
      rw [htype] at hsame
      exact .announce (helloOf?_eq_some_iff.2 ⟨hframe, htype⟩) hsame
    | pairing =>
      rw [htype] at hsame
      exact .pairing (hsilent (by simp [htype])) hframe htype hsame
    | unknown byte =>
      rw [htype] at hsame
      exact .nothing (hsilent (by simp [htype])) hsame
  | none =>
    have hsilent : helloOf? frame = none := by simp [helloOf?, hframe]
    unfold receiveFrame
    cases hread : Packet.decode frame with
    | error e => exact .nothing hsilent rfl
    | ok packet =>
      dsimp only
      unfold receivePacket
      cases hcontrol : packet.isControl with
      | false => exact .data hsilent hread hcontrol rfl
      | true =>
        cases hdecode : decode packet.data with
        | error e => exact .nothing hsilent rfl
        | ok cp =>
          cases hframe.symm.trans (ofFrame?_eq_some_iff.2 ⟨packet, hread, hcontrol, hdecode⟩)

/-- A pairing packet is told to the entry that it names, if there is one. -/
theorem receivePairing_eq_or (env : Env) (cp : ControlPacket) (node : Node) :
    node.receivePairing env cp = node ∨
      ∃ handle, node.registry.findStatus? (isTarget cp) = some handle ∧
        node.receivePairing env cp = (node.call env handle (.control cp)).2 := by
  unfold receivePairing
  split
  · rename_i handle hfind
    exact .inr ⟨handle, hfind, rfl⟩
  · exact .inl rfl

/-- Data is told to an entry, if its driver hears it. -/
theorem routeTo_eq_or (env : Env) (packet : Packet) (classes : List DeviceClass) (node : Node)
    (handle : Handle) :
    routeTo env packet classes node handle = node ∨
      ∃ status registration, node.registry.get? handle = some ⟨status, .driver registration⟩ ∧
        hears packet.address classes status registration = true ∧
        routeTo env packet classes node handle = (node.call env handle (.data packet)).2 := by
  unfold routeTo
  split
  · rename_i status registration hentry
    split
    · rename_i hhears
      exact .inr ⟨status, registration, hentry, hhears, rfl⟩
    · exact .inl rfl
  · exact .inl rfl

/-! ## An announce at one entry -/

theorem ownsAddress_iff {cp : ControlPacket} {status : Status} : ownsAddress cp status = true ↔
    status.isLocal = true ∧ status.address ≠ 0 ∧ status.address = cp.address := by
  unfold ownsAddress
  simp only [Bool.and_eq_true, bne_iff_ne, beq_iff_eq, and_assoc]

theorem follows_iff {cp : ControlPacket} {status : Status} : follows cp status = true ↔
    status.isVirtual = true ∧ status.isConnected = true ∧ status.serial = cp.serial ∧
      status.deviceClass = cp.deviceClass := by
  unfold follows
  simp only [Bool.and_eq_true, beq_iff_eq, and_assoc]

theorem awaits_iff {cp : ControlPacket} {status : Status} : awaits cp status = true ↔
    status.isVirtual = true ∧ status.isConnected = false ∧ status.deviceClass = cp.deviceClass ∧
      (status.serial = 0 ∨ status.serial = cp.serial) := by
  unfold awaits
  simp only [Bool.and_eq_true, Bool.or_eq_true, Bool.not_eq_true', beq_iff_eq, and_assoc]

/-- What comes of an announce that is shown to a driver. -/
inductive Showing (env : Env) (cp : ControlPacket) (handle : Handle) (status : Status)
    (scan : Scan) (found : Finding) : Prop where
  /-- The owner of the announced address gives way, at a flagged conflict or to another device. -/
  | yields (owns : ownsAddress cp status = true)
      (loses : cp.flags.contains ControlFlags.conflict = true ∨ status.serial ≠ cp.serial ∧
        (status.isConfirmed && cp.flags.contains ControlFlags.uncertain) = false)
      (eq : found = .collision (scan.node.giveWay env handle))
  /-- A confirmed owner sends the announce of a device that is not sure of the address back. -/
  | rebukes (owns : ownsAddress cp status = true)
      (calm : cp.flags.contains ControlFlags.conflict = false) (other : status.serial ≠ cp.serial)
      (stays : (status.isConfirmed && cp.flags.contains ControlFlags.uncertain) = true)
      (eq : found = .collision (scan.node.post env cp.flagged))
  /-- The announce is the owner's own. -/
  | agrees (owns : ownsAddress cp status = true)
      (calm : cp.flags.contains ControlFlags.conflict = false) (same : status.serial = cp.serial)
      (eq : found = .proceed (({ scan with
        node := scan.node.modifyStatus handle (·.mark DeviceFlags.seen)
        isClaimed := true } : Scan).deliver env handle cp))
  /-- The device of a remote driver is seen, maybe at another address. -/
  | moves (foreign : ownsAddress cp status = false) (follows : follows cp status = true)
      (eq : found = .proceed (({ scan with
        node := scan.node.modifyStatus handle (·.followed cp)
        isClaimed := true } : Scan).deliver env handle cp))
  /-- A connected driver that listens to the class has the device recorded, and hears of it. -/
  | records (foreign : ownsAddress cp status = false) (unfollowed : follows cp status = false)
      (broadcast : status.isBroadcast = true) (sameClass : status.deviceClass = cp.deviceClass)
      (connected : status.isConnected = true)
      (certain : cp.flags.contains ControlFlags.uncertain = false)
      (eq : found = .proceed
        (({ scan with node := scan.node.recordDevice cp } : Scan).deliver env handle cp))
  /-- A driver that listens to the class hears of the device. -/
  | hears (foreign : ownsAddress cp status = false) (unfollowed : follows cp status = false)
      (broadcast : status.isBroadcast = true) (sameClass : status.deviceClass = cp.deviceClass)
      (unrecorded : (status.isConnected && !cp.flags.contains ControlFlags.uncertain) = false)
      (eq : found = .proceed (scan.deliver env handle cp))
  /-- A connected driver that may pair with the device hears of it. -/
  | pairs (foreign : ownsAddress cp status = false) (unfollowed : follows cp status = false)
      (unheard : (status.isBroadcast && status.deviceClass == cp.deviceClass) = false)
      (safe : cp.flags.isSafe = true) (may : status.mayPair = true)
      (connected : status.isConnected = true) (sameClass : status.deviceClass = cp.deviceClass)
      (elsewhere : status.address ≠ cp.address)
      (eq : found = .proceed (scan.deliver env handle cp))
  /-- The announce is no matter of the driver. -/
  | passes (foreign : ownsAddress cp status = false) (unfollowed : follows cp status = false)
      (unheard : (status.isBroadcast && status.deviceClass == cp.deviceClass) = false)
      (unpaired : ¬ (cp.flags.isSafe = true ∧ status.mayPair = true ∧ status.isConnected = true ∧
        status.deviceClass = cp.deviceClass ∧ status.address ≠ cp.address))
      (eq : found = .proceed scan)

theorem showing_of_owner (env : Env) {cp : ControlPacket} (handle : Handle) {status : Status}
    (scan : Scan) (owns : ownsAddress cp status = true) :
    Showing env cp handle status scan (visitOwner env handle status cp scan) := by
  unfold visitOwner
  split
  · rename_i hconflict
    exact .yields owns (.inl hconflict) rfl
  · rename_i hcalm
    rw [Bool.not_eq_true] at hcalm
    split
    · rename_i hother
      rw [bne_iff_ne] at hother
      split
      · rename_i hstays
        exact .rebukes owns hcalm hother hstays rfl
      · rename_i hleaves
        exact .yields owns (.inr ⟨hother, Bool.not_eq_true _ ▸ hleaves⟩) rfl
    · rename_i hsame
      rw [bne_iff_ne, ne_eq, Decidable.not_not] at hsame
      exact .agrees owns hcalm hsame rfl

/-- **What comes of an announce that is shown to a driver.** -/
theorem showing (env : Env) (cp : ControlPacket) {handle : Handle} {scan : Scan} {status : Status}
    {registration : Registration}
    (held : scan.node.registry.get? handle = some ⟨status, .driver registration⟩) :
    Showing env cp handle status scan (visit env cp handle scan) := by
  unfold visit
  rw [held]
  dsimp only
  rw [if_neg (by simp [Entry.isRecord])]
  split
  · rename_i howns
    exact showing_of_owner env handle scan howns
  · rename_i hforeign
    rw [Bool.not_eq_true] at hforeign
    split
    · rename_i hfollows
      exact .moves hforeign hfollows rfl
    · rename_i hunfollowed
      rw [Bool.not_eq_true] at hunfollowed
      split
      · rename_i hbroadcast
        rw [Bool.and_eq_true, beq_iff_eq] at hbroadcast
        split
        · rename_i hclear
          rw [Bool.and_eq_true, Bool.not_eq_true'] at hclear
          exact .records hforeign hunfollowed hbroadcast.1 hbroadcast.2 hclear.1 hclear.2 rfl
        · rename_i hunrecorded
          exact .hears hforeign hunfollowed hbroadcast.1 hbroadcast.2
            (Bool.not_eq_true _ ▸ hunrecorded) rfl
      · rename_i hunheard
        rw [Bool.not_eq_true] at hunheard
        split
        · rename_i hmay
          simp only [Bool.and_eq_true, beq_iff_eq, bne_iff_ne] at hmay
          obtain ⟨⟨⟨⟨hsafe, hmay⟩, hconnected⟩, hclass⟩, helsewhere⟩ := hmay
          exact .pairs hforeign hunfollowed hunheard hsafe hmay hconnected hclass helsewhere rfl
        · rename_i hpasses
          refine .passes hforeign hunfollowed hunheard (fun hmay => hpasses ?_) rfl
          simpa only [Bool.and_eq_true, beq_iff_eq, bne_iff_ne, and_assoc] using hmay

/-- An announce passes a handle that no driver has. -/
theorem exists_driver_or_visit_eq (env : Env) (cp : ControlPacket) (handle : Handle)
    (scan : Scan) :
    (∃ status registration,
      scan.node.registry.get? handle = some ⟨status, .driver registration⟩) ∨
      visit env cp handle scan = .proceed scan := by
  cases hentry : scan.node.registry.get? handle with
  | none =>
    right
    unfold visit
    rw [hentry]
  | some entry =>
    obtain ⟨status, kind⟩ := entry
    cases kind with
    | driver registration => exact .inl ⟨status, registration, rfl⟩
    | record =>
      right
      unfold visit
      rw [hentry]
      rfl

/-! ## Records -/

/-- Some entry has the announced address and serial number. -/
def Knows (cp : ControlPacket) (node : Node) : Prop :=
  ∃ k entry, node.registry.get? k = some entry ∧ entry.status.address = cp.address ∧
    entry.status.serial = cp.serial

/-- What becomes of the registry when a device is recorded. -/
inductive Enters (cp : ControlPacket) (node : Node) (after : Registry Entry) : Prop where
  /-- An entry shows the device. If it is a record, it is marked. -/
  | known {found : Handle} (shows : node.registry.WellFormed → ∃ entry,
        node.registry.get? found = some entry ∧ entry.status.address = cp.address ∧
          entry.status.serial = cp.serial)
      (eq : after = node.registry.modify found fun entry =>
        if entry.isRecord then entry.modifyStatus (·.mark DeviceFlags.seen) else entry)
  /-- Nobody shows the device: it gets a record. -/
  | noted {fresh : Handle} (unknown : node.registry.WellFormed → ¬ Knows cp node)
      (insert : node.registry.insert ⟨.recorded cp, .record⟩ = .ok (fresh, after))
  /-- Nobody shows the device, and there is no room. -/
  | full {e : BusError} (unknown : node.registry.WellFormed → ¬ Knows cp node)
      (insert : node.registry.insert ⟨.recorded cp, .record⟩ = .error e)
      (eq : after = node.registry)

theorem enters (cp : ControlPacket) (node : Node) :
    Enters cp node (node.recordDevice cp).registry := by
  unfold recordDevice
  split
  · rename_i found hfind
    refine .known (fun wf => ?_) rfl
    obtain ⟨entry, hentry, hshows⟩ := wf.get?_of_find?_eq_some hfind
    rw [Bool.and_eq_true, beq_iff_eq, beq_iff_eq] at hshows
    exact ⟨entry, hentry, hshows⟩
  · rename_i hfind
    have hunknown : node.registry.WellFormed → ¬ Knows cp node := by
      rintro wf ⟨k, entry, hentry, haddress, hserial⟩
      have hnone := wf.find?_eq_none_iff.1 hfind k entry hentry
      simp [haddress, hserial] at hnone
    split
    · rename_i fresh registry hinsert
      exact .noted hunknown hinsert
    · rename_i e hinsert
      exact .full hunknown hinsert rfl

/-- Recording a device is a matter of the registry. -/
theorem recordDevice_eq (cp : ControlPacket) (node : Node) :
    node.recordDevice cp = { node with registry := (node.recordDevice cp).registry } := by
  unfold recordDevice
  split
  · rfl
  · split <;> rfl

theorem log_recordDevice (cp : ControlPacket) {node : Node} :
    (node.recordDevice cp).log = node.log := by
  rw [recordDevice_eq]

theorem filter_recordDevice (cp : ControlPacket) {node : Node} :
    (node.recordDevice cp).filter = node.filter := by
  rw [recordDevice_eq]

theorem wellFormed_recordDevice (cp : ControlPacket) {node : Node}
    (wf : node.registry.WellFormed) : (node.recordDevice cp).registry.WellFormed := by
  rcases enters cp node with ⟨-, heq⟩ | ⟨-, hinsert⟩ | ⟨-, -, heq⟩
  · exact heq ▸ wf.modify _ _
  · exact wf.insert hinsert
  · exact heq ▸ wf

/-- What recording a device makes of the entry under a handle. -/
inductive Noting (cp : ControlPacket) (node after : Node) (k : Handle) : Prop where
  | same (eq : after.registry.get? k = node.registry.get? k)
  /-- It is a record of the device, and marked. -/
  | seen {status : Status} (here : node.registry.get? k = some ⟨status, .record⟩)
      (shows : node.registry.WellFormed →
        status.address = cp.address ∧ status.serial = cp.serial)
      (eq : after.registry.get? k = some ⟨status.mark DeviceFlags.seen, .record⟩)
  /-- It is the new record. -/
  | noted (free : node.registry.get? k = none)
      (unknown : node.registry.WellFormed → ¬ Knows cp node)
      (insert : node.registry.insert ⟨.recorded cp, .record⟩ = .ok (k, after.registry))
      (eq : after.registry.get? k = some ⟨.recorded cp, .record⟩)

/-- **What recording a device makes of an entry**: a record of the device is marked, a new record
stands where nothing was, and everybody else stays. -/
theorem noting (cp : ControlPacket) (node : Node) (k : Handle) :
    Noting cp node (node.recordDevice cp) k := by
  rcases enters cp node with ⟨hshows, heq⟩ | ⟨hunknown, hinsert⟩ | ⟨-, -, heq⟩
  · rename_i found
    have hget := node.registry.get?_modify found (fun entry =>
      if entry.isRecord then entry.modifyStatus (·.mark DeviceFlags.seen) else entry) k
    rw [← heq] at hget
    by_cases hk : k = found
    · subst hk
      rw [if_pos rfl] at hget
      cases hentry : node.registry.get? k with
      | none => exact .same (hget.trans (by rw [hentry]; rfl))
      | some entry =>
        rw [hentry] at hget hshows
        obtain ⟨status, kind⟩ := entry
        cases kind with
        | driver registration => exact .same (hget.trans hentry.symm)
        | record =>
          refine .seen hentry (fun wf => ?_) hget
          obtain ⟨entry, heq, hshows⟩ := hshows wf
          cases heq
          exact hshows
    · exact .same (hget.trans (if_neg hk))
  · rename_i fresh
    obtain ⟨hfree, hget⟩ := Registry.get?_of_insert hinsert
    by_cases hk : k = fresh
    · subst hk
      exact .noted hfree hunknown hinsert ((hget k).trans (if_pos rfl))
    · exact .same ((hget k).trans (if_neg hk))
  · exact .same (by rw [heq])

/-- Records come and go beside all drivers. -/
theorem get?_recordDevice (cp : ControlPacket) {node : Node} {k : Handle} {entry : Entry}
    (hentry : node.registry.get? k = some entry) (hdriver : entry.isRecord = false) :
    (node.recordDevice cp).registry.get? k = some entry := by
  cases noting cp node k with
  | same eq => exact eq.trans hentry
  | seen here _ _ =>
    cases here.symm.trans hentry
    cases hdriver
  | noted free _ _ _ => cases free.symm.trans hentry

/-! ## Announces -/

/-- The announce of a partner ends its silence, and nothing else is booked beside the driver. -/
theorem refreshPartner_eq (cp : ControlPacket) (node : Node) (handle : Handle) :
    ∃ change : Registration → Registration,
      (∀ r, (change r).driver = r.driver ∧ (change r).requiredSerial = r.requiredSerial) ∧
        node.refreshPartner cp handle = node.modifyRegistration handle change := by
  refine ⟨_, fun r => ?_, rfl⟩
  dsimp only
  split <;> split <;> exact ⟨rfl, rfl⟩

/-- The node of a finding. -/
def Finding.node : Finding → Node
  | .collision node => node
  | .proceed scan => scan.node

theorem log_heard (cp : ControlPacket) (node : Node) : (node.heard cp).log = node.log :=
  List.foldlRecOn (motive := fun after : Node => after.log = node.log) _ _ rfl
    fun _ hmid _ _ => hmid

theorem filter_heard (cp : ControlPacket) (node : Node) : (node.heard cp).filter = node.filter :=
  List.foldlRecOn (motive := fun after : Node => after.filter = node.filter) _ _ rfl
    fun _ hmid _ _ => hmid

theorem receiveAnnounce_eq (env : Env) (cp : ControlPacket) (node : Node) :
    node.receiveAnnounce env cp =
      match node.round env cp with
      | .collision node => node
      | .proceed scan =>
        if scan.handled || !cp.flags.isSafe then scan.node else settle env cp scan :=
  rfl

/-- **An announce is over after its round**, or it is for certain, nobody handled it, and it is
settled. -/
theorem receiveAnnounce_cases (env : Env) (cp : ControlPacket) (node : Node) :
    node.receiveAnnounce env cp = (node.round env cp).node ∨
      ∃ scan, node.round env cp = .proceed scan ∧ scan.handled = false ∧
        cp.flags.isSafe = true ∧ node.receiveAnnounce env cp = settle env cp scan := by
  rw [receiveAnnounce_eq]
  cases node.round env cp with
  | collision found => exact .inl rfl
  | proceed scan =>
    dsimp only
    split
    · exact .inl rfl
    · rename_i hgoes
      rw [Bool.or_eq_true, not_or, Bool.not_eq_true, Bool.not_eq_true, Bool.not_eq_false'] at hgoes
      exact .inr ⟨scan, rfl, hgoes.1, hgoes.2, rfl⟩

/-- What the end of an announce does, it does to the driver that is discovered, if there is one. -/
theorem settle_cases (env : Env) (cp : ControlPacket) (scan : Scan) :
    ∃ filter, settle env cp scan = { scan.node with filter } ∨
      scan.isClaimed = false ∧
        ∃ handle, scan.node.registry.findStatus? (awaits cp) = some handle ∧
          settle env cp scan = ({ scan.node with filter } : Node).adopt env handle cp := by
  have hdiscover : ∀ filter, ({ scan.node with filter } : Node).discover env cp =
      { scan.node with filter } ∨
      ∃ handle, scan.node.registry.findStatus? (awaits cp) = some handle ∧
        ({ scan.node with filter } : Node).discover env cp =
          ({ scan.node with filter } : Node).adopt env handle cp := by
    intro filter
    unfold discover
    split
    · rename_i handle hfind
      exact .inr ⟨handle, hfind, rfl⟩
    · exact .inl rfl
  unfold settle
  dsimp only
  split
  · exact ⟨_, .inl rfl⟩
  · split
    · split
      · exact ⟨_, .inl rfl⟩
      · exact ⟨scan.node.filter, .inl rfl⟩
    · rename_i hclaimed
      rw [Bool.not_eq_true] at hclaimed
      split
      · exact ⟨_, (hdiscover _).imp_right fun h => ⟨hclaimed, h⟩⟩
      · exact ⟨scan.node.filter, (hdiscover scan.node.filter).imp_right fun h => ⟨hclaimed, h⟩⟩

end Node

end DeviceBus
