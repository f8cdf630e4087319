import DeviceBus.Node.Announce

/-!
# Ticks

With every tick an own driver without an address gets one, a drawn address that survived long
enough is confirmed, and every own driver with an address announces itself. Remote drivers and
broadcast records that were not announced for long enough are removed. A pairing partner that is
silent for long enough is given up.
-/

namespace DeviceBus

namespace Node

/-- The highest address of a device. -/
def highestAddress : Nat := 254

/-- The addresses that no entry has, in ascending order. -/
def freeAddresses (registry : Registry Entry) : List UInt8 :=
  ((List.range highestAddress).map fun i => UInt8.ofNat (i + 1)).filter fun address =>
    !registry.isInUse address

/-- Draw one of the free addresses. -/
def drawFree (node : Node) : Option UInt8 × Node :=
  let free := freeAddresses node.registry
  match free with
  | [] => (none, node)
  | _ :: _ =>
    let (index, draws) := node.draws.index free.length
    (free[index]?, { node with draws })

/-- Whether an address can be taken. -/
def isAvailable (address : UInt8) (registry : Registry Entry) : Bool :=
  0 < address && address.toNat ≤ highestAddress && !registry.isInUse address

/-- The address for a driver that has none: the preferred one at the first attempt, if it can be
taken, otherwise a drawn one. A preference is used once, for after a lost conflict the address is
known to be taken. -/
def chooseAddress (handle : Handle) (node : Node) : Option UInt8 × Node :=
  let preferred := (node.registration? handle).bind (·.wantedAddress)
  let node := node.modifyRegistration handle fun r => { r with wantedAddress := none }
  match preferred.filter fun address => isAvailable address node.registry with
  | some address => (some address, node)
  | none => node.drawFree

/-- Give an address to a driver. -/
def assignAddress (handle : Handle) (node : Node) : Node :=
  match node.chooseAddress handle with
  | (none, node) => node
  | (some address, node) =>
    (node.modifyStatus handle (·.drew address)).queueEvent handle (.addressDrawn address)

/-- Confirm the address of a driver. -/
def confirm (env : Env) (handle : Handle) (node : Node) : Node :=
  match node.status? handle with
  | none => node
  | some status =>
    let confirmed :=
      (node.modifyStatus handle (·.settled)).queueEvent handle (.connected status.address)
    (confirmed.call env handle .connected).2

/-- Count a tick of a drawn address, and confirm it when it survived long enough. -/
def probation (env : Env) (handle : Handle) (status : Status) (node : Node) : Node :=
  let counted := node.modifyStatus handle (·.counted)
  if node.settings.probationTicks ≤ countUp status.counter then counted.confirm env handle
  else counted

/-- The announce that a status calls for. -/
def announcement (status : Status) : ControlPacket :=
  let flags :=
    Flags.insertIf status.isUnconfirmed ControlFlags.uncertain <|
    Flags.insertIf status.isPairable ControlFlags.pairable <|
    Flags.insertIf status.isPaired ControlFlags.paired <|
    Flags.insertIf status.isPairing ControlFlags.pairingMode Flags.none
  { ControlPacket.hello status.address status.deviceClass status.serial with flags }

/-- Announce a driver that has an address. -/
def announce (env : Env) (handle : Handle) (node : Node) : Node :=
  match node.registry.get? handle with
  | none => node
  | some entry =>
    if entry.status.address = 0 then node
    else
      let cp := announcement entry.status
      match entry.kind with
      | .record => node.post env cp
      | .driver registration =>
        let (filled, notes) := registration.driver.fill entry.status cp
        { node with log := node.log ++ notes.map Action.noted }.post env filled

/-- A device timed out: the remote driver that followed it waits for another one. -/
def loseRemote (env : Env) (handle : Handle) (requiredSerial : UInt32) (node : Node) : Node :=
  (node.modifyStatus handle (·.vacated requiredSerial)).tellRemoved env handle

/-- Look whether a device was announced since the last tick; after too many ticks without, its
entry is removed or its driver loses it. -/
def ageDevice (env : Env) (handle : Handle) (node : Node) : Node :=
  match node.registry.get? handle with
  | none => node
  | some entry =>
    if entry.status.isSeen then node.modifyStatus handle (·.unseen)
    else
      let counted := node.modifyStatus handle (·.counted)
      if countUp entry.status.counter < node.settings.silenceTicks then counted
      else
        match entry.kind with
        | .record =>
          match counted.registry.remove handle with
          | some (_, registry) => { counted with registry }
          | none => counted
        | .driver registration => counted.loseRemote env handle registration.requiredSerial

/-- Count a tick without a sign of the partner; after too many, it is lost. -/
def agePartner (env : Env) (handle : Handle) (node : Node) : Node :=
  match node.registration? handle with
  | none => node
  | some registration =>
    let setMissed := fun (missed : UInt8) =>
      node.modifyRegistration handle fun r => { r with partnerSilence := missed }
    match registration.driver.partner? with
    | none => setMissed 0
    | some _ =>
      let missed := countUp registration.partnerSilence
      if missed ≤ node.settings.silenceTicks then setMissed missed
      else ((setMissed 0).call env handle .partnerLost).2

/-- What a node does about the address of an own driver before it announces the driver. -/
def enumerate (env : Env) (handle : Handle) (status : Status) (node : Node) : Node :=
  if status.address = 0 then node.assignAddress handle
  else if status.isUnconfirmed then node.probation env handle status
  else node

/-- The part of a tick that concerns the driver's own device. -/
def tickDevice (env : Env) (handle : Handle) (status : Status) (node : Node) : Node :=
  if status.isLocal then (node.enumerate env handle status).announce env handle
  else if status.isVirtual && status.isConnected then node.ageDevice env handle
  else node

/-- The part of a tick that concerns one entry. -/
def tickEntry (env : Env) (node : Node) (handle : Handle) : Node :=
  match node.registry.get? handle with
  | none => node
  | some entry =>
    if entry.isRecord then node.ageDevice env handle
    else (node.tickDevice env handle entry.status).agePartner env handle

/-- A tick. -/
def tick (env : Env) (node : Node) : Node := node.registry.handles.foldl (tickEntry env) node

end Node

end DeviceBus
