import DeviceBus.Output.DeviceListing
import DeviceBus.Simulation.Running

/-!
# Simulated buses

Nodes with paired clients and hosts on one bus, run for a while on a clock of their own. The first
node hosts a log console, every other one logs to it.
-/

namespace DeviceBus.Cli

/-- A streaming driver that has nothing to stream yet. -/
def idleStreamer : Driver := .pairable (.ofGated (.streamer (.create {} 0 [] false false)))

/-- The drivers of a node. -/
def simulatedDrivers (index : Nat) (deviceClass : DeviceClass) (preferred : Option UInt8) :
    List (DriverProfile × Driver) :=
  let role := if index % 2 = 0 then Role.pairableHost else Role.pairedClient
  let logging :=
    if index = 0 then
      ({ role := Role.host, deviceClass := DeviceClass.logger : DriverProfile },
        Driver.console (.create .log))
    else ({ role := Role.virtual, deviceClass := DeviceClass.logger }, Driver.logger ⟨none⟩)
  [({ role, deviceClass, wantedAddress := preferred }, idleStreamer), logging]

/-- A world with some nodes, none of them started. -/
def simulatedWorld (nodes : Nat) (deviceClass : DeviceClass) (preferred : Option UInt8) : World :=
  (List.range nodes).foldl
    (fun world index =>
      let settings : NodeSettings := { serial := UInt32.ofNat (index + 1) }
      (simulatedDrivers index deviceClass preferred).foldl
        (fun world (profile, driver) => (world.register index profile driver).2)
        (world.addSite (.create settings) .bus true))
    World.empty

/-- The entries of the nodes after some milliseconds. -/
def simulate (nodes duration : Nat) (deviceClass : DeviceClass) (preferred : Option UInt8) :
    List DeviceListing :=
  let started :=
    (List.range nodes).foldl (fun world index => (world.start index).2)
      (simulatedWorld nodes deviceClass preferred)
  (started.advance duration).sites.flatMap fun site =>
    site.node.statuses.map fun (handle, status) =>
      ⟨site.node.settings.serial, handle, status⟩

end DeviceBus.Cli
