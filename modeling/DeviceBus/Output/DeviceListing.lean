import DeviceBus.Device.Status
import DeviceBus.Handle
import DeviceBus.Output.Json
import DeviceBus.Output.Table

/-!
# Devices in print

One row for each entry of a node's registry.
-/

namespace DeviceBus

/-- A registry entry to be printed, with the serial number of its node. -/
structure DeviceListing where
  node : UInt32
  handle : Handle
  status : Status
  deriving DecidableEq, Repr

namespace DeviceListing

/-- The name of the entry's role, or a question mark if it plays none. -/
def roleName (row : DeviceListing) : String := (row.status.role?.map (·.name)).getD "?"

/-- A row as JSON. -/
def json (row : DeviceListing) : JsonValue :=
  .object
    [("node", .number row.node.toNat), ("handle", .text row.handle.text),
     ("role", .text row.roleName), ("driver_class", .number row.status.deviceClass.toNat),
     ("address", .number row.status.address.toNat),
     ("serial_number", .number row.status.serial.toNat), ("flags", .text row.status.flags.text),
     ("connected", .flag row.status.isConnected), ("paired", .flag row.status.isPaired)]

/-- The cells of a row. -/
def cells (row : DeviceListing) : List String :=
  [toString row.node.toNat, row.handle.text, row.roleName, toString row.status.deviceClass.toNat,
   toString row.status.address.toNat, toString row.status.serial.toNat, row.status.flags.text]

/-- Rows as a table. -/
def table (rows : List DeviceListing) : Table :=
  ⟨["NODE", "DRIVER", "ROLE", "CLASS", "ADDRESS", "SERIAL", "FLAGS"], rows.map cells⟩

/-- A row as one line. -/
def line (row : DeviceListing) : String :=
  String.intercalate " "
    (List.zipWith (fun name cell => name ++ "=" ++ cell)
      ["node", "driver", "role", "class", "address", "serial", "flags"] row.cells)

end DeviceListing

end DeviceBus
