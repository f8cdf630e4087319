import DeviceBus.Text.Quoted

/-!
# Flag sets

A flag set is a word of sixteen bits, some of which have names. Two kinds of set never mix:
device flags describe a driver's role and lifecycle on its node, control flags travel inside
announces. Bits without a name are kept.
-/

namespace DeviceBus

/-- A set of flags of the kind `κ`. -/
structure Flags (κ : Type) where
  bits : UInt16
  deriving DecidableEq, Repr

/-- The names of one kind of flags, in the order they are written. -/
class FlagNames (κ : Type) where
  setName : String
  table : List (UInt16 × String)

namespace Flags

variable {κ : Type}

/-- The set without flags. -/
def none : Flags κ := ⟨0⟩

instance : Inhabited (Flags κ) := ⟨none⟩

/-- Whether every bit of `other` is set. -/
def contains (flags other : Flags κ) : Bool := flags.bits &&& other.bits == other.bits

/-- Whether some bit of `other` is set. -/
def intersects (flags other : Flags κ) : Bool := flags.bits &&& other.bits != 0

/-- The set with the bits of `other` set. -/
def insert (flags other : Flags κ) : Flags κ := ⟨flags.bits ||| other.bits⟩

/-- The set with the bits of `other` cleared. -/
def remove (flags other : Flags κ) : Flags κ := ⟨flags.bits &&& ~~~other.bits⟩

/-- The set with only the bits of `other`. -/
def restrict (flags other : Flags κ) : Flags κ := ⟨flags.bits &&& other.bits⟩

/-- The set with the bits of `other` set if `condition` holds. -/
def insertIf (condition : Bool) (other flags : Flags κ) : Flags κ :=
  if condition then flags.insert other else flags

instance : Union (Flags κ) := ⟨insert⟩

variable [FlagNames κ]

/-- The names of the flags that are set. -/
def names (flags : Flags κ) : List String :=
  ((FlagNames.table κ).filter fun entry => flags.contains ⟨entry.1⟩).map (·.2)

/-- The names joined with bars, or a dash if no bit is set. -/
def text (flags : Flags κ) : String :=
  if flags.bits = 0 then "-" else String.intercalate "|" flags.names

/-- The bits in hexadecimal, at least four digits, and the names. -/
def fullText (flags : Flags κ) : String :=
  let digits := Text.hexNumber flags.bits.toNat
  let padded := String.ofList (List.replicate (4 - digits.length) '0' ++ digits)
  FlagNames.setName κ ++ "(0x" ++ padded ++ ": " ++ String.intercalate "|" flags.names ++ ")"

end Flags

/-! ## Device flags -/

/-- The kind of flags that describe a driver on its node. -/
inductive OfDevice where
  deriving DecidableEq, Repr

/-- A driver's role and lifecycle. -/
abbrev DeviceFlags := Flags OfDevice

namespace DeviceFlags

/-- The driver owns and announces its own address. -/
def own : DeviceFlags := ⟨0x8000⟩

/-- The driver tracks a peer's address found in announces. -/
def remote : DeviceFlags := ⟨0x4000⟩

/-- The driver receives all traffic of its class. -/
def broadcast : DeviceFlags := ⟨0x2000⟩

/-- The driver takes part in pairing. -/
def pair : DeviceFlags := ⟨0x1000⟩

/-- The driver accepts pairing requests. -/
def pairable : DeviceFlags := ⟨0x0800⟩

/-- The driver is bonded to a partner. -/
def paired : DeviceFlags := ⟨0x0400⟩

/-- A pairing request is outstanding. -/
def pairing : DeviceFlags := ⟨0x0200⟩

/-- The address is confirmed and the device connected. -/
def confirmed : DeviceFlags := ⟨0x0080⟩

/-- An address is drawn and waits for conflicts. -/
def unconfirmed : DeviceFlags := ⟨0x0040⟩

/-- An announce was seen since the last tick. -/
def seen : DeviceFlags := ⟨0x0020⟩

/-- A passive record made for a broadcast driver. -/
def record : DeviceFlags := ⟨0x0010⟩

/-- The role bits; every other bit is lifecycle. -/
def roleMask : DeviceFlags := ⟨0xF800⟩

/-- Only the role bits of a set. -/
def mode (flags : DeviceFlags) : DeviceFlags := flags.restrict roleMask

end DeviceFlags

instance : FlagNames OfDevice where
  setName := "DeviceFlags"
  table :=
    [(0x8000, "LOCAL"), (0x4000, "REMOTE"), (0x2000, "BROADCAST"), (0x1000, "PAIR"),
     (0x0800, "PAIRABLE"), (0x0400, "PAIRED"), (0x0200, "PAIRING"), (0x0080, "INITIALISED"),
     (0x0040, "INITIALISING"), (0x0020, "CP_SEEN"), (0x0010, "BROADCAST_MAP")]

/-! ## Control flags -/

/-- The kind of flags that travel in control packets. -/
inductive OfControl where
  deriving DecidableEq, Repr

/-- What an announce or a pairing packet says about its sender. -/
abbrev ControlFlags := Flags OfControl

namespace ControlFlags

/-- The sender is negotiating a pairing. -/
def pairingMode : ControlFlags := ⟨0x4000⟩

/-- The sender accepts pairing requests. -/
def pairable : ControlFlags := ⟨0x2000⟩

/-- The sender is bonded to a partner. -/
def paired : ControlFlags := ⟨0x1000⟩

/-- The address in the packet is taken; its sender must back off. -/
def conflict : ControlFlags := ⟨0x0800⟩

/-- The sender has not confirmed its address yet. -/
def uncertain : ControlFlags := ⟨0x0400⟩

/-- Pairing rejected. -/
def nack : ControlFlags := ⟨0x0200⟩

/-- Pairing accepted. -/
def ack : ControlFlags := ⟨0x0100⟩

/-- A packet is safe when its sender negotiates neither an address nor a pairing. -/
def isSafe (flags : ControlFlags) : Bool := !flags.intersects (uncertain ∪ pairingMode)

end ControlFlags

instance : FlagNames OfControl where
  setName := "ControlFlags"
  table :=
    [(0x8000, "RESERVED"), (0x4000, "PAIRING_MODE"), (0x2000, "PAIRABLE"), (0x1000, "PAIRED"),
     (0x0800, "CONFLICT"), (0x0400, "UNCERTAIN"), (0x0200, "NACK"), (0x0100, "ACK")]

end DeviceBus
