/-!
# Handles

A handle names a registry slot and the generation of its occupant, so that a handle to an entry
that was removed does not resolve to whatever took the slot.
-/

namespace DeviceBus

/-- A reference to a registry entry. -/
structure Handle where
  slot : Nat
  generation : UInt16
  deriving DecidableEq, Repr, Inhabited

/-- A handle as text. -/
def Handle.text (handle : Handle) : String :=
  "#" ++ toString handle.slot ++ "." ++ toString handle.generation.toNat

end DeviceBus
