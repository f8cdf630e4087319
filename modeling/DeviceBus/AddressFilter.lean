/-!
# The address filter

A bounded set of addresses of devices that are paired with someone else. Address 0 is never in
it. The set is kept in ascending order.
-/

namespace DeviceBus

/-- The filter: its addresses in ascending order and how many it may hold. -/
structure AddressFilter where
  addresses : List UInt8
  capacity : Nat
  deriving DecidableEq, Repr, Inhabited

namespace AddressFilter

/-- An empty filter. -/
def empty (capacity : Nat) : AddressFilter := ⟨[], capacity⟩

/-- Put an address into an ascending list. -/
def insertSorted (address : UInt8) : List UInt8 → List UInt8
  | [] => [address]
  | a :: rest => if address < a then address :: a :: rest else a :: insertSorted address rest

/-- Add an address, and whether it is in the filter now. Address 0 and an address that does not
fit are refused. -/
def add (address : UInt8) (filter : AddressFilter) : Bool × AddressFilter :=
  if address = 0 then (false, filter)
  else if address ∈ filter.addresses then (true, filter)
  else if filter.capacity ≤ filter.addresses.length then (false, filter)
  else (true, { filter with addresses := insertSorted address filter.addresses })

/-- Remove an address if it is there. -/
def remove (address : UInt8) (filter : AddressFilter) : AddressFilter :=
  { filter with addresses := filter.addresses.filter (· != address) }

/-- Whether an address is filtered. -/
def contains (address : UInt8) (filter : AddressFilter) : Bool :=
  0 < address && address ∈ filter.addresses

/-- The number of filtered addresses. -/
def size (filter : AddressFilter) : Nat := filter.addresses.length

end AddressFilter

end DeviceBus
