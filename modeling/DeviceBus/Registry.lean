import DeviceBus.BusError
import DeviceBus.Handle

/-!
# The registry

Slots of bounded number, each with a generation that advances when its entry is removed, and the
order in which the present entries came. A new entry takes the lowest free slot and goes to the
end of the order. Generations are 16 bits wide and wrap.

`toList` is the view: the pairs of handle and entry, oldest first.
-/

namespace DeviceBus

/-- A place for one entry. -/
structure Slot (α : Type) where
  generation : UInt16
  entry : Option α
  deriving Inhabited

/-- Entries under handles, in the order they came. -/
structure Registry (α : Type) where
  slots : List (Slot α)
  order : List Nat
  capacity : Nat
  deriving Inhabited

namespace Registry

variable {α : Type}

/-- A registry without entries. The capacity never exceeds what a 16-bit slot number allows. -/
def empty (capacity : Nat) : Registry α := ⟨[], [], min capacity 65535⟩

/-- The number of entries. -/
def size (registry : Registry α) : Nat := registry.order.length

/-- Whether no entry fits any more. -/
def isFull (registry : Registry α) : Bool := registry.capacity ≤ registry.size

/-- Whether there is no entry. -/
def isEmpty (registry : Registry α) : Bool := registry.order.isEmpty

/-- The lowest slot without an entry; one past the last if every slot is taken. -/
def freeSlot (registry : Registry α) : Nat := registry.slots.findIdx (·.entry.isNone)

/-- Store an entry under a new handle. -/
def insert (entry : α) (registry : Registry α) : Except BusError (Handle × Registry α) :=
  if registry.isFull then .error (.registryFull registry.capacity)
  else
    let slot := registry.freeSlot
    match registry.slots[slot]? with
    | some s =>
      .ok (⟨slot, s.generation⟩,
        { registry with
          slots := registry.slots.set slot ⟨s.generation, some entry⟩
          order := registry.order ++ [slot] })
    | none =>
      .ok (⟨slot, 0⟩,
        { registry with
          slots := registry.slots ++ [⟨0, some entry⟩]
          order := registry.order ++ [slot] })

/-- The entry of a handle. -/
def get? (registry : Registry α) (handle : Handle) : Option α :=
  match registry.slots[handle.slot]? with
  | some slot => if slot.generation = handle.generation then slot.entry else none
  | none => none

/-- Take an entry out. Its slot starts a new generation. -/
def remove (handle : Handle) (registry : Registry α) : Option (α × Registry α) :=
  match registry.get? handle with
  | some entry =>
    some (entry,
      { registry with
        slots := registry.slots.set handle.slot ⟨handle.generation + 1, none⟩
        order := registry.order.filter (· != handle.slot) })
  | none => none

/-- Replace the entry of a handle; a handle without an entry changes nothing. -/
def set (handle : Handle) (entry : α) (registry : Registry α) : Registry α :=
  match registry.get? handle with
  | some _ =>
    { registry with slots := registry.slots.set handle.slot ⟨handle.generation, some entry⟩ }
  | none => registry

/-- Change the entry of a handle. -/
def modify (handle : Handle) (change : α → α) (registry : Registry α) : Registry α :=
  match registry.get? handle with
  | some entry => registry.set handle (change entry)
  | none => registry

/-- The pair of handle and entry in a slot. -/
def atSlot? (registry : Registry α) (slot : Nat) : Option (Handle × α) :=
  match registry.slots[slot]? with
  | some s => s.entry.map fun entry => (⟨slot, s.generation⟩, entry)
  | none => none

/-- The entries with their handles, oldest first. -/
def toList (registry : Registry α) : List (Handle × α) := registry.order.filterMap registry.atSlot?

/-- The handles, oldest entry first. -/
def handles (registry : Registry α) : List Handle :=
  registry.order.map fun slot =>
    ⟨slot, (registry.slots[slot]?.map (·.generation)).getD 0⟩

/-- The handle of the first entry with a property. -/
def find? (registry : Registry α) (matching : α → Bool) : Option Handle :=
  (registry.toList.find? fun pair => matching pair.2).map (·.1)

end Registry

end DeviceBus
