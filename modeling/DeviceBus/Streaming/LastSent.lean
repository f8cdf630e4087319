import DeviceBus.Bytes

/-!
# What a stream sent last

A stream repeats itself only after a silence: a state is worth sending if none was sent yet, if
it differs from the last one sent, or if that one was sent long enough ago.
-/

namespace DeviceBus

/-- The state last sent, with its time, and the silence after which it is sent again. -/
structure LastSent where
  repeatAfter : Nat
  last : Option (Bytes × Nat)
  deriving DecidableEq, Repr

namespace LastSent

/-- The memory of a stream that sent nothing yet. -/
def empty (repeatAfter : Nat) : LastSent := ⟨repeatAfter, none⟩

/-- Whether a state has to be sent. -/
def isWorthSending (state : Bytes) (now : Nat) (memory : LastSent) : Bool :=
  match memory.last with
  | some (last, sentAt) => last != state || memory.repeatAfter ≤ now - sentAt
  | none => true

/-- Remember a state as sent. -/
def remember (state : Bytes) (now : Nat) (memory : LastSent) : LastSent :=
  { memory with last := some (state, now) }

end LastSent

end DeviceBus
