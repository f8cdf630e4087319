/-!
# Tickers

A ticker comes due at its start and then every period. It is looked at when its owner gets to run,
which may be late: up to five milliseconds late it keeps its rhythm, later than that it ticks once
and skips to the next multiple of its period. Times are milliseconds.
-/

namespace DeviceBus

/-- A recurring deadline. -/
structure Ticker where
  due : Nat
  period : Nat
  deriving DecidableEq, Repr

namespace Ticker

/-- How late a tick may be noticed without a skip. -/
def tolerance : Nat := 5

/-- A ticker that starts now. -/
def start (now period : Nat) : Ticker := ⟨now, period⟩

/-- Whether it has to tick. -/
def isDue (now : Nat) (ticker : Ticker) : Bool := ticker.due ≤ now

/-- The ticker after a tick that is noticed now. -/
def fire (now : Nat) (ticker : Ticker) : Ticker :=
  if ticker.due + tolerance < now then
    { ticker with due := now + ticker.period - (now - ticker.due) % ticker.period }
  else { ticker with due := ticker.due + ticker.period }

end Ticker

end DeviceBus
