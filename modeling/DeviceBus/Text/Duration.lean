/-!
# Durations as text

A span of whole milliseconds is written in seconds from one second on, with the fraction's
trailing zeros dropped, below that in milliseconds, and as `0ns` when it is empty.
-/

namespace DeviceBus.Text

/-- The digits of a fraction of a second, three places, without trailing zeros. -/
def fractionDigits (milliseconds : Nat) : List Char :=
  let places := [milliseconds / 100 % 10, milliseconds / 10 % 10, milliseconds % 10]
  ((places.reverse.dropWhile (· == 0)).reverse).map Nat.digitChar

/-- A span of milliseconds as text. -/
def durationText (milliseconds : Nat) : String :=
  if milliseconds = 0 then "0ns"
  else if milliseconds < 1000 then toString milliseconds ++ "ms"
  else
    match fractionDigits (milliseconds % 1000) with
    | [] => toString (milliseconds / 1000) ++ "s"
    | digits => toString (milliseconds / 1000) ++ "." ++ String.ofList digits ++ "s"

end DeviceBus.Text
