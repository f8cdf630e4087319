/-!
# Decimal numbers

Numbers are read from ASCII digits with an optional sign in front. Leading zeros are allowed,
blanks and separators are not.
-/

namespace DeviceBus.Text

/-- Whether a character is an ASCII digit. -/
def isDigit (c : Char) : Bool := '0' ≤ c && c ≤ '9'

/-- The number that some digits spell, at least one of them. -/
def natOfDigits? (digits : List Char) : Option Nat :=
  if digits.isEmpty || !digits.all isDigit then none
  else some (digits.foldl (fun n c => n * 10 + (c.toNat - '0'.toNat)) 0)

/-- A number that may have a plus sign and stays below a bound. -/
def readNat? (bound : Nat) (text : String) : Option Nat :=
  let digits := match text.toList with
    | '+' :: rest => rest
    | all => all
  (natOfDigits? digits).filter (· < bound)

/-- A number that may have either sign and lies between two bounds. A minus sign leaves only
zero above a bound that is not negative. -/
def readBetween? (least most : Nat) (text : String) : Option Nat :=
  let value := match text.toList with
    | '-' :: rest => (natOfDigits? rest).filter (· == 0)
    | '+' :: rest => natOfDigits? rest
    | all => natOfDigits? all
  value.filter fun n => least ≤ n && n ≤ most

end DeviceBus.Text
