import DeviceBus.Text.Unprintable

/-!
# Quoted characters and strings

A character is quoted between apostrophes and a string between quotation marks. The mark itself,
the backslash and the common controls are written with a backslash; every other character that
does not print is written by its code point, `\u` and hexadecimal digits in braces.
-/

namespace DeviceBus.Text

/-- The lowercase hexadecimal digits of a number, without leading zeros. -/
def hexNumber (n : Nat) : List Char := Nat.toDigits 16 n

/-- A character inside quotes, where `mark` is the quote that has to be escaped. -/
def escape (mark : Char) (c : Char) : List Char :=
  if c = mark then ['\\', mark]
  else if c = '\x00' then ['\\', '0']
  else if c = '\t' then ['\\', 't']
  else if c = '\r' then ['\\', 'r']
  else if c = '\n' then ['\\', 'n']
  else if c = '\\' then ['\\', '\\']
  else if isUnprintable c || isExtender c then
    ['\\', 'u', '\x7b'] ++ hexNumber c.toNat ++ ['\x7d']
  else [c]

/-- A character between apostrophes. -/
def quoteChar (c : Char) : String :=
  String.ofList (['\''] ++ escape '\'' c ++ ['\''])

/-- A string between quotation marks. -/
def quoteString (text : String) : String :=
  String.ofList (['"'] ++ text.toList.flatMap (escape '"') ++ ['"'])

end DeviceBus.Text
