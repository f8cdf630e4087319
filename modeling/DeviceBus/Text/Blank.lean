/-!
# White space

The characters with the property `White_Space`, and the removal of them at both ends of a text.
The table lists the property's ranges in order; it is wider than the ASCII blanks.
-/

namespace DeviceBus.Text

/-- The ranges of the property `White_Space`, both ends included. -/
def blankRanges : List (Nat × Nat) :=
  [(0x09, 0x0D), (0x20, 0x20), (0x85, 0x85), (0xA0, 0xA0), (0x1680, 0x1680), (0x2000, 0x200A),
   (0x2028, 0x2029), (0x202F, 0x202F), (0x205F, 0x205F), (0x3000, 0x3000)]

/-- Whether a character is white space. -/
def isBlank (c : Char) : Bool :=
  blankRanges.any fun range => range.1 ≤ c.toNat && c.toNat ≤ range.2

/-- The text without the white space at its start. -/
def trimStart (text : List Char) : List Char := text.dropWhile isBlank

/-- The text without the white space at its end. -/
def trimEnd (text : List Char) : List Char := (text.reverse.dropWhile isBlank).reverse

/-- The text without the white space at either end. -/
def trim (text : List Char) : List Char := trimEnd (trimStart text)

end DeviceBus.Text
