/-!
# Byte strings and little-endian words

Everything that travels on the bus is a list of bytes. Words wider than a byte are written
least significant byte first; `ofWord16` and `ofWord32` write them, `word16` and `word32` read
them back.

## Main results

- `word16_ofWord16`, `word32_ofWord32`: a written word reads back.
- `ofWord16_word16`, `ofWord32_word32`: the bytes of a word that was read are the bytes it was
  read from.
-/

namespace DeviceBus

/-- A string of bytes, first byte first. -/
abbrev Bytes := List UInt8

namespace Bytes

/-- The two bytes of a 16-bit word, low byte first. -/
def ofWord16 (word : UInt16) : Bytes :=
  [word.toUInt8, (word >>> 8).toUInt8]

/-- The four bytes of a 32-bit word, low byte first. -/
def ofWord32 (word : UInt32) : Bytes :=
  [word.toUInt8, (word >>> 8).toUInt8, (word >>> 16).toUInt8, (word >>> 24).toUInt8]

/-- The 16-bit word with the given low and high byte. -/
def word16 (low high : UInt8) : UInt16 :=
  low.toUInt16 ||| (high.toUInt16 <<< 8)

/-- The 32-bit word with the given bytes, lowest first. -/
def word32 (b0 b1 b2 b3 : UInt8) : UInt32 :=
  b0.toUInt32 ||| (b1.toUInt32 <<< 8) ||| (b2.toUInt32 <<< 16) ||| (b3.toUInt32 <<< 24)

@[simp] theorem length_ofWord32 (word : UInt32) : (ofWord32 word).length = 4 := rfl

theorem word16_ofWord16 (word : UInt16) :
    word16 word.toUInt8 (word >>> 8).toUInt8 = word := by
  apply UInt16.toBitVec_inj.1
  apply BitVec.eq_of_getLsbD_eq
  intro i hi
  simp only [word16, UInt16.toBitVec_or, UInt16.toBitVec_shiftLeft, UInt8.toBitVec_toUInt16,
    UInt16.toBitVec_toUInt8, UInt16.toBitVec_shiftRight]
  rcases i with _ | _ | _ | _ | _ | _ | _ | _ | _ | _ | _ | _ | _ | _ | _ | _ | i <;>
    first
      | omega
      | simp

theorem word32_ofWord32 (word : UInt32) :
    word32 word.toUInt8 (word >>> 8).toUInt8 (word >>> 16).toUInt8 (word >>> 24).toUInt8 =
      word := by
  apply UInt32.toBitVec_inj.1
  apply BitVec.eq_of_getLsbD_eq
  intro i hi
  simp only [word32, UInt32.toBitVec_or, UInt32.toBitVec_shiftLeft, UInt8.toBitVec_toUInt32,
    UInt32.toBitVec_toUInt8, UInt32.toBitVec_shiftRight]
  rcases i with _ | _ | _ | _ | _ | _ | _ | _ | _ | _ | _ | _ | _ | _ | _ | _ |
    _ | _ | _ | _ | _ | _ | _ | _ | _ | _ | _ | _ | _ | _ | _ | _ | i <;>
    first
      | omega
      | simp

theorem ofWord16_word16 (low high : UInt8) : ofWord16 (word16 low high) = [low, high] := by
  simp only [ofWord16, List.cons.injEq, and_true]
  constructor
  all_goals
    apply UInt8.toBitVec_inj.1
    apply BitVec.eq_of_getLsbD_eq
    intro i hi
    rcases i with _ | _ | _ | _ | _ | _ | _ | _ | i <;> first | omega | simp [word16]

theorem ofWord32_word32 (b0 b1 b2 b3 : UInt8) :
    ofWord32 (word32 b0 b1 b2 b3) = [b0, b1, b2, b3] := by
  simp only [ofWord32, List.cons.injEq, and_true]
  refine ⟨?_, ?_, ?_, ?_⟩
  all_goals
    apply UInt8.toBitVec_inj.1
    apply BitVec.eq_of_getLsbD_eq
    intro i hi
    rcases i with _ | _ | _ | _ | _ | _ | _ | _ | i <;> first | omega | simp [word32]

end Bytes

end DeviceBus
