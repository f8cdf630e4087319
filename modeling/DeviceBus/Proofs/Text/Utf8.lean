import DeviceBus.Text.Utf8
import Mathlib.Tactic.SplitIfs

/-!
# Text that survives as bytes

Every character is written as a well-formed sequence, and a well-formed sequence is read as its
character, whatever follows it. So text that was written is read as it was, and so is every piece
of it. A piece takes as many bytes as it may at most.

## Main results

* `decodeLossy_sequence`: a well-formed sequence gives its character.
* `decodeLossy_utf8`: text that was written is read as it was.
* `length_utf8_of_mem_chunks`: how many bytes a piece takes.
-/

namespace DeviceBus.Text

/-! ## Sequences -/

/-- A lead byte and the bytes that may follow it. -/
def IsSequence (lead : UInt8) (tail : Bytes) : Prop :=
  ∃ low high, sequenceAfter lead = some (tail.length, low, high) ∧
    (∀ b ∈ tail.head?, low ≤ b ∧ b ≤ high) ∧ ∀ b ∈ tail.tail, 0x80 ≤ b ∧ b ≤ 0xBF

theorem continuation_append {low high : UInt8} {tail : Bytes} (rest : Bytes)
    (hfirst : ∀ b ∈ tail.head?, low ≤ b ∧ b ≤ high)
    (hlater : ∀ b ∈ tail.tail, 0x80 ≤ b ∧ b ≤ 0xBF) :
    continuation low high tail.length (tail ++ rest) = tail := by
  induction tail generalizing low high with
  | nil => rfl
  | cons b tail ih =>
    have hb : (decide (low ≤ b) && decide (b ≤ high)) = true := by
      simpa using hfirst b rfl
    rw [List.length_cons, List.cons_append, continuation, if_pos hb]
    refine congrArg (b :: ·) (ih (fun c hc => ?_) fun c hc => ?_)
    · exact hlater c (List.mem_of_mem_head? hc)
    · exact hlater c (List.mem_of_mem_tail hc)

/-- A well-formed sequence gives its character, and reading goes on behind it. -/
theorem decodeLossy_sequence {lead : UInt8} {tail : Bytes} (h : IsSequence lead tail)
    (rest : Bytes) : decodeLossy (lead :: tail ++ rest) = spell lead tail :: decodeLossy rest := by
  obtain ⟨low, high, hafter, hfirst, hlater⟩ := h
  rw [List.cons_append, decodeLossy, hafter]
  dsimp only
  rw [continuation_append rest hfirst hlater, if_pos rfl, List.drop_left]

theorem isSequence_one {lead : UInt8} (h : lead.toNat < 0x80) : IsSequence lead [] := by
  refine ⟨0x80, 0xBF, ?_, by simp, by simp⟩
  simp only [sequenceAfter, UInt8.lt_iff_toNat_lt]
  exact if_pos h

theorem isSequence_two {lead b : UInt8} (hlead : 0xC2 ≤ lead.toNat ∧ lead.toNat < 0xE0)
    (hb : 0x80 ≤ b.toNat ∧ b.toNat < 0xC0) : IsSequence lead [b] := by
  refine ⟨0x80, 0xBF, ?_, ?_, by simp⟩
  · simp only [sequenceAfter, UInt8.lt_iff_toNat_lt, UInt8.reduceToNat, List.length_singleton]
    rw [if_neg (by omega), if_neg (by omega), if_pos hlead.2]
  · simp only [List.head?_cons, Option.mem_def, Option.some.injEq, forall_eq',
      UInt8.le_iff_toNat_le, UInt8.reduceToNat]
    omega

/-- No sequence of three bytes is longer than it has to be, and none spells a surrogate. -/
theorem isSequence_three {lead b c : UInt8} (hlead : 0xE0 ≤ lead.toNat ∧ lead.toNat < 0xF0)
    (hb : 0x80 ≤ b.toNat ∧ b.toNat < 0xC0) (hc : 0x80 ≤ c.toNat ∧ c.toNat < 0xC0)
    (hshort : lead.toNat = 0xE0 → 0xA0 ≤ b.toNat)
    (hscalar : lead.toNat = 0xED → b.toNat < 0xA0) : IsSequence lead [b, c] := by
  refine ⟨if lead.toNat = 0xE0 then 0xA0 else 0x80, if lead.toNat = 0xED then 0x9F else 0xBF,
    ?_, ?_, ?_⟩
  · simp only [sequenceAfter, UInt8.lt_iff_toNat_lt, ← UInt8.toNat_inj, UInt8.reduceToNat,
      List.length_cons, List.length_nil]
    rw [if_neg (by omega), if_neg (by omega), if_neg (by omega)]
    split_ifs <;> first | rfl | omega
  · simp only [List.head?_cons, Option.mem_def, Option.some.injEq, forall_eq',
      UInt8.le_iff_toNat_le]
    split_ifs <;> simp only [UInt8.reduceToNat] <;> omega
  · simp only [List.tail_cons, List.mem_singleton, forall_eq, UInt8.le_iff_toNat_le,
      UInt8.reduceToNat]
    omega

/-- No sequence of four bytes is longer than it has to be, and none spells more than there is. -/
theorem isSequence_four {lead b c d : UInt8} (hlead : 0xF0 ≤ lead.toNat ∧ lead.toNat ≤ 0xF4)
    (hb : 0x80 ≤ b.toNat ∧ b.toNat < 0xC0) (hc : 0x80 ≤ c.toNat ∧ c.toNat < 0xC0)
    (hd : 0x80 ≤ d.toNat ∧ d.toNat < 0xC0) (hshort : lead.toNat = 0xF0 → 0x90 ≤ b.toNat)
    (hlast : lead.toNat = 0xF4 → b.toNat < 0x90) : IsSequence lead [b, c, d] := by
  refine ⟨if lead.toNat = 0xF0 then 0x90 else 0x80, if lead.toNat = 0xF4 then 0x8F else 0xBF,
    ?_, ?_, ?_⟩
  · simp only [sequenceAfter, UInt8.lt_iff_toNat_lt, ← UInt8.toNat_inj, UInt8.reduceToNat,
      List.length_cons, List.length_nil]
    rw [if_neg (by omega), if_neg (by omega), if_neg (by omega), if_neg (by omega),
      if_neg (by omega), if_neg (by omega)]
    split_ifs <;> first | rfl | omega
  · simp only [List.head?_cons, Option.mem_def, Option.some.injEq, forall_eq',
      UInt8.le_iff_toNat_le]
    split_ifs <;> simp only [UInt8.reduceToNat] <;> omega
  · simp only [List.tail_cons, List.mem_cons, List.not_mem_nil, or_false, forall_eq_or_imp,
      forall_eq, UInt8.le_iff_toNat_le, UInt8.reduceToNat]
    omega

/-! ## Characters -/

theorem toNat_ofNat_of_lt {n : Nat} (h : n < 256) : (UInt8.ofNat n).toNat = n := by
  rw [UInt8.toNat_ofNat']
  omega

/-- The code points of characters leave out the surrogates. -/
theorem toNat_isScalar (c : Char) :
    c.val.toNat < 0xD800 ∨ 0xDFFF < c.val.toNat ∧ c.val.toNat < 0x110000 := c.valid

theorem ofNat_eq (c : Char) {n : Nat} (h : n = c.val.toNat) : Char.ofNat n = c := by
  rw [h]
  exact Char.ofNat_toNat c

/-- A character is written as a sequence that spells it. -/
theorem exists_sequence (c : Char) :
    ∃ lead tail, String.utf8EncodeChar c = lead :: tail ∧ IsSequence lead tail ∧
      spell lead tail = c := by
  have hscalar := toNat_isScalar c
  simp only [String.utf8EncodeChar]
  split_ifs with hone htwo hthree
  · have hlead := toNat_ofNat_of_lt (n := c.val.toNat) (by omega)
    exact ⟨_, [], rfl, isSequence_one (by omega), ofNat_eq c hlead⟩
  · have hlead := toNat_ofNat_of_lt (n := c.val.toNat / 64 % 32 + 192) (by omega)
    have hb := toNat_ofNat_of_lt (n := c.val.toNat % 64 + 128) (by omega)
    refine ⟨_, [_], rfl, isSequence_two (by omega) (by omega), ofNat_eq c ?_⟩
    simp only [List.foldl_cons, List.foldl_nil, List.length_cons, List.length_nil, hlead, hb]
    omega
  · have hlead := toNat_ofNat_of_lt (n := c.val.toNat / 4096 % 16 + 224) (by omega)
    have hb := toNat_ofNat_of_lt (n := c.val.toNat / 64 % 64 + 128) (by omega)
    have hc := toNat_ofNat_of_lt (n := c.val.toNat % 64 + 128) (by omega)
    refine ⟨_, [_, _], rfl, isSequence_three (by omega) (by omega) (by omega) (by omega) (by omega),
      ofNat_eq c ?_⟩
    simp only [List.foldl_cons, List.foldl_nil, List.length_cons, List.length_nil, hlead, hb, hc]
    omega
  · have hlead := toNat_ofNat_of_lt (n := c.val.toNat / 262144 % 8 + 240) (by omega)
    have hb := toNat_ofNat_of_lt (n := c.val.toNat / 4096 % 64 + 128) (by omega)
    have hc := toNat_ofNat_of_lt (n := c.val.toNat / 64 % 64 + 128) (by omega)
    have hd := toNat_ofNat_of_lt (n := c.val.toNat % 64 + 128) (by omega)
    refine ⟨_, [_, _, _], rfl, isSequence_four (by omega) (by omega) (by omega) (by omega)
      (by omega) (by omega), ofNat_eq c ?_⟩
    simp only [List.foldl_cons, List.foldl_nil, List.length_cons, List.length_nil, hlead, hb, hc,
      hd]
    omega

theorem utf8_cons (c : Char) (text : List Char) :
    utf8 (c :: text) = String.utf8EncodeChar c ++ utf8 text := rfl

/-- Text that was written is read as it was. -/
theorem decodeLossy_utf8 (text : List Char) : decodeLossy (utf8 text) = text := by
  induction text with
  | nil => rw [utf8, List.flatMap_nil, decodeLossy]
  | cons c text ih =>
    obtain ⟨lead, tail, hbytes, hsequence, hspell⟩ := exists_sequence c
    rw [utf8_cons, hbytes, decodeLossy_sequence hsequence, hspell, ih]

/-! ## Pieces -/

theorem length_utf8_cons (c : Char) (text : List Char) :
    (utf8 (c :: text)).length = c.utf8Size + (utf8 text).length := by
  rw [utf8_cons, List.length_append, String.length_utf8EncodeChar]

theorem length_utf8_splitFitting_le (budget : Nat) (text : List Char) :
    (utf8 (splitFitting budget text).1).length ≤ budget := by
  induction text generalizing budget with
  | nil => exact Nat.zero_le budget
  | cons c text ih =>
    unfold splitFitting
    split
    · have hrest := ih (budget - c.utf8Size)
      dsimp only
      rw [length_utf8_cons]
      omega
    · exact Nat.zero_le budget

theorem utf8Size_le_four (c : Char) : c.utf8Size ≤ 4 := by
  have := c.utf8Size_eq
  omega

/-- A piece takes at least one byte and at most as many as a piece may, if that is enough for every
character. -/
theorem length_utf8_of_mem_chunks {limit : Nat} {text piece : List Char} (hlimit : 4 ≤ limit)
    (h : piece ∈ chunks limit text) :
    1 ≤ (utf8 piece).length ∧ (utf8 piece).length ≤ limit := by
  fun_induction chunks limit text with
  | case1 => simp at h
  | case2 c rest parts ih =>
    rcases List.mem_cons.1 h with rfl | hlater
    · have hsize := utf8Size_le_four c
      have hpos := c.utf8Size_pos
      have hrest : (utf8 parts.1).length ≤ limit - c.utf8Size :=
        length_utf8_splitFitting_le (limit - c.utf8Size) rest
      rw [length_utf8_cons]
      omega
    · exact ih hlater

end DeviceBus.Text
