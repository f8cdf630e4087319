import DeviceBus.Proofs.Text.Utf8

/-!
# Boundaries between characters

An offset into the bytes of a text may lie within a character. Whether it does is seen from one
byte: the first byte of a character is none of those that go on with one. So the offsets that pass
this test are those that characters end at, and going back from any offset one soon comes to one of
them. The longest start of a text that fits a number of bytes ends at the last boundary within this
number.

## Main results

* `isBoundary_utf8_iff`: the boundaries are where characters end.
* `isPrefix_splitFitting`: no start of a text that fits is longer than the one that is taken.
* `boundaryUpTo_utf8`: it ends at the last boundary that is near enough.
* `le_length_piece`, `lt_length_piece`: so each piece of a text is as long as it can be.
-/

namespace DeviceBus.Text

/-! ## Bytes within a character -/

/-- Whether a byte is the first one of a character. -/
def startsCharacter (byte : UInt8) : Bool := byte < 0x80 || 0xC0 ≤ byte

/-- Whether an offset lies between two characters or at an end of some bytes. -/
def isBoundary (bytes : Bytes) (offset : Nat) : Bool :=
  offset = 0 || offset = bytes.length || bytes[offset]?.any startsCharacter

/-- The last boundary that does not lie behind an offset. At 0 there is one whatever the bytes. -/
def boundaryUpTo (bytes : Bytes) : Nat → Nat
  | 0 => 0
  | offset + 1 => if isBoundary bytes (offset + 1) then offset + 1 else boundaryUpTo bytes offset

theorem startsCharacter_eq_true_iff {byte : UInt8} :
    startsCharacter byte = true ↔ byte.toNat < 0x80 ∨ 0xC0 ≤ byte.toNat := by
  simp [startsCharacter, UInt8.lt_iff_toNat_lt, UInt8.le_iff_toNat_le]

theorem IsSequence.startsCharacter {lead : UInt8} {tail : Bytes} (h : IsSequence lead tail) :
    startsCharacter lead = true := by
  obtain ⟨low, high, hafter, -⟩ := h
  rw [startsCharacter_eq_true_iff]
  by_cases hlow : lead < 0x80
  · exact .inl (UInt8.lt_iff_toNat_lt.1 hlow)
  · have hhigh : ¬lead < 0xC2 := by
      intro hbetween
      rw [sequenceAfter, if_neg hlow, if_pos hbetween] at hafter
      cases hafter
    simp only [UInt8.lt_iff_toNat_lt, UInt8.reduceToNat] at hhigh
    omega

theorem sequenceAfter_bounds {lead low high : UInt8} {count : Nat}
    (h : sequenceAfter lead = some (count, low, high)) : 0x80 ≤ low ∧ high ≤ 0xBF := by
  unfold sequenceAfter at h
  split_ifs at h <;> cases h <;> decide

/-- The bytes that go on with a character are those of no boundary. -/
theorem IsSequence.not_startsCharacter {lead : UInt8} {tail : Bytes} (h : IsSequence lead tail) :
    ∀ byte ∈ tail, Text.startsCharacter byte = false := by
  obtain ⟨low, high, hafter, hfirst, hlater⟩ := h
  obtain ⟨hlow, hhigh⟩ := sequenceAfter_bounds hafter
  have hwithin : ∀ byte ∈ tail, 0x80 ≤ byte ∧ byte ≤ 0xBF := by
    cases tail with
    | nil => simp
    | cons first later =>
      obtain ⟨hfrom, hto⟩ := hfirst first rfl
      rw [List.forall_mem_cons]
      exact ⟨⟨UInt8.le_trans hlow hfrom, UInt8.le_trans hto hhigh⟩, hlater⟩
  intro byte hbyte
  obtain ⟨hfrom, hto⟩ := hwithin byte hbyte
  simp only [UInt8.le_iff_toNat_le, UInt8.reduceToNat] at hfrom hto
  rw [Bool.eq_false_iff, Ne, startsCharacter_eq_true_iff]
  omega

theorem utf8_append (front back : List Char) : utf8 (front ++ back) = utf8 front ++ utf8 back :=
  List.flatMap_append

theorem utf8_eq_nil_iff {text : List Char} : utf8 text = [] ↔ text = [] := by
  cases text with
  | nil => exact iff_of_true rfl rfl
  | cons c text =>
    have hpos := c.utf8Size_pos
    have hlength := length_utf8_cons c text
    refine iff_of_false (fun hnone => ?_) (List.cons_ne_nil c text)
    rw [hnone, List.length_nil] at hlength
    omega

theorem length_utf8_le_of_prefix {front text : List Char} (h : front <+: text) :
    (utf8 front).length ≤ (utf8 text).length := by
  obtain ⟨back, rfl⟩ := h
  rw [utf8_append, List.length_append]
  exact Nat.le_add_right _ _

/-! ## Boundaries -/

theorem isBoundary_iff {bytes : Bytes} {offset : Nat} :
    isBoundary bytes offset = true ↔ offset = 0 ∨ offset = bytes.length ∨
      ∃ byte, bytes[offset]? = some byte ∧ startsCharacter byte = true := by
  simp [isBoundary, Option.any_eq_true, or_assoc]

theorem isBoundary_zero (bytes : Bytes) : isBoundary bytes 0 = true := isBoundary_iff.2 (.inl rfl)

/-- There is a boundary behind every start of a text. -/
theorem isBoundary_length_utf8 (front back : List Char) :
    isBoundary (utf8 (front ++ back)) (utf8 front).length = true := by
  rw [isBoundary_iff, utf8_append]
  cases back with
  | nil => exact .inr (.inl (by simp [utf8]))
  | cons c back =>
    obtain ⟨lead, tail, hbytes, hsequence, -⟩ := exists_sequence c
    refine .inr (.inr ⟨lead, ?_, hsequence.startsCharacter⟩)
    rw [utf8_cons, hbytes, List.getElem?_append_right (Nat.le_refl _), Nat.sub_self]
    rfl

/-- No boundary lies within the first character. -/
theorem utf8Size_le_of_isBoundary {c : Char} {text : List Char} {offset : Nat}
    (hpos : offset ≠ 0) (h : isBoundary (utf8 (c :: text)) offset = true) :
    c.utf8Size ≤ offset := by
  refine Nat.le_of_not_lt fun hlt => ?_
  obtain ⟨lead, tail, hbytes, hsequence, -⟩ := exists_sequence c
  have hsize : c.utf8Size = tail.length + 1 := by
    rw [← String.length_utf8EncodeChar, hbytes, List.length_cons]
  rcases isBoundary_iff.1 h with hzero | hend | ⟨byte, hbyte, hstarts⟩
  · exact hpos hzero
  · rw [length_utf8_cons] at hend
    omega
  · obtain ⟨before, rfl⟩ := Nat.exists_eq_succ_of_ne_zero hpos
    rw [utf8_cons, hbytes, List.cons_append, List.getElem?_cons_succ,
      List.getElem?_append_left (by omega)] at hbyte
    rw [hsequence.not_startsCharacter byte (List.mem_of_getElem? hbyte)] at hstarts
    cases hstarts

theorem isBoundary_of_append {front bytes : Bytes} {offset : Nat}
    (h : isBoundary (front ++ bytes) (front.length + offset) = true) :
    isBoundary bytes offset = true := by
  rw [isBoundary_iff] at h ⊢
  rcases h with hzero | hend | ⟨byte, hbyte, hstarts⟩
  · exact .inl (by omega)
  · rw [List.length_append] at hend
    exact .inr (.inl (by omega))
  · rw [List.getElem?_append_right (Nat.le_add_right _ _), Nat.add_sub_cancel_left] at hbyte
    exact .inr (.inr ⟨byte, hbyte, hstarts⟩)

/-- The boundaries of a text are the offsets that its characters end at, and 0. -/
theorem isBoundary_utf8_iff {text : List Char} {offset : Nat} :
    isBoundary (utf8 text) offset = true ↔
      ∃ front back, text = front ++ back ∧ (utf8 front).length = offset := by
  constructor
  · intro h
    induction text generalizing offset with
    | nil =>
      refine ⟨[], [], rfl, ?_⟩
      rcases isBoundary_iff.1 h with hzero | hend | ⟨byte, hbyte, -⟩
      · exact hzero.symm
      · exact hend.symm
      · cases hbyte
    | cons c text ih =>
      by_cases hzero : offset = 0
      · exact ⟨[], c :: text, rfl, hzero.symm⟩
      · -- The offset lies behind the first character, so it is one into the other bytes.
        obtain ⟨later, rfl⟩ := Nat.exists_eq_add_of_le (utf8Size_le_of_isBoundary hzero h)
        rw [utf8_cons, ← String.length_utf8EncodeChar] at h
        obtain ⟨front, back, rfl, hlength⟩ := ih (isBoundary_of_append h)
        refine ⟨c :: front, back, rfl, ?_⟩
        rw [length_utf8_cons, hlength]
  · rintro ⟨front, back, rfl, rfl⟩
    exact isBoundary_length_utf8 front back

/-! ## Searching backwards -/

theorem boundaryUpTo_le (bytes : Bytes) (offset : Nat) : boundaryUpTo bytes offset ≤ offset := by
  induction offset with
  | zero => exact Nat.le_refl 0
  | succ offset ih =>
    unfold boundaryUpTo
    split
    · exact Nat.le_refl _
    · exact Nat.le_succ_of_le ih

theorem isBoundary_boundaryUpTo (bytes : Bytes) (offset : Nat) :
    isBoundary bytes (boundaryUpTo bytes offset) = true := by
  induction offset with
  | zero => exact isBoundary_zero bytes
  | succ offset ih =>
    unfold boundaryUpTo
    split
    next hhere => exact hhere
    next => exact ih

theorem le_boundaryUpTo {bytes : Bytes} {boundary offset : Nat}
    (h : isBoundary bytes boundary = true) (hle : boundary ≤ offset) :
    boundary ≤ boundaryUpTo bytes offset := by
  induction offset with
  | zero => exact hle
  | succ offset ih =>
    unfold boundaryUpTo
    split
    next => exact hle
    next hhere =>
      refine ih (Nat.le_of_lt_succ (Nat.lt_of_le_of_ne hle ?_))
      rintro rfl
      exact hhere h

/-! ## What fits -/

theorem utf8_splitFitting (limit : Nat) (text : List Char) :
    utf8 text = utf8 (splitFitting limit text).1 ++ utf8 (splitFitting limit text).2 := by
  rw [← utf8_append, splitFitting_append]

/-- No start of a text that fits is longer than the one that is taken. -/
theorem isPrefix_splitFitting {front text : List Char} {budget : Nat} (h : front <+: text)
    (hfits : (utf8 front).length ≤ budget) : front <+: (splitFitting budget text).1 := by
  induction text generalizing front budget with
  | nil => rwa [splitFitting]
  | cons c text ih =>
    cases front with
    | nil => exact List.nil_prefix
    | cons d front =>
      obtain ⟨rfl, hlater⟩ := List.cons_prefix_cons.1 h
      rw [length_utf8_cons] at hfits
      rw [splitFitting, if_pos (by omega)]
      exact List.cons_prefix_cons.2 ⟨rfl, ih hlater (by omega)⟩

/-- If something is left, its first character did not fit, and no character is wider than four
bytes. -/
theorem lt_length_splitFitting {text : List Char} {budget : Nat}
    (h : (splitFitting budget text).2 ≠ []) :
    budget < (utf8 (splitFitting budget text).1).length + 4 := by
  induction text generalizing budget with
  | nil => exact (h rfl).elim
  | cons c text ih =>
    have hsize := utf8Size_le_four c
    unfold splitFitting at h ⊢
    split at h
    next hfits =>
      have hlater := ih h
      rw [if_pos hfits]
      dsimp only
      rw [length_utf8_cons]
      omega
    next hwide =>
      rw [if_neg hwide]
      dsimp only
      omega

/-- The start that is taken ends at the last boundary that is near enough. -/
theorem boundaryUpTo_utf8 (limit : Nat) (text : List Char) :
    boundaryUpTo (utf8 text) (min (utf8 text).length limit) =
      (utf8 (splitFitting limit text).1).length := by
  apply Nat.le_antisymm
  · have hle := boundaryUpTo_le (utf8 text) (min (utf8 text).length limit)
    obtain ⟨front, back, htext, hlength⟩ := isBoundary_utf8_iff.1
      (isBoundary_boundaryUpTo (utf8 text) (min (utf8 text).length limit))
    have hfits : (utf8 front).length ≤ limit := by omega
    rw [← hlength]
    exact length_utf8_le_of_prefix (isPrefix_splitFitting ⟨back, htext.symm⟩ hfits)
  · have hboundary := isBoundary_length_utf8 (splitFitting limit text).1 (splitFitting limit text).2
    have hfits := length_utf8_splitFitting_le limit text
    have htotal := congrArg List.length (utf8_splitFitting limit text)
    rw [List.length_append] at htotal
    rw [splitFitting_append] at hboundary
    exact le_boundaryUpTo hboundary (by omega)

/-! ## Pieces -/

section Pieces

variable {limit : Nat} {text : List Char}

/-- The first piece is the longest start that fits, if every character fits. -/
theorem chunks_eq_cons (hlimit : 4 ≤ limit) (htext : text ≠ []) : chunks limit text =
    (splitFitting limit text).1 :: chunks limit (splitFitting limit text).2 := by
  cases text with
  | nil => exact (htext rfl).elim
  | cons c text =>
    have hsize := utf8Size_le_four c
    have hfits : c.utf8Size ≤ limit := by omega
    rw [chunks, splitFitting, if_pos hfits]

theorem splitFitting_fst_ne_nil (hlimit : 4 ≤ limit) (htext : text ≠ []) :
    (splitFitting limit text).1 ≠ [] := by
  have hpiece : (splitFitting limit text).1 ∈ chunks limit text := by
    rw [chunks_eq_cons hlimit htext]
    exact List.mem_cons_self
  exact ne_nil_of_mem_chunks hpiece

/-- What is left after some pieces is cut into the others. -/
theorem chunks_flatten_of_append (hlimit : 4 ≤ limit) {before after : List (List Char)}
    (h : chunks limit text = before ++ after) : chunks limit after.flatten = after := by
  induction before generalizing text with
  | nil =>
    rw [List.nil_append] at h
    rw [← h, chunks_flatten]
  | cons piece before ih =>
    have htext : text ≠ [] := by
      rintro rfl
      rw [chunks] at h
      cases h
    rw [chunks_eq_cons hlimit htext] at h
    exact ih (List.cons.inj h).2

/-- A piece is the longest start of what was left, and the later ones are cut off the rest. -/
theorem eq_splitFitting_of_chunks (hlimit : 4 ≤ limit) {before after : List (List Char)}
    {piece : List Char} (h : chunks limit text = before ++ piece :: after) :
    piece = (splitFitting limit (piece :: after).flatten).1 ∧
      after = chunks limit (splitFitting limit (piece :: after).flatten).2 := by
  have hself := chunks_flatten_of_append hlimit h
  have hrest : (piece :: after).flatten ≠ [] := by
    intro hnone
    rw [hnone, chunks] at hself
    cases hself
  rw [chunks_eq_cons hlimit hrest] at hself
  exact ⟨(List.cons.inj hself).1.symm, (List.cons.inj hself).2.symm⟩

/-- No boundary that is near enough lies behind a piece. -/
theorem le_length_piece (hlimit : 4 ≤ limit) {before after : List (List Char)} {piece : List Char}
    (h : chunks limit text = before ++ piece :: after) {offset : Nat} (hnear : offset ≤ limit)
    (hboundary : isBoundary (utf8 (piece :: after).flatten) offset = true) :
    offset ≤ (utf8 piece).length := by
  obtain ⟨front, back, hfront, rfl⟩ := isBoundary_utf8_iff.1 hboundary
  rw [(eq_splitFitting_of_chunks hlimit h).1]
  exact length_utf8_le_of_prefix (isPrefix_splitFitting ⟨back, hfront.symm⟩ hnear)

/-- A piece that another one follows ends where a character no longer fits. -/
theorem lt_length_piece (hlimit : 4 ≤ limit) {before after : List (List Char)} {piece : List Char}
    (h : chunks limit text = before ++ piece :: after) (hafter : after ≠ []) :
    limit < (utf8 piece).length + 4 := by
  obtain ⟨hpiece, hlater⟩ := eq_splitFitting_of_chunks hlimit h
  rw [hpiece]
  refine lt_length_splitFitting fun hnone => hafter ?_
  rw [hlater, hnone, chunks]

end Pieces

end DeviceBus.Text
