import DeviceBus.Bytes

/-!
# Text as bytes

`utf8` writes text as UTF-8. `decodeLossy` reads any bytes as text: a well-formed sequence gives
its character, and each longest run of bytes that starts a sequence but does not finish it gives
one replacement character. `chunks` cuts text into pieces of a bounded number of bytes without
cutting a character.

## Main results

- `chunks_flatten`: the pieces join to the text.
- `ne_nil_of_mem_chunks`: no piece is empty.
-/

namespace DeviceBus.Text

/-- The bytes of a text in UTF-8. -/
def utf8 (text : List Char) : Bytes := text.flatMap String.utf8EncodeChar

/-! ## Reading bytes as text -/

/-- How a sequence that starts with `lead` goes on: the number of bytes after the first, and the
least and greatest value of the next one. -/
def sequenceAfter (lead : UInt8) : Option (Nat × UInt8 × UInt8) :=
  if lead < 0x80 then some (0, 0x80, 0xBF)
  else if lead < 0xC2 then none
  else if lead < 0xE0 then some (1, 0x80, 0xBF)
  else if lead = 0xE0 then some (2, 0xA0, 0xBF)
  else if lead = 0xED then some (2, 0x80, 0x9F)
  else if lead < 0xF0 then some (2, 0x80, 0xBF)
  else if lead = 0xF0 then some (3, 0x90, 0xBF)
  else if lead < 0xF4 then some (3, 0x80, 0xBF)
  else if lead = 0xF4 then some (3, 0x80, 0x8F)
  else none

/-- The bytes that continue a sequence: at most `count` of them, the first between `low` and
`high`, the others between `0x80` and `0xBF`. -/
def continuation (low high : UInt8) : Nat → Bytes → Bytes
  | 0, _ => []
  | _ + 1, [] => []
  | count + 1, b :: rest =>
    if low ≤ b && b ≤ high then b :: continuation 0x80 0xBF count rest else []

/-- The character that a lead byte and its continuation bytes spell. -/
def spell (lead : UInt8) (tail : Bytes) : Char :=
  let start := match tail.length with
    | 0 => lead.toNat
    | 1 => lead.toNat % 0x20
    | 2 => lead.toNat % 0x10
    | _ => lead.toNat % 0x08
  Char.ofNat (tail.foldl (fun value b => value * 0x40 + b.toNat % 0x40) start)

/-- The text of any bytes, with the replacement character for what is not well formed. -/
def decodeLossy : Bytes → List Char
  | [] => []
  | lead :: rest =>
    match sequenceAfter lead with
    | none => '\ufffd' :: decodeLossy rest
    | some (count, low, high) =>
      let tail := continuation low high count rest
      (if tail.length = count then spell lead tail else '\ufffd') ::
        decodeLossy (rest.drop tail.length)
termination_by bytes => bytes.length
decreasing_by
  · simp
  · simp only [List.length_drop, List.length_cons]; omega

/-! ## Cutting text into pieces -/

/-- The longest start of a text that takes at most `budget` bytes, and the rest. -/
def splitFitting (budget : Nat) : List Char → List Char × List Char
  | [] => ([], [])
  | c :: rest =>
    if c.utf8Size ≤ budget then
      let parts := splitFitting (budget - c.utf8Size) rest
      (c :: parts.1, parts.2)
    else ([], c :: rest)

theorem splitFitting_append (budget : Nat) (text : List Char) :
    (splitFitting budget text).1 ++ (splitFitting budget text).2 = text := by
  induction text generalizing budget with
  | nil => rfl
  | cons c rest ih =>
    simp only [splitFitting]
    split
    · simp [ih]
    · rfl

theorem length_splitFitting_snd_le (budget : Nat) (text : List Char) :
    (splitFitting budget text).2.length ≤ text.length := by
  have h := congrArg List.length (splitFitting_append budget text)
  simp only [List.length_append] at h
  omega

/-- A text in pieces of at most `limit` bytes, each as long as it can be. A character wider than
the limit is a piece of its own. -/
def chunks (limit : Nat) : List Char → List (List Char)
  | [] => []
  | c :: rest =>
    let parts := splitFitting (limit - c.utf8Size) rest
    (c :: parts.1) :: chunks limit parts.2
termination_by text => text.length
decreasing_by
  exact Nat.lt_succ_of_le (length_splitFitting_snd_le _ _)

theorem chunks_flatten (limit : Nat) (text : List Char) : (chunks limit text).flatten = text := by
  fun_induction chunks limit text with
  | case1 => rfl
  | case2 c rest parts ih =>
    simp only [List.flatten_cons, ih, List.cons_append, List.cons.injEq, true_and]
    exact splitFitting_append _ _

theorem ne_nil_of_mem_chunks {limit : Nat} {text piece : List Char}
    (h : piece ∈ chunks limit text) : piece ≠ [] := by
  fun_induction chunks limit text with
  | case1 => simp at h
  | case2 c rest parts ih =>
    rcases List.mem_cons.1 h with rfl | h
    · simp
    · exact ih h

end DeviceBus.Text
