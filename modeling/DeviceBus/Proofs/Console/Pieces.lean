import DeviceBus.Driver.Console
import DeviceBus.Proofs.Text.Boundaries

/-!
# Cutting a line on its bytes

A line is cut as bytes: the loop looks at most 31 bytes ahead, goes back from there to a boundary
between characters, cuts, and starts again with what is left. Nothing in it says that it gets ahead:
a boundary at 0 would leave the rest as it is, and a cut within a character would fail. It gets
ahead because no character is wider than four bytes, so that the first one always fits. The
invariant is that what is left is text, and that its pieces are the later ones of the line.

## Main results

* `Cutter.turn?_utf8`: one turn of the loop on text.
* `Cutter.Comes.exists_remaining`: what the loop has done in any of its states.
* `Cutter.comes_chunks`: where the loop ends.
* `cuts_maximally`: the loop ends with the pieces of the line, each as long as it can be.
-/

namespace DeviceBus

/-- A line that is being cut, as bytes. -/
structure Cutter where
  /-- The pieces so far. -/
  pieces : List Bytes
  /-- What is left. -/
  rest : Bytes

namespace Cutter

/-- A line that nothing was cut off yet. -/
def ofText (text : List Char) : Cutter := ⟨[], Text.utf8 text⟩

/-- Where the next piece ends: the search for a boundary goes back from the limit, or from the end
of what is left. -/
def offset (limit : Nat) (cutter : Cutter) : Nat :=
  Text.boundaryUpTo cutter.rest (min cutter.rest.length limit)

/-- One turn of the loop. There is no way to part a character. -/
def turn? (limit : Nat) (cutter : Cutter) : Option Cutter :=
  if Text.isBoundary cutter.rest (cutter.offset limit) then
    some ⟨cutter.pieces ++ [cutter.rest.take (cutter.offset limit)],
      cutter.rest.drop (cutter.offset limit)⟩
  else none

/-- The states that the loop comes to. It goes on while something is left. -/
inductive Comes (limit : Nat) (first : Cutter) : Cutter → Prop where
  | start : Comes limit first first
  | turn {cutter next : Cutter} (h : Comes limit first cutter) (hrest : cutter.rest ≠ [])
      (hturn : cutter.turn? limit = some next) : Comes limit first next

variable {limit : Nat} {text : List Char}

/-! ## One turn -/

theorem offset_utf8 (pieces : List Bytes) (limit : Nat) (text : List Char) :
    (Cutter.mk pieces (Text.utf8 text)).offset limit =
      (Text.utf8 (Text.splitFitting limit text).1).length :=
  Text.boundaryUpTo_utf8 limit text

/-- A turn cuts off the longest start of the text that fits, and text is left. -/
theorem turn?_utf8 (pieces : List Bytes) (limit : Nat) (text : List Char) :
    (Cutter.mk pieces (Text.utf8 text)).turn? limit =
      some ⟨pieces ++ [Text.utf8 (Text.splitFitting limit text).1],
        Text.utf8 (Text.splitFitting limit text).2⟩ := by
  have hboundary : Text.isBoundary (Text.utf8 text)
      (Text.utf8 (Text.splitFitting limit text).1).length = true := by
    rw [← Text.boundaryUpTo_utf8]
    exact Text.isBoundary_boundaryUpTo _ _
  rw [turn?, offset_utf8, if_pos hboundary]
  dsimp only
  rw [Text.utf8_splitFitting limit text, List.take_left, List.drop_left]

/-! ## The loop -/

/-- Whenever the loop comes by, the first pieces are cut off and the text of the others is left. -/
theorem Comes.exists_remaining (hlimit : 4 ≤ limit) {cutter : Cutter}
    (h : Comes limit (ofText text) cutter) : ∃ before remaining,
      Text.chunks limit text = before ++ Text.chunks limit remaining ∧
        cutter = ⟨before.map Text.utf8, Text.utf8 remaining⟩ := by
  induction h with
  | start => exact ⟨[], text, rfl, rfl⟩
  | turn _ hrest hturn ih =>
    obtain ⟨before, remaining, hpieces, rfl⟩ := ih
    have hremaining : remaining ≠ [] := fun hnone => hrest (Text.utf8_eq_nil_iff.2 hnone)
    rw [turn?_utf8, Option.some.injEq] at hturn
    refine ⟨before ++ [(Text.splitFitting limit remaining).1],
      (Text.splitFitting limit remaining).2, ?_, ?_⟩
    · rw [hpieces, Text.chunks_eq_cons hlimit hremaining, List.append_assoc, List.singleton_append]
    · rw [← hturn, List.map_append, List.map_singleton]

/-- From any of its states the loop ends with the pieces of what is left added. -/
theorem comes_chunks (hlimit : 4 ≤ limit) {first : Cutter} {pieces : List Bytes}
    {text : List Char} (h : Comes limit first ⟨pieces, Text.utf8 text⟩) :
    Comes limit first ⟨pieces ++ (Text.chunks limit text).map Text.utf8, []⟩ := by
  by_cases htext : text = []
  · subst htext
    rw [Text.chunks, List.map_nil, List.append_nil]
    exact h
  · have hrest : Text.utf8 text ≠ [] := fun hnone => htext (Text.utf8_eq_nil_iff.1 hnone)
    have hnext := comes_chunks hlimit (h.turn hrest (turn?_utf8 pieces limit text))
    rwa [List.append_assoc, List.singleton_append, ← List.map_cons,
      ← Text.chunks_eq_cons hlimit htext] at hnext
termination_by text.length
decreasing_by
  -- Something is cut off only because the first character fits.
  have hparts := congrArg List.length (Text.splitFitting_append limit text)
  have hfirst := List.length_pos_iff.2 (Text.splitFitting_fst_ne_nil hlimit htext)
  rw [List.length_append] at hparts
  omega

/-- A turn of the loop finds a boundary above 0 and leaves less than there was. -/
theorem exists_turn (hlimit : 4 ≤ limit) {cutter : Cutter}
    (h : Comes limit (ofText text) cutter) (hrest : cutter.rest ≠ []) :
    0 < cutter.offset limit ∧ ∃ next, cutter.turn? limit = some next ∧
      next.rest.length < cutter.rest.length := by
  obtain ⟨before, remaining, -, rfl⟩ := h.exists_remaining hlimit
  have hremaining : remaining ≠ [] := fun hnone => hrest (Text.utf8_eq_nil_iff.2 hnone)
  have hfirst := Text.splitFitting_fst_ne_nil hlimit hremaining
  have hpos : 0 < (Text.utf8 (Text.splitFitting limit remaining).1).length :=
    List.length_pos_iff.2 fun hnone => hfirst (Text.utf8_eq_nil_iff.1 hnone)
  have hparts := congrArg List.length (Text.utf8_splitFitting limit remaining)
  rw [List.length_append] at hparts
  refine ⟨?_, _, turn?_utf8 _ limit remaining, ?_⟩
  · rwa [offset_utf8]
  · dsimp only
    omega

end Cutter

/-! ## Lines -/

/-- **A line is cut as far as it goes.** The loop ends, with the pieces of the line. In every turn
the search for a boundary stops above 0, the cut succeeds and something is cut off. The pieces are
not empty, join to the line, have boundaries between them and take at most 31 bytes, and each of
them but the last is the longest that could be cut off there. -/
theorem cuts_maximally (text : List Char) :
    Cutter.Comes pieceLength (.ofText text) ⟨(linePieces text).map Text.utf8, []⟩ ∧
    (∀ cutter, Cutter.Comes pieceLength (.ofText text) cutter → cutter.rest ≠ [] →
      0 < cutter.offset pieceLength ∧ ∃ next, cutter.turn? pieceLength = some next ∧
        next.rest.length < cutter.rest.length) ∧
    (linePieces text).flatten = text ∧
    (∀ piece ∈ linePieces text, piece ≠ [] ∧ (Text.utf8 piece).length ≤ 31) ∧
    (∀ before after, linePieces text = before ++ after →
      Text.isBoundary (Text.utf8 text) (Text.utf8 before.flatten).length = true) ∧
    ∀ before piece after, linePieces text = before ++ piece :: after → after ≠ [] →
      28 ≤ (Text.utf8 piece).length ∧
      ∀ offset ≤ 31, Text.isBoundary (Text.utf8 (piece :: after).flatten) offset = true →
        offset ≤ (Text.utf8 piece).length := by
  have hlimit : 4 ≤ pieceLength := by decide
  refine ⟨Cutter.comes_chunks hlimit .start, fun cutter => Cutter.exists_turn hlimit,
    linePieces_flatten text, fun piece hpiece => ?_, fun before after h => ?_,
    fun before piece after h hafter => ⟨?_, fun offset => Text.le_length_piece hlimit h⟩⟩
  · exact ⟨Text.ne_nil_of_mem_chunks hpiece, (Text.length_utf8_of_mem_chunks hlimit hpiece).2⟩
  · have hflat := linePieces_flatten text
    rw [h, List.flatten_append] at hflat
    rw [← hflat]
    exact Text.isBoundary_length_utf8 _ _
  · have hwide : 31 < (Text.utf8 piece).length + 4 := Text.lt_length_piece hlimit h hafter
    omega

/-- A character of three bytes that would lie across the limit goes into the next piece. -/
theorem cuts_maximally_of_wideCharacter :
    let start := List.replicate 30 'x'
    let text := start ++ ['€', 'y']
    linePieces text = [start, ['€', 'y']] ∧ (Cutter.ofText text).rest ≠ [] ∧
      (Cutter.ofText text).offset pieceLength = 30 ∧
      0 < (Cutter.ofText text).offset pieceLength ∧ start ≠ [] ∧
      Text.isBoundary (Text.utf8 text) (Text.utf8 start).length = true ∧
      28 ≤ (Text.utf8 start).length ∧
      ∀ offset ≤ 31, Text.isBoundary (Text.utf8 text) offset = true →
        offset ≤ (Text.utf8 start).length := by
  intro start text
  have hpieces : linePieces text = [start, ['€', 'y']] := by
    have hlimit : 4 ≤ pieceLength := by decide
    have hfirst : Text.splitFitting pieceLength text = (start, ['€', 'y']) := by decide
    have hlast : Text.splitFitting pieceLength ['€', 'y'] = (['€', 'y'], []) := by decide
    rw [linePieces, Text.chunks_eq_cons hlimit (by decide), hfirst,
      Text.chunks_eq_cons hlimit (by decide), hlast, Text.chunks]
  have hrest : (Cutter.ofText text).rest ≠ [] := by decide
  obtain ⟨-, hturns, -, hbounds, hcuts, hlongest⟩ := cuts_maximally text
  obtain ⟨hmost, hfar⟩ := hlongest [] start [['€', 'y']] hpieces (by decide)
  have hfilled : start ≠ [] := (hbounds start (hpieces ▸ List.mem_cons_self)).1
  exact ⟨hpieces, hrest, by decide, (hturns _ .start hrest).1, hfilled,
    hcuts [start] [['€', 'y']] hpieces, hmost, hfar⟩

end DeviceBus
