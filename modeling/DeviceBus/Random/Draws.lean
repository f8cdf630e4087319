import DeviceBus.Random.ChaCha

/-!
# Drawing below a bound

A source of draws is a stream of 64-bit words and a position in it. Nothing that a node does
depends on how the words come about: the stream is any function.

## Main results

- `index_lt`: an index drawn below a positive bound is below it.
-/

namespace DeviceBus

/-- A stream of words and how many were used. -/
structure Draws where
  words : Nat → UInt64
  position : Nat

namespace Draws

instance : Inhabited Draws := ⟨⟨fun _ => 0, 0⟩⟩

/-- The stream of a seed, from its start. -/
def ofSeed (seed : UInt64) : Draws := ⟨ChaCha.word seed, 0⟩

/-- The largest low half that keeps the draw below `bound` even-handed. -/
def zone (bound : Nat) : Nat := bound <<< (63 - Nat.log2 bound) - 1

/-- Draw an index below a bound: a word times the bound has the index in its high half, and a low
half above the zone asks for another word, at most so many times. -/
def indexWithin (bound : Nat) : Nat → Draws → Nat × Draws
  | 0, draws => (0, draws)
  | attempts + 1, draws =>
    let product := (draws.words draws.position).toNat * bound
    let after := { draws with position := draws.position + 1 }
    if product % UInt64.size ≤ zone bound then (product / UInt64.size, after)
    else indexWithin bound attempts after

/-- Draw an index below a bound. Each further attempt is needed less than half the time, so the
limit on them is out of reach. -/
def index (bound : Nat) (draws : Draws) : Nat × Draws := indexWithin bound 4096 draws

theorem indexWithin_lt {bound : Nat} (h : 0 < bound) (attempts : Nat) (draws : Draws) :
    (indexWithin bound attempts draws).1 < bound := by
  induction attempts generalizing draws with
  | zero => exact h
  | succ attempts ih =>
    simp only [indexWithin]
    split
    · apply Nat.div_lt_of_lt_mul
      exact Nat.mul_lt_mul_of_pos_right (UInt64.toNat_lt_size _) h
    · exact ih _

theorem index_lt {bound : Nat} (h : 0 < bound) (draws : Draws) : (draws.index bound).1 < bound :=
  indexWithin_lt h _ draws

end Draws

end DeviceBus
