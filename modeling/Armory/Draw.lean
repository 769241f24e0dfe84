import Armory.Bits

/-! Drawing by lot from a source of random words of 32 bits. A word that would favour some outcomes is thrown
away and another one drawn. -/
namespace Armory

/-- A source of random words: the given ones, then zeros for ever; and how many have been drawn. -/
structure Lots where
  words : List UInt32 := []
  drawn : Nat := 0
  deriving DecidableEq, Repr

namespace Lots

/-- The largest low half that a product of a word and `n` may have for the word to count: all outcomes
then have equally many words. -/
def zone (n : Nat) : Nat := (n <<< (31 - Nat.log2 n)) % Bits.size 32 - 1

/-- Draws words until one counts, and gives the outcome below `n` that it stands for. -/
def belowFrom (n : Nat) (drawn : Nat) : List UInt32 → Nat × Lots
  | [] => (0, ⟨[], drawn + 1⟩)
  | w :: rest =>
    let product := w.toNat * n
    if product % Bits.size 32 ≤ zone n then (product / Bits.size 32, ⟨rest, drawn + 1⟩)
    else belowFrom n (drawn + 1) rest

/-- One of the numbers below `n`, for a positive `n`. -/
def below (l : Lots) (n : Nat) : Nat × Lots := belowFrom n l.drawn l.words

/-- One of the given things; nothing is drawn if there is none. -/
def choose {α : Type} (l : Lots) (xs : List α) : Option α × Lots :=
  if xs.isEmpty then (none, l) else (xs[(l.below xs.length).1]?, (l.below xs.length).2)

end Lots
end Armory
