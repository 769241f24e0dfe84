/-! Numbers of a fixed count of bits, and the bounds between which they lie. -/
namespace Armory.Bits

/-- How many numbers a count of bits can tell apart. -/
def size (bits : Nat) : Nat := Nat.pow 2 bits

/-- Whether a number fits into a count of bits. -/
def holds (bits n : Nat) : Bool := n < size bits

/-- Whether a number with a sign fits into a count of bits, one of them for the sign. -/
def holdsSigned (bits : Nat) (n : Int) : Bool :=
  -(size (bits - 1) : Int) ≤ n && n < (size (bits - 1) : Int)

/-- Whether a number fits into a count of bits with or without a sign. -/
def holdsEither (bits : Nat) (n : Int) : Bool := holdsSigned bits n || (0 ≤ n && holds bits n.toNat)

/-- A total kept in a count of bits; what does not fit is dropped. -/
def wrap (bits n : Nat) : Nat := n % size bits

theorem wrap_of_lt {bits n : Nat} (h : n < size bits) : wrap bits n = n := Nat.mod_eq_of_lt h

theorem wrap_le (bits n : Nat) : wrap bits n ≤ n := Nat.mod_le n (size bits)

/-- It makes no difference where on the way something is dropped. -/
theorem wrap_wrap_add (bits m n : Nat) : wrap bits (wrap bits m + n) = wrap bits (m + n) :=
  Nat.mod_add_mod m (size bits) n

/-- A number is what is kept of a total: it differs by what was dropped, if anything was. -/
structure Kept (bits n total : Nat) : Prop where
  wrap : wrap bits n = wrap bits total
  le : n ≤ total

namespace Kept

variable {bits n total : Nat}

theorem refl (bits n : Nat) : Kept bits n n := ⟨rfl, Nat.le_refl n⟩

theorem add (h : Kept bits n total) (m : Nat) : Kept bits (Bits.wrap bits (n + m)) (total + m) where
  wrap := by
    rw [← wrap_wrap_add bits total, ← h.wrap, wrap_wrap_add]
    exact Nat.mod_mod _ _
  le := Nat.le_trans (wrap_le _ _) (Nat.add_le_add_right h.le m)

/-- A total that fits is kept whole. -/
theorem eq_of_lt (h : Kept bits n total) (fits : total < size bits) : n = total := by
  rw [← wrap_of_lt (Nat.lt_of_le_of_lt h.le fits), h.wrap, wrap_of_lt fits]

end Kept

end Armory.Bits
