/-!
# Widths of whole numbers

Which whole numbers a given number of bits can hold, with a sign and without.
-/

namespace SchemaInterfaces.Width

/-- How many numbers so many bits can hold. -/
def count (bits : Nat) : Nat :=
  Nat.pow 2 bits

/-- One bit more holds twice as many numbers. -/
theorem count_succ (bits : Nat) : count (bits + 1) = count bits * 2 := rfl

/-- Whether so many bits can hold a number without a sign. -/
def holds (bits : Nat) (n : Int) : Bool :=
  decide (0 ≤ n ∧ n < count bits)

/-- Whether so many bits can hold a number with a sign. -/
def holdsSigned (bits : Nat) (n : Int) : Bool :=
  decide (-(count (bits - 1) : Int) ≤ n ∧ n < count (bits - 1))

/-- The lowest bits of a number, the first of them as a sign. -/
def signed (bits n : Nat) : Int :=
  Int.bmod n (count bits)

/-- The lowest bits of a number are a number that so many bits can hold. -/
theorem holdsSigned_signed (bits n : Nat) :
    holdsSigned (bits + 1) (signed (bits + 1) n) = true := by
  have positive : 0 < count bits := Nat.pow_pos (by decide)
  have double : count (bits + 1) = count bits * 2 := count_succ bits
  have low := Int.le_bmod (x := (n : Int)) (m := count (bits + 1)) (by omega)
  have high := Int.bmod_lt (x := (n : Int)) (m := count (bits + 1)) (by omega)
  rw [holdsSigned, signed, decide_eq_true_eq, Nat.add_sub_cancel]
  omega

end SchemaInterfaces.Width
