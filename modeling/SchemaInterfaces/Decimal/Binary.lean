import SchemaInterfaces.Decimal.Basic

/-!
# Numbers with 53 binary digits

The numbers `significand * 2 ^ exponent` that 64-bit floats can hold, rounding decimal numbers to
them, and the shortest decimal number that is rounded to a given one.
-/

namespace SchemaInterfaces

/-- A number that a 64-bit float can hold, its sign aside. -/
structure Binary where
  significand : Nat
  exponent : Int
  deriving DecidableEq, Repr

namespace Binary

open Decimal (scaleUp)

def minExponent : Int :=
  -1074

def maxExponent : Int :=
  971

/-- A quotient rounded to a whole number, halves to the even one. -/
def roundDiv (num den : Nat) : Nat :=
  let whole := num / den
  let twice := 2 * (num % den)
  if twice < den then whole
  else if den < twice then whole + 1
  else if whole % 2 = 0 then whole else whole + 1

/-- A rounded quotient is at most half a unit away. -/
theorem roundDiv_within {num den : Nat} (h : 0 < den) :
    2 * num ≤ (2 * roundDiv num den + 1) * den ∧ 2 * (roundDiv num den * den) ≤ 2 * num + den := by
  have whole : den * (num / den) + num % den = num := Nat.div_add_mod num den
  have below : num % den < den := Nat.mod_lt num h
  have down : 2 * (num % den) ≤ den → 2 * num ≤ (2 * (num / den) + 1) * den ∧
      2 * (num / den * den) ≤ 2 * num + den := by
    intro near
    rw [Nat.add_mul, Nat.mul_assoc, Nat.mul_comm (num / den)]
    omega
  have up : den ≤ 2 * (num % den) → 2 * num ≤ (2 * (num / den + 1) + 1) * den ∧
      2 * ((num / den + 1) * den) ≤ 2 * num + den := by
    intro near
    rw [Nat.add_mul, Nat.mul_assoc, Nat.add_mul (num / den), Nat.mul_comm (num / den)]
    omega
  unfold roundDiv
  simp only
  split
  next near => exact down (Nat.le_of_lt near)
  next near =>
    split
    next far => exact up (Nat.le_of_lt far)
    next far =>
      split
      · exact down (by omega)
      · exact up (by omega)

/-- A quotient as a multiple of `2 ^ exponent`, rounded. -/
def scaled (num den : Nat) (exponent : Int) : Nat :=
  roundDiv (scaleUp 2 num (-exponent)) (scaleUp 2 den exponent)

/-- The exponent at which a quotient has 53 binary digits, or the least one. -/
def exponentOf (num den : Nat) : Int :=
  let guess : Int := Nat.log2 num - Nat.log2 den - 52
  let fits := scaleUp 2 den (guess + 52) ≤ scaleUp 2 num (-(guess + 52))
  max minExponent (if fits then guess else guess - 1)

/-- The number nearest to a decimal one, of two equally near ones the one with the even
significand; nothing if it is too large. -/
def ofDecimal? (d : Decimal) : Option Binary :=
  let magnitude := d.exponent + Decimal.length d.digits
  -- Far outside the range, no power of ten is worth computing.
  if d.digits = 0 ∨ magnitude < -400 then some ⟨0, minExponent⟩
  else if 400 < magnitude then none
  else
    let (num, den) := d.quotient
    let exponent := exponentOf num den
    let significand := scaled num den exponent
    let (significand, exponent) :=
      if significand = Nat.pow 2 53 then (Nat.pow 2 52, exponent + 1) else (significand, exponent)
    if maxExponent < exponent then none else some ⟨significand, exponent⟩

/-- The value as a quotient of whole numbers. -/
def quotient (b : Binary) : Nat × Nat :=
  (scaleUp 2 b.significand b.exponent, scaleUp 2 1 (-b.exponent))

/-- The whole number of times that `10 ^ exponent` fits into a quotient. -/
def decimalFloor (num den : Nat) (exponent : Int) : Nat :=
  scaleUp 10 num (-exponent) / scaleUp 10 den exponent

/-- The position of the first decimal digit of a quotient that is not zero, counted from the
point. -/
def leadingPosition (num den : Nat) : Int :=
  if den ≤ num then Decimal.length (num / den)
  else 1 - Decimal.length ((den + num - 1) / num - 1)

/-- Twice the distance of two decimals from a quotient decides which of them is nearer; an equal
distance goes to the even one. -/
def nearer (num den low : Nat) (exponent : Int) : Nat :=
  let value := scaleUp 10 num (-exponent)
  let unit := scaleUp 10 den exponent
  let twice := 2 * (value - low * unit)
  if twice < unit then low
  else if unit < twice then low + 1
  else if low % 2 = 0 then low else low + 1

/-- The decimal number with at most the given number of digits that is rounded to `b`, nearest to
it, if there is one. -/
def shortestWith (b : Binary) (length : Nat) : Option Decimal :=
  let (num, den) := b.quotient
  let exponent := leadingPosition num den - length
  let low := decimalFloor num den exponent
  let isHit (n : Nat) : Bool := ofDecimal? ⟨n, exponent⟩ == some b
  match isHit low, isHit (low + 1) with
  | true, true => some ⟨nearer num den low exponent, exponent⟩
  | true, false => some ⟨low, exponent⟩
  | false, true => some ⟨low + 1, exponent⟩
  | false, false => none

/-- The decimal number with the fewest digits that is rounded to `b`. -/
def shortest (b : Binary) : Decimal :=
  if b.significand = 0 then ⟨0, 0⟩
  else ((List.range 18).findSome? (shortestWith b)).getD ⟨b.quotient.1, 0⟩

end Binary

/-- The text of a decimal number without an exponent, with at least one digit on either side of
the point. -/
def Decimal.positional (d : Decimal) : String :=
  let digits := (Nat.repr d.digits).toList
  let text :=
    if 0 ≤ d.exponent then
      digits ++ List.replicate (if d.digits = 0 then 0 else d.exponent.toNat) '0' ++ ['.', '0']
    else
      let places := (-d.exponent).toNat
      let padded := List.replicate (places + 1 - digits.length) '0' ++ digits
      let whole := padded.take (padded.length - places)
      let fraction := padded.drop (padded.length - places)
      let significant := (fraction.reverse.dropWhile (· == '0')).reverse
      whole ++ '.' :: (if significant.isEmpty then ['0'] else significant)
  String.ofList text

end SchemaInterfaces
