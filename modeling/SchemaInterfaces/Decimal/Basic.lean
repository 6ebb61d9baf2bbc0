/-!
# Decimal numbers

Numbers written with decimal digits, a point and an exponent, and their exact values.
-/

namespace SchemaInterfaces

/-- The number `digits * 10 ^ exponent`. -/
structure Decimal where
  digits : Nat
  exponent : Int
  deriving DecidableEq, Repr

namespace Decimal

/-- The number that digits denote, after the number that the digits in front of them denote. -/
def digitsFrom (n : Nat) (s : List Char) : Nat :=
  s.foldl (fun n c => 10 * n + (c.toNat - '0'.toNat)) n

/-- The number that decimal digits denote; there must be one, and nothing else. -/
def natural? (s : List Char) : Option Nat :=
  if s.isEmpty || !s.all Char.isDigit then none else some (digitsFrom 0 s)

/-- The signed number that a text denotes: digits, with a sign or without. -/
def integer? : List Char → Option Int
  | '-' :: digits => (natural? digits).map fun n => -(n : Int)
  | '+' :: digits => (natural? digits).map Int.ofNat
  | digits => (natural? digits).map Int.ofNat

/-- The exponent that ends a number; nothing stands for zero. -/
def exponent? : List Char → Option Int
  | [] => some 0
  | e :: rest => if e = 'e' ∨ e = 'E' then integer? rest else none

/-- The number that a text without sign denotes: digits, a point among them or at either end, and
an exponent. -/
def ofChars? (s : List Char) : Option Decimal :=
  let whole := s.takeWhile Char.isDigit
  match s.dropWhile Char.isDigit with
  | '.' :: rest =>
    let fraction := rest.takeWhile Char.isDigit
    if whole.isEmpty && fraction.isEmpty then none
    else
      (exponent? (rest.dropWhile Char.isDigit)).map fun exponent =>
        ⟨digitsFrom 0 (whole ++ fraction), exponent - fraction.length⟩
  | rest =>
    if whole.isEmpty then none
    else (exponent? rest).map fun exponent => ⟨digitsFrom 0 whole, exponent⟩

/-- How many decimal digits a number has; none if it is zero. -/
def length (n : Nat) : Nat :=
  if n = 0 then 0 else (Nat.toDigits 10 n).length

/-- A number multiplied by a power of a base; a negative exponent leaves it as it is. -/
def scaleUp (base n : Nat) (exponent : Int) : Nat :=
  n * Nat.pow base exponent.toNat

/-- The value as a quotient of whole numbers. -/
def quotient (d : Decimal) : Nat × Nat :=
  (scaleUp 10 d.digits d.exponent, scaleUp 10 1 (-d.exponent))

end Decimal

end SchemaInterfaces
