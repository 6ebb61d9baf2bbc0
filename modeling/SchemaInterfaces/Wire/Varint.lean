import SchemaInterfaces.Reading
import SchemaInterfaces.Width
import SchemaInterfaces.Wire.Fault

/-!
# Numbers of variable length

A number is written seven bits a byte, the low ones first; every byte but the last has its high
bit set. Reading stops at ten bytes, of which the last may hold one bit, so a number read is below
`2 ^ 64`. A number may be written with more bytes than it needs.

What is written is read back, whatever follows it: `read_write`.
-/

namespace SchemaInterfaces.Wire.Varint

/-- The bytes of a number. -/
def write (n : Nat) : List UInt8 :=
  if n < 128 then [UInt8.ofNat n] else UInt8.ofNat (n % 128 + 128) :: write (n / 128)

/-- Reads a number of which `more` bytes may still follow the first. -/
def readUpTo : Nat → (s : List UInt8) → Option (Read Nat s)
  | _, [] => none
  | 0, b :: rest => if b.toNat < 2 then some ⟨b.toNat, rest, Nat.lt_succ_self _⟩ else none
  | more + 1, b :: rest =>
    if b.toNat < 128 then
      some ⟨b.toNat, rest, Nat.lt_succ_self _⟩
    else
      (readUpTo more rest).map fun high =>
        ⟨b.toNat - 128 + 128 * high.value, high.rest, Nat.lt_succ_of_lt high.shorter⟩

/-- Reads a number of at most 64 bits. -/
def read : Reader UInt8 Cause Nat := fun s =>
  match readUpTo 9 s with
  | some r => .ok r
  | none => .error .varint

/-- A number that `more` bytes after the first have room for is read back. -/
theorem readUpTo_write {more n : Nat} (h : n < 2 * Nat.pow 128 more) (rest : List UInt8) :
    (readUpTo more (write n ++ rest)).map (fun r => (r.value, r.rest)) = some (n, rest) := by
  induction more generalizing n with
  | zero =>
    have small : n < 2 := h
    have byte : (UInt8.ofNat n).toNat = n := by rw [UInt8.toNat_ofNat']; omega
    rw [write, if_pos (by omega)]
    simp [readUpTo, byte, small]
  | succ more ih =>
    by_cases small : n < 128
    · have byte : (UInt8.ofNat n).toNat = n := by rw [UInt8.toNat_ofNat']; omega
      rw [write, if_pos small]
      simp [readUpTo, byte, small]
    · have byte : (UInt8.ofNat (n % 128 + 128)).toNat = n % 128 + 128 := by
        rw [UInt8.toNat_ofNat']; omega
      have grow : Nat.pow 128 (more + 1) = Nat.pow 128 more * 128 := rfl
      have high : n / 128 < 2 * Nat.pow 128 more := by
        rw [Nat.div_lt_iff_lt_mul (by decide), Nat.mul_assoc, ← grow]
        exact h
      obtain ⟨r, hr, value⟩ := Option.map_eq_some_iff.mp (ih high)
      injection value with value after
      rw [write, if_neg small, List.cons_append, readUpTo, if_neg (by omega), hr]
      simp only [Option.map_some, byte, value, after, Option.some.injEq, Prod.mk.injEq, and_true]
      omega

/-- A number of at most 64 bits is read back. -/
theorem read_write {n : Nat} (h : n < Width.count 64) (rest : List UInt8) :
    (read (write n ++ rest)).map (fun r => (r.value, r.rest)) = .ok (n, rest) := by
  have size : Width.count 64 = 2 * Nat.pow 128 9 := by decide
  have room : n < 2 * Nat.pow 128 9 := size ▸ h
  obtain ⟨r, hr, value⟩ := Option.map_eq_some_iff.mp (readUpTo_write room rest)
  rw [read, hr]
  exact congrArg Except.ok value

end SchemaInterfaces.Wire.Varint
