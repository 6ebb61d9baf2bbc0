/-!
# Characters and texts

What has to be known about single characters, and about the bytes of a text.

The white space of Unicode is what is cut off the ends of a text wherever a text is trimmed, and
nothing else is. Digits have values in bases up to sixteen; letters of either case are read, and
small ones are written. The bytes of a text are its UTF-8 encoding, and a byte list that no text is
encoded to reads as nothing.
-/

namespace SchemaInterfaces.Text

/-! ## Blank characters -/

/-- Whether `c` is white space in the sense of Unicode's `White_Space` property. -/
def isBlank (c : Char) : Bool :=
  let n := c.toNat
  (9 ≤ n && n ≤ 13) || n == 0x20 || n == 0x85 || n == 0xA0 || n == 0x1680 ||
    (0x2000 ≤ n && n ≤ 0x200A) || n == 0x2028 || n == 0x2029 || n == 0x202F || n == 0x205F ||
    n == 0x3000

namespace Chars

/-- The characters without the blank ones in front. -/
def trimStart (s : List Char) : List Char :=
  s.dropWhile isBlank

/-- The characters without the blank ones at the end. -/
def trimEnd (s : List Char) : List Char :=
  (s.reverse.dropWhile isBlank).reverse

/-- The characters without the blank ones at either end. -/
def trim (s : List Char) : List Char :=
  trimEnd (trimStart s)

@[simp] theorem trim_nil : trim [] = [] := rfl

/-- No blank character is left in front. -/
theorem isBlank_of_head?_trimStart {s : List Char} {c : Char} (h : (trimStart s).head? = some c) :
    isBlank c = false := by
  induction s with
  | nil => simp [trimStart] at h
  | cons d rest ih =>
    cases hd : isBlank d with
    | true =>
      rw [trimStart, List.dropWhile_cons_of_pos hd] at h
      exact ih h
    | false =>
      rw [trimStart, List.dropWhile_cons_of_neg (by simp [hd])] at h
      cases h
      exact hd

/-- A text with no blank character in front stays as it is. -/
theorem trimStart_eq_self {s : List Char} (h : ∀ c, s.head? = some c → isBlank c = false) :
    trimStart s = s := by
  cases s with
  | nil => rfl
  | cons c rest => exact List.dropWhile_cons_of_neg (by simp [h c rfl])

/-- Cutting at the end is cutting in front of the reversed text. -/
theorem reverse_trimEnd (s : List Char) : (trimEnd s).reverse = trimStart s.reverse :=
  List.reverse_reverse _

/-- No blank character is left at the end. -/
theorem isBlank_of_getLast?_trimEnd {s : List Char} {c : Char}
    (h : (trimEnd s).getLast? = some c) : isBlank c = false := by
  rw [← List.head?_reverse, reverse_trimEnd] at h
  exact isBlank_of_head?_trimStart h

/-- A text with no blank character at the end stays as it is. -/
theorem trimEnd_eq_self {s : List Char} (h : ∀ c, s.getLast? = some c → isBlank c = false) :
    trimEnd s = s := by
  rw [trimEnd]
  have cut : s.reverse.dropWhile isBlank = s.reverse :=
    trimStart_eq_self fun c hc => h c (by rwa [List.head?_reverse] at hc)
  rw [cut, List.reverse_reverse]

/-- A text with no blank character at either end stays as it is. -/
theorem trim_eq_self {s : List Char} (front : ∀ c, s.head? = some c → isBlank c = false)
    (back : ∀ c, s.getLast? = some c → isBlank c = false) : trim s = s := by
  rw [trim, trimStart_eq_self front, trimEnd_eq_self back]

end Chars

def trimEnd (s : String) : String :=
  String.ofList (Chars.trimEnd s.toList)

def trim (s : String) : String :=
  String.ofList (Chars.trim s.toList)

/-! ## Hexadecimal digits -/

/-- The value of a hexadecimal digit. -/
def hexDigit? (c : Char) : Option Nat :=
  if '0' ≤ c ∧ c ≤ '9' then some (c.toNat - '0'.toNat)
  else if 'a' ≤ c ∧ c ≤ 'f' then some (c.toNat - 'a'.toNat + 10)
  else if 'A' ≤ c ∧ c ≤ 'F' then some (c.toNat - 'A'.toNat + 10)
  else none

/-- The hexadecimal digit of a value below sixteen. -/
def hexDigit (n : Nat) : Char :=
  if n < 10 then Char.ofNat ('0'.toNat + n) else Char.ofNat ('a'.toNat + (n - 10))

/-- A digit has the value that it was written for. -/
theorem hexDigit?_hexDigit : ∀ n < 16, hexDigit? (hexDigit n) = some n := by
  decide

/-- The value of a digit in a base up to sixteen. -/
def digitIn? (base : Nat) (c : Char) : Option Nat :=
  (hexDigit? c).bind fun n => if n < base then some n else none

/-- The number that digits of a base denote; there must be nothing but digits. -/
def numberIn? (base : Nat) (s : List Char) : Option Nat :=
  s.foldlM (fun n c => (digitIn? base c).map (base * n + ·)) 0

/-! ## Bytes -/

/-- The UTF-8 bytes of a text. -/
def toBytes (s : String) : List UInt8 :=
  s.toByteArray.data.toList

/-- The text that the bytes encode, if they are valid UTF-8. -/
def ofBytes? (bytes : List UInt8) : Option String :=
  String.fromUTF8? ⟨bytes.toArray⟩

/-- A text is what its bytes encode. -/
theorem ofBytes?_toBytes (s : String) : ofBytes? (toBytes s) = some s := by
  have h : (⟨s.toByteArray.data.toList.toArray⟩ : ByteArray) = s.toByteArray := by
    simp
  simp only [ofBytes?, toBytes, h, String.fromUTF8?, dif_pos s.isValidUTF8]
  rfl

end SchemaInterfaces.Text
