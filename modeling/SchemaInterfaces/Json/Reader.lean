import SchemaInterfaces.Json.Basic
import SchemaInterfaces.Reading
import SchemaInterfaces.Text.Basic

/-!
# Reading JSON

The value that a text is, if it is one by the grammar of JSON: no comments, no trailing commas, no
leading zeros, and no control characters in strings. Blank characters are the four of the grammar.
-/

namespace SchemaInterfaces.Json

/-- The blank characters of the grammar. -/
def isSpace (c : Char) : Bool :=
  c == ' ' || c == '\n' || c == '\r' || c == '\t'

/-- The text without the blank characters in front. -/
def skipSpace (s : List Char) : List Char :=
  s.dropWhile isSpace

theorem length_skipSpace_le (s : List Char) : (skipSpace s).length ≤ s.length :=
  (List.dropWhile_sublist isSpace).length_le

/-- The text after a given beginning, if it begins so. -/
def afterWord? : List Char → List Char → Option (List Char)
  | [], s => some s
  | c :: word, d :: s => if c = d then afterWord? word s else none
  | _ :: _, [] => none

/-- A part of a string literal: a character, or a 16-bit unit written as an escape. -/
inductive StringPart where
  | char (c : Char)
  | unit (n : Nat)

/-- What the character after a backslash stands for, apart from `u`. -/
def escape? : Char → Option Char
  | '"' => some '"'
  | '\\' => some '\\'
  | '/' => some '/'
  | 'b' => some '\x08'
  | 'f' => some '\x0c'
  | 'n' => some '\n'
  | 'r' => some '\r'
  | 't' => some '\t'
  | _ => none

/-- Reads the parts of a string literal up to and with its closing quote. -/
def readParts : (s : List Char) → Option (Read (List StringPart) s)
  | [] => none
  | '"' :: rest => some ⟨[], rest, Nat.lt_succ_self _⟩
  | '\\' :: 'u' :: a :: b :: c :: d :: rest => do
    let n ← Text.numberIn? 16 [a, b, c, d]
    let others ← readParts rest
    return ⟨.unit n :: others.value, others.rest, Nat.lt_add_right 6 others.shorter⟩
  | '\\' :: c :: rest => do
    let e ← escape? c
    let others ← readParts rest
    return ⟨.char e :: others.value, others.rest, Nat.lt_add_right 2 others.shorter⟩
  | c :: rest =>
    if c.toNat < 0x20 ∨ c = '\\' then none
    else do
      let others ← readParts rest
      return ⟨.char c :: others.value, others.rest, Nat.lt_add_right 1 others.shorter⟩

/-- The characters that the parts of a literal denote. Two units that are the halves of a
surrogate pair denote one character; a half alone denotes none. -/
def charsOf : List StringPart → Option (List Char)
  | [] => some []
  | .char c :: rest => (charsOf rest).map (c :: ·)
  | .unit n :: rest =>
    if n < 0xD800 ∨ 0xE000 ≤ n then
      (charsOf rest).map (Char.ofNat n :: ·)
    -- From here on the unit is half of a pair, and only a first half may begin one.
    else if n < 0xDC00 then
      match rest with
      | .unit m :: rest =>
        if 0xDC00 ≤ m ∧ m < 0xE000 then
          (charsOf rest).map
            (Char.ofNat (0x10000 + (n - 0xD800) * 1024 + (m - 0xDC00)) :: ·)
        else none
      | _ => none
    else none

/-- The content of a literal with the given parts. -/
def contentOf (parts : List StringPart) : Option String :=
  (charsOf parts).map String.ofList

/-- Reads a string literal after its opening quote. -/
def readString (s : List Char) : Option (Read (Option String) s) :=
  (readParts s).map (·.map contentOf)

/-- The digits in front of a text. -/
def digitsOf (s : List Char) : List Char :=
  s.takeWhile Char.isDigit

/-- The text after the digits in front of it. -/
def afterDigits (s : List Char) : List Char :=
  s.dropWhile Char.isDigit

/-- The whole part of a number in front of a text, and the rest: digits that do not begin with a
zero, or a zero alone. -/
def wholePart? (s : List Char) : Option (List Char × List Char) :=
  match s with
  | '0' :: rest => if rest.head?.any Char.isDigit then none else some (['0'], rest)
  | _ => if (digitsOf s).isEmpty then none else some (digitsOf s, afterDigits s)

/-- The fraction of a number in front of a text, empty if it has none, and the rest. -/
def fraction? (s : List Char) : Option (List Char × List Char) :=
  match s with
  | '.' :: rest =>
    if (digitsOf rest).isEmpty then none else some ('.' :: digitsOf rest, afterDigits rest)
  | _ => some ([], s)

/-- The exponent of a number in front of a text, empty if it has none, and the rest. -/
def exponent? (s : List Char) : Option (List Char × List Char) :=
  match s with
  | e :: rest =>
    if e = 'e' ∨ e = 'E' then
      let (sign, rest) :=
        match rest with
        | '+' :: rest => (['+'], rest)
        | '-' :: rest => (['-'], rest)
        | _ => ([], rest)
      if (digitsOf rest).isEmpty then none
      else some (e :: sign ++ digitsOf rest, afterDigits rest)
    else some ([], s)
  | [] => some ([], [])

/-- The number in front of a text, and the rest. -/
def number? (s : List Char) : Option (List Char × List Char) := do
  let (sign, rest) :=
    match s with
    | '-' :: rest => (['-'], rest)
    | _ => ([], s)
  let (whole, rest) ← wholePart? rest
  let (fraction, rest) ← fraction? rest
  let (exponent, rest) ← exponent? rest
  return (sign ++ whole ++ fraction ++ exponent, rest)

def readNumber (s : List Char) : Option (Read Json s) := do
  let (literal, rest) ← number? s
  if h : rest.length < s.length then
    return ⟨number (String.ofList literal), rest, h⟩
  else
    none

/-- Reads a value that is a given word. -/
def readWord (word : List Char) (value : Json) (s : List Char) : Option (Read Json s) := do
  let rest ← afterWord? word s
  if h : rest.length < s.length then
    return ⟨value, rest, h⟩
  else
    none

mutual

/-- Reads a value, with no blank characters in front of it. -/
def readValue (s : List Char) : Option (Read Json s) :=
  match s with
  | [] => none
  | '"' :: rest => do
    let r ← readString rest
    return ⟨string r.value, r.rest, Nat.lt_succ_of_lt r.shorter⟩
  | '[' :: rest =>
    match h : skipSpace rest with
    | ']' :: after =>
      some ⟨array [], after, by
        have := length_skipSpace_le rest; simp only [h, List.length_cons] at *; omega⟩
    | _ => do
      let r ← readItems (skipSpace rest)
      return ⟨array r.value, r.rest, by
        have := r.shorter; have := length_skipSpace_le rest; simp only [List.length_cons]; omega⟩
  | '\x7b' :: rest =>
    match h : skipSpace rest with
    | '\x7d' :: after =>
      some ⟨object [], after, by
        have := length_skipSpace_le rest; simp only [h, List.length_cons] at *; omega⟩
    | _ => do
      let r ← readEntries (skipSpace rest)
      return ⟨object r.value, r.rest, by
        have := r.shorter; have := length_skipSpace_le rest; simp only [List.length_cons]; omega⟩
  | 'n' :: rest => readWord "null".toList null ('n' :: rest)
  | 't' :: rest => readWord "true".toList (bool true) ('t' :: rest)
  | 'f' :: rest => readWord "false".toList (bool false) ('f' :: rest)
  | c :: rest => readNumber (c :: rest)
termination_by 2 * s.length
decreasing_by
  all_goals
    have := length_skipSpace_le rest
    simp only [List.length_cons]
    omega

/-- Reads the items of an array up to and with its closing bracket; there is at least one. -/
def readItems (s : List Char) : Option (Read (List Json) s) := do
  let first ← readValue s
  match h : skipSpace first.rest with
  | ']' :: after =>
    return ⟨[first.value], after, by
      have := first.shorter; have := length_skipSpace_le first.rest
      simp only [h, List.length_cons] at this; omega⟩
  | ',' :: after =>
    let others ← readItems (skipSpace after)
    return ⟨first.value :: others.value, others.rest, by
      have := first.shorter; have := others.shorter
      have := length_skipSpace_le first.rest; have := length_skipSpace_le after
      simp only [h, List.length_cons] at *; omega⟩
  | _ => none
termination_by 2 * s.length + 1
decreasing_by
  · exact Nat.lt_succ_self _
  · have := first.shorter
    have := length_skipSpace_le first.rest
    have := length_skipSpace_le after
    simp only [h, List.length_cons] at *
    omega

/-- Reads the entries of an object up to and with its closing brace; there is at least one. -/
def readEntries (s : List Char) : Option (Read (List (Option String × Json)) s) :=
  match s with
  | '"' :: rest => do
    let key ← readString rest
    match hc : skipSpace key.rest with
    | ':' :: afterColon =>
      let first ← readValue (skipSpace afterColon)
      match h : skipSpace first.rest with
      | '\x7d' :: after =>
        return ⟨[(key.value, first.value)], after, by
          have := key.shorter; have := first.shorter
          have := length_skipSpace_le key.rest; have := length_skipSpace_le afterColon
          have := length_skipSpace_le first.rest
          simp only [h, hc, List.length_cons] at *; omega⟩
      | ',' :: after =>
        let others ← readEntries (skipSpace after)
        return ⟨(key.value, first.value) :: others.value, others.rest, by
          have := key.shorter; have := first.shorter; have := others.shorter
          have := length_skipSpace_le key.rest; have := length_skipSpace_le afterColon
          have := length_skipSpace_le first.rest; have := length_skipSpace_le after
          simp only [h, hc, List.length_cons] at *; omega⟩
      | _ => none
    | _ => none
  | _ => none
termination_by 2 * s.length + 1
decreasing_by
  · have := key.shorter
    have := length_skipSpace_le key.rest
    have := length_skipSpace_le afterColon
    simp only [hc, List.length_cons] at *
    omega
  · have := key.shorter
    have := first.shorter
    have := length_skipSpace_le key.rest
    have := length_skipSpace_le afterColon
    have := length_skipSpace_le first.rest
    have := length_skipSpace_le after
    simp only [h, hc, List.length_cons] at *
    omega

end

/-- The value that a text is, blank characters around it aside. -/
def parse? (s : String) : Option Json := do
  let r ← readValue (skipSpace s.toList)
  if (skipSpace r.rest).isEmpty then
    return r.value
  else
    none

end SchemaInterfaces.Json
