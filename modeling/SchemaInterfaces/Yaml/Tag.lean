import SchemaInterfaces.Yaml.Mark
import SchemaInterfaces.Yaml.Scalar

/-!
# Tags and directives

How tags, names of anchors, and the lines that begin with a percent sign are written.
-/

namespace SchemaInterfaces.Yaml

/-- Whether a character may occur in a tag. -/
def isTagChar (c : Char) : Bool :=
  isWordChar c || ";/?:@&=+$.!~*'()%".toList.contains c

/-- Whether a character may occur in a tag between angle brackets. -/
def isVerbatimTagChar (c : Char) : Bool :=
  isTagChar c || c == ',' || c == '[' || c == ']'

/-- How many bytes a character has whose first byte is `n`. -/
def utf8Length? (n : Nat) : Option Nat :=
  if n < 0x80 then some 1
  else if n < 0xC0 then none
  else if n < 0xE0 then some 2
  else if n < 0xF0 then some 3
  else if n < 0xF8 then some 4
  else none

/-- The least number of a character that has the given number of bytes. -/
def utf8Least (length : Nat) : Nat :=
  if length = 2 then 0x80 else if length = 3 then 0x800 else 0x10000

/-- The character with a number that was written in the given number of bytes, if it is one that
needs them all. -/
def utf8Char? (length n : Nat) : Option Char :=
  if utf8Least length ≤ n then
    if h : n.isValidChar then some (Char.ofNatAux n h) else none
  else none

/-- The characters of a tag in which `%` and two hexadecimal digits stand for a byte; bytes that
only look like a character are none. `pending` is the number of the character whose bytes are being
read, how many it has, and how many of them are still to come. -/
def unescapeTag (pending : Nat × Nat × Nat) : List Char → Option (List (Option Char))
  | [] => if pending.2.2 = 0 then some [] else none
  | '%' :: a :: b :: rest => do
    let byte ← Text.numberIn? 16 [a, b]
    let (value, length, left) := pending
    if left = 0 then
      let length ← utf8Length? byte
      if length = 1 then
        (unescapeTag (0, 0, 0) rest).map (some (Char.ofNat byte) :: ·)
      else
        unescapeTag (byte % Nat.pow 2 (7 - length), length, length - 1) rest
    else if byte / 64 ≠ 2 then none
    else
      let value := value * 64 + byte % 64
      if left = 1 then (unescapeTag (0, 0, 0) rest).map (utf8Char? length value :: ·)
      else unescapeTag (value, length, left - 1) rest
  | c :: rest =>
    if pending.2.2 ≠ 0 || c = '%' then none
    else (unescapeTag (0, 0, 0) rest).map (some c :: ·)

/-- What a written tag, or a part of one, says. A NUL ends it, so that NUL is free to stand for
what is no character. -/
def tagContent? (s : List Char) : Option String :=
  (unescapeTag (0, 0, 0) s).map fun chars =>
    String.ofList ((chars.takeWhile (· != some '\x00')).map (·.getD '\x00'))

/-- The name that a tag gives to the content below it: what follows its exclamation mark, which
stands for itself on its own. Other tags, and those that are not all characters, give none. -/
def tagName? (tag : Option String) : Option String := do
  match (← tag).toList with
  | ['!'] => some "!"
  | '!' :: name => if name.contains '\x00' then none else some (String.ofList name)
  | _ => none

/-- A tag as it is written: the handle that stands for the beginning, and the rest. A tag without
a handle is given in full. -/
structure TagText where
  handle : String
  suffix : String

/-- A handle in front of a text, and the rest: an exclamation mark, a word, and a further mark if
there is one. -/
def tagHandle? : List Char → Option (List Char × List Char)
  | '!' :: rest =>
    let word := rest.takeWhile isWordChar
    match rest.drop word.length with
    | '!' :: after => some ('!' :: word ++ ['!'], after)
    | after => some ('!' :: word, after)
  | _ => none

/-- Reads the tag in front of a text, and the rest. -/
def readTag (s : List Char) : Option (TagText × List Char) := do
  match s with
  | '!' :: '<' :: rest =>
    let uri := rest.takeWhile isVerbatimTagChar
    let suffix ← tagContent? uri
    match rest.drop uri.length with
    | '>' :: after => if uri.isEmpty then none else return (⟨"", suffix⟩, after)
    | _ => none
  | _ =>
    let (handle, after) ← tagHandle? s
    let uri := after.takeWhile isTagChar
    let suffix ← tagContent? uri
    let rest := after.drop uri.length
    if 1 < handle.length && handle.getLast? == some '!' then
      if uri.isEmpty then none else return (⟨String.ofList handle, suffix⟩, rest)
    else
      let suffix := String.ofList (handle.drop 1) ++ suffix
      return (if suffix.isEmpty then ⟨"", "!"⟩ else ⟨"!", suffix⟩, rest)

/-- A line in front of a document that says how to read it. -/
inductive Directive where
  | version (major minor : Nat)
  | tag (handle tagBeginning : String)

/-- A number of at most nine digits in front of a text, and the rest. -/
def versionNumber? (s : List Char) : Option (Nat × List Char) :=
  let digits := s.takeWhile Char.isDigit
  if digits.isEmpty || 9 < digits.length then none
  else (Text.numberIn? 10 digits).map (·, s.drop digits.length)

/-- The directive in front of a text, after its percent sign, and the rest. -/
def readDirective (s : List Char) : Option (Directive × List Char) := do
  let name := s.takeWhile isWordChar
  let rest := s.drop name.length
  if !atGap rest then none
  else
    let rest := rest.dropWhile isBlank
    if name == "YAML".toList then
      match ← versionNumber? rest with
      | (major, '.' :: rest) =>
        let (minor, rest) ← versionNumber? rest
        return (.version major minor, rest)
      | _ => none
    else if name == "TAG".toList then
      let (handle, rest) ← tagHandle? rest
      if (1 < handle.length && handle.getLast? != some '!') || !rest.head?.any isBlank then none
      else
        let rest := rest.dropWhile isBlank
        let uri := rest.takeWhile isVerbatimTagChar
        let start ← tagContent? uri
        let rest := rest.drop uri.length
        if uri.isEmpty || !atGap rest then none
        else return (.tag (String.ofList handle) start, rest)
    else none

end SchemaInterfaces.Yaml
