import SchemaInterfaces.Json.Basic
import SchemaInterfaces.Text.Basic

/-!
# Writing JSON

The text of a value, either without any blank characters or laid out over lines, two blanks to a
level. Strings are written with as few escapes as possible: quotes, backslashes and control
characters only.
-/

namespace SchemaInterfaces.Json

/-- How a character is written inside a string literal. -/
def escapeChar (c : Char) : List Char :=
  if c = '"' then ['\\', '"']
  else if c = '\\' then ['\\', '\\']
  else if c = '\n' then ['\\', 'n']
  else if c = '\r' then ['\\', 'r']
  else if c = '\t' then ['\\', 't']
  else if c = '\x08' then ['\\', 'b']
  else if c = '\x0c' then ['\\', 'f']
  else if c.toNat < 0x20 then
    ['\\', 'u', '0', '0', Text.hexDigit (c.toNat / 16), Text.hexDigit (c.toNat % 16)]
  else [c]

/-- The string literal of a content; one without content is half of a surrogate pair. -/
def literal : Option String → List Char
  | some s => '"' :: (s.toList.flatMap escapeChar) ++ ['"']
  | none => "\"\\ud800\"".toList

/-- How the parts of arrays and objects are laid out at a level. -/
structure Spacing where
  /-- What stands before each part, and before the closing bracket, at a level. -/
  line : Nat → List Char
  /-- What stands between a key's colon and the value. -/
  colon : List Char

/-- No blank characters. -/
def compactSpacing : Spacing where
  line := fun _ => []
  colon := []

/-- One part a line, two blanks to a level. -/
def prettySpacing : Spacing where
  line := fun level => '\n' :: List.replicate (2 * level) ' '
  colon := [' ']

mutual

/-- The text of a value at a level. -/
def write (spacing : Spacing) (level : Nat) : Json → List Char
  | null => "null".toList
  | bool true => "true".toList
  | bool false => "false".toList
  | number digits => digits.toList
  | string content => literal content
  | array [] => ['[', ']']
  | array (first :: others) =>
    '[' :: (spacing.line (level + 1) ++ write spacing (level + 1) first ++
      writeItems spacing level others)
  | object [] => ['\x7b', '\x7d']
  | object (first :: others) =>
    '\x7b' :: (spacing.line (level + 1) ++ writeEntry spacing level first ++
      writeEntries spacing level others)

/-- The text of the items after the first, and of the end of their array. -/
def writeItems (spacing : Spacing) (level : Nat) : List Json → List Char
  | [] => spacing.line level ++ [']']
  | item :: others =>
    ',' :: (spacing.line (level + 1) ++ write spacing (level + 1) item ++
      writeItems spacing level others)

/-- The text of an entry of an object. -/
def writeEntry (spacing : Spacing) (level : Nat) : Option String × Json → List Char
  | (key, value) => literal key ++ ':' :: (spacing.colon ++ write spacing (level + 1) value)

/-- The text of the entries after the first, and of the end of their object. -/
def writeEntries (spacing : Spacing) (level : Nat) : List (Option String × Json) → List Char
  | [] => spacing.line level ++ ['\x7d']
  | entry :: others =>
    ',' :: (spacing.line (level + 1) ++ writeEntry spacing level entry ++
      writeEntries spacing level others)

end

/-- The text of a value without blank characters. -/
def compact (value : Json) : String :=
  String.ofList (write compactSpacing 0 value)

/-- The text of a value laid out over lines. -/
def pretty (value : Json) : String :=
  String.ofList (write prettySpacing 0 value)

end SchemaInterfaces.Json
