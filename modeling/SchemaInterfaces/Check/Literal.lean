import SchemaInterfaces.Decimal.Basic
import SchemaInterfaces.Listing.Assembly
import SchemaInterfaces.Text.Basic
import SchemaInterfaces.Width

/-!
# Literals of default values

Which texts are values of the scalar kinds.
-/

namespace SchemaInterfaces.Check.Literal

/-- Whether a text denotes a signed number of the given width. -/
def isSigned (bits : Nat) (s : List Char) : Bool :=
  (Decimal.integer? s).any (Width.holdsSigned bits)

/-- Whether a text denotes a number without sign of the given width; a plus may stand in front. -/
def isUnsigned (bits : Nat) (s : List Char) : Bool :=
  let digits :=
    match s with
    | '+' :: digits => digits
    | _ => s
  (Decimal.natural? digits).any fun n => Width.holds bits n

/-- Whether a text denotes a floating point number. Infinity and not-a-number have names, in which
case does not matter; magnitude does not matter either. -/
def isFloat (s : List Char) : Bool :=
  let magnitude :=
    match s with
    | '+' :: rest => rest
    | '-' :: rest => rest
    | _ => s
  (Decimal.ofChars? magnitude).isSome ||
    ["inf", "infinity", "nan"].contains (String.ofList (magnitude.map Char.toLower))

def isHexDigit (c : Char) : Bool :=
  (Text.hexDigit? c).isSome

def isOctalDigit (c : Char) : Bool :=
  '0' ≤ c && c ≤ '7'

/-- Whether a character may stand alone behind a backslash. -/
def isSimpleEscape (c : Char) : Bool :=
  "abfnrtv\\?'\"".toList.contains c

/-- Whether all backslashes in a text begin escapes: a single character, one to three octal
digits, or `x` and two hexadecimal digits, the first of which a plus may replace. -/
def isEscaped : List Char → Bool
  | [] => true
  | '\\' :: x :: a :: b :: rest =>
    if x = 'x' ∨ x = 'X' then
      (isHexDigit a || a == '+') && isHexDigit b && isEscaped rest
    else if isOctalDigit x then
      if isOctalDigit a then
        if isOctalDigit b then decide (x ≤ '3') && isEscaped rest else isEscaped (b :: rest)
      else isEscaped (a :: b :: rest)
    else isSimpleEscape x && isEscaped (a :: b :: rest)
  | ['\\', x, a] =>
    if isOctalDigit x then isOctalDigit a || isEscaped [a]
    else isSimpleEscape x && isEscaped [a]
  | ['\\', x] => isOctalDigit x || isSimpleEscape x
  | c :: rest => c != '\\' && isEscaped rest

/-- Whether a text is a value of a scalar kind. -/
def fits (kind : FieldKind) (value : String) : Bool :=
  match kind with
  | .double | .float => isFloat value.toList
  | .int32 | .sint32 | .sfixed32 => isSigned 32 value.toList
  | .int64 | .sint64 | .sfixed64 => isSigned 64 value.toList
  | .uint32 | .fixed32 => isUnsigned 32 value.toList
  | .uint64 | .fixed64 => isUnsigned 64 value.toList
  | .bool => value == "true" || value == "false"
  | .string => true
  | .bytes => isEscaped value.toList
  | .group | .message | .enumeration => false

/-- The name of a scalar kind in reports. -/
def kindName : FieldKind → String
  | .double => "double"
  | .float => "float"
  | .int64 => "int64"
  | .uint64 => "uint64"
  | .int32 => "int32"
  | .fixed64 => "fixed64"
  | .fixed32 => "fixed32"
  | .bool => "bool"
  | .string => "string"
  | .group => "group"
  | .message => "message"
  | .bytes => "bytes"
  | .uint32 => "uint32"
  | .enumeration => "enum"
  | .sfixed32 => "sfixed32"
  | .sfixed64 => "sfixed64"
  | .sint32 => "sint32"
  | .sint64 => "sint64"

end SchemaInterfaces.Check.Literal
