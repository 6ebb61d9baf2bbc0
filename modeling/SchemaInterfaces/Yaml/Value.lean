import SchemaInterfaces.Decimal.Binary
import SchemaInterfaces.Text.Quoted
import SchemaInterfaces.Width
import SchemaInterfaces.Yaml.Node

/-!
# Values of scalars

What scalars stand for: a plain scalar may be a null, a truth value or a number by the way it is
written; all others are texts, unless their tag says more.
-/

namespace SchemaInterfaces.Yaml

/-- What a scalar stands for. -/
inductive ScalarValue where
  | null
  | bool (b : Bool)
  /-- A whole number of 64 bits, with a sign or without. -/
  | integer (n : Int)
  /-- A whole number that needs up to 128 bits. -/
  | wideInteger (n : Int)
  | float (negative : Bool) (magnitude : Binary)
  | infinity (negative : Bool)
  | notANumber
  | text (s : String)
  deriving DecidableEq

namespace ScalarValue

/-- How reports name a value. -/
def describe : ScalarValue → String
  | null => "unit value"
  | bool b => "boolean `" ++ toString b ++ "`"
  | integer n => "integer `" ++ toString n ++ "`"
  | wideInteger n =>
    "integer `" ++ toString n ++ (if 0 ≤ n then "` as u128" else "` as i128")
  | float negative magnitude =>
    "floating point `" ++ (if negative then "-" else "") ++ magnitude.shortest.positional ++ "`"
  | infinity negative => "floating point `" ++ (if negative then "-" else "") ++ "inf`"
  | notANumber => "floating point `NaN`"
  | text s => "string " ++ Text.quoted s

/-- Whether two values are the same; zero has no sign here. -/
def same : ScalarValue → ScalarValue → Bool
  | float m a, float n b => a = b && (m = n || a.significand = 0)
  | a, b => a = b

end ScalarValue

def isNull (s : String) : Bool :=
  s == "null" || s == "Null" || s == "NULL" || s == "~"

def bool? (s : String) : Option Bool :=
  if s == "true" || s == "True" || s == "TRUE" then some true
  else if s == "false" || s == "False" || s == "FALSE" then some false
  else none

/-- The number that digits of a base denote; there must be one, and nothing else. -/
def naturalIn? (base : Nat) (s : List Char) : Option Nat :=
  if s.isEmpty then none else Text.numberIn? base s

/-- Whether a text is a zero with further digits, which no number begins with. -/
def isZeroPadded (s : List Char) : Bool :=
  let digits :=
    match s with
    | '+' :: rest => rest
    | '-' :: rest => rest
    | _ => s
  match digits with
  | '0' :: rest => !rest.isEmpty && rest.all Char.isDigit
  | _ => false

/-- The magnitude of a whole number without its sign: digits of a base announced by a zero and a
letter, or decimal digits. -/
def magnitude? (s : List Char) : Option Nat :=
  match s with
  | '0' :: 'x' :: rest => naturalIn? 16 rest
  | '0' :: 'o' :: rest => naturalIn? 8 rest
  | '0' :: 'b' :: rest => naturalIn? 2 rest
  | _ => if isZeroPadded s then none else naturalIn? 10 s

def integer? (s : List Char) : Option Int :=
  match s with
  | '+' :: rest => (magnitude? rest).map Int.ofNat
  | '-' :: rest => (magnitude? rest).map fun n => -(n : Int)
  | _ => (magnitude? s).map Int.ofNat

/-- The value of a whole number, unless it needs more than 128 bits. -/
def integerValue? (n : Int) : Option ScalarValue :=
  if Width.holds 64 n || Width.holdsSigned 64 n then some (.integer n)
  else if Width.holds 128 n || Width.holdsSigned 128 n then some (.wideInteger n)
  else none

/-- The number with a point or an exponent that a text is; numbers beyond the range are none. -/
def float? (s : List Char) : Option ScalarValue :=
  let (sign, magnitude) :=
    match s with
    | '+' :: rest => (some '+', rest)
    | '-' :: rest => (some '-', rest)
    | _ => (none, s)
  let negative := sign == some '-'
  if [".inf", ".Inf", ".INF"].contains (String.ofList magnitude) then some (.infinity negative)
  else if [".nan", ".NaN", ".NAN"].contains (String.ofList s) then some .notANumber
  else do
    let decimal ← Decimal.ofChars? magnitude
    return .float negative (← Binary.ofDecimal? decimal)

/-- What a plain scalar stands for. -/
def plainValue (s : String) : ScalarValue :=
  if s.isEmpty || isNull s then .null
  else
    match bool? s with
    | some b => .bool b
    | none =>
      match (integer? s.toList).bind integerValue? with
      | some value => value
      | none =>
        if isZeroPadded s.toList then .text s else (float? s.toList).getD (.text s)

/-- The beginning of the tags that YAML itself defines. -/
def coreTag (name : String) : String :=
  "tag:yaml.org,2002:" ++ name

/-- What a scalar stands for, or what its tag asks for and its content is not. -/
def scalarValue (tag : Option String) (style : Style) (content : String) :
    Except String ScalarValue :=
  match tag with
  | none => .ok (if style = .plain then plainValue content else .text content)
  | some tag =>
    if tag = coreTag "bool" then
      match bool? content with
      | some b => .ok (.bool b)
      | none => .error "a boolean"
    else if tag = coreTag "int" then
      match (integer? content.toList).bind integerValue? with
      | some value => .ok value
      | none => .error "an integer"
    else if tag = coreTag "float" then
      match float? content.toList with
      | some value => .ok value
      | none => .error "a float"
    else if tag = coreTag "null" then
      if isNull content then .ok .null else .error "null"
    else if tag.toList.head? == some '!' && style = .plain then .ok (plainValue content)
    else .ok (.text content)

end SchemaInterfaces.Yaml
