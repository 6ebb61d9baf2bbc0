import SchemaInterfaces.Decimal.Binary
import SchemaInterfaces.Json.Basic
import SchemaInterfaces.Listing.Basic

/-!
# Listings as JSON

How listings and their parts stand in JSON documents, and how they are read from them. Entries
under other keys are passed over; a known key may occur once. An object may also be given as the
array of its values. Arrays and objects that are made use of may nest to `Json.nestingLimit`.

A shape names its kind beside its value. Where the value stands in front of the kind, it has to be
put aside before it can be understood; what was put aside is read a little more freely, and has to
be sound throughout.
-/

namespace SchemaInterfaces

/-- Whether a value is read where it stands or was put aside first. -/
inductive Json.Mode where
  | direct
  | aside
  deriving DecidableEq

namespace Json

/-- Whether the number that a literal denotes is in the range of a 64-bit float. -/
def isInRange (literal : String) : Bool :=
  let magnitude := literal.toList.dropWhile (· == '-')
  ((Decimal.ofChars? magnitude).bind Binary.ofDecimal?).isSome

mutual

/-- Whether a value can be put aside: it nests at most `depth` deep, its strings are texts, and its
numbers are in range. -/
def canPutAside (depth : Nat) : Json → Bool
  | null => true
  | bool _ => true
  | number literal => isInRange literal
  | string content => content.isSome
  | array items =>
    match depth with
    | 0 => false
    | depth + 1 => canPutAsideItems depth items
  | object entries =>
    match depth with
    | 0 => false
    | depth + 1 => canPutAsideEntries depth entries

def canPutAsideItems (depth : Nat) : List Json → Bool
  | [] => true
  | item :: others => canPutAside depth item && canPutAsideItems depth others

def canPutAsideEntries (depth : Nat) : List (Option String × Json) → Bool
  | [] => true
  | (key, value) :: others =>
    key.isSome && canPutAside depth value && canPutAsideEntries depth others

end

end Json

namespace WideForm

def ofName? (s : String) : Option WideForm :=
  [arbitraryPrecision, wordPair].find? fun form => form.name == s

end WideForm

/-- The name of a choice that is written alone or as the only key of an object, and in the second
case the value beside it. -/
def Json.choice? (depth : Nat) : Json → Option (String × Option Json)
  | .string (some name) => some (name, none)
  | .object [(some name, value)] => if depth = 0 then none else some (name, some value)
  | _ => none

/-- Whether what stands beside the name of a choice says no more than the name. -/
def Json.Mode.isBare (mode : Json.Mode) : Option Json → Bool
  | none => true
  | some .null => true
  | some (.object []) => mode = .aside
  | some _ => false

namespace WideForm

def toJson (form : WideForm) : Json :=
  .ofText form.name

def ofJson? (mode : Json.Mode) (depth : Nat) (value : Json) : Option WideForm := do
  let (name, beside) ← value.choice? depth
  let form ← ofName? name
  if mode.isBare beside then return form else none

end WideForm

namespace Primitive

def toJson : Primitive → Json
  | numeric => .ofText "numeric"
  | wideInteger form => .object [(some "wide_integer", form.toJson)]
  | boolean => .ofText "boolean"
  | text => .ofText "text"
  | bytes => .ofText "bytes"

def ofJson? (mode : Json.Mode) (depth : Nat) (value : Json) : Option Primitive := do
  let (name, beside) ← value.choice? depth
  if name = "wide_integer" then
    (WideForm.ofJson? mode (depth - 1) (← beside)).map wideInteger
  else if mode.isBare beside then
    [numeric, boolean, text, bytes].find? fun type => type.describe == name
  else
    none

end Primitive

namespace Shape

/-- The kinds of shapes, as JSON documents name them. -/
inductive Kind where
  | primitive
  | sequence
  | reference
  deriving DecidableEq

def Kind.name : Kind → String
  | .primitive => "primitive"
  | .sequence => "sequence"
  | .reference => "opaque_reference"

/-- The number of a kind, as a JSON literal. -/
def Kind.numeral : Kind → String
  | .primitive => "0"
  | .sequence => "1"
  | .reference => "2"

def Kind.all : List Kind :=
  [.primitive, .sequence, .reference]

def Kind.ofName? (s : String) : Option Kind :=
  Kind.all.find? fun kind => kind.name == s

/-- The kind that a JSON value names in front of a value. What was put aside may also give its
number. -/
def Kind.ofLabel? (mode : Json.Mode) : Json → Option Kind
  | .string (some name) => Kind.ofName? name
  | .number literal =>
    if mode = .aside then Kind.all.find? fun kind => kind.numeral == literal else none
  | _ => none

/-- The kind that a JSON value names under a key. -/
def Kind.ofJson? (mode : Json.Mode) (depth : Nat) (value : Json) : Option Kind := do
  let (name, beside) ← value.choice? depth
  if mode.isBare beside then Kind.ofName? name else none

def toJson : Shape → Json
  | primitive type =>
    .object [(some "kind", .ofText Kind.primitive.name), (some "value", type.toJson)]
  | sequence item =>
    .object [(some "kind", .ofText Kind.sequence.name), (some "value", item.toJson)]
  | reference name =>
    .object [(some "kind", .ofText Kind.reference.name), (some "value", .ofText name)]

/-- The kind and the value that make up a shape, and how the value is to be read. -/
def parts? (mode : Json.Mode) (depth : Nat) : Json → Option (Kind × Json × Json.Mode)
  | .array [kind, value] => return (← Kind.ofLabel? mode kind, value, mode)
  | .object entries =>
    match Json.knownEntries? ["kind", "value"] entries with
    | some [("kind", kind), ("value", value)] =>
      return (← Kind.ofJson? mode depth kind, value, mode)
    | some [("value", value), ("kind", kind)] => do
      let kind ← Kind.ofJson? mode depth kind
      if Json.canPutAside depth value then return (kind, value, .aside) else none
    | _ => none
  | _ => none

/-- The shape that a JSON value stands for. -/
def ofJson? (mode : Json.Mode) : (depth : Nat) → Json → Option Shape
  | 0, _ => none
  | depth + 1, json => do
    let (kind, value, inner) ← parts? mode depth json
    match kind with
    | .primitive => (Primitive.ofJson? inner depth value).map primitive
    | .sequence => (ofJson? inner depth value).map sequence
    | .reference => value.text?.map reference

end Shape

namespace Member

def toJson (member : Member) : Json :=
  .object [(some "name", .ofText member.name), (some "resolved_type", member.shape.toJson)]

def ofJson? : (depth : Nat) → Json → Option Member
  | 0, _ => none
  | depth + 1, json => do
    match ← json.properties? ["name", "resolved_type"] with
    | [some name, some shape] =>
      return { name := ← name.text?, shape := ← Shape.ofJson? .direct depth shape }
    | _ => none

end Member

/-- The items of an array, each read by `read` one level deeper. -/
def Json.items? {α : Type} (read : Nat → Json → Option α) : (depth : Nat) → Json → Option (List α)
  | depth + 1, .array items => items.mapM (read depth)
  | _, _ => none

namespace Definition

def toJson (definition : Definition) : Json :=
  .object [(some "name", .ofText definition.name),
    (some "qualified_name", .ofText definition.path),
    (some "fields", .array (definition.members.map Member.toJson))]

def ofJson? : (depth : Nat) → Json → Option Definition
  | 0, _ => none
  | depth + 1, json => do
    match ← json.properties? ["name", "qualified_name", "fields"] with
    | [some name, some path, some members] =>
      return {
        name := ← name.text?
        path := ← path.text?
        members := ← Json.items? Member.ofJson? depth members }
    | _ => none

end Definition

namespace Listing

def toJson (listing : Listing) : Json :=
  .object [(some "name", .ofText listing.source), (some "package", .ofText listing.package),
    (some "types", .array (listing.definitions.map Definition.toJson))]

/-- The listing that a JSON value stands for; the package may be missing. -/
def ofJson? : (depth : Nat) → Json → Option Listing
  | 0, _ => none
  | depth + 1, json => do
    match ← json.properties? ["name", "package", "types"] with
    | [some source, package, some definitions] =>
      return {
        source := ← source.text?
        package := ← match package with
          | some package => package.text?
          | none => some ""
        definitions := ← Json.items? Definition.ofJson? depth definitions }
    | _ => none

end Listing

end SchemaInterfaces
