import SchemaInterfaces.Descriptor.Basic
import SchemaInterfaces.Listing.Basic
import SchemaInterfaces.Settings.Basic

/-!
# From descriptors to listings

Every message gives one definition, and the messages declared inside it follow it in the list. No
descriptor is refused: a field whose kind is unknown becomes a reference to whatever it names.
-/

namespace SchemaInterfaces

/-- The kinds of fields, as a schema declares them. -/
inductive FieldKind where
  | double
  | float
  | int64
  | uint64
  | int32
  | fixed64
  | fixed32
  | bool
  | string
  | group
  | message
  | bytes
  | uint32
  | enumeration
  | sfixed32
  | sfixed64
  | sint32
  | sint64
  deriving DecidableEq, Repr

def FieldKind.ofNumber? : Int → Option FieldKind
  | 1 => some double
  | 2 => some float
  | 3 => some int64
  | 4 => some uint64
  | 5 => some int32
  | 6 => some fixed64
  | 7 => some fixed32
  | 8 => some bool
  | 9 => some string
  | 10 => some group
  | 11 => some message
  | 12 => some bytes
  | 13 => some uint32
  | 14 => some enumeration
  | 15 => some sfixed32
  | 16 => some sfixed64
  | 17 => some sint32
  | 18 => some sint64
  | _ => none

/-- The type of 64-bit integers under a policy. -/
def WidePolicy.primitive : WidePolicy → Primitive
  | nativeNumeric => .numeric
  | arbitraryPrecision => .wideInteger .arbitraryPrecision
  | wordPair => .wideInteger .wordPair

namespace Shape

/-- The shape of a single value of a kind; a value of an unknown kind is a reference to `target`,
as are messages and enumerations. -/
def ofKind (policy : WidePolicy) (kind : Option FieldKind) (target : String) : Shape :=
  match kind with
  | some .double | some .float | some .int32 | some .uint32 | some .sint32 | some .fixed32
  | some .sfixed32 => primitive .numeric
  | some .int64 | some .uint64 | some .sint64 | some .fixed64 | some .sfixed64 =>
    primitive policy.primitive
  | some .bool => primitive .boolean
  | some .string => primitive .text
  | some .bytes => primitive .bytes
  | some .message | some .enumeration | some .group | none => reference target

end Shape

namespace Descriptor

/-- The label of fields that hold any number of values. -/
def repeatedLabel : Int :=
  3

/-- The kind of a field, if it has a known one. -/
def Field.fieldKind? (field : Field) : Option FieldKind :=
  field.kind.bind FieldKind.ofNumber?

/-- Whether a field holds any number of values. -/
def Field.isRepeated (field : Field) : Bool :=
  field.label == some repeatedLabel

/-- The shape of a field's values. -/
def Field.shape (policy : WidePolicy) (field : Field) : Shape :=
  let single := Shape.ofKind policy field.fieldKind? (textOf field.typeName)
  if field.isRepeated then .sequence single else single

/-- The member that a field gives. -/
def Field.member (policy : WidePolicy) (field : Field) : Member where
  name := field.nameText
  shape := field.shape policy

namespace Message

/-- The path of a message inside the one with the path `parent`. -/
def pathIn (parent : Option String) (name : String) : String :=
  match parent with
  | some parent => parent ++ "." ++ name
  | none => name

/-- The definition that a message gives, without the messages inside it. -/
def definition (policy : WidePolicy) (parent : Option String) (message : Message) : Definition where
  name := message.nameText
  path := pathIn parent message.nameText
  members := message.fields.map (Field.member policy)

end Message

end Descriptor

namespace Listing

open Descriptor

mutual

/-- The listing with the definitions of a message and of the messages inside it at the end. -/
def addMessage (policy : WidePolicy) (listing : Listing) (parent : Option String) :
    Message → Listing
  | message@⟨_, _, _, nested, _, _, _, _, _, _⟩ =>
    let definition := message.definition policy parent
    addMessages policy (listing.push definition) (some definition.path) nested

/-- The listing with the definitions of messages, one after the other, at the end. -/
def addMessages (policy : WidePolicy) (listing : Listing) (parent : Option String) :
    List Message → Listing
  | [] => listing
  | message :: others =>
    addMessages policy (addMessage policy listing parent message) parent others

end

/-- The listing of a schema file. -/
def ofFile (policy : WidePolicy) (file : File) : Listing :=
  addMessages policy ({ source := file.nameText } : Listing) none file.messages
    |>.withPackage file.packageText

/-- The listings of all schema files. -/
def ofFiles (policy : WidePolicy) (files : List File) : List Listing :=
  files.map (ofFile policy)

/-- The listings of the schema files with one of the given names. -/
def ofRequested (policy : WidePolicy) (files : List File) (targets : List String) :
    List Listing :=
  (files.filter fun file => targets.contains file.nameText).map (ofFile policy)

end Listing

end SchemaInterfaces
