import SchemaInterfaces.Descriptor.Options

/-!
# Descriptors

What a compiled schema file says about itself: its messages, enumerations, services and extensions
as written, with nothing resolved. An unset property and an empty one differ; the functions that
give a default treat them alike.
-/

namespace SchemaInterfaces.Descriptor

/-- A range of numbers; which end belongs to it depends on where the range stands. -/
structure Range where
  start : Option Int := none
  stop : Option Int := none
  deriving DecidableEq, Repr

/-- A field of a message, or an extension of one. -/
structure Field where
  name : Option String := none
  number : Option Int := none
  label : Option Int := none
  kind : Option Int := none
  typeName : Option String := none
  extendee : Option String := none
  defaultValue : Option String := none
  oneofIndex : Option Int := none
  jsonName : Option String := none
  proto3Optional : Option Bool := none
  options : Options := []
  deriving DecidableEq, Repr

structure EnumValue where
  name : Option String := none
  number : Option Int := none
  options : Options := []
  deriving DecidableEq, Repr

structure Enumeration where
  name : Option String := none
  values : List EnumValue := []
  reservedRanges : List Range := []
  reservedNames : List String := []
  options : Options := []
  deriving DecidableEq, Repr

/-- A group of fields of which at most one is set; only its name is known here. -/
structure Oneof where
  name : Option String := none
  deriving DecidableEq, Repr

/-- A message, with the messages declared inside it. -/
structure Message where
  name : Option String := none
  fields : List Field := []
  extensions : List Field := []
  nested : List Message := []
  enumerations : List Enumeration := []
  extensionRanges : List Range := []
  reservedRanges : List Range := []
  reservedNames : List String := []
  oneofs : List Oneof := []
  options : Options := []
  deriving Repr

structure Method where
  name : Option String := none
  inputType : Option String := none
  outputType : Option String := none
  options : Options := []
  deriving DecidableEq, Repr

structure Service where
  name : Option String := none
  methods : List Method := []
  options : Options := []
  deriving DecidableEq, Repr

structure File where
  name : Option String := none
  package : Option String := none
  dependencies : List String := []
  publicDependencies : List Int := []
  weakDependencies : List Int := []
  messages : List Message := []
  enumerations : List Enumeration := []
  services : List Service := []
  extensions : List Field := []
  dialect : Option String := none
  options : Options := []
  deriving Repr

/-- The text of a property, empty if unset. -/
def textOf (property : Option String) : String :=
  property.getD ""

def Field.nameText (field : Field) : String :=
  textOf field.name

def Field.numberValue (field : Field) : Int :=
  field.number.getD 0

def Message.nameText (message : Message) : String :=
  textOf message.name

def File.nameText (file : File) : String :=
  textOf file.name

def File.packageText (file : File) : String :=
  textOf file.package

/-- Whether the values of a field are written as one block, if anything is said about it. -/
def Field.packed (field : Field) : Option Bool :=
  field.options.flag? Options.packed

/-- Whether values of an enumeration may share a number, if anything is said about it. -/
def Enumeration.allowAlias (enumeration : Enumeration) : Option Bool :=
  enumeration.options.flag? Options.allowAlias

namespace Message

/-- Whether a message is an entry of a map, if anything is said about it. -/
def mapEntry (message : Message) : Option Bool :=
  message.options.flag? Options.mapEntry

mutual

/-- The number of messages in a tree of messages, its root included. -/
def size : Message → Nat
  | ⟨_, _, _, nested, _, _, _, _, _, _⟩ => 1 + totalSize nested

/-- The number of messages in several trees. -/
def totalSize : List Message → Nat
  | [] => 0
  | message :: others => size message + totalSize others

end

end Message

end SchemaInterfaces.Descriptor
