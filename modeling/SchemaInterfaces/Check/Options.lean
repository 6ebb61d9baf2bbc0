import SchemaInterfaces.Check.Scope
import SchemaInterfaces.Listing.Assembly
import SchemaInterfaces.Wire.Form
import SchemaInterfaces.Wire.Record

/-!
# Checking options

Schema files may themselves define the messages that hold the options of files, messages, fields
and so on. Then every place where options are set has to agree with the definition: the options
are written as bytes, and these have to be a message of the defined form. Options for which the
definition has no field agree with it.
-/

namespace SchemaInterfaces.Check

open Descriptor

/-- The bytes of an option with the given number. -/
def optionBytes (tag : Nat) : OptionValue → List UInt8
  | .flag b => Wire.Writer.number tag (if b then 1 else 0)
  | .number n => Wire.Writer.number tag (n % Width.count 64).toNat
  | .text s => Wire.Writer.text tag s

def optionsBytes (options : Options) : List UInt8 :=
  options.flatMap fun (tag, value) => optionBytes tag value

/-- Options together with the kind of message that holds them. -/
abbrev SetOptions : Type :=
  Wire.Kind × Options

def enumerationOptions (enumeration : Enumeration) : List SetOptions :=
  (.enumOptions, enumeration.options) ::
    enumeration.values.map fun value => (.enumValueOptions, value.options)

def fieldsOptions (fields : List Field) : List SetOptions :=
  fields.map fun field => (.fieldOptions, field.options)

def serviceOptions (service : Service) : List SetOptions :=
  (.serviceOptions, service.options) ::
    service.methods.map fun method => (.methodOptions, method.options)

mutual

def messageOptions : Message → List SetOptions
  | message@⟨_, _, _, nested, _, _, _, _, _, _⟩ =>
    (.messageOptions, message.options) ::
      fieldsOptions message.fields ++ messagesOptions nested ++
      message.enumerations.flatMap enumerationOptions ++ fieldsOptions message.extensions

def messagesOptions : List Message → List SetOptions
  | [] => []
  | message :: others => messageOptions message ++ messagesOptions others

end

/-- The options that are set in a file. -/
def fileOptions (file : File) : List SetOptions :=
  (.fileOptions, file.options) ::
    messagesOptions file.messages ++ file.enumerations.flatMap enumerationOptions ++
    file.services.flatMap serviceOptions ++ fieldsOptions file.extensions

mutual

def messageExtensions (scope : String) : Message → List (String × Field)
  | message@⟨_, _, _, nested, _, _, _, _, _, _⟩ =>
    let name := qualify scope message.nameText
    messagesExtensions name nested ++
      message.extensions.map fun field => (qualify name field.nameText, field)

def messagesExtensions (scope : String) : List Message → List (String × Field)
  | [] => []
  | message :: others => messageExtensions scope message ++ messagesExtensions scope others

end

/-- The extensions that are declared in a file, with their full names. -/
def fileExtensions (file : File) : List (String × Field) :=
  messagesExtensions file.packageText file.messages ++
    file.extensions.map fun field => (qualify file.packageText field.nameText, field)

/-- The form of single values of a kind that needs no further name. -/
def formOfKind : FieldKind → Wire.Form
  | .double | .fixed64 | .sfixed64 => .eightBytes
  | .float | .fixed32 | .sfixed32 => .fourBytes
  | .int64 | .uint64 | .int32 | .bool | .uint32 | .sint32 | .sint64 | .enumeration => .varint
  | .string => .text
  | .bytes | .message | .group => .blob

/-- The message or enumeration that the type of a field names; `name` is the full name of the
field. -/
def targetOf (view : View) (name : String) (field : Field) : Option SymbolEntry :=
  let target := textOf field.typeName
  if target.isEmpty then none else (view.resolve .messageOrEnumeration name target).toOption

def singleForm (view : View) (name : String) (field : Field) : Wire.Form :=
  match targetOf view name field with
  | none => formOfKind (field.fieldKind?.getD .double)
  | some symbol =>
    match symbol.entity with
    | .message _ =>
      if field.fieldKind? = some .group then .group symbol.name else .record symbol.name
    | _ => .varint

/-- What is known in the file with the given name. -/
def viewFrom (files : List File) (symbols : Symbols) (name : String) : View :=
  ⟨symbols, ((files.find? fun file => file.nameText == name).map (visibleFiles files)).getD []⟩

/-- The form of the map that a repeated field of the given type is, if it is one. -/
def mapForm? (files : List File) (symbols : Symbols) (type : SymbolEntry) :
    Option Wire.FieldForm := do
  let .message entry := type.entity | none
  if entry.mapEntry = some true then
    let key ← entry.fields.find? fun field => field.numberValue == 1
    let value ← entry.fields.find? fun field => field.numberValue == 2
    let form (field : Field) : Wire.Form :=
      singleForm (viewFrom files symbols type.file) (qualify type.name field.nameText) field
    return .map (form key) (form value)
  else none

/-- The form of a field with the given full name that is declared in the file `place`. -/
def fieldForm (files : List File) (symbols : Symbols) (place name : String) (field : Field) :
    Wire.FieldForm :=
  let view := viewFrom files symbols place
  if field.isRepeated then
    ((targetOf view name field).bind (mapForm? files symbols)).getD
      (.repeated (singleForm view name field))
  else .single (singleForm view name field)

/-- The form of the extension of a message with the given number, if there is one. -/
def extensionForm? (files : List File) (symbols : Symbols) (owner : String) (number : Nat) :
    Option Wire.FieldForm :=
  files.findSome? fun file =>
    (fileExtensions file).findSome? fun (name, field) =>
      let extendee :=
        (viewFrom files symbols file.nameText).resolve .message name (textOf field.extendee)
      let extendsOwner := extendee.toOption.any fun symbol => symbol.name == owner
      if extendsOwner && field.numberValue == (number : Int) then
        some (fieldForm files symbols file.nameText name field)
      else none

/-- The form of the field of a message with the given number; a field of its own goes before an
extension. -/
def formAt? (files : List File) (symbols : Symbols) (owner : String) (number : Nat) :
    Option Wire.FieldForm := do
  let symbol ← symbols.find? owner
  let .message message := symbol.entity | none
  match message.fields.find? fun field => field.numberValue == (number : Int) with
  | some field =>
    return fieldForm files symbols symbol.file (qualify owner field.nameText) field
  | none => extensionForm? files symbols owner number

/-- The full name of the message that holds options of a kind. -/
def optionsName (kind : Wire.Kind) : String :=
  "google.protobuf." ++ kind.name

/-- Checks options against the definition of the message that holds them, if there is one. -/
def checkOptions (files : List File) (symbols : Symbols) (set : SetOptions) :
    Except Violation Unit :=
  let name := optionsName set.1
  match (symbols.find? name).map SymbolEntry.entity with
  | some (.message _) =>
    if Wire.fits (formAt? files symbols) name (optionsBytes set.2) then .ok ()
    else .error .options
  | _ => .ok ()

def checkAllOptions (files : List File) (symbols : Symbols) : Except Violation Unit :=
  files.forM fun file => (fileOptions file).forM (checkOptions files symbols)

end SchemaInterfaces.Check
