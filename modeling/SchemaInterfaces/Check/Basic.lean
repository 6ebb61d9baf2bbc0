import SchemaInterfaces.Check.Literal
import SchemaInterfaces.Check.Options

/-!
# Checking schemas

Whether schema files make up a schema on their own: first all names are collected, then everything
that the files say about types, numbers and defaults is checked against them, and at last their
options. The first violation in the order of the files ends the check.
-/

namespace SchemaInterfaces.Check

open Descriptor

/-- Fails with a violation if a condition holds. -/
def refuseIf (condition : Bool) (violation : Violation) : Except Violation Unit :=
  if condition then .error violation else .ok ()

/-- The first number of a range. -/
def rangeStart (range : Range) : Int :=
  range.start.getD 0

/-- The second number of a range. -/
def rangeStop (range : Range) : Int :=
  range.stop.getD 0

/-- Whether a range that does not include its second number holds a number. -/
def inRange (number : Int) (range : Range) : Bool :=
  decide (rangeStart range ≤ number ∧ number < rangeStop range)

/-- Checks the number of a field against the message that the field belongs to. -/
def checkFieldNumber (owner : Message) (ownerName : String) (field : Field) :
    Except Violation Unit := do
  let number := field.numberValue
  refuseIf (number < 1 || 536870911 < number || (19000 ≤ number && number ≤ 19999))
    (.fieldNumber number)
  match owner.reservedRanges.find? (inRange number) with
  | some range => throw (.reservedNumber number (rangeStart range) (rangeStop range - 1))
  | none => pure ()
  -- The numbers set aside for extensions are for extensions only, and the only ones for them.
  match field.extendee, owner.extensionRanges.find? (inRange number) with
  | none, some range => throw (.extensionNumber number (rangeStart range) (rangeStop range - 1))
  | some _, none => throw (.notAnExtensionNumber ownerName number)
  | _, _ => pure ()

/-- The type of a field, as far as defaults are concerned. -/
inductive ValueType where
  | scalar (kind : FieldKind)
  | message
  | enumeration (name : String) (values : List String)

/-- The type of a field; `path` leads to the field. -/
def fieldType (view : View) (path : List Nat) (scope : String) (field : Field) :
    Except Violation ValueType :=
  let target := textOf field.typeName
  if target.isEmpty then
    match field.fieldKind?.getD .double with
    | .message | .group | .enumeration => .error (.missingTypeName (path ++ [6]))
    | kind => .ok (.scalar kind)
  else do
    let symbol ← view.resolve .messageOrEnumeration scope target
    match symbol.entity with
    | .enumeration values => return .enumeration symbol.name values
    | _ => return .message

/-- Checks that the default of a field, if it has one, is a value of its type. -/
def checkDefault (type : ValueType) (field : Field) : Except Violation Unit :=
  match field.defaultValue with
  | none => .ok ()
  | some value =>
    match type with
    | .scalar kind =>
      refuseIf (!Literal.fits kind value) (.defaultValue value (Literal.kindName kind))
    | .message => .error (.defaultValue value "message type")
    | .enumeration name values => refuseIf (!values.contains value) (.defaultValue value name)

/-- The characters of a field name as JSON documents have it: underscores go, and a letter behind
one is made capital. `capital` tells whether the first character stands behind one. -/
def camelCase (capital : Bool) : List Char → List Char
  | [] => []
  | c :: rest =>
    if c = '_' then camelCase true rest
    else (if capital then c.toUpper else c) :: camelCase false rest

/-- The name of a field in JSON documents, given or derived. -/
def jsonName (field : Field) : String :=
  field.jsonName.getD (String.ofList (camelCase false field.nameText.toList))

/-- Checks a field against its message and the fields before it; `path` leads to the field. -/
def checkField (view : View) (owner : Message) (ownerName : String) (earlier : List Field)
    (path : List Nat) (field : Field) : Except Violation Unit := do
  checkFieldNumber owner ownerName field
  let type ← fieldType view path (qualify ownerName field.nameText) field
  checkDefault type field
  match field.oneofIndex with
  | some index => refuseIf (index < 0 || (owner.oneofs.length : Int) ≤ index) .oneofIndex
  | none => pure ()
  refuseIf (earlier.any fun other => other.numberValue == field.numberValue)
    (.fieldNumberUsed field.numberValue)
  refuseIf (earlier.any fun other => jsonName other == jsonName field)
    (.jsonNameUsed (textOf field.jsonName))

/-- Checks fields of a message, given those before them. -/
def checkFields (view : View) (owner : Message) (ownerName : String) (path : List Nat)
    (earlier : List Field) : List Field → Except Violation Unit
  | [] => .ok ()
  | field :: others => do
    checkField view owner ownerName earlier (path ++ [2, earlier.length]) field
    checkFields view owner ownerName path (earlier ++ [field]) others

/-- Checks an extension; `path` leads to it. -/
def checkExtension (view : View) (scope : String) (path : List Nat) (field : Field) :
    Except Violation Unit := do
  let name := qualify scope field.nameText
  let symbol ← view.resolve .message name (textOf field.extendee)
  match symbol.entity with
  | .message owner => checkFieldNumber owner symbol.name field
  | _ => pure ()
  let type ← fieldType view path name field
  checkDefault type field

/-- Checks extensions; `path` leads to their list. -/
def checkExtensions (view : View) (scope : String) (path : List Nat) (extensions : List Field) :
    Except Violation Unit :=
  extensions.zipIdx.forM fun (field, position) =>
    checkExtension view scope (path ++ [position]) field

/-- Checks the values of an enumeration, given the numbers before them. -/
def checkValues (enumeration : Enumeration) (earlier : List Int) :
    List EnumValue → Except Violation Unit
  | [] => .ok ()
  | value :: others => do
    let number := value.number.getD 0
    let reserved := enumeration.reservedRanges.find? fun range =>
      rangeStart range ≤ number && number ≤ rangeStop range
    match reserved with
    | some range => throw (.reservedValue number (rangeStart range) (rangeStop range))
    | none => pure ()
    refuseIf (earlier.contains number && enumeration.allowAlias != some true)
      (.valueNumberUsed number)
    checkValues enumeration (number :: earlier) others

def checkEnumeration (enumeration : Enumeration) : Except Violation Unit :=
  checkValues enumeration [] enumeration.values

def checkMethod (view : View) (scope : String) (method : Method) : Except Violation Unit := do
  let name := qualify scope (textOf method.name)
  let _ ← view.resolve .message name (textOf method.inputType)
  let _ ← view.resolve .message name (textOf method.outputType)

def checkService (view : View) (scope : String) (service : Service) : Except Violation Unit :=
  service.methods.forM (checkMethod view (qualify scope (textOf service.name)))

mutual

/-- Checks a message; `path` leads to it. -/
def checkMessage (view : View) (scope : String) (path : List Nat) :
    Message → Except Violation Unit
  | message@⟨_, _, _, nested, _, _, _, _, _, _⟩ => do
    let name := qualify scope message.nameText
    checkFields view message name path [] message.fields
    checkMessages view name (path ++ [3]) 0 nested
    message.enumerations.forM checkEnumeration
    checkExtensions view name (path ++ [6]) message.extensions

/-- Checks messages; `path` leads to their list, of which `position` are checked. -/
def checkMessages (view : View) (scope : String) (path : List Nat) (position : Nat) :
    List Message → Except Violation Unit
  | [] => .ok ()
  | message :: others => do
    checkMessage view scope (path ++ [position]) message
    checkMessages view scope path (position + 1) others

end

/-- Checks that the imports of a file are files, and that positions among them are such. -/
def checkImports (files : List File) (file : File) : Except Violation Unit := do
  file.dependencies.forM fun name =>
    refuseIf (!files.any fun other => other.nameText == name) (.missingImport name)
  (file.publicDependencies ++ file.weakDependencies).forM fun position =>
    refuseIf (position < 0 || (file.dependencies.length : Int) ≤ position) .importIndex

/-- Checks what a file says, given the symbols of all files. -/
def checkFile (files : List File) (symbols : Symbols) (file : File) : Except Violation Unit := do
  checkImports files file
  let view : View := ⟨symbols, visibleFiles files file⟩
  let scope := file.packageText
  checkMessages view scope [4] 0 file.messages
  file.enumerations.forM checkEnumeration
  file.services.forM (checkService view scope)
  checkExtensions view scope [7] file.extensions

/-- Checks that files make up a schema on their own. -/
def checkFiles (files : List File) : Except Violation Unit := do
  let symbols ← Symbols.ofFiles files
  files.forM (checkFile files symbols)
  checkAllOptions files symbols

end SchemaInterfaces.Check
