import SchemaInterfaces.Check.Violation
import SchemaInterfaces.Descriptor.Basic
import SchemaInterfaces.Text.Dotted

/-!
# Symbols

The names that schema files define. Every name is defined once, packages apart, which any number
of files may share. The definitions are met in the order in which the files hold them, and the
first clash is the one that is reported.
-/

namespace SchemaInterfaces.Check

open Descriptor

/-- What a name stands for. -/
inductive Entity where
  | package
  | message (descriptor : Message)
  | enumeration (values : List String)
  | enumValue
  | field
  | oneof
  | service
  | method
  | extension

namespace Entity

/-- Whether names may be looked for inside an entity. -/
def isScope : Entity → Bool
  | package | message _ | enumeration _ | service => true
  | enumValue | field | oneof | method | extension => false

def isPackage : Entity → Bool
  | package => true
  | _ => false

end Entity

/-- A name with what it stands for, and the file that defines it first. -/
structure SymbolEntry where
  name : String
  entity : Entity
  file : String

/-- The names defined so far. -/
abbrev Symbols : Type :=
  List SymbolEntry

def Symbols.find? (symbols : Symbols) (name : String) : Option SymbolEntry :=
  List.find? (fun symbol => symbol.name == name) symbols

/-- A name inside a scope; the outermost scope is empty. -/
def qualify (scope name : String) : String :=
  if scope.isEmpty then name else scope ++ "." ++ name

/-- Something met on the way through a file: a definition, or what is wrong at this point. -/
inductive Encounter where
  | definition (name : String) (entity : Entity)
  | fault (violation : Violation)

/-- Whether a file is written in the third edition of the schema language. -/
def isProto3 (file : File) : Bool :=
  file.dialect == some "proto3"

/-- The form of a field name in which names that differ only in underscores and case agree. -/
def foldFieldName (name : String) : String :=
  String.ofList ((name.toList.filter (· != '_')).map Char.toLower)

/-- The first two names in a list that agree apart from underscores and case, given the names
before it. -/
def clashAfter (earlier : List String) : List String → Option (String × String)
  | [] => none
  | name :: others =>
    match earlier.find? fun first => foldFieldName first == foldFieldName name with
    | some first => some (first, name)
    | none => clashAfter (earlier ++ [name]) others

/-- The fault of a list of field names of which two agree apart from underscores and case. -/
def fieldNameFaults (proto3 : Bool) (fields : List Field) : List Encounter :=
  if proto3 then
    match clashAfter [] (fields.map Field.nameText) with
    | some (first, second) => [.fault (.camelCaseClash first second)]
    | none => []
  else []

/-- What is met in an enumeration. Its values are names of the scope around it. -/
def enumerationEncounters (proto3 : Bool) (scope : String) (enumeration : Enumeration) :
    List Encounter :=
  .definition (qualify scope (textOf enumeration.name))
      (.enumeration (enumeration.values.map fun value => textOf value.name)) ::
    (match enumeration.values with
      | [] => [.fault .emptyEnumeration]
      | first :: _ =>
        if proto3 && first.number.getD 0 != 0 then [.fault .firstValueNotZero] else []) ++
    enumeration.values.map fun value =>
      .definition (qualify scope (textOf value.name)) .enumValue

def extensionEncounters (scope : String) (extensions : List Field) : List Encounter :=
  extensions.map fun field => .definition (qualify scope field.nameText) .extension

def serviceEncounters (scope : String) (service : Service) : List Encounter :=
  let name := qualify scope (textOf service.name)
  .definition name .service ::
    service.methods.map fun method => .definition (qualify name (textOf method.name)) .method

mutual

def messageEncounters (proto3 : Bool) (scope : String) : Message → List Encounter
  | message@⟨_, _, _, nested, _, _, _, _, _, _⟩ =>
    let name := qualify scope message.nameText
    .definition name (.message message) ::
      fieldNameFaults proto3 message.fields ++
      message.oneofs.map (fun oneof => .definition (qualify name (textOf oneof.name)) .oneof) ++
      message.fields.map (fun field => .definition (qualify name field.nameText) .field) ++
      messagesEncounters proto3 name nested ++
      message.enumerations.flatMap (enumerationEncounters proto3 name) ++
      extensionEncounters name message.extensions

def messagesEncounters (proto3 : Bool) (scope : String) : List Message → List Encounter
  | [] => []
  | message :: others =>
    messageEncounters proto3 scope message ++ messagesEncounters proto3 scope others

end

/-- The packages that a file declares: its package and those around it. -/
def packagesOf (package : String) : List String :=
  Text.beginnings package ++ if package.isEmpty then [] else [package]

/-- What is met in a file. -/
def fileEncounters (file : File) : List Encounter :=
  let proto3 := isProto3 file
  let scope := file.packageText
  (packagesOf scope).map (fun name => .definition name .package) ++
    messagesEncounters proto3 scope file.messages ++
    file.enumerations.flatMap (enumerationEncounters proto3 scope) ++
    file.services.flatMap (serviceEncounters scope) ++
    extensionEncounters scope file.extensions

/-- The symbols with one more definition, or its clash with an earlier one. -/
def Symbols.define (symbols : Symbols) (file name : String) (entity : Entity) :
    Except Violation Symbols :=
  match symbols.find? name with
  | none => .ok (symbols ++ [⟨name, entity, file⟩])
  | some first =>
    if entity.isPackage && first.entity.isPackage then .ok symbols
    else if first.file = file then .error (.definedTwice name)
    else .error (.definedElsewhere name first.file)

/-- The symbols after something was met in a file. -/
def Symbols.meet (file : String) (symbols : Symbols) : Encounter → Except Violation Symbols
  | .definition name entity => symbols.define file name entity
  | .fault violation => .error violation

/-- The symbols of files, given those of the files before them and the names of these. -/
def Symbols.extend (earlier : List String) (symbols : Symbols) :
    List File → Except Violation Symbols
  | [] => .ok symbols
  | file :: others =>
    if earlier.contains file.nameText then
      .error (.duplicateFile file.nameText)
    else do
      let symbols ← (fileEncounters file).foldlM (Symbols.meet file.nameText) symbols
      Symbols.extend (file.nameText :: earlier) symbols others

/-- The symbols that files define. -/
def Symbols.ofFiles (files : List File) : Except Violation Symbols :=
  Symbols.extend [] [] files

end SchemaInterfaces.Check
