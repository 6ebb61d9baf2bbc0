/-!
# Violations

The ways in which a list of schema files can fail to be a schema.
-/

namespace SchemaInterfaces.Check

/-- A way in which files are no schema. -/
inductive Violation where
  | duplicateFile (name : String)
  | definedTwice (name : String)
  | definedElsewhere (name file : String)
  | camelCaseClash (first second : String)
  | emptyEnumeration
  | firstValueNotZero
  | missingImport (name : String)
  | importIndex
  | fieldNumber (number : Int)
  | reservedNumber (number first last : Int)
  | extensionNumber (number first last : Int)
  | notAnExtensionNumber (message : String) (number : Int)
  /-- The path is made of field numbers and positions in the descriptor of the file. -/
  | missingTypeName (path : List Nat)
  | undefined (name : String)
  | undefinedInScope (name fullName : String)
  | wrongSort (name wanted : String)
  | defaultValue (value type : String)
  | oneofIndex
  | fieldNumberUsed (number : Int)
  | jsonNameUsed (name : String)
  | reservedValue (number first last : Int)
  | valueNumberUsed (number : Int)
  /-- Options do not have the form that the schema itself gives to such options. -/
  | options
  deriving DecidableEq, Repr

namespace Violation

/-- A text in single quotes. -/
def quoted (s : String) : String :=
  "'" ++ s ++ "'"

/-- A range of numbers in single quotes. -/
def quotedRange (first last : Int) : String :=
  quoted (toString first ++ " to " ++ toString last)

def message : Violation → String
  | duplicateFile name => "a different file named " ++ quoted name ++ " has already been added"
  | definedTwice name => "name " ++ quoted name ++ " is defined twice"
  | definedElsewhere name file =>
    "name " ++ quoted name ++ " is already defined in file " ++ quoted file
  | camelCaseClash first second =>
    "camel-case name of field " ++ quoted first ++ " conflicts with field " ++ quoted second
  | emptyEnumeration => "enums must have at least one value"
  | firstValueNotZero => "the first value for proto3 enums must be 0"
  | missingImport name => "imported file " ++ quoted name ++ " has not been added"
  | importIndex => "invalid import index"
  | fieldNumber number => "invalid field number " ++ quoted (toString number)
  | reservedNumber number first last =>
    "field number " ++ quoted (toString number) ++ " conflicts with reserved range " ++
      quotedRange first last
  | extensionNumber number first last =>
    "field number " ++ quoted (toString number) ++ " conflicts with extension range " ++
      quotedRange first last
  | notAnExtensionNumber message number =>
    "message " ++ quoted message ++ " does not define " ++ quoted (toString number) ++
      " as an extension number"
  | missingTypeName path =>
    "missing required field at [" ++ ", ".intercalate (path.map toString) ++ "]"
  | undefined name => "name " ++ quoted name ++ " is not defined"
  | undefinedInScope name fullName =>
    quoted name ++ " resolves to " ++ quoted fullName ++ ", which is not defined"
  | wrongSort name wanted => quoted name ++ " is not " ++ wanted
  | defaultValue value type =>
    "invalid default value " ++ quoted value ++ " for type " ++ quoted type
  | oneofIndex => "invalid oneof index"
  | fieldNumberUsed number => "field number " ++ quoted (toString number) ++ " is already used"
  | jsonNameUsed name => "a field with JSON name " ++ quoted name ++ " is already defined"
  | reservedValue number first last =>
    "enum number " ++ quoted (toString number) ++ " conflicts with reserved range " ++
      quotedRange first last
  | valueNumberUsed number =>
    "enum number " ++ quoted (toString number) ++ " has already been used"
  | options => "failed to decode file descriptor set"

end Violation

end SchemaInterfaces.Check
