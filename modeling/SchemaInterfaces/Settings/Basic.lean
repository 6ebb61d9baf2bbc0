/-!
# Settings

What can be chosen about a run, and the names by which the choices are written wherever settings
are read or reported.
-/

namespace SchemaInterfaces

/-- How 64-bit integers appear in interfaces. -/
inductive WidePolicy where
  /-- Like all other numbers; values beyond 2^53 lose digits. -/
  | nativeNumeric
  /-- As integers of any size. -/
  | arbitraryPrecision
  /-- As two 32-bit words. -/
  | wordPair
  deriving DecidableEq, Repr, Inhabited

namespace WidePolicy

/-- All policies, in the order in which reports list them. -/
def all : List WidePolicy :=
  [nativeNumeric, arbitraryPrecision, wordPair]

def name : WidePolicy → String
  | nativeNumeric => "native_numeric"
  | arbitraryPrecision => "arbitrary_precision"
  | wordPair => "word_pair"

def ofName? (s : String) : Option WidePolicy :=
  all.find? fun policy => policy.name == s

/-- A policy is found under its name. -/
@[simp] theorem ofName?_name (policy : WidePolicy) : ofName? policy.name = some policy := by
  cases policy <;> decide

end WidePolicy

/-- The settings of a run. -/
structure Settings where
  /-- How 64-bit integers appear. -/
  wideIntegers : WidePolicy := .nativeNumeric
  /-- Whether every file gives output, not only the requested ones. -/
  everyFile : Bool := false
  /-- Whether the schema is checked before anything is made of it. -/
  validate : Bool := false
  /-- The file name extension of the output, without the dot in front of it. -/
  extension : String := "ts"
  deriving DecidableEq, Repr, Inhabited

namespace Settings

/-- The things that can be set. -/
inductive Key where
  | wideIntegers
  | everyFile
  | validate
  | extension
  deriving DecidableEq, Repr

namespace Key

/-- All keys, in the order in which settings are written without keys. -/
def all : List Key :=
  [wideIntegers, everyFile, validate, extension]

def name : Key → String
  | wideIntegers => "wide_integer_policy"
  | everyFile => "emit_dependencies"
  | validate => "validate"
  | extension => "file_extension"

def ofName? (s : String) : Option Key :=
  all.find? fun key => key.name == s

/-- A key is found under its name. -/
@[simp] theorem ofName?_name (key : Key) : ofName? key.name = some key := by
  cases key <;> decide

end Key

/-- One thing set to a value. -/
inductive Assignment where
  | wideIntegers (policy : WidePolicy)
  | everyFile (value : Bool)
  | validate (value : Bool)
  | extension (value : String)
  deriving DecidableEq, Repr

/-- The settings with one thing set anew. -/
def assign (settings : Settings) : Assignment → Settings
  | .wideIntegers policy => { settings with wideIntegers := policy }
  | .everyFile value => { settings with everyFile := value }
  | .validate value => { settings with validate := value }
  | .extension value => { settings with extension := value }

/-- The default settings with things set one after the other. -/
def ofAssignments (assignments : List Assignment) : Settings :=
  assignments.foldl assign {}

@[simp] theorem ofAssignments_nil : ofAssignments [] = {} := rfl

/-- What is set later is set on top of what is set before. -/
theorem ofAssignments_append (first second : List Assignment) :
    ofAssignments (first ++ second) = second.foldl assign (ofAssignments first) :=
  List.foldl_append

end Settings

end SchemaInterfaces
