import SchemaInterfaces.Settings.Basic
import SchemaInterfaces.Text.Dotted
import SchemaInterfaces.Text.Split

/-!
# Settings in a parameter

All options of a run in one text, separated by commas: `key=value`, or a bare key, which sets a
flag. A comma inside a value is written with a backslash before it.

The first option with a known key and an unacceptable value is reported; only if there is none are
unknown keys reported, all of them together. A later option overrides an earlier one.
-/

namespace SchemaInterfaces.Settings

/-- Why options are not acceptable. -/
inductive OptionError where
  | unknownPolicy (value : String)
  | missingValue (key : Key)
  | notBoolean (key : Key) (value : String)
  | unknownOptions (options : List String)
  deriving DecidableEq, Repr

namespace OptionError

def message : OptionError → String
  | unknownPolicy value =>
    "unknown wide_integer_policy `" ++ value ++
      "` (expected native_numeric, arbitrary_precision or word_pair)"
  | missingValue key => "`" ++ key.name ++ "` requires a value"
  | notBoolean key value =>
    "`" ++ key.name ++ "` expects true or false, got `" ++ value ++ "`"
  | unknownOptions options => "unknown options: " ++ ", ".intercalate options

end OptionError

/-- The policy that a text names. -/
def readPolicy (value : String) : Except OptionError WidePolicy :=
  match WidePolicy.ofName? value with
  | some policy => .ok policy
  | none => .error (.unknownPolicy value)

/-- The value of an option that needs one. -/
def requireValue (key : Key) : Option String → Except OptionError String
  | some value => if value.isEmpty then .error (.missingValue key) else .ok value
  | none => .error (.missingValue key)

/-- The flag that the value of an option stands for; without a value it is set. -/
def readFlag (key : Key) : Option String → Except OptionError Bool
  | none => .ok true
  | some value =>
    if value = "true" then .ok true
    else if value = "false" then .ok false
    else .error (.notBoolean key value)

/-- What a known key is set to by its value. -/
def Key.readValue (key : Key) (value : Option String) : Except OptionError Assignment :=
  match key with
  | .wideIntegers => do return .wideIntegers (← readPolicy (← requireValue key value))
  | .everyFile => do return .everyFile (← readFlag key value)
  | .validate => do return .validate (← readFlag key value)
  | .extension => do return .extension (Text.dropDots (← requireValue key value))

/-- An option divided at its first equals sign, both sides trimmed. -/
def divideOption (option : String) : String × Option String :=
  match Text.Chars.cutAt? '=' option.toList with
  | some (key, value) =>
    (String.ofList (Text.Chars.trim key), some (String.ofList (Text.Chars.trim value)))
  | none => (option, none)

/-- What an option sets; nothing if its key is unknown. -/
def readOption (option : String) : Except OptionError (Option Assignment) :=
  let (name, value) := divideOption option
  match Key.ofName? name with
  | some key => (key.readValue value).map some
  | none => .ok none

/-- Whether the key of an option is known. -/
def isKnownOption (option : String) : Bool :=
  (Key.ofName? (divideOption option).1).isSome

/-- The settings that a list of options stands for. -/
def ofOptions (options : List String) : Except OptionError Settings := do
  let assignments ← options.mapM readOption
  let unknown := options.filter (!isKnownOption ·)
  if unknown.isEmpty then
    return ofAssignments (assignments.filterMap id)
  else
    throw (.unknownOptions unknown)

/-- The settings that a parameter stands for. -/
def ofParameter (parameter : String) : Except OptionError Settings :=
  ofOptions (Text.splitEscaped ',' parameter)

end SchemaInterfaces.Settings
