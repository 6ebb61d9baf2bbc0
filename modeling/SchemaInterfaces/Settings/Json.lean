import SchemaInterfaces.Json.Basic
import SchemaInterfaces.Settings.Basic

/-!
# Settings as JSON

How settings stand in JSON documents. What is not given keeps its default.
-/

namespace SchemaInterfaces

/-- The policy that a JSON value stands for: its name, alone or as a key beside a null. -/
def WidePolicy.ofJson? (depth : Nat) : Json → Option WidePolicy
  | .string (some name) => ofName? name
  | .object [(some name, .null)] => if depth = 0 then none else ofName? name
  | _ => none

namespace Settings

def toJson (settings : Settings) : Json :=
  .object [(some Key.wideIntegers.name, .ofText settings.wideIntegers.name),
    (some Key.everyFile.name, .bool settings.everyFile),
    (some Key.validate.name, .bool settings.validate),
    (some Key.extension.name, .ofText settings.extension)]

/-- What is set by a JSON value under a key. -/
def Key.ofJson? (depth : Nat) (value : Json) : Key → Option Assignment
  | .wideIntegers => (WidePolicy.ofJson? depth value).map .wideIntegers
  | .everyFile => value.bool?.map .everyFile
  | .validate => value.bool?.map .validate
  | .extension => value.text?.map .extension

/-- What is set by the value, if there is one, for each key. -/
def assignmentsOf (depth : Nat) : List (Key × Option Json) → Option (List Assignment)
  | [] => some []
  | (_, none) :: others => assignmentsOf depth others
  | (key, some value) :: others => do
    let assignment ← key.ofJson? depth value
    return assignment :: (← assignmentsOf depth others)

/-- The settings that a JSON value stands for. -/
def ofJson? : (depth : Nat) → Json → Option Settings
  | 0, _ => none
  | depth + 1, json => do
    let values ← json.properties? (Key.all.map Key.name)
    return ofAssignments (← assignmentsOf depth (Key.all.zip values))

end Settings

end SchemaInterfaces
