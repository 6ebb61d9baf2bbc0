import SchemaInterfaces.Settings.Basic
import SchemaInterfaces.Yaml.Document

/-!
# Settings in a document

Settings as a YAML mapping. Keys that are not known are passed over together with their values; a
known key may occur once, and what is not given keeps its default. A text is taken from any scalar
as it is written; a flag has to be one that YAML itself would take for a truth value.

The entries are read in their order, and the first one that is not acceptable is reported.
-/

namespace SchemaInterfaces.Settings

open Yaml (Node Document)

/-- What is wrong with a part of a document. -/
inductive Problem where
  | invalidType (found expected : String)
  | invalidValue (found expected : String)
  | unknownPolicy (name : String)
  | duplicateKey (key : Key)
  deriving DecidableEq, Repr

namespace Problem

/-- A text between backticks. -/
def ticked (s : String) : String :=
  "`" ++ s ++ "`"

def message : Problem → String
  | invalidType found expected => "invalid type: " ++ found ++ ", expected " ++ expected
  | invalidValue found expected => "invalid value: " ++ found ++ ", expected " ++ expected
  | unknownPolicy name =>
    "unknown variant " ++ ticked name ++ ", expected one of " ++
      ", ".intercalate (WidePolicy.all.map fun policy => ticked policy.name)
  | duplicateKey key => "duplicate field " ++ ticked key.name

end Problem

/-- A problem, the key of the entry that has it, if it is one entry, and where it is. -/
structure Flaw where
  key : Option String
  problem : Problem
  mark : Yaml.Mark
  deriving DecidableEq, Repr

/-- The report of a flaw; the beginning of a text is not worth naming. -/
def Flaw.message (flaw : Flaw) : String :=
  (match flaw.key with
    | some key => key ++ ": "
    | none => "") ++
  flaw.problem.message ++
  if flaw.mark.line = 0 ∧ flaw.mark.column = 0 then "" else " at " ++ flaw.mark.describe

/-- That a node is not of the expected type. -/
def mismatch (expected : String) : Node → Problem
  | .scalar _ tag _ style content =>
    match Yaml.scalarValue tag style content with
    | .ok value => .invalidType value.describe expected
    | .error wanted => .invalidValue (Yaml.ScalarValue.text content).describe wanted
  | .sequence .. => .invalidType "sequence" expected
  | .mapping .. => .invalidType "map" expected
  | .aliasTo .. => .invalidType "alias" expected

def flagOf : Node → Except Problem Bool
  | node@(.scalar _ tag _ style content) =>
    let plain := style = .plain || (style = .literal && tag = some (Yaml.coreTag "bool"))
    match if plain then Yaml.bool? content else none with
    | some flag => .ok flag
    | none => .error (mismatch "a boolean" node)
  | node => .error (mismatch "a boolean" node)

def textOf : Node → Except Problem String
  | .scalar _ _ _ _ content => .ok content
  | node => .error (mismatch "a string" node)

/-- The policy of the given name. -/
def policyNamed (name : String) : Except Problem WidePolicy :=
  match WidePolicy.ofName? name with
  | some policy => .ok policy
  | none => .error (.unknownPolicy name)

/-- Whether a scalar may stand below a tag that says everything. -/
def isVoid (style : Yaml.Style) (content : String) : Bool :=
  style = .plain && (content.isEmpty || Yaml.isNull content)

/-- What is wrong with content that should be nothing. -/
def notVoid : Node → Problem
  | .scalar _ _ _ _ content => .invalidValue (Yaml.ScalarValue.text content).describe "null"
  | node => mismatch "unit" node

/-- The policy that a node is: its name, or its name as a tag of nothing. `unnamed` is the flaw of
a tag that names no policy. -/
def policyOf (unnamed : Problem → Flaw) (key : String) (node : Node) : Except Flaw WidePolicy :=
  let here (result : Except Problem WidePolicy) : Except Flaw WidePolicy :=
    result.mapError fun problem => ⟨some key, problem, node.mark⟩
  let tagged (name : String) (void : Bool) : Except Flaw WidePolicy := do
    let policy ← (policyNamed name).mapError unnamed
    here (if void then .ok policy else .error (notVoid node))
  let untagged := here (.error (mismatch "a YAML tag starting with '!'" node))
  match node with
  | .scalar _ tag _ style content =>
    match Yaml.tagName? tag with
    | some name => tagged name (isVoid style content)
    | none => here (policyNamed content)
  | .sequence _ tag _ _ | .mapping _ tag _ _ =>
    match Yaml.tagName? tag with
    | some name => tagged name false
    | none => untagged
  | .aliasTo .. => untagged

/-- The flaw of a node whose tag names no policy: it is put down to the alias that leads to the
node, and without one to the settings as a whole, which begin at `whole`. -/
def unnamedPolicy (whole : Yaml.Mark) (key : String) (node : Node) (problem : Problem) : Flaw :=
  match node with
  | .aliasTo mark _ => ⟨some key, problem, mark⟩
  | _ => ⟨none, problem, whole⟩

/-- What is set by a node under a key; `shown` is what reports call the key. -/
def assignmentOf (document : Document) (whole : Yaml.Mark) (key : Key) (shown : String)
    (written : Node) : Except Flaw Assignment :=
  let node := document.follow written
  let here {α : Type} (result : Except Problem α) : Except Flaw α :=
    result.mapError fun problem => ⟨some shown, problem, node.mark⟩
  match key with
  | .wideIntegers => (policyOf (unnamedPolicy whole shown written) shown node).map .wideIntegers
  | .everyFile => (here (flagOf node)).map .everyFile
  | .validate => (here (flagOf node)).map .validate
  | .extension => (here (textOf node)).map .extension

def keyText (node : Node) : Except Flaw String :=
  match node with
  | .scalar _ _ _ _ content => .ok content
  | _ => .error ⟨none, mismatch "field identifier" node, node.mark⟩

/-- What reports call a key: itself where it is written out, and nothing definite where an alias
stands for it. -/
def shownKey (node : Node) (text : String) : String :=
  match node with
  | .aliasTo .. => "?"
  | _ => text

/-- What is set by the entries of a mapping that begins at `whole`, given the keys before them. -/
def assignmentsOfEntries (document : Document) (whole : Yaml.Mark) (seen : List Key) :
    List (Node × Node) → Except Flaw (List Assignment)
  | [] => .ok []
  | (keyNode, node) :: others => do
    let text ← keyText (document.follow keyNode)
    match Key.ofName? text with
    | none => assignmentsOfEntries document whole seen others
    | some key =>
      if seen.contains key then
        throw ⟨none, .duplicateKey key, whole⟩
      let assignment ← assignmentOf document whole key (shownKey keyNode text) node
      return assignment :: (← assignmentsOfEntries document whole (key :: seen) others)

/-- The settings that a document stands for. An empty one sets nothing. -/
def ofDocument (document : Document) : Except Flaw Settings :=
  match document.root with
  | none => .ok {}
  | some root =>
    match root with
    | .mapping mark _ _ entries =>
      (assignmentsOfEntries document mark [] entries).map ofAssignments
    | .scalar _ _ _ .plain "" => .ok {}
    | _ => .error ⟨none, mismatch "struct GeneratorConfig" root, root.mark⟩

/-- Why a text does not stand for settings. -/
inductive TextError where
  /-- The text is not one YAML document. -/
  | malformed
  | flawed (flaw : Flaw)
  deriving DecidableEq, Repr

def TextError.message : TextError → String
  | malformed => "not a single well-formed document"
  | flawed flaw => flaw.message

/-- The settings that a text stands for. -/
def ofText (text : String) : Except TextError Settings :=
  match Document.ofText? text with
  | none => .error .malformed
  | some document => (ofDocument document).mapError .flawed

end SchemaInterfaces.Settings
