import SchemaInterfaces.Check.Symbols

/-!
# Scopes

What a name that is used somewhere in a schema refers to. A name with a dot in front is a full
name. Any other name is looked for in the innermost scope around its use first, then outwards. The
first part of a dotted name settles the scope: once something that holds names is found under the
first part, the rest must be found in it.

What a file refers to must be defined in a file that it sees: itself, the files it imports, and
some of the files imported publicly by those.
-/

namespace SchemaInterfaces.Check

open Descriptor

/-- What a reference asks for. -/
inductive Wanted where
  | message
  | messageOrEnumeration
  deriving DecidableEq

namespace Wanted

/-- How reports name what is asked for. -/
def describe : Wanted → String
  | message => "a message type"
  | messageOrEnumeration => "a message or enum type"

/-- Whether an entity is what is asked for. -/
def accepts : Wanted → Entity → Bool
  | _, .message _ => true
  | messageOrEnumeration, .enumeration _ => true
  | _, _ => false

end Wanted

def publicImports (files : List File) (name : String) : List String :=
  match files.find? fun file => file.nameText == name with
  | some file =>
    file.dependencies.zipIdx.filterMap fun (dependency, position) =>
      if file.publicDependencies.contains position then some dependency else none
  | none => []

/-- The names in sight with one more public import. One that was in sight already lets its own
public imports be seen; one that was not does not. Public imports may be followed `hops` times. -/
def addPublicImport (files : List File) : (hops : Nat) → List String → String → List String
  | 0, seen, name => seen.insert name
  | hops + 1, seen, name =>
    if seen.contains name then
      (publicImports files name).foldl (addPublicImport files hops) seen
    else
      seen.insert name

/-- The names of the files that a file sees. Its imports come into sight one after the other, each
with its own public imports; what a later import shows may depend on what an earlier one did. -/
def visibleFiles (files : List File) (file : File) : List String :=
  file.dependencies.foldl
    (fun seen dependency =>
      (publicImports files dependency).foldl (addPublicImport files files.length)
        (seen.insert dependency))
    [file.nameText]

/-- A scope and the scopes around it, the innermost first and the empty one last. -/
def enclosingScopes (scope : String) : List String :=
  (Text.beginnings scope ++ [scope]).reverse ++ [""]

/-- The part of a name in front of its first dot, and whether there is a dot. -/
def firstPart (name : String) : String × Bool :=
  (String.ofList (name.toList.takeWhile (· != '.')), name.toList.contains '.')

/-- What is known where a reference stands. -/
structure View where
  symbols : Symbols
  visible : List String

namespace View

/-- What a full name refers to; nothing if it is not defined. What is out of sight or of the wrong
sort is a violation. -/
def lookUp (view : View) (wanted : Wanted) (name : String) :
    Option (Except Violation SymbolEntry) :=
  (view.symbols.find? name).map fun symbol =>
    if !view.visible.contains symbol.file then .error (.undefined name)
    else if wanted.accepts symbol.entity then .ok symbol
    else .error (.wrongSort name wanted.describe)

/-- What a name without dots refers to when it is looked for in scopes one after the other, given
the first violation met so far. -/
def searchSimple (view : View) (wanted : Wanted) (name : String) (met : Option Violation) :
    List String → Except Violation SymbolEntry
  | [] => .error (met.getD (.undefined name))
  | scope :: others =>
    match view.lookUp wanted (qualify scope name) with
    | some (.ok symbol) => .ok symbol
    | some (.error violation) =>
      searchSimple view wanted name (met.or (some violation)) others
    | none => searchSimple view wanted name met others

/-- What a dotted name refers to when it is looked for in scopes one after the other. -/
def searchDotted (view : View) (wanted : Wanted) (first name : String) :
    List String → Except Violation SymbolEntry
  | [] => .error (.undefined name)
  | scope :: others =>
    match view.symbols.find? (qualify scope first) with
    | some symbol =>
      if symbol.entity.isScope then
        match view.lookUp wanted (qualify scope name) with
        | some result => result
        | none => .error (.undefinedInScope name (qualify scope name))
      else searchDotted view wanted first name others
    | none => searchDotted view wanted first name others

/-- What a full name refers to; `name` is how it is written. -/
def resolveFull (view : View) (wanted : Wanted) (name full : String) :
    Except Violation SymbolEntry :=
  (view.lookUp wanted full).getD (.error (.undefined name))

/-- What a name refers to where it stands in the given scope. In the empty scope every name is a
full one. -/
def resolve (view : View) (wanted : Wanted) (scope name : String) :
    Except Violation SymbolEntry :=
  match name.toList with
  | '.' :: full => view.resolveFull wanted name (String.ofList full)
  | _ =>
    let (first, dotted) := firstPart name
    if scope.isEmpty then view.resolveFull wanted name name
    else if dotted then view.searchDotted wanted first name (enclosingScopes scope)
    else view.searchSimple wanted name none (enclosingScopes scope)

end View

end SchemaInterfaces.Check
