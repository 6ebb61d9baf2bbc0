import SchemaInterfaces.Storage.Basic
import SchemaInterfaces.Storage.Path

/-!
# Directory trees

A storage as a value: which directories and files there are, with the contents of the files. There
are no links, and nobody lacks a permission; a request fails only because of what is there, or
because of a path that cannot be one. A path is walked name by name, so that going up from a
directory needs the directory to be there.
-/

namespace SchemaInterfaces.Storage

/-- The names that lead from the root to a place. -/
abbrev Location : Type :=
  List String

/-- What there is at a place. -/
inductive Entry where
  | directory
  | file (content : List UInt8)
  deriving DecidableEq, Repr

/-- Directories and files, and the directory that relative paths begin at. -/
structure Tree where
  home : Location
  entries : List (Location × Entry)
  deriving Repr

namespace Tree

/-- What there is at a location; the root is a directory. -/
def find? (tree : Tree) (location : Location) : Option Entry :=
  if location.isEmpty then some .directory
  else (tree.entries.find? fun entry => entry.1 == location).map (·.2)

/-- The tree with another entry at a location. -/
def put (tree : Tree) (location : Location) (entry : Entry) : Tree :=
  { tree with entries := (location, entry) :: tree.entries.filter fun old => old.1 != location }

@[simp] theorem find?_root (tree : Tree) : tree.find? [] = some .directory := rfl

@[simp] theorem home_put (tree : Tree) (location : Location) (entry : Entry) :
    (tree.put location entry).home = tree.home := rfl

/-- What is put at a location is there. -/
theorem find?_put_self (tree : Tree) {location : Location} (h : location ≠ []) (entry : Entry) :
    (tree.put location entry).find? location = some entry := by
  simp [find?, put, h]

/-- Nothing else is touched. -/
theorem find?_put_of_ne (tree : Tree) {location other : Location} (h : other ≠ location)
    (entry : Entry) : (tree.put location entry).find? other = tree.find? other := by
  have kept : (tree.entries.filter fun old => old.1 != location).find? (·.1 == other) =
      tree.entries.find? (·.1 == other) := by
    rw [List.find?_filter]
    congr 1
    funext old
    by_cases hold : old.1 = other
    · simp [hold, h]
    · simp [hold]
  by_cases root : other = []
  · subst root; rfl
  · rw [find?, find?, put, List.find?_cons_of_neg (by simpa using Ne.symm h), kept]

/-- The locations and contents of all files. -/
def files (tree : Tree) : List (Location × List UInt8) :=
  tree.entries.filterMap fun (location, entry) =>
    match entry with
    | .directory => none
    | .file content => some (location, content)

/-- What a path leads to, as far as its last name is not looked at yet. -/
inductive Target where
  /-- A directory that the walk has reached. -/
  | reached (location : Location)
  /-- A name in such a directory; `asDirectory` if a slash follows the name. -/
  | child (location : Location) (asDirectory : Bool)

/-- The most bytes that a name may have. -/
def nameLimit : Nat :=
  255

/-- The number of bytes at which a path is too long. -/
def pathLimit : Nat :=
  4096

/-- What there is at a location, if its last name is one that can be looked up. -/
def look (tree : Tree) (location : Location) : Except Error (Option Entry) :=
  if location.getLast?.any (nameLimit < ·.utf8ByteSize) then .error .nameTooLong
  else .ok (tree.find? location)

/-- Walks names from a directory. -/
def walk (tree : Tree) (location : Location) : List String → Except Error Target
  | [] => .ok (.reached location)
  | name :: others =>
    if Path.isIdle name then walk tree location others
    else if name = ".." then walk tree location.dropLast others
    -- Slashes after the last name leave it the last one; a dot after them does not.
    else if others.all (· == "") then .ok (.child (location ++ [name]) !others.isEmpty)
    else
      match tree.look (location ++ [name]) with
      | .error error => .error error
      | .ok none => .error .notFound
      | .ok (some (.file _)) => .error .notDirectory
      | .ok (some .directory) => walk tree (location ++ [name]) others

/-- Walks a path. -/
def target (tree : Tree) (path : String) : Except Error Target :=
  if path.toList.contains '\x00' then .error .nulInPath
  else if path.isEmpty then .error .notFound
  else if pathLimit ≤ path.utf8ByteSize then .error .nameTooLong
  else tree.walk (if Path.isAbsolute path then [] else tree.home) (Text.partsAt '/' path)

def read (tree : Tree) (path : String) : Except Error (List UInt8) := do
  match ← tree.target path with
  | .reached _ => throw .isDirectory
  | .child location asDirectory =>
    match ← tree.look location with
    | none => throw .notFound
    | some .directory => throw .isDirectory
    | some (.file content) => if asDirectory then throw .notDirectory else return content

def isDirectory (tree : Tree) (path : String) : Bool :=
  match tree.target path with
  | .ok (.reached _) => true
  | .ok (.child location _) => tree.find? location == some .directory
  | .error _ => false

/-- The tree with one more directory, at a path where there is nothing. -/
def createDirectory (tree : Tree) (path : String) : Except Error Tree := do
  match ← tree.target path with
  | .reached _ => throw .alreadyExists
  | .child location _ =>
    match ← tree.look location with
    | some _ => throw .alreadyExists
    | none => return tree.put location .directory

/-- The tree with a file of the given content at a path. A slash at the end asks for a directory,
whatever there is. -/
def write (tree : Tree) (path : String) (content : List UInt8) : Except Error Tree := do
  match ← tree.target path with
  | .reached _ => throw .isDirectory
  | .child _ true => throw .isDirectory
  | .child location false =>
    match ← tree.look location with
    | some .directory => throw .isDirectory
    | some (.file _) | none => return tree.put location (.file content)

/-- Creates the directory at the first of the given paths, and before it, where it is missing, the
one at the next path, and so on. The empty path needs no directory. -/
def createLineage (tree : Tree) : List String → Except Error Unit × Tree
  | [] => (.ok (), tree)
  | path :: around =>
    if path.isEmpty then (.ok (), tree)
    else
      match tree.createDirectory path with
      | .ok tree => (.ok (), tree)
      | .error .notFound =>
        match createLineage tree around with
        | (.error error, tree) => (.error error, tree)
        | (.ok (), tree) =>
          -- The path may lead to one of the directories just created, by way of two dots.
          match tree.createDirectory path with
          | .ok tree => (.ok (), tree)
          | .error error => (if tree.isDirectory path then .ok () else .error error, tree)
      | .error error => (if tree.isDirectory path then .ok () else .error error, tree)

/-- Creates the directory at a path, and the ones around it that are missing. -/
def createDirectories (tree : Tree) (path : String) : Except Error Unit × Tree :=
  tree.createLineage (path :: Path.parents path)

instance : Access (StateM Tree) where
  read path := fun tree => (tree.read path, tree)
  createDirectories path := fun tree => tree.createDirectories path
  write path content := fun tree =>
    match tree.write path content with
    | .ok tree => (.ok (), tree)
    | .error error => (.error error, tree)

end Tree

end SchemaInterfaces.Storage
