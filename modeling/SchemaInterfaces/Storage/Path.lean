import SchemaInterfaces.Text.Split

/-!
# Paths

Paths as texts: names separated by slashes. A path that begins with a slash is absolute. Empty
names and single dots between slashes name nothing, except for a single dot in front of a path.
-/

namespace SchemaInterfaces.Storage.Path

/-- Whether a path begins at the root. -/
def isAbsolute (path : String) : Bool :=
  path.toList.head? == some '/'

/-- The path to `name` as seen from the directory `base`. -/
def join (base name : String) : String :=
  if isAbsolute name || base.isEmpty then name
  else if base.toList.getLast? == some '/' then base ++ name
  else base ++ "/" ++ name

/-- Whether what stands between two slashes names nothing. -/
def isIdle (name : String) : Bool :=
  name == "" || name == "."

/-- The beginnings of a list of names that end in one that names something, the longest first,
given what stands in front of the list. -/
def beginnings (done : List String) : List String → List (List String)
  | [] => []
  | name :: others =>
    beginnings (done ++ [name]) others ++ if isIdle name then [] else [done ++ [name]]

/-- The path itself as far as its last name, and the paths to the directories around it. A
relative path ends in the empty path, which names the working directory. -/
def lineage (path : String) : List String :=
  match Text.partsAt '/' path with
  | [] => []
  | first :: others =>
    let longer := (beginnings [first] others).map ("/".intercalate ·)
    if path.isEmpty then [path]
    else if first.isEmpty then longer ++ ["/"]
    else longer ++ [first, ""]

/-- The paths to the directories around a path, the nearest first. -/
def parents (path : String) : List String :=
  (lineage path).drop 1

/-- The path to the directory around a path. -/
def parent? (path : String) : Option String :=
  (parents path).head?

end SchemaInterfaces.Storage.Path
