import SchemaInterfaces.Text.Basic

/-!
# Storage

What the program asks of the place where its files are: reading a file, creating a directory with
the ones around it, and writing a file. The place may be a value, on which every run can be
followed, or the world.
-/

namespace SchemaInterfaces.Storage

/-- Why a request to a storage fails. -/
inductive Error where
  | notFound
  | alreadyExists
  | notDirectory
  | isDirectory
  | nameTooLong
  /-- The path holds the character with the number zero. -/
  | nulInPath
  /-- The content of a file that was to be a text is none. -/
  | notText
  | other (report : String)
  deriving DecidableEq, Repr

namespace Error

def message : Error → String
  | notFound => "No such file or directory (os error 2)"
  | alreadyExists => "File exists (os error 17)"
  | notDirectory => "Not a directory (os error 20)"
  | isDirectory => "Is a directory (os error 21)"
  | nameTooLong => "File name too long (os error 36)"
  | nulInPath => "file name contained an unexpected NUL byte"
  | notText => "stream did not contain valid UTF-8"
  | other report => report

end Error

/-- A monad in which files are read and written. A request that fails may have had a part of its
effect. -/
class Access (m : Type → Type) where
  read : (path : String) → m (Except Error (List UInt8))
  createDirectories : (path : String) → m (Except Error Unit)
  write : (path : String) → (content : List UInt8) → m (Except Error Unit)

/-- The text of the file at a path. -/
def readText {m : Type → Type} [Monad m] [Access m] (path : String) : m (Except Error String) := do
  match ← Access.read path with
  | .error error => return .error error
  | .ok bytes =>
    match Text.ofBytes? bytes with
    | some text => return .ok text
    | none => return .error .notText

instance {m : Type → Type} {σ : Type} [Monad m] [Access m] : Access (StateT σ m) where
  read path := StateT.lift (Access.read path)
  createDirectories path := StateT.lift (Access.createDirectories path)
  write path content := StateT.lift (Access.write path content)

instance {m : Type → Type} {ε : Type} [Monad m] [Access m] : Access (ExceptT ε m) where
  read path := ExceptT.lift (Access.read path)
  createDirectories path := ExceptT.lift (Access.createDirectories path)
  write path content := ExceptT.lift (Access.write path content)

end SchemaInterfaces.Storage
