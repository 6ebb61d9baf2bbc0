import SchemaInterfaces.Descriptor.Record
import SchemaInterfaces.Failure

/-!
# Sources

What a run works on, from files, with everything that goes wrong on the way turned into a failure of
the run: settings, and schema sets, which are compiled schema files in one file. A set is written
with every file after the ones that it imports, so the last file is the one that somebody asked for.
-/

namespace SchemaInterfaces

/-- The settings in the file at a path. -/
def Settings.load {m : Type → Type} [Monad m] [Storage.Access m] (path : String) :
    m (Except Failure Settings) := do
  match ← Storage.readText path with
  | .error error => return .error (.settingsFile path error)
  | .ok text => return (ofText text).mapError (.settingsInFile path)

/-- Compiled schema files, in the order in which they were written. -/
structure SchemaSet where
  files : List Descriptor.File
  deriving Repr

namespace SchemaSet

def ofRecord (record : Wire.Record) : SchemaSet where
  files := (record.records 1).map Descriptor.File.ofRecord

def ofBytes (bytes : List UInt8) : Except Failure SchemaSet :=
  ((Wire.Record.ofBytes .fileSet bytes).mapError .schemaSet).map ofRecord

/-- The names of the files that give output if nothing is said about it: that of the last one. -/
def targets (set : SchemaSet) : List String :=
  (set.files.getLast?.map Descriptor.File.nameText).toList

/-- The set in the file at a path. -/
def load {m : Type → Type} [Monad m] [Storage.Access m] (path : String) :
    m (Except Failure SchemaSet) := do
  match ← Storage.Access.read path with
  | .error error => return .error (.schemaSetFile path error)
  | .ok bytes => return ofBytes bytes

end SchemaSet

end SchemaInterfaces
