import SchemaInterfaces.CommandLine.Run

/-!
# The program

The files and streams of the world for the command line.
-/

namespace SchemaInterfaces.World

/-- The error that a failed request to the world amounts to. -/
def storageError : IO.Error → Storage.Error
  | .noFileOrDirectory .. => .notFound
  | .alreadyExists .. => .alreadyExists
  | .inappropriateType .. => .isDirectory
  | error => .other (toString error)

/-- The result of a request to the world. -/
def request {α : Type} (action : IO α) : IO (Except Storage.Error α) := do
  try
    return .ok (← action)
  catch error =>
    return .error (storageError error)

instance : Storage.Access IO where
  read path := request do return (← IO.FS.readBinFile path).data.toList
  createDirectories path := request (IO.FS.createDirAll path)
  write path content := request (IO.FS.writeBinFile path ⟨content.toArray⟩)

/-- Whether the output is to have colours. -/
def wantsColours : IO Bool := do
  match ← IO.getEnv "CLICOLOR_FORCE", ← IO.getEnv "NO_COLOR" with
  | some "0", some _ => return false
  | some "0", none => (← IO.getStdout).isTty
  | some _, _ => return true
  | none, some _ => return false
  | none, none => (← IO.getStdout).isTty

end SchemaInterfaces.World

open SchemaInterfaces

def main (arguments : List String) : IO UInt32 := do
  let input : Input ← do
    match CommandLine.Invocation.ofArguments arguments with
    | .ok ⟨_, .plugin⟩ => pure { pieces := [(← (← IO.getStdin).readBinToEnd).data.toList] }
    | _ => pure { pieces := [] }
  let outcome ← CommandLine.run (m := IO) (← World.wantsColours) arguments input
  let stdout ← IO.getStdout
  stdout.write ⟨outcome.output.toArray⟩
  stdout.flush
  IO.eprint outcome.report
  return outcome.code.toUInt32
