import SchemaInterfaces.CommandLine.Session
import SchemaInterfaces.Request
import SchemaInterfaces.Response

/-!
# Runs of the program

What the program leaves behind for its arguments and its input: an exit code, its output, and the
report of a halt if there was one.

Without a command the program is a plugin of a schema compiler. As such it never fails: whatever
goes wrong is told in the response, and a response with a report holds no files.
-/

namespace SchemaInterfaces.CommandLine

/-- The files that meet the request in an input, or why there are none. -/
def meetRequest (input : Input) : Except Halt (List Rendered) := do
  let request ← Step.readRequest.outcome (Request.ofInput input)
  let settings ← Step.readOptions.outcome request.settings
  let generator : Generator Id := Generator.ofSettings settings
  Step.answer.outcome (generator.generate request.files request.targets)

/-- The response to the request in an input. -/
def respond (input : Input) : Response :=
  match meetRequest input with
  | .ok files => .succeeded files
  | .error halt => .failed halt.line

/-- What a run of the program leaves behind, apart from files. -/
structure Outcome where
  code : Nat
  output : List UInt8 := []
  report : String := ""
  /-- Why no command was run, if none was. What is then said about the use of the program is not
  part of the outcome. -/
  stop : Option Stop := none
  deriving DecidableEq, Repr

/-- The line that names the program and its version. -/
def versionLine : String :=
  "protoc-gen-interfaces 0.1.0\n"

/-- The outcome of arguments that name no command to run. -/
def Stop.outcome : Stop → Outcome
  | version => { code := 0, output := Text.toBytes versionLine, stop := some version }
  | help => { code := 0, stop := some help }
  | misuse => { code := 2, stop := some misuse }

def Session.outcome {m : Type → Type} [Monad m] (session : Session m Unit) : m Outcome := do
  let (result, said) ← session.run.run ""
  match result with
  | .ok () => return { code := 0, output := Text.toBytes said }
  | .error halt => return { code := 1, output := Text.toBytes said, report := halt.report }

def run {m : Type → Type} [Monad m] [Storage.Access m] (coloured : Bool)
    (arguments : List String) (input : Input) : m Outcome :=
  match Invocation.ofArguments arguments with
  | .error stop => return stop.outcome
  | .ok ⟨verbose, command⟩ =>
    let manner : Manner := { coloured := coloured, verbose := verbose }
    match command with
    | .plugin => return { code := 0, output := (respond input).toBytes }
    | .inspect source json => (Session.inspect manner source json).outcome
    | .render source output => (Session.render manner source output).outcome

end SchemaInterfaces.CommandLine
