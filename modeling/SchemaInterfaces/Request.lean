import SchemaInterfaces.Descriptor.Record
import SchemaInterfaces.Failure

/-!
# Requests

What a schema compiler asks of a plugin: output for some of the schema files that it hands over,
under the options in a parameter.
-/

namespace SchemaInterfaces

/-- The settings that the parameter of a request stands for. -/
def Settings.ofOptionText (parameter : String) : Except Failure Settings :=
  (ofParameter parameter).mapError .option

/-- The version of a schema compiler. -/
structure Version where
  major : Option Int := none
  minor : Option Int := none
  patch : Option Int := none
  suffix : Option String := none
  deriving DecidableEq, Repr

namespace Version

def ofRecord (r : Wire.Record) : Version where
  major := r.number? 1
  minor := r.number? 2
  patch := r.number? 3
  suffix := r.text? 4

/-- The usual way to write a version: numbers with dots, and the suffix, if there is one, after a
hyphen. -/
def text (version : Version) : String :=
  let suffix := version.suffix.getD ""
  ".".intercalate ([version.major, version.minor, version.patch].map fun part =>
    toString (part.getD 0)) ++
  if suffix.isEmpty then "" else "-" ++ suffix

end Version

/-- What comes in from outside: bytes in pieces, and the report of what kept the last ones from
coming, if anything did. -/
structure Input where
  pieces : List (List UInt8)
  interruption : Option String := none

/-- All bytes of an input. -/
def Input.bytes (input : Input) : Except Failure (List UInt8) :=
  match input.interruption with
  | some report => .error (.input report)
  | none => .ok input.pieces.flatten

/-- A request for output. -/
structure Request where
  /-- The names of the files that are to give output. -/
  targets : List String := []
  parameter : Option String := none
  compiler : Option Version := none
  files : List Descriptor.File := []
  deriving Repr

namespace Request

/-- The request that a record stands for. The versions of a record act as one. -/
def ofRecord (r : Wire.Record) : Request where
  targets := r.texts 1
  parameter := r.text? 2
  compiler := if (r.records 3).isEmpty then none else some (Version.ofRecord (r.merged 3))
  files := (r.records 15).map Descriptor.File.ofRecord

def ofBytes (bytes : List UInt8) : Except Failure Request :=
  ((Wire.Record.ofBytes .request bytes).mapError .request).map ofRecord

def ofInput (input : Input) : Except Failure Request := do
  ofBytes (← input.bytes)

/-- The parameter of a request, empty if unset. -/
def parameterText (request : Request) : String :=
  request.parameter.getD ""

def settings (request : Request) : Except Failure Settings :=
  Settings.ofOptionText request.parameterText

/-- The version of the compiler that sent a request, if it is known. -/
def compilerText (request : Request) : Option String :=
  request.compiler.map Version.text

end Request

end SchemaInterfaces
