import SchemaInterfaces.Check.Violation
import SchemaInterfaces.Settings.Document
import SchemaInterfaces.Settings.Parameter
import SchemaInterfaces.Storage.Basic
import SchemaInterfaces.Text.Quoted
import SchemaInterfaces.Wire.Fault

/-!
# Failures

Everything that can end a run before its goal. Failures are sorted into kinds by what the run was
occupied with, and the kind opens the report.
-/

namespace SchemaInterfaces

/-- Why a run fails. -/
inductive Failure where
  /-- The bytes of a request are none. -/
  | request (fault : Wire.Fault)
  /-- The bytes of a schema set are none. -/
  | schemaSet (fault : Wire.Fault)
  | schemaSetFile (path : String) (error : Storage.Error)
  | option (error : Settings.OptionError)
  | settingsFile (path : String) (error : Storage.Error)
  | settingsInFile (path : String) (error : Settings.TextError)
  | settingsText (error : Settings.TextError)
  | violation (violation : Check.Violation)
  /-- A renderer gave up. -/
  | rendering (report : String)
  | outputDirectory (error : Storage.Error)
  /-- The directory for a file of output could not be created. -/
  | directory (path : String) (error : Storage.Error)
  /-- A file of output could not be written. -/
  | outputFile (name : String) (error : Storage.Error)
  /-- The input could not be read to its end. -/
  | input (report : String)
  deriving DecidableEq, Repr

namespace Failure

/-- What a run was occupied with when it failed. -/
inductive Kind where
  | decoding
  | options
  | validation
  | rendering
  | input
  | document
  deriving DecidableEq, Repr

/-- The words that open the reports of a kind. -/
def Kind.heading : Kind → String
  | decoding => "Decode error: "
  | options => "Invalid plugin option: "
  | validation => "Validation error: "
  | rendering => "Render error: "
  | input => "IO error: "
  | document => "YAML error: "

/-- The kind of a failure. Whatever is wrong with a file of settings counts as a matter of
options. -/
def kind : Failure → Kind
  | request _ | schemaSet _ | schemaSetFile _ _ => .decoding
  | option _ | settingsFile _ _ | settingsInFile _ _ => .options
  | settingsText _ => .document
  | violation _ => .validation
  | rendering _ | outputDirectory _ | directory _ _ | outputFile _ _ => .rendering
  | input _ => .input

/-- The report of a failure without its heading. -/
def detail : Failure → String
  | request fault =>
    "Failed to decode CodeGeneratorRequest (is this running as a protoc plugin?): " ++
      fault.message
  | schemaSet fault => "Failed to decode FileDescriptorSet: " ++ fault.message
  | schemaSetFile path error =>
    "Failed to read FileDescriptorSet file " ++ path ++ ": " ++ error.message
  | option error => error.message
  | settingsFile path error =>
    "Failed to read config file " ++ Text.quoted path ++ ": " ++ error.message
  | settingsInFile path error =>
    "Failed to parse config YAML from " ++ Text.quoted path ++ ": " ++
      Kind.document.heading ++ error.message
  | settingsText error => error.message
  | violation found => found.message
  | rendering report => report
  | outputDirectory error => "Failed to create output directory: " ++ error.message
  | directory path error => "Failed to create directory " ++ path ++ ": " ++ error.message
  | outputFile name error => "Failed to write " ++ name ++ ": " ++ error.message
  | input report => report

def message (failure : Failure) : String :=
  failure.kind.heading ++ failure.detail

end Failure

end SchemaInterfaces
