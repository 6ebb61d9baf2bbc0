import SchemaInterfaces.Failure
import SchemaInterfaces.Text.Split

/-!
# Halts

A failure together with the step of the run that it ended, and the ways in which it is reported.
-/

namespace SchemaInterfaces.CommandLine

inductive Step where
  | readRequest
  | readOptions
  | answer
  | loadSettings
  | loadSchemaSet
  | assemble
  | render
  deriving DecidableEq, Repr

/-- What is said of a step that fails. -/
def Step.heading : Step → String
  | readRequest => "Failed to read request"
  | readOptions => "Failed to parse plugin options"
  | answer => "Failed to generate interfaces"
  | loadSettings => "Failed to load config"
  | loadSchemaSet => "Failed to load descriptor set"
  | assemble => "Failed to assemble descriptor set"
  | render => "Failed to render interfaces"

/-- A failure, and the step it ended. -/
structure Halt where
  step : Step
  failure : Failure
  deriving DecidableEq, Repr

namespace Halt

/-- The report of a halt on one line. -/
def line (halt : Halt) : String :=
  halt.step.heading ++ ": " ++ halt.failure.message

/-- The report of a halt with its cause below the heading; every line of the cause is indented. -/
def report (halt : Halt) : String :=
  Text.ofLines
    (["Error: " ++ halt.step.heading, "", "Caused by:"] ++
      (Text.partsAt '\n' halt.failure.message).map ("    " ++ ·))

end Halt

/-- The result of a step, or that the run halts there. -/
def Step.outcome {α : Type} (step : Step) (result : Except Failure α) : Except Halt α :=
  result.mapError (⟨step, ·⟩)

end SchemaInterfaces.CommandLine
