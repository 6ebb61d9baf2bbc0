/-!
# Options

What a schema says beyond names and types: single properties of files, messages, fields and so on,
each under the number that the message of such options has for it.
-/

namespace SchemaInterfaces.Descriptor

inductive OptionValue where
  | flag (b : Bool)
  | number (n : Int)
  | text (s : String)
  deriving DecidableEq, Repr

/-- The options that are set in one place, in the order of their numbers, each at most once. -/
abbrev Options : Type :=
  List (Nat × OptionValue)

namespace Options

/-- The flag under a number. -/
def flag? (options : Options) (tag : Nat) : Option Bool :=
  match options.lookup tag with
  | some (.flag b) => some b
  | _ => none

/-- The options of which at most a flag under the given number is set. -/
def ofFlag (tag : Nat) (flag : Option Bool) : Options :=
  (flag.map fun b => (tag, .flag b)).toList

/-- A flag that is set is found. -/
theorem flag?_ofFlag (tag : Nat) (flag : Option Bool) : (ofFlag tag flag).flag? tag = flag := by
  cases flag <;> simp [ofFlag, flag?]

/-- The number of the option of a field that its values are written as one block. -/
def packed : Nat :=
  2

/-- The number of the option of a message that it is an entry of a map. -/
def mapEntry : Nat :=
  7

/-- The number of the option of an enumeration that values may share a number. -/
def allowAlias : Nat :=
  2

end Options

end SchemaInterfaces.Descriptor
