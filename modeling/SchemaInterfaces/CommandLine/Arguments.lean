import SchemaInterfaces.Text.Split

/-!
# Command line arguments

What the arguments of the program ask for. Options are written long (`--output=X`, `--output X`)
or short (`-oX`, `-o=X`, `-o X`), and several short flags may share a hyphen. No option may be
given twice at a level, and a value that is an argument of its own may not look like an option.

Arguments are read from the left, and asking for the version or for help ends the reading at once,
so a mistake further to the right does not matter then.
-/

namespace SchemaInterfaces.CommandLine

inductive Opt where
  | verbose
  | version
  | help
  | schemaSet
  | settings
  | output
  | json
  | all
  deriving DecidableEq, Repr

namespace Opt

def long : Opt → String
  | verbose => "verbose"
  | version => "version"
  | help => "help"
  | schemaSet => "descriptor-set"
  | settings => "config"
  | output => "output"
  | json => "json"
  | all => "all"

/-- The short name of an option, if it has one. -/
def short? : Opt → Option Char
  | verbose => some 'v'
  | version => some 'V'
  | help => some 'h'
  | schemaSet => some 'd'
  | settings => some 'c'
  | output => some 'o'
  | json | all => none

def takesValue : Opt → Bool
  | schemaSet | settings | output => true
  | verbose | version | help | json | all => false

end Opt

/-- Why no command is to be run. -/
inductive Stop where
  | version
  | help
  | misuse
  deriving DecidableEq, Repr

/-- Options that were given, with their values; flags have empty ones. -/
abbrev Given : Type :=
  List (Opt × String)

/-- Where the reading of arguments stands: the options given so far, and the one whose value has to
be the next argument. -/
structure Reading where
  given : Given := []
  pending : Option Opt := none

namespace Reading

/-- The reading after an option with its value. -/
def add (reading : Reading) (opt : Opt) (value : String) : Except Stop Reading :=
  if opt = .version then .error .version
  else if opt = .help then .error .help
  else if reading.given.any fun entry => entry.1 == opt then .error .misuse
  else .ok { given := reading.given ++ [(opt, value)] }

/-- The reading after an option whose value, if there is one, is given along with it. -/
def addWith (reading : Reading) (opt : Opt) (value : Option String) : Except Stop Reading :=
  match opt.takesValue, value with
  | false, none => reading.add opt ""
  | false, some _ => .error .misuse
  | true, none => .ok { reading with pending := some opt }
  | true, some value => if value.isEmpty then .error .misuse else reading.add opt value

/-- Reads an option written long, without its hyphens. -/
def readLong (allowed : List Opt) (reading : Reading) (text : List Char) : Except Stop Reading :=
  let (name, value) :=
    match Text.Chars.cutAt? '=' text with
    | some (name, value) => (name, some (String.ofList value))
    | none => (text, none)
  match allowed.find? fun opt => opt.long.toList == name with
  | some opt => reading.addWith opt value
  | none => .error .misuse

/-- Reads options written short, without their hyphen. -/
def readShort (allowed : List Opt) (reading : Reading) : List Char → Except Stop Reading
  | [] => .ok reading
  | c :: rest =>
    match allowed.find? fun opt => opt.short? == some c with
    | none => .error .misuse
    | some opt =>
      if opt.takesValue then
        match rest with
        | [] => reading.addWith opt none
        | '=' :: value => reading.addWith opt (some (String.ofList value))
        | value => reading.addWith opt (some (String.ofList value))
      else do
        readShort allowed (← reading.addWith opt none) rest

end Reading

/-- The ways to read an argument. -/
inductive Argument where
  /-- Two hyphens, after which there are no options. -/
  | divider
  | long (text : List Char)
  | short (text : List Char)
  | word (text : String)

/-- How an argument is to be read; a single hyphen is a word. -/
def Argument.ofText (text : String) : Argument :=
  match text.toList with
  | ['-', '-'] => divider
  | '-' :: '-' :: rest => long rest
  | ['-'] => word text
  | '-' :: rest => short rest
  | _ => word text

/-- Reads the arguments of a level up to its first word that is no value: the options given, and
that word with everything after it. -/
def readLevel (allowed : List Opt) (reading : Reading) :
    List String → Except Stop (Given × List String)
  | [] => if reading.pending.isSome then .error .misuse else .ok (reading.given, [])
  | argument :: rest =>
    match reading.pending, Argument.ofText argument with
    | some opt, .word value => do
      readLevel allowed (← { reading with pending := none }.addWith opt (some value)) rest
    | some _, _ => .error .misuse
    | none, .word word => .ok (reading.given, word :: rest)
    -- There are no commands behind a divider, so nothing may stand there.
    | none, .divider => if rest.isEmpty then .ok (reading.given, []) else .error .misuse
    | none, .long text => do readLevel allowed (← reading.readLong allowed text) rest
    | none, .short text => do readLevel allowed (← reading.readShort allowed text) rest

/-- What a command works on: the file with the schema set, the file with the settings, and whether
every schema file gives output whatever the settings say. -/
structure Source where
  schemaSet : String
  settings : Option String := none
  all : Bool := false
  deriving DecidableEq, Repr

/-- What the program is to do. -/
inductive Command where
  /-- To meet the request on the standard input. -/
  | plugin
  /-- To show what is made of a schema set. -/
  | inspect (source : Source) (json : Bool)
  /-- To write the output for a schema set. -/
  | render (source : Source) (output : String)
  deriving DecidableEq, Repr

/-- A command, and whether to say more about what is done. -/
structure Invocation where
  verbose : Bool
  command : Command
  deriving DecidableEq, Repr

namespace Given

def has (given : Given) (opt : Opt) : Bool :=
  given.any fun entry => entry.1 == opt

def value? (given : Given) (opt : Opt) : Option String :=
  (given.find? fun entry => entry.1 == opt).map (·.2)

/-- The source that options describe; the schema set must be among them. -/
def source (given : Given) : Except Stop Source :=
  match given.value? .schemaSet with
  | some path => .ok ⟨path, given.value? .settings, given.has .all⟩
  | none => .error .misuse

end Given

def defaultOutput : String :=
  "./generated"

/-- The command of the given name, with the arguments after its name. -/
def readCommand (name : String) (arguments : List String) : Except Stop (Given × Command) := do
  let read (allowed : List Opt) : Except Stop Given := do
    let (given, rest) ← readLevel (.verbose :: .help :: allowed) {} arguments
    if rest.isEmpty then return given else throw .misuse
  if name = "inspect" then
    let given ← read [.schemaSet, .settings, .json, .all]
    return (given, .inspect (← given.source) (given.has .json))
  else if name = "render" then
    let given ← read [.schemaSet, .output, .settings, .all]
    return (given, .render (← given.source) ((given.value? .output).getD defaultOutput))
  else if name = "help" then throw .help
  else throw .misuse

/-- What arguments ask for. -/
def Invocation.ofArguments (arguments : List String) : Except Stop Invocation := do
  let (given, rest) ← readLevel [.verbose, .version, .help] {} arguments
  match rest with
  | [] => return ⟨given.has .verbose, .plugin⟩
  | name :: rest =>
    let (inner, command) ← readCommand name rest
    return ⟨given.has .verbose || inner.has .verbose, command⟩

end SchemaInterfaces.CommandLine
