import SchemaInterfaces.Wire.Record

/-!
# Forms of fields

How the values of fields are laid out when this is known from a schema at hand, not in advance.
Messages go by their names, and a table says which form the field of a message with a given number
has. Fields without a form may have any value. Bytes are only measured against the table; nothing
is made of them.
-/

namespace SchemaInterfaces.Wire

/-- How a single value is laid out. -/
inductive Form where
  | varint
  | fourBytes
  | eightBytes
  | text
  | blob
  | record (name : String)
  | group (name : String)
  deriving DecidableEq, Repr

namespace Form

/-- The wire type of values of a form. -/
def wire : Form → WireType
  | varint => .varint
  | fourBytes => .thirtyTwoBit
  | eightBytes => .sixtyFourBit
  | text | blob | record _ => .lengthDelimited
  | group _ => .startGroup

/-- Whether several values of a form may be written as one block. -/
def isPackable : Form → Bool
  | varint | fourBytes | eightBytes => true
  | text | blob | record _ | group _ => false

end Form

/-- How the values of a field are laid out. -/
inductive FieldForm where
  | single (form : Form)
  | repeated (form : Form)
  /-- A key and a value for each entry, as the fields 1 and 2 of a message. -/
  | map (key value : Form)
  deriving DecidableEq, Repr

/-- What steps over the value of a field of the message with the given name, after its key. -/
abbrev Pass : Type :=
  String → Key → Reader UInt8 Fault Unit

/-- Steps over a key, and over the value after it with `pass`. -/
def keyed (pass : Key → Reader UInt8 Fault Unit) : Reader UInt8 Fault Unit := fun s => do
  let key ← plainly Key.read s
  return key.after (← pass key.value key.rest)

/-- Steps over a length and over values up to that length. -/
def passBlock (pass : Reader UInt8 Fault Unit) : Reader UInt8 Fault Unit := fun s =>
  (readBlock pass s).map (·.map fun _ => ())

/-- Steps over a single value after its key. The values of messages are stepped over with `inner`;
there is none where messages may not nest any further. -/
def passForm (inner : Option Pass) (key : Key) (form : Form) : Reader UInt8 Fault Unit :=
  expecting key.wire form.wire <|
    match form with
    | .varint => readNumber fun _ => ()
    | .fourBytes => plainly skipFour
    | .eightBytes => plainly skipEight
    | .text => fun s => (readText s).map (·.map fun _ => ())
    | .blob => plainly fun s => (readBlob s).map (·.map fun _ => ())
    | .record name =>
      match inner with
      | none => fun _ => .error (.of .tooDeep)
      | some pass => passBlock (keyed (pass name))
    | .group name =>
      match inner with
      | none => fun _ => .error (.of .tooDeep)
      | some pass =>
        plainly (skipGroup (fun key s => (pass name key s).mapError Fault.cause) key.tag)

/-- Steps over the value of a field after its key. -/
def passField (inner : Option Pass) (key : Key) : FieldForm → Reader UInt8 Fault Unit
  | .single form => passForm inner key form
  | .repeated form =>
    if key.wire = .lengthDelimited && form.isPackable then
      passBlock (passForm inner ⟨key.tag, form.wire⟩ form)
    else
      passForm inner key form
  | .map keyForm valueForm =>
    passBlock <| keyed fun part =>
      if part.tag = 1 then passForm inner part keyForm
      else if part.tag = 2 then passForm inner part valueForm
      else plainly (skipValue nestingLimit part)

/-- Steps over the value of a field by its form in a table, in which messages may nest `limit`
deep. -/
def passValue (forms : String → Nat → Option FieldForm) : (limit : Nat) → Pass
  | 0, name, key =>
    match forms name key.tag with
    | none => plainly (skipValue 1 key)
    | some form => passField none key form
  | limit + 1, name, key =>
    match forms name key.tag with
    | none => plainly (skipValue (limit + 2) key)
    | some form => passField (some (passValue forms limit)) key form

/-- Whether bytes are a message with the given name by a table of forms. -/
def fits (forms : String → Nat → Option FieldForm) (name : String) (bytes : List UInt8) : Bool :=
  (readWhile (keyed (passValue forms nestingLimit name)) 0 bytes).isOk

end SchemaInterfaces.Wire
