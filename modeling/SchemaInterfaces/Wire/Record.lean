import SchemaInterfaces.Reading
import SchemaInterfaces.Text.Basic
import SchemaInterfaces.Wire.Fault
import SchemaInterfaces.Wire.Layout
import SchemaInterfaces.Wire.Varint

/-!
# Records

A record is a message as it stands in its bytes: the known fields with their values, in order,
repetitions included. What a repetition means is left to whoever reads the record: the last value
of a single field counts, and the entries of a repeated single record add up.

Lengths are checked the way the bytes are walked: the parts of a value are read from all of the
input, and only after the last part is it checked that they end where the length said.

Single fields are written as a key, and after it a number, or a length and that many bytes.
-/

namespace SchemaInterfaces.Wire

/-- The value of a known field. -/
inductive Value where
  | number (n : Int)
  | flag (b : Bool)
  | text (s : String)
  | numbers (ns : List Int)
  /-- A value that nothing depends on. -/
  | skipped
  | record (entries : List (Nat × Value))

/-- The known fields of a message with their values, in the order of the bytes. -/
abbrev Record : Type :=
  List (Nat × Value)

/-- The number of a field and how its value is laid out. -/
structure Key where
  tag : Nat
  wire : WireType

namespace Key

/-- Reads the key that stands before each value. -/
def read : Reader UInt8 Cause Key := fun s => do
  let number ← Varint.read s
  if Width.count 32 ≤ number.value then
    throw (.key number.value)
  match WireType.ofNat? (number.value % 8) with
  | none => throw (.wireType (number.value % 8))
  | some wire =>
    if number.value / 8 = 0 then
      throw .zeroTag
    return number.map fun n => ⟨n / 8, wire⟩

/-- The bytes of a key. -/
def write (key : Key) : List UInt8 :=
  Varint.write (key.tag * 8 + key.wire.toNat)

/-- A key is read back if its number is one that a field can have. -/
theorem read_write {key : Key} (positive : 0 < key.tag) (h : key.tag < Width.count 29)
    (rest : List UInt8) :
    (read (key.write ++ rest)).map (fun r => (r.value, r.rest)) = .ok (key, rest) := by
  obtain ⟨tag, wire⟩ := key
  have low : wire.toNat < 8 := by cases wire <;> decide
  simp only at positive h
  have keys : Width.count 32 = 0x100000000 := by decide
  have tags : Width.count 29 = 0x20000000 := by decide
  have all : Width.count 64 = 0x10000000000000000 := by decide
  have number := Varint.read_write (n := tag * 8 + wire.toNat) (by omega) rest
  rw [write, read]
  cases hr : Varint.read (Varint.write (tag * 8 + wire.toNat) ++ rest) with
  | error cause => rw [hr] at number; cases number
  | ok r =>
    rw [hr] at number
    injection number with number
    injection number with value after
    have kind : WireType.ofNat? ((tag * 8 + wire.toNat) % 8) = some wire := by
      rw [show (tag * 8 + wire.toNat) % 8 = wire.toNat by omega]
      exact WireType.ofNat?_toNat wire
    have quotient : (tag * 8 + wire.toNat) / 8 = tag := by omega
    simp only [bind, Except.bind, value, kind, quotient]
    rw [if_neg (by omega), if_neg (by omega)]
    simp [pure, Except.pure, Except.map, value, after, quotient]

end Key

/-- Steps over `n` bytes; `n` must not be zero. -/
def skipBytes (n : Nat) (positive : 0 < n) : Reader UInt8 Cause Unit := fun s =>
  if h : n ≤ s.length then
    .ok ⟨(), s.drop n, by rw [List.length_drop]; omega⟩
  else
    .error .underflow

/-- Steps over a number of 32 bits. -/
def skipFour : Reader UInt8 Cause Unit :=
  skipBytes 4 (by decide)

/-- Steps over a number of 64 bits. -/
def skipEight : Reader UInt8 Cause Unit :=
  skipBytes 8 (by decide)

/-- Reads a length and that many bytes. -/
def readBlob : Reader UInt8 Cause (List UInt8) := fun s => do
  let size ← Varint.read s
  if size.rest.length < size.value then
    throw .underflow
  return ⟨size.rest.take size.value, size.rest.drop size.value,
    by have := size.shorter; rw [List.length_drop]; omega⟩

/-- Reads a length and then values up to that length. -/
def readBlock {α : Type} (reader : Reader UInt8 Fault α) : Reader UInt8 Fault (List α) := fun s =>
  match Varint.read s with
  | .error cause => .error (.of cause)
  | .ok size =>
    if size.rest.length < size.value then
      .error (.of .underflow)
    else
      let stop := size.rest.length - size.value
      match readWhile reader stop size.rest with
      | .error fault => .error fault
      | .ok parts =>
        -- The last part may have been read across the end.
        if parts.rest.length = stop then
          .ok ⟨parts.values, parts.rest, Nat.lt_of_le_of_lt parts.notLonger size.shorter⟩
        else
          .error (.of .overrun)

/-- Steps over the fields of the group with the given number, its end included. -/
def skipGroup (skip : Key → Reader UInt8 Cause Unit) (tag : Nat) : Reader UInt8 Cause Unit :=
  fun s =>
    match Key.read s with
    | .error cause => .error cause
    | .ok key =>
      if key.value.wire = .endGroup then
        if key.value.tag = tag then .ok (key.map fun _ => ()) else .error .strayGroupEnd
      else
        match skip key.value key.rest with
        | .error cause => .error cause
        | .ok inner =>
          match skipGroup skip tag inner.rest with
          | .error cause => .error cause
          | .ok others => .ok (key.after (inner.after others))
termination_by s => s.length
decreasing_by exact Nat.lt_trans inner.shorter key.shorter

/-- Steps over the value of an unknown field, with groups nested less than `limit` deep. -/
def skipValue : (limit : Nat) → Key → Reader UInt8 Cause Unit
  | 0, _, _ => .error .tooDeep
  | limit + 1, key, s =>
    match key.wire with
    | .varint => (Varint.read s).map (·.map fun _ => ())
    | .thirtyTwoBit => skipFour s
    | .sixtyFourBit => skipEight s
    | .lengthDelimited => (readBlob s).map (·.map fun _ => ())
    | .startGroup => skipGroup (skipValue limit) key.tag s
    | .endGroup => .error .strayGroupEnd

/-- Reads with `reader` if the value is laid out as expected. -/
def expecting {α : Type} (actual expected : WireType) (reader : Reader UInt8 Fault α) :
    Reader UInt8 Fault α := fun s =>
  if actual = expected then reader s else .error (.of (.mismatch actual expected))

/-- A reader whose faults lie outside of all fields. -/
def plainly {α : Type} (reader : Reader UInt8 Cause α) : Reader UInt8 Fault α := fun s =>
  (reader s).mapError .of

/-- Reads a number, whatever its width, as the value `f` makes of it. -/
def readNumber {α : Type} (f : Nat → α) : Reader UInt8 Fault α :=
  plainly fun s => (Varint.read s).map (·.map f)

/-- Reads a length and a text of that many bytes. -/
def readText : Reader UInt8 Fault Value := plainly fun s => do
  let blob ← readBlob s
  match Text.ofBytes? blob.value with
  | some text => return blob.map fun _ => .text text
  | none => throw .notText

/-- Reads the value of a field of the given type. `record` reads the fields of a record; there is
none where records may not nest any further. -/
def readValue (record : Option (Kind → Reader UInt8 Fault (Option (Nat × Value))))
    (wire : WireType) : FieldType → Reader UInt8 Fault Value
  | .int32 => expecting wire .varint (readNumber fun n => .number (Width.signed 32 n))
  | .enumeration => expecting wire .varint (readNumber fun n => .number (Width.signed 32 n))
  | .bool => expecting wire .varint (readNumber fun n => .flag (n != 0))
  | .word64 => expecting wire .varint (readNumber fun n => .number n)
  | .double =>
    expecting wire .sixtyFourBit <| plainly fun s =>
      (skipEight s).map (·.map fun _ => .skipped)
  | .text => expecting wire .lengthDelimited readText
  | .blob =>
    expecting wire .lengthDelimited <| plainly fun s => (readBlob s).map (·.map fun _ => .skipped)
  | .int32List => fun s =>
    if wire = .lengthDelimited then
      (readBlock (readNumber (Width.signed 32)) s).map (·.map .numbers)
    else
      expecting wire .varint (readNumber fun n => .numbers [Width.signed 32 n]) s
  | .record kind =>
    expecting wire .lengthDelimited <|
      match record with
      | none => fun _ => .error (.of .tooDeep)
      | some fields => fun s =>
        (readBlock (fields kind) s).map (·.map fun entries => .record (entries.filterMap id))

/-- Reads one field of a message of the given kind; an unknown one is stepped over. -/
def readFieldWith (limit : Nat)
    (record : Option (Kind → Reader UInt8 Fault (Option (Nat × Value)))) (kind : Kind) :
    Reader UInt8 Fault (Option (Nat × Value)) := fun s => do
  let key ← plainly Key.read s
  match kind.field? key.value.tag with
  | none =>
    let skipped ← plainly (skipValue limit key.value) key.rest
    return key.after (skipped.map fun _ => none)
  | some field =>
    -- Only a fault in the value is a fault inside the field.
    let value ← (readValue record key.value.wire field.type key.rest).mapError
      (·.within ⟨kind.name, field.name⟩)
    return key.after (value.map fun v => some (field.tag, v))

/-- Reads one field of a message in which records may nest `limit` deep. -/
def readField : (limit : Nat) → Kind → Reader UInt8 Fault (Option (Nat × Value))
  | 0 => readFieldWith 0 none
  | limit + 1 => readFieldWith (limit + 1) (some (readField limit))

/-- How deeply values may nest in a message. -/
def nestingLimit : Nat :=
  100

/-- The record that all of the bytes are. -/
def Record.ofBytes (kind : Kind) (bytes : List UInt8) : Except Fault Record :=
  (readWhile (readField nestingLimit kind) 0 bytes).map fun all => all.values.filterMap id

namespace Writer

/-- A field that holds a number. -/
def number (tag value : Nat) : List UInt8 :=
  Key.write ⟨tag, .varint⟩ ++ Varint.write value

/-- A field that holds bytes. -/
def blob (tag : Nat) (content : List UInt8) : List UInt8 :=
  Key.write ⟨tag, .lengthDelimited⟩ ++ Varint.write content.length ++ content

/-- A field that holds a text. -/
def text (tag : Nat) (content : String) : List UInt8 :=
  blob tag (Text.toBytes content)

end Writer

end SchemaInterfaces.Wire
