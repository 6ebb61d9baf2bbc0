/-!
# Faults of the wire format

Why bytes are not a message, and where. The trail of a fault names the fields whose values were
being read, the innermost first.
-/

namespace SchemaInterfaces.Wire

/-- How the value of a field is laid out, as its key says. -/
inductive WireType where
  | varint
  | sixtyFourBit
  | lengthDelimited
  | startGroup
  | endGroup
  | thirtyTwoBit
  deriving DecidableEq, Repr

namespace WireType

/-- The wire type of a number in a key; 6 and 7 stand for none. -/
def ofNat? : Nat → Option WireType
  | 0 => some varint
  | 1 => some sixtyFourBit
  | 2 => some lengthDelimited
  | 3 => some startGroup
  | 4 => some endGroup
  | 5 => some thirtyTwoBit
  | _ => none

def toNat : WireType → Nat
  | varint => 0
  | sixtyFourBit => 1
  | lengthDelimited => 2
  | startGroup => 3
  | endGroup => 4
  | thirtyTwoBit => 5

/-- A wire type is what its number stands for. -/
theorem ofNat?_toNat (w : WireType) : ofNat? w.toNat = some w := by
  cases w <;> rfl

/-- The name that fault reports use. -/
def name : WireType → String
  | varint => "Varint"
  | sixtyFourBit => "SixtyFourBit"
  | lengthDelimited => "LengthDelimited"
  | startGroup => "StartGroup"
  | endGroup => "EndGroup"
  | thirtyTwoBit => "ThirtyTwoBit"

end WireType

/-- Why bytes could not be read. -/
inductive Cause where
  /-- A number that does not end, or needs more than 64 bits. -/
  | varint
  /-- A key that needs more than 32 bits. -/
  | key (value : Nat)
  /-- A key whose low three bits stand for no wire type. -/
  | wireType (value : Nat)
  /-- A key with the field number zero. -/
  | zeroTag
  /-- A known field laid out in a way that its type does not have. -/
  | mismatch (actual expected : WireType)
  /-- A length beyond the end of the input. -/
  | underflow
  /-- A value whose last part reaches beyond the length announced for it. -/
  | overrun
  /-- A text that is not UTF-8. -/
  | notText
  /-- An end of a group where no such group is open. -/
  | strayGroupEnd
  /-- Values nested too deeply. -/
  | tooDeep
  deriving DecidableEq, Repr

def Cause.message : Cause → String
  | varint => "invalid varint"
  | key value => s!"invalid key value: {value}"
  | wireType value => s!"invalid wire type value: {value}"
  | zeroTag => "invalid tag value: 0"
  | mismatch actual expected =>
    s!"invalid wire type: {actual.name} (expected {expected.name})"
  | underflow => "buffer underflow"
  | overrun => "delimited length exceeded"
  | notText => "invalid string value: data is not UTF-8 encoded"
  | strayGroupEnd => "unexpected end group tag"
  | tooDeep => "recursion limit reached"

/-- A field of a kind of message, as fault reports name it. -/
structure Place where
  owner : String
  field : String
  deriving DecidableEq, Repr

/-- Why bytes are not a message, and the fields that were being read, the innermost first. -/
structure Fault where
  trail : List Place
  cause : Cause
  deriving DecidableEq, Repr

namespace Fault

/-- A fault outside of all fields. -/
def of (cause : Cause) : Fault :=
  ⟨[], cause⟩

/-- The fault seen from the field around it. -/
def within (place : Place) (fault : Fault) : Fault :=
  { fault with trail := fault.trail ++ [place] }

/-- The report of a fault: the trail, then the cause. -/
def message (fault : Fault) : String :=
  "failed to decode Protobuf message: " ++
    String.join (fault.trail.map fun place => place.owner ++ "." ++ place.field ++ ": ") ++
    fault.cause.message

end Fault

end SchemaInterfaces.Wire
