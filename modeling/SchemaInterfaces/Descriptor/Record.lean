import SchemaInterfaces.Descriptor.Basic
import SchemaInterfaces.Wire.Record

/-!
# Descriptors in records

The descriptors that records of the wire format stand for. Of a single property the last value in
the record counts; the options of a message that occur several times act as one.
-/

namespace SchemaInterfaces

namespace Wire.Record

/-- The last text under a number. -/
def text? (record : Record) (tag : Nat) : Option String :=
  record.foldl (fun found entry =>
    match entry with
    | (t, .text s) => if t = tag then some s else found
    | _ => found) none

/-- The last number under a field number. -/
def number? (record : Record) (tag : Nat) : Option Int :=
  record.foldl (fun found entry =>
    match entry with
    | (t, .number n) => if t = tag then some n else found
    | _ => found) none

/-- The last flag under a number. -/
def flag? (record : Record) (tag : Nat) : Option Bool :=
  record.foldl (fun found entry =>
    match entry with
    | (t, .flag b) => if t = tag then some b else found
    | _ => found) none

/-- All texts under a number. -/
def texts (record : Record) (tag : Nat) : List String :=
  record.filterMap fun entry =>
    match entry with
    | (t, .text s) => if t = tag then some s else none
    | _ => none

/-- All numbers in the lists under a field number. -/
def numbers (record : Record) (tag : Nat) : List Int :=
  record.flatMap fun entry =>
    match entry with
    | (t, .numbers ns) => if t = tag then ns else []
    | _ => []

/-- All records under a number. -/
def records (record : Record) (tag : Nat) : List Record :=
  record.filterMap fun entry =>
    match entry with
    | (t, .record r) => if t = tag then some r else none
    | _ => none

/-- The records under a number taken as one. -/
def merged (record : Record) (tag : Nat) : Record :=
  (record.records tag).flatten

/-- The option that the last flag, number or text under a field number sets. -/
def option? (record : Record) (tag : Nat) : Option Descriptor.OptionValue :=
  record.foldl (fun found entry =>
    match entry with
    | (t, .flag b) => if t = tag then some (.flag b) else found
    | (t, .number n) => if t = tag then some (.number n) else found
    | (t, .text s) => if t = tag then some (.text s) else found
    | _ => found) none

end Wire.Record

namespace Descriptor

open Wire (Record)

/-- The options of a kind that a record stands for. -/
def Options.ofRecord (kind : Wire.Kind) (r : Record) : Options :=
  kind.fields.filterMap fun field => (r.option? field.tag).map (field.tag, ·)

def Range.ofRecord (r : Record) : Range where
  start := r.number? 1
  stop := r.number? 2

def Field.ofRecord (r : Record) : Field where
  name := r.text? 1
  number := r.number? 3
  label := r.number? 4
  kind := r.number? 5
  typeName := r.text? 6
  extendee := r.text? 2
  defaultValue := r.text? 7
  oneofIndex := r.number? 9
  jsonName := r.text? 10
  proto3Optional := r.flag? 17
  options := Options.ofRecord .fieldOptions (r.merged 8)

def EnumValue.ofRecord (r : Record) : EnumValue where
  name := r.text? 1
  number := r.number? 2
  options := Options.ofRecord .enumValueOptions (r.merged 3)

def Enumeration.ofRecord (r : Record) : Enumeration where
  name := r.text? 1
  values := (r.records 2).map EnumValue.ofRecord
  reservedRanges := (r.records 4).map Range.ofRecord
  reservedNames := r.texts 5
  options := Options.ofRecord .enumOptions (r.merged 3)

def Oneof.ofRecord (r : Record) : Oneof where
  name := r.text? 1

def Method.ofRecord (r : Record) : Method where
  name := r.text? 1
  inputType := r.text? 2
  outputType := r.text? 3
  options := Options.ofRecord .methodOptions (r.merged 4)

def Service.ofRecord (r : Record) : Service where
  name := r.text? 1
  methods := (r.records 2).map Method.ofRecord
  options := Options.ofRecord .serviceOptions (r.merged 3)

/-- The message that a record stands for, given the messages nested in it. -/
def Message.ofRecordWith (nested : List Message) (r : Record) : Message where
  name := r.text? 1
  fields := (r.records 2).map Field.ofRecord
  extensions := (r.records 6).map Field.ofRecord
  nested := nested
  enumerations := (r.records 4).map Enumeration.ofRecord
  extensionRanges := (r.records 5).map Range.ofRecord
  reservedRanges := (r.records 9).map Range.ofRecord
  reservedNames := r.texts 10
  oneofs := (r.records 8).map Oneof.ofRecord
  options := Options.ofRecord .messageOptions (r.merged 7)

mutual

/-- The message that a value stands for, if it is a record. -/
def Message.ofValue : Wire.Value → List Message
  | .record entries => [Message.ofRecordWith (Message.nestedIn entries) entries]
  | .number _ | .flag _ | .text _ | .numbers _ | .skipped => []

/-- The messages that stand in a record as nested ones. -/
def Message.nestedIn : Record → List Message
  | [] => []
  | entry :: others => Message.ofEntry entry ++ Message.nestedIn others

/-- The nested message that an entry of a record stands for, if it stands for one. -/
def Message.ofEntry : Nat × Wire.Value → List Message
  | (tag, value) => if tag = 3 then Message.ofValue value else []

end

def Message.ofRecord (r : Record) : Message :=
  Message.ofRecordWith (Message.nestedIn r) r

def File.ofRecord (r : Record) : File where
  name := r.text? 1
  package := r.text? 2
  dependencies := r.texts 3
  publicDependencies := r.numbers 10
  weakDependencies := r.numbers 11
  messages := (r.records 4).map Message.ofRecord
  enumerations := (r.records 5).map Enumeration.ofRecord
  services := (r.records 6).map Service.ofRecord
  extensions := (r.records 7).map Field.ofRecord
  dialect := r.text? 12
  options := Options.ofRecord .fileOptions (r.merged 8)

end Descriptor

end SchemaInterfaces
