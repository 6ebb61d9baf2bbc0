import SchemaInterfaces.Proofs.Reading
import SchemaInterfaces.Wire.Record

/-!
# Fields as they are written

A field that is written is read back under its number, with its value, in a message of any kind that
has a field of that number and type. So a message written field by field is read as the record of
its fields. The only bound is that the length of every value fits in the 64 bits of a number.
-/

namespace SchemaInterfaces

open Wire

variable {α : Type}

/-- All known fields have numbers that a key has room for. -/
theorem Wire.Kind.tag_of_field? {kind : Kind} {tag : Nat} {field : FieldLayout}
    (h : kind.field? tag = some field) : 0 < field.tag ∧ field.tag < Width.count 29 := by
  have hall : ∀ field ∈ kind.fields, 0 < field.tag ∧ field.tag < Width.count 29 := by
    cases kind <;> decide
  exact hall field (List.mem_of_find?_eq_some h)

namespace Reads

/-! ### Values -/

protected theorem plainly {reader : Reader UInt8 Cause α} {value : α} {piece : List UInt8}
    (h : Reads reader value piece) : Reads (plainly reader) value piece := by
  apply of_eq_ok
  intro rest
  obtain ⟨shorter, hread⟩ := h.eq_ok rest
  exact ⟨shorter, by rw [Wire.plainly, hread]; rfl⟩

protected theorem expecting {reader : Reader UInt8 Fault α} {value : α} {piece : List UInt8}
    (h : Reads reader value piece) (wire : WireType) :
    Reads (expecting wire wire reader) value piece := by
  intro rest
  rw [Wire.expecting, if_pos rfl]
  exact h rest

protected theorem varint {n : Nat} (h : n < Width.count 64) :
    Reads Varint.read n (Varint.write n) :=
  Varint.read_write h

/-- Bytes are read back behind their length. -/
protected theorem blob {content : List UInt8} (h : content.length < Width.count 64) :
    Reads readBlob content (Varint.write content.length ++ content) := by
  intro rest
  obtain ⟨shorter, hsize⟩ := (Reads.varint h).eq_ok (content ++ rest)
  have hroom : ¬ (content ++ rest).length < content.length := by
    rw [List.length_append]
    omega
  rw [List.append_assoc]
  simp only [readBlob, hsize, bind, Except.bind, if_neg hroom, pure, Except.pure, Except.map,
    List.take_left, List.drop_left]

/-- A text is read back behind its length. -/
protected theorem text {content : String} (h : (Text.toBytes content).length < Width.count 64) :
    Reads readText (.text content)
      (Varint.write (Text.toBytes content).length ++ Text.toBytes content) := by
  apply Reads.plainly
  intro rest
  obtain ⟨shorter, hblob⟩ := (Reads.blob h).eq_ok rest
  simp only [hblob, bind, Except.bind, Text.ofBytes?_toBytes]
  rfl

/-- Values are read back from a block if each of them is. -/
protected theorem block {reader : Reader UInt8 Fault α} {values : List α} {content : List UInt8}
    (hall : ReadsAll reader values content) (h : content.length < Width.count 64) :
    Reads (readBlock reader) values (Varint.write content.length ++ content) := by
  intro rest
  obtain ⟨shorter, hsize⟩ := (Reads.varint h).eq_ok (content ++ rest)
  obtain ⟨notLonger, hparts⟩ := hall.readWhile_eq_ok rest
  have hroom : ¬ (content ++ rest).length < content.length := by
    rw [List.length_append]
    omega
  -- The block ends where `rest` begins.
  have hstop : (content ++ rest).length - content.length = rest.length := by
    rw [List.length_append, Nat.add_sub_cancel_left]
  rw [List.append_assoc]
  simp only [readBlock, hsize, if_neg hroom, hstop, hparts, if_true, Except.map]

/-! ### Fields -/

section

variable {limit : Nat} {kind : Kind} {tag : Nat} {name : String}

/-- A known field is read back if its value is. -/
protected theorem fieldWith {record : Option (Kind → Reader UInt8 Fault (Option (Nat × Value)))}
    {type : FieldType} (hfield : kind.field? tag = some ⟨tag, name, type⟩) {wire : WireType}
    {value : Value} {piece : List UInt8} (hvalue : Reads (readValue record wire type) value piece) :
    Reads (readFieldWith limit record kind) (some (tag, value))
      (Key.write ⟨tag, wire⟩ ++ piece) := by
  obtain ⟨hpos, hroom⟩ := Kind.tag_of_field? hfield
  have hkey : Reads Key.read ⟨tag, wire⟩ (Key.write ⟨tag, wire⟩) :=
    Key.read_write hpos hroom
  intro rest
  obtain ⟨hkeyShorter, hkeyRead⟩ := hkey.plainly.eq_ok (piece ++ rest)
  obtain ⟨hvalueShorter, hvalueRead⟩ := hvalue.eq_ok rest
  rw [List.append_assoc]
  simp only [readFieldWith, hkeyRead, bind, Except.bind, hfield, hvalueRead]
  rfl

/-- Fields are read alike at every depth, as far as their values are. -/
theorem field {type : FieldType} (hfield : kind.field? tag = some ⟨tag, name, type⟩)
    {wire : WireType} {value : Value} {piece : List UInt8}
    (hvalue : ∀ record, Reads (readValue record wire type) value piece) :
    Reads (readField limit kind) (some (tag, value)) (Key.write ⟨tag, wire⟩ ++ piece) := by
  cases limit with
  | zero => exact Reads.fieldWith hfield (hvalue none)
  | succ limit => exact Reads.fieldWith hfield (hvalue _)

theorem numberField (hfield : kind.field? tag = some ⟨tag, name, .word64⟩) {n : Nat}
    (h : n < Width.count 64) :
    Reads (readField limit kind) (some (tag, .number n)) (Writer.number tag n) := by
  apply field hfield
  intro record
  exact ((Reads.varint h).map fun n => Value.number n).plainly.expecting .varint

theorem textField (hfield : kind.field? tag = some ⟨tag, name, .text⟩) {content : String}
    (h : (Writer.text tag content).length < Width.count 64) :
    Reads (readField limit kind) (some (tag, .text content)) (Writer.text tag content) := by
  rw [Writer.text, Writer.blob, List.append_assoc] at h ⊢
  apply field hfield
  intro record
  refine (Reads.text ?_).expecting .lengthDelimited
  simp only [List.length_append] at h
  omega

theorem recordField {inner : Kind} (hfield : kind.field? tag = some ⟨tag, name, .record inner⟩)
    {entries : Record} {content : List UInt8}
    (hall : ReadsAll (readField limit inner) (entries.map some) content)
    (h : (Writer.blob tag content).length < Width.count 64) :
    Reads (readField (limit + 1) kind) (some (tag, .record entries)) (Writer.blob tag content) := by
  rw [Writer.blob, List.append_assoc] at h ⊢
  apply Reads.fieldWith hfield
  have hsize : content.length < Width.count 64 := by
    simp only [List.length_append] at h
    omega
  have hblock := (Reads.block hall hsize).map fun entries => Value.record (entries.filterMap id)
  rw [List.filterMap_map, Function.id_comp, List.filterMap_some] at hblock
  exact hblock.expecting .lengthDelimited

end

end Reads

/-- A message written field by field is the record of its fields. -/
theorem Wire.Record.ofBytes_eq_ok {kind : Kind} {record : Record} {bytes : List UInt8}
    (h : ReadsAll (readField nestingLimit kind) (record.map some) bytes) :
    Record.ofBytes kind bytes = .ok record := by
  have hread := h.readWhile_eq_ok []
  rw [List.append_nil] at hread
  obtain ⟨notLonger, hread⟩ := hread
  change readWhile (readField nestingLimit kind) 0 bytes = _ at hread
  rw [Record.ofBytes, hread, Except.map, List.filterMap_map, Function.id_comp, List.filterMap_some]

end SchemaInterfaces
