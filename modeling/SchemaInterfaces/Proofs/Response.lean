import Mathlib.Data.List.Basic
import SchemaInterfaces.Proofs.Wire.Writer
import SchemaInterfaces.Response

/-!
# Responses on the wire

A reader finds in the bytes of a response exactly what the response says: a report and features only
if they are set, and every file with its name and its content.
-/

namespace SchemaInterfaces

open Wire

namespace Wire.Record

variable (record : Record) (inner : List Record) (tag other : Nat)

theorem text?_append_records :
    text? (record ++ inner.map fun r => (other, .record r)) tag = record.text? tag := by
  rw [text?, text?, List.foldl_append, List.foldl_map]
  exact List.foldl_fixed' (fun _ => rfl) _

theorem number?_append_records :
    number? (record ++ inner.map fun r => (other, .record r)) tag = record.number? tag := by
  rw [number?, number?, List.foldl_append, List.foldl_map]
  exact List.foldl_fixed' (fun _ => rfl) _

theorem records_append_records :
    records (record ++ inner.map fun r => (tag, .record r)) tag = record.records tag ++ inner := by
  rw [records, records, List.filterMap_append, List.filterMap_map]
  simp

end Wire.Record

namespace Response

/-- What a reader finds of a file that is handed over. -/
def FileView.ofRendered (file : Rendered) : FileView where
  name := some file.name
  content := some file.content

/-- What a reader finds in a response. -/
def view (response : Response) : View where
  error := response.error
  features := response.features.map Int.ofNat
  files := response.files.map FileView.ofRendered

/-- The fields of a file as they are written. -/
def fileRecord (file : Rendered) : Record :=
  [(1, .text file.name), (15, .text file.content)]

/-- The fields of a response as they are written. -/
def record (response : Response) : Record :=
  (response.error.toList.map fun report => (1, .text report)) ++
    (response.features.toList.map fun (n : Nat) => (2, .number n)) ++
    (response.files.map fileRecord).map fun r => (15, .record r)

theorem reads_fileBytes {limit : Nat} {file : Rendered}
    (hsize : (fileBytes file).length < Width.count 64) :
    ReadsAll (readField limit .responseFile) ((fileRecord file).map some) (fileBytes file) := by
  rw [fileBytes, List.length_append] at hsize
  refine .append (.single (.textField rfl ?_)) (.single (.textField rfl ?_)) <;> omega

/-- The bytes of a response are its fields, one after the other. -/
theorem reads_toBytes {response : Response}
    (hfeatures : ∀ n ∈ response.features, n < Width.count 64)
    (hsize : response.toBytes.length < Width.count 64) :
    ReadsAll (readField nestingLimit .response) (response.record.map some) response.toBytes := by
  have hfile : ∀ file ∈ response.files,
      Reads (readField nestingLimit .response) (some (15, .record (fileRecord file)))
        (Writer.blob 15 (fileBytes file)) := by
    intro file hfile
    have hpiece : Writer.blob 15 (fileBytes file) <:+:
        response.files.flatMap fun file => Writer.blob 15 (fileBytes file) :=
      List.infix_of_mem_flatten (List.mem_map_of_mem hfile)
    have hblob : (Writer.blob 15 (fileBytes file)).length < Width.count 64 := by
      have hlength := hpiece.length_le
      rw [toBytes, List.length_append] at hsize
      omega
    refine .recordField rfl (reads_fileBytes ?_) hblob
    rw [Writer.blob, List.length_append] at hblob
    omega
  have hreport : ∀ report ∈ response.error,
      Reads (readField nestingLimit .response) (some (1, .text report)) (Writer.text 1 report) := by
    intro report hreport
    apply Reads.textField rfl
    rw [toBytes, hreport] at hsize
    simp only [List.length_append, Option.map_some, Option.getD_some] at hsize
    omega
  have hnumber : ∀ n ∈ response.features,
      Reads (readField nestingLimit .response) (some (2, .number n)) (Writer.number 2 n) :=
    fun n hn => .numberField rfl (hfeatures n hn)
  have hall := ((ReadsAll.optional hreport).append (.optional hnumber)).append (.flatMap hfile)
  rw [record, List.map_append, List.map_append, List.map_map, List.map_map, List.map_map,
    List.map_map]
  exact hall

theorem view_ofRecord_record (response : Response) :
    View.ofRecord response.record = response.view := by
  have hfiles : (response.files.map fileRecord).map FileView.ofRecord =
      response.files.map FileView.ofRendered := by
    rw [List.map_map]
    rfl
  rw [View.ofRecord, record, Record.text?_append_records, Record.number?_append_records,
    Record.records_append_records, List.map_append, hfiles]
  obtain ⟨error, features, files⟩ := response
  cases error <;> cases features <;> rfl

/-- A reader finds in the bytes of a response what the response says. -/
theorem view_ofBytes_toBytes {response : Response}
    (hfeatures : ∀ n ∈ response.features, n < Width.count 64)
    (hsize : response.toBytes.length < Width.count 64) :
    View.ofBytes response.toBytes = .ok response.view := by
  rw [View.ofBytes, Record.ofBytes_eq_ok (reads_toBytes hfeatures hsize), Except.map,
    view_ofRecord_record]

end Response

end SchemaInterfaces
