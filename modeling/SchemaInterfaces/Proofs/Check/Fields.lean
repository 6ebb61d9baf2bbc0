import SchemaInterfaces.Check.Basic
import SchemaInterfaces.Proofs.Check.Symbols

/-!
# Fields of accepted schemas

A schema is accepted only if the check of every field of every message succeeds, wherever the
message stands. In particular the type of every field of a message kind resolves where the field
stands.
-/

namespace SchemaInterfaces.Check

open Descriptor

section

variable {view : View}

/-- Fields are accepted one after the other, each against those before it. -/
theorem exists_of_checkFields {owner : Message} {ownerName : String} {path : List Nat}
    {earlier fields : List Field}
    (h : checkFields view owner ownerName path earlier fields = .ok ()) :
    ∀ field ∈ fields, ∃ before place,
      checkField view owner ownerName before place field = .ok () := by
  induction fields generalizing earlier with
  | nil => exact fun _ hfield => absurd hfield List.not_mem_nil
  | cons first fields ih =>
      rw [checkFields, Outcome.then_eq_ok] at h
      intro field hfield
      rcases List.mem_cons.mp hfield with rfl | hfield
      · exact ⟨earlier, _, h.1⟩
      · exact ih h.2 field hfield

/-- The type of an accepted field of a message kind resolves. -/
theorem exists_symbol_of_checkField {owner : Message} {ownerName : String} {earlier : List Field}
    {path : List Nat} {field : Field}
    (h : checkField view owner ownerName earlier path field = .ok ())
    (hkind : field.fieldKind? = some .message) :
    ∃ symbol, view.resolve .messageOrEnumeration (qualify ownerName field.nameText)
      (textOf field.typeName) = .ok symbol := by
  rw [checkField, Outcome.then_eq_ok, Outcome.bind_eq_ok] at h
  obtain ⟨-, type, htype, -⟩ := h
  simp only [fieldType, hkind, Option.getD_some] at htype
  split at htype
  · cases htype
  · obtain ⟨symbol, hresolve, -⟩ := Outcome.bind_eq_ok.mp htype
    exact ⟨symbol, hresolve⟩

mutual

/-- A tree of messages is accepted only if the fields at each of its places are. -/
theorem checkFields_of_checkMessage : ∀ (scope : String) (path : List Nat) (message : Message),
    checkMessage view scope path message = .ok () →
      ∀ place ∈ message.places, ∃ position,
        checkFields view place.message (place.fullName scope) position []
          place.message.fields = .ok ()
  | scope, path, message@⟨_, _, _, nested, _, _, _, _, _, _⟩ => by
      intro h place hplace
      rw [checkMessage, Outcome.then_eq_ok, Outcome.then_eq_ok] at h
      obtain ⟨hfields, hnested, -⟩ := h
      rw [Message.places] at hplace
      rcases List.mem_cons.mp hplace with rfl | hplace
      · exact ⟨path, hfields⟩
      · obtain ⟨lower, hlower, rfl⟩ := List.mem_map.mp hplace
        exact checkFields_of_checkMessages _ _ _ nested hnested lower hlower

theorem checkFields_of_checkMessages :
    ∀ (scope : String) (path : List Nat) (position : Nat) (messages : List Message),
      checkMessages view scope path position messages = .ok () →
        ∀ place ∈ Message.placesAmong messages, ∃ position,
          checkFields view place.message (place.fullName scope) position []
            place.message.fields = .ok ()
  | _, _, _, [] => by
      intro _ place hplace
      exact absurd hplace List.not_mem_nil
  | scope, path, position, message :: others => by
      intro h place hplace
      rw [checkMessages, Outcome.then_eq_ok] at h
      rw [Message.placesAmong, List.mem_append] at hplace
      rcases hplace with hplace | hplace
      · exact checkFields_of_checkMessage scope _ message h.1 place hplace
      · exact checkFields_of_checkMessages scope path _ others h.2 place hplace

end

end

/-- The type of every field of a message kind resolves, where the field stands, in every file of a
schema that is accepted. -/
theorem exists_symbol_of_checkFiles {files : List File} (hvalid : checkFiles files = .ok ()) :
    ∃ symbols, Symbols.ofFiles files = .ok symbols ∧
      ∀ file ∈ files, ∀ place ∈ file.places, ∀ field ∈ place.message.fields,
        field.fieldKind? = some .message →
          ∃ symbol, (View.mk symbols (visibleFiles files file)).resolve .messageOrEnumeration
            (qualify (place.fullName file.packageText) field.nameText) (textOf field.typeName) =
              .ok symbol := by
  rw [checkFiles, Outcome.bind_eq_ok] at hvalid
  obtain ⟨symbols, hsymbols, hvalid⟩ := hvalid
  rw [Outcome.then_eq_ok] at hvalid
  refine ⟨symbols, hsymbols, ?_⟩
  intro file hfile place hplace field hfield hkind
  have hchecked := Outcome.forM_eq_ok.mp hvalid.1 file hfile
  rw [checkFile, Outcome.then_eq_ok, Outcome.then_eq_ok] at hchecked
  obtain ⟨position, hfields⟩ :=
    checkFields_of_checkMessages _ _ _ _ hchecked.2.1 place hplace
  obtain ⟨before, path, hfield⟩ := exists_of_checkFields hfields field hfield
  exact exists_symbol_of_checkField hfield hkind

end SchemaInterfaces.Check
