import Mathlib.Data.List.Nodup
import SchemaInterfaces.Check.Symbols
import SchemaInterfaces.Proofs.Descriptor.Places
import SchemaInterfaces.Proofs.Outcome

/-!
# Where symbols come from

A table of symbols grows file by file, and every symbol in it is something met in the file that it
names. Of all that is met in a file, the messages are the places of the file in pre-order, each
under its full name. As no two files have the same name, a symbol for a message leads to one place.
-/

namespace SchemaInterfaces

open Descriptor

namespace Descriptor.Place

/-- The name of the message at a place, seen from outside the scope that holds the whole tree. -/
def fullName (scope : String) (place : Place) : String :=
  place.chain.foldl Check.qualify scope

end Descriptor.Place

namespace Check

/-- The message that is defined at an encounter, with its full name. -/
def Encounter.message? : Encounter → Option (String × Message)
  | .definition name (.message message) => some (name, message)
  | .definition _ _ | .fault _ => none

section

variable (proto3 : Bool) (scope : String)

/-! Faults, enumerations and services hold no messages. -/

theorem filterMap_fieldNameFaults (fields : List Field) :
    (fieldNameFaults proto3 fields).filterMap Encounter.message? = [] := by
  unfold fieldNameFaults
  split
  · split <;> rfl
  · rfl

theorem filterMap_enumerations (enumerations : List Enumeration) :
    (enumerations.flatMap (enumerationEncounters proto3 scope)).filterMap Encounter.message? =
      [] := by
  simp only [List.filterMap_flatMap, List.flatMap_eq_nil_iff]
  intro enumeration _
  unfold enumerationEncounters
  simp only [List.cons_append, List.filterMap_cons, List.filterMap_append, List.filterMap_map,
    Function.comp_def, Encounter.message?, List.filterMap_none, List.append_nil]
  split
  · rfl
  · split <;> rfl

theorem filterMap_services (services : List Service) :
    (services.flatMap (serviceEncounters scope)).filterMap Encounter.message? = [] := by
  simp [List.filterMap_flatMap, serviceEncounters, Encounter.message?]

end

mutual

/-- The messages met in a tree are its places in pre-order, under their full names. -/
theorem filterMap_messageEncounters (proto3 : Bool) : ∀ (scope : String) (message : Message),
    (messageEncounters proto3 scope message).filterMap Encounter.message? =
      message.places.map fun place => (place.fullName scope, place.message)
  | scope, ⟨_, _, _, nested, _, _, _, _, _, _⟩ => by
      rw [messageEncounters]
      simp only [List.cons_append, List.filterMap_cons, List.filterMap_append,
        filterMap_fieldNameFaults, filterMap_messagesEncounters proto3 _ nested,
        filterMap_enumerations, extensionEncounters, List.filterMap_map, Function.comp_def,
        Encounter.message?, List.filterMap_none, List.nil_append, List.append_nil]
      rw [Message.places, List.map_cons, List.map_map]
      rfl

theorem filterMap_messagesEncounters (proto3 : Bool) :
    ∀ (scope : String) (messages : List Message),
      (messagesEncounters proto3 scope messages).filterMap Encounter.message? =
        (Message.placesAmong messages).map fun place => (place.fullName scope, place.message)
  | _, [] => by
      rw [messagesEncounters, Message.placesAmong]
      rfl
  | scope, message :: others => by
      rw [messagesEncounters, Message.placesAmong, List.filterMap_append, List.map_append,
        filterMap_messageEncounters proto3 scope message,
        filterMap_messagesEncounters proto3 scope others]

end

/-- Every message met in a file stands at a place of the file, under its full name. -/
theorem exists_place_of_mem_fileEncounters {file : File} {name : String} {message : Message}
    (hmem : .definition name (.message message) ∈ fileEncounters file) :
    ∃ place ∈ file.places, place.message = message ∧ place.fullName file.packageText = name := by
  have hfile : (fileEncounters file).filterMap Encounter.message? =
      file.places.map fun place => (place.fullName file.packageText, place.message) := by
    simp only [fileEncounters, List.filterMap_append, filterMap_messagesEncounters,
      filterMap_enumerations, filterMap_services, extensionEncounters, List.filterMap_map,
      Function.comp_def, Encounter.message?, List.filterMap_none, List.nil_append,
      List.append_nil]
    rfl
  have hmet := List.mem_filterMap.mpr ⟨_, hmem, (rfl : Encounter.message? _ = some (name, message))⟩
  rw [hfile] at hmet
  obtain ⟨place, hplace, heq⟩ := List.mem_map.mp hmet
  obtain ⟨hname, hmessage⟩ := Prod.mk.inj heq
  exact ⟨place, hplace, hmessage, hname⟩

namespace Symbols

variable {symbols result : Symbols}

theorem mem_of_define {file name : String} {entity : Entity}
    (h : symbols.define file name entity = .ok result) {symbol : SymbolEntry}
    (hsymbol : symbol ∈ result) : symbol ∈ symbols ∨ symbol = ⟨name, entity, file⟩ := by
  unfold define at h
  split at h
  next =>
    cases h
    simpa using hsymbol
  next =>
    split at h
    · cases h
      exact Or.inl hsymbol
    · split at h <;> cases h

/-- What is met in a file adds symbols of this file only, each for a definition that was met. -/
theorem mem_of_foldlM_meet {file : String} {encounters : List Encounter}
    (h : encounters.foldlM (meet file) symbols = .ok result) {symbol : SymbolEntry}
    (hsymbol : symbol ∈ result) :
    symbol ∈ symbols ∨
      (symbol.file = file ∧ .definition symbol.name symbol.entity ∈ encounters) := by
  induction encounters generalizing symbols with
  | nil =>
      cases h
      exact Or.inl hsymbol
  | cons encounter encounters ih =>
      rw [List.foldlM_cons, Outcome.bind_eq_ok] at h
      obtain ⟨grown, hmeet, hrest⟩ := h
      obtain hgrown | ⟨hfile, hlater⟩ := ih hrest
      · cases encounter with
        | fault violation => cases hmeet
        | definition name entity =>
            obtain hold | rfl := mem_of_define hmeet hgrown
            · exact Or.inl hold
            · exact Or.inr ⟨rfl, List.mem_cons_self⟩
      · exact Or.inr ⟨hfile, List.mem_cons_of_mem _ hlater⟩

/-- Every symbol of a list of files is something that the file it names defines. -/
theorem mem_of_extend {earlier : List String} {files : List File}
    (h : extend earlier symbols files = .ok result) {symbol : SymbolEntry}
    (hsymbol : symbol ∈ result) :
    symbol ∈ symbols ∨ ∃ file ∈ files, symbol.file = file.nameText ∧
      .definition symbol.name symbol.entity ∈ fileEncounters file := by
  induction files generalizing earlier symbols with
  | nil =>
      cases h
      exact Or.inl hsymbol
  | cons file files ih =>
      rw [extend] at h
      split at h
      · cases h
      · rw [Outcome.bind_eq_ok] at h
        obtain ⟨grown, hmeet, hrest⟩ := h
        obtain hgrown | ⟨other, hother, hmet⟩ := ih hrest
        · obtain hold | hmet := mem_of_foldlM_meet hmeet hgrown
          · exact Or.inl hold
          · exact Or.inr ⟨file, List.mem_cons_self, hmet⟩
        · exact Or.inr ⟨other, List.mem_cons_of_mem _ hother, hmet⟩

/-- Files with a table of symbols have different names, which are also new. -/
theorem nodup_of_extend {earlier : List String} {files : List File}
    (h : extend earlier symbols files = .ok result) :
    (files.map File.nameText).Nodup ∧ ∀ file ∈ files, file.nameText ∉ earlier := by
  induction files generalizing earlier symbols with
  | nil => exact ⟨List.nodup_nil, fun _ hfile => absurd hfile List.not_mem_nil⟩
  | cons file files ih =>
      rw [extend] at h
      split at h
      · cases h
      next hnew =>
        rw [Outcome.bind_eq_ok] at h
        obtain ⟨grown, -, hrest⟩ := h
        obtain ⟨hnodup, hlater⟩ := ih hrest
        refine ⟨?_, ?_⟩
        · rw [List.map_cons, List.nodup_cons]
          refine ⟨?_, hnodup⟩
          intro hmem
          obtain ⟨other, hother, hname⟩ := List.mem_map.mp hmem
          exact hlater other hother (hname ▸ List.mem_cons_self)
        · intro other hother
          rcases List.mem_cons.mp hother with rfl | hother
          · simpa using hnew
          · exact fun hmem => hlater other hother (List.mem_cons_of_mem _ hmem)

/-- A symbol for a message that a file defines leads to the place of the message in this file. -/
theorem exists_place {files : List File} (hsymbols : ofFiles files = .ok symbols)
    {file : File} (hfile : file ∈ files) {symbol : SymbolEntry} (hsymbol : symbol ∈ symbols)
    (hdeclared : symbol.file = file.nameText) {message : Message}
    (hentity : symbol.entity = .message message) :
    ∃ place ∈ file.places,
      place.message = message ∧ place.fullName file.packageText = symbol.name := by
  obtain hnone | ⟨other, hother, hname, hmet⟩ := mem_of_extend hsymbols hsymbol
  · exact absurd hnone List.not_mem_nil
  · have hnames := (nodup_of_extend hsymbols).1
    obtain rfl := List.inj_on_of_nodup_map hnames hfile hother (hdeclared.symm.trans hname)
    rw [hentity] at hmet
    exact exists_place_of_mem_fileEncounters hmet

theorem mem_of_find? {name : String} {symbol : SymbolEntry}
    (hfind : symbols.find? name = some symbol) : symbol ∈ symbols ∧ symbol.name = name :=
  ⟨List.mem_of_find?_eq_some hfind, by simpa using List.find?_some hfind⟩

end Symbols

end Check

end SchemaInterfaces
