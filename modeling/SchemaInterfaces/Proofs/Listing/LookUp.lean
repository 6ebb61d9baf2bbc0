import SchemaInterfaces.Proofs.Descriptor.Chains
import SchemaInterfaces.Proofs.Listing.Preorder
import SchemaInterfaces.Proofs.Text.Joining

/-!
# Looking definitions up

A look-up stops at the first definition with the given path, so it is right for every definition
only if no two of them share a path. Paths are joined chains of names: without a dot in a name the
path determines the chain, and different names side by side make the chains unique.
-/

namespace SchemaInterfaces.Listing

open Descriptor

variable {listing : Listing}

/-- Where no path occurs twice, every definition is found under its own path. -/
theorem find?_path_of_mem (hnodup : (listing.definitions.map Definition.path).Nodup)
    {definition : Definition} (hmem : definition ∈ listing.definitions) :
    listing.find? definition.path = some definition := by
  cases hfind : listing.find? definition.path with
  | none =>
      have hother := List.find?_eq_none.mp hfind definition hmem
      simp at hother
  | some found =>
      have hpath : found.path = definition.path := by simpa using List.find?_some hfind
      rw [List.inj_on_of_nodup_map hnodup (List.mem_of_find?_eq_some hfind) hmem hpath]

/-- Nothing is found exactly under the texts that are no path. -/
theorem find?_eq_none_iff {path : String} :
    listing.find? path = none ↔ path ∉ listing.definitions.map Definition.path := by
  simp [find?, List.find?_eq_none]

/-- The paths of a schema file are its chains, joined by dots. -/
theorem map_path_ofFile (policy : WidePolicy) (file : File) :
    (ofFile policy file).definitions.map Definition.path =
      (file.places.map Place.chain).map (".".intercalate ·) := by
  rw [definitions_ofFile, List.map_map, List.map_map]
  rfl

/-- No path occurs twice in a file without dots in its names, different ones side by side. -/
theorem nodup_map_path_ofFile (policy : WidePolicy) {file : File}
    (hdots : ∀ place ∈ file.places, '.' ∉ place.message.nameText.toList)
    (hdistinct : ∀ group ∈ file.groups, (group.map Message.nameText).Nodup) :
    ((ofFile policy file).definitions.map Definition.path).Nodup := by
  rw [map_path_ofFile]
  refine (File.nodup_map_chain hdistinct).map_on ?_
  intro chain hchain other hother hjoined
  obtain ⟨place, hplace, rfl⟩ := List.mem_map.mp hchain
  obtain ⟨second, hsecond, rfl⟩ := List.mem_map.mp hother
  exact Text.intercalate_inj_of_notMem rfl place.chain_ne_nil second.chain_ne_nil
    (File.forall_mem_chain hdots hplace) (File.forall_mem_chain hdots hsecond) hjoined

/-- In a file without dots in the names of its messages, different ones side by side, no two
definitions share a path. The chain of names of every message, joined by dots, leads to the
definition made of this very message, and no other text leads to a definition. -/
theorem find?_ofFile_chain (policy : WidePolicy) (file : File)
    (hdots : ∀ place ∈ file.places, '.' ∉ place.message.nameText.toList)
    (hdistinct : ∀ group ∈ file.groups, (group.map Message.nameText).Nodup) :
    (ofFile policy file).definitions = file.places.map (Place.definition policy none) ∧
      ((ofFile policy file).definitions.map Definition.path).Nodup ∧
      (∀ place ∈ file.places,
        (ofFile policy file).find? (".".intercalate place.chain) =
          some
            { name := place.message.nameText
              path := ".".intercalate place.chain
              members := place.message.fields.map
                fun field => ⟨field.nameText, field.shape policy⟩ }) ∧
      ∀ path : String,
        (ofFile policy file).find? path = none ↔
          ∀ place ∈ file.places, ".".intercalate place.chain ≠ path := by
  have hnodup := nodup_map_path_ofFile policy hdots hdistinct
  refine ⟨definitions_ofFile policy file, hnodup, ?_, ?_⟩
  · intro place hplace
    have hmem : place.definition policy none ∈ (ofFile policy file).definitions := by
      rw [definitions_ofFile]
      exact List.mem_map_of_mem hplace
    exact find?_path_of_mem hnodup hmem
  · intro path
    rw [find?_eq_none_iff, map_path_ofFile, List.map_map]
    simp

/-- Two messages `Item` in different messages, and one of the same name in no other. -/
def itemsFile : File where
  messages :=
    [{ name := some "Cart"
       nested := [{ name := some "Item", nested := [{ name := some "Cart" }] }] },
      { name := some "Wish", nested := [{ name := some "Item" }] },
      { name := some "Item" }]

/-- Each of the three is found under its own chain. -/
theorem find?_ofFile_itemsFile :
    (∀ place ∈ itemsFile.places, '.' ∉ place.message.nameText.toList) ∧
      (∀ group ∈ itemsFile.groups, (group.map Message.nameText).Nodup) ∧
      (ofFile .nativeNumeric itemsFile).find? "Wish.Item" = some ⟨"Item", "Wish.Item", []⟩ ∧
      (ofFile .nativeNumeric itemsFile).find? "Cart.Cart" = none := by
  have hdots : ∀ place ∈ itemsFile.places, '.' ∉ place.message.nameText.toList := by decide
  have hdistinct : ∀ group ∈ itemsFile.groups, (group.map Message.nameText).Nodup := by decide
  obtain ⟨-, -, hfound, hnone⟩ := find?_ofFile_chain .nativeNumeric itemsFile hdots hdistinct
  have hplace : (itemsFile.places)[4]? = some ⟨["Wish"], { name := some "Item" }⟩ := rfl
  refine ⟨hdots, hdistinct, ?_, (hnone "Cart.Cart").mpr (by decide)⟩
  exact hfound _ (List.mem_of_getElem? hplace)

end SchemaInterfaces.Listing
