import SchemaInterfaces.Listing.Assembly
import SchemaInterfaces.Proofs.Descriptor.Places

/-!
# Listings in pre-order

Adding a tree of messages to a listing puts one definition for each place of the tree at its end, in
pre-order, and touches nothing else. The definitions do not depend on what the listing already
holds. A path is the chain of names down to the message, below the path under which the tree was
added.
-/

namespace SchemaInterfaces

open Descriptor

namespace Descriptor

namespace Message

theorem pathIn_eq_intercalate (parent : Option String) (name : String) :
    pathIn parent name = ".".intercalate (parent.toList ++ [name]) := by
  cases parent with
  | none => simp [pathIn]
  | some parent => simp [pathIn]

end Message

namespace Place

/-- The definition that the message at a place gives, where `parent` is the path of whatever
encloses the whole tree. -/
def definition (policy : WidePolicy) (parent : Option String) (place : Place) : Definition where
  name := place.message.nameText
  path := ".".intercalate (parent.toList ++ place.chain)
  members := place.message.fields.map fun field => ⟨field.nameText, field.shape policy⟩

theorem definition_root (policy : WidePolicy) (parent : Option String) (message : Message) :
    definition policy parent ⟨[], message⟩ = message.definition policy parent := by
  rw [definition, Message.definition, chain_root, Message.pathIn_eq_intercalate]
  rfl

/-- Seen from outside one more message, a place keeps its definition: the name of that message
moves from the path of the tree into the chain. -/
theorem definition_inside (policy : WidePolicy) (parent : Option String) (name : String)
    (place : Place) :
    definition policy parent (place.inside name) =
      definition policy (some (Message.pathIn parent name)) place := by
  have hpath : ".".intercalate (parent.toList ++ name :: place.chain) =
      ".".intercalate (Message.pathIn parent name :: place.chain) := by
    rw [Message.pathIn_eq_intercalate, String.intercalate_cons_of_ne_nil place.chain_ne_nil,
      List.append_cons, String.intercalate_append_of_ne_nil (by simp) place.chain_ne_nil]
  simp only [definition, chain_inside, message_inside, hpath, Option.toList_some,
    List.singleton_append]

end Place

end Descriptor

namespace Listing

/-- The definitions of a tree of messages in pre-order. -/
def preorder (policy : WidePolicy) (parent : Option String) (message : Message) :
    List Definition :=
  message.places.map (Place.definition policy parent)

theorem map_definition_placesAmong (policy : WidePolicy) (parent : Option String)
    (messages : List Message) :
    (Message.placesAmong messages).map (Place.definition policy parent) =
      messages.flatMap (preorder policy parent) := by
  rw [Message.placesAmong_eq_flatMap, List.map_flatMap]
  rfl

/-- A message comes first and is followed at once by the trees inside it. -/
theorem preorder_eq (policy : WidePolicy) (parent : Option String) (message : Message) :
    preorder policy parent message =
      message.definition policy parent ::
        message.nested.flatMap
          (preorder policy (some (Message.pathIn parent message.nameText))) := by
  rw [preorder, Message.places_eq, List.map_cons, Place.definition_root, List.map_map,
    ← map_definition_placesAmong]
  congr 2
  funext place
  exact Place.definition_inside policy parent message.nameText place

@[simp] theorem length_preorder (policy : WidePolicy) (parent : Option String)
    (message : Message) : (preorder policy parent message).length = message.size := by
  rw [preorder, List.length_map, Message.length_places]

mutual

/-- Adding a tree puts its definitions at the end of a listing, and changes nothing else. -/
theorem addMessage_eq (policy : WidePolicy) :
    ∀ (listing : Listing) (parent : Option String) (message : Message),
      addMessage policy listing parent message =
        { listing with definitions := listing.definitions ++ preorder policy parent message }
  | listing, parent, message@⟨_, _, _, nested, _, _, _, _, _, _⟩ => by
      rw [addMessage, addMessages_eq policy _ _ nested, preorder_eq, definitions_push,
        List.append_assoc]
      rfl

theorem addMessages_eq (policy : WidePolicy) :
    ∀ (listing : Listing) (parent : Option String) (messages : List Message),
      addMessages policy listing parent messages =
        { listing with
          definitions := listing.definitions ++ messages.flatMap (preorder policy parent) }
  | listing, parent, [] => by
      simp [addMessages]
  | listing, parent, message :: others => by
      rw [addMessages, addMessage_eq policy listing parent message,
        addMessages_eq policy _ parent others, List.flatMap_cons, List.append_assoc]

end

/-- The listing of a schema file holds the trees of its messages, one after the other. -/
theorem ofFile_eq (policy : WidePolicy) (file : File) :
    ofFile policy file =
      { source := file.nameText
        package := file.packageText
        definitions := file.messages.flatMap (preorder policy none) } := by
  rw [ofFile, addMessages_eq]
  rfl

/-- The definitions of a schema file stand for its places, one for each and in the same order. -/
theorem definitions_ofFile (policy : WidePolicy) (file : File) :
    (ofFile policy file).definitions = file.places.map (Place.definition policy none) := by
  rw [ofFile_eq, File.places, map_definition_placesAmong]

/-- Adding a tree of messages leaves a listing as it is and appends the pre-order list of the tree:
for each message one definition with its name, its path and its fields in order, right before the
lists of the messages declared in it. The path is the name itself for a message in no other, and
the enclosing path, a dot and the name otherwise, where an unset name is the empty text. A schema
file gives the lists of its messages, as many definitions as it has messages at all levels. -/
theorem addMessage_appends_preorder (policy : WidePolicy) :
    (∀ (listing : Listing) (parent : Option String) (message : Message),
      (addMessage policy listing parent message).source = listing.source ∧
      (addMessage policy listing parent message).package = listing.package ∧
      (addMessage policy listing parent message).definitions =
        listing.definitions ++ preorder policy parent message ∧
      (preorder policy parent message).length = message.size) ∧
    (∀ message : Message,
      preorder policy none message =
        { name := message.name.getD ""
          path := message.name.getD ""
          members := message.fields.map fun field => ⟨field.name.getD "", field.shape policy⟩ } ::
        message.nested.flatMap (preorder policy (some (message.name.getD "")))) ∧
    (∀ (parent : String) (message : Message),
      preorder policy (some parent) message =
        { name := message.name.getD ""
          path := parent ++ "." ++ message.name.getD ""
          members := message.fields.map fun field => ⟨field.name.getD "", field.shape policy⟩ } ::
        message.nested.flatMap (preorder policy (some (parent ++ "." ++ message.name.getD "")))) ∧
    ∀ file : File,
      ofFile policy file =
        { source := file.name.getD ""
          package := file.package.getD ""
          definitions := file.messages.flatMap (preorder policy none) } ∧
      (ofFile policy file).definitions.length = Message.totalSize file.messages := by
  refine ⟨?_, preorder_eq policy none, fun parent => preorder_eq policy (some parent), ?_⟩
  · intro listing parent message
    rw [addMessage_eq]
    exact ⟨rfl, rfl, rfl, length_preorder policy parent message⟩
  · intro file
    refine ⟨ofFile_eq policy file, ?_⟩
    rw [definitions_ofFile, List.length_map, File.places, Message.length_placesAmong]

/-- Messages and fields without a name are listed in their places. -/
example :
    addMessage .wordPair { source := "a.proto", definitions := [⟨"Old", "Old", []⟩] } (some "p")
      { name := some "Outer"
        fields := [{ kind := some 3, label := some 3 },
          { name := some "to", typeName := some ".T" }]
        nested := [{ nested := [{ name := some "Inner" }] }, { name := some "Last" }] } =
      { source := "a.proto"
        definitions := [⟨"Old", "Old", []⟩,
          ⟨"Outer", "p.Outer", [⟨"", .sequence (.primitive (.wideInteger .wordPair))⟩,
            ⟨"to", .reference ".T"⟩]⟩,
          ⟨"", "p.Outer.", []⟩, ⟨"Inner", "p.Outer..Inner", []⟩,
          ⟨"Last", "p.Outer.Last", []⟩] } := by
  decide

end Listing

end SchemaInterfaces
