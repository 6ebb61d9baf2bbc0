import SchemaInterfaces.Descriptor.Basic

/-!
# Places of messages

Every message of a tree stands at one place, below a chain of enclosing messages. The places are
listed in pre-order: a message comes right before the places inside it, and messages declared side
by side come in the order of their declaration. A place is known by its message and by the names
around it, so a listing of a tree is a statement about its places, one after the other.
-/

namespace SchemaInterfaces.Descriptor

/-- A message where it stands. -/
structure Place where
  /-- The names of the enclosing messages, the outermost first. -/
  around : List String
  message : Message

namespace Place

/-- The names on the way from the outermost enclosing message to the message itself. -/
def chain (place : Place) : List String :=
  place.around ++ [place.message.nameText]

/-- The place, seen from outside one more enclosing message. -/
def inside (name : String) (place : Place) : Place :=
  { place with around := name :: place.around }

@[simp] theorem message_inside (name : String) (place : Place) :
    (place.inside name).message = place.message := rfl

@[simp] theorem chain_inside (name : String) (place : Place) :
    (place.inside name).chain = name :: place.chain := rfl

@[simp] theorem chain_root (message : Message) :
    (Place.mk [] message).chain = [message.nameText] := rfl

theorem chain_ne_nil (place : Place) : place.chain ≠ [] := by
  simp [chain]

end Place

namespace Message

mutual

/-- The places of a tree of messages in pre-order, as seen from outside the tree. -/
def places : Message → List Place
  | message@⟨_, _, _, nested, _, _, _, _, _, _⟩ =>
    ⟨[], message⟩ :: (placesAmong nested).map (Place.inside message.nameText)

/-- The places of several trees, one tree after the other. -/
def placesAmong : List Message → List Place
  | [] => []
  | message :: others => places message ++ placesAmong others

end

theorem places_eq (message : Message) :
    message.places =
      ⟨[], message⟩ :: (placesAmong message.nested).map (Place.inside message.nameText) := by
  cases message
  rw [places]

theorem placesAmong_eq_flatMap (messages : List Message) :
    placesAmong messages = messages.flatMap places := by
  induction messages with
  | nil => rfl
  | cons message others ih => rw [placesAmong, ih, List.flatMap_cons]

theorem mem_placesAmong {place : Place} {messages : List Message} :
    place ∈ placesAmong messages ↔ ∃ message ∈ messages, place ∈ message.places := by
  rw [placesAmong_eq_flatMap, List.mem_flatMap]

mutual

/-- A tree has as many places as it has messages. -/
theorem length_places : ∀ message : Message, message.places.length = message.size
  | ⟨_, _, _, nested, _, _, _, _, _, _⟩ => by
      rw [places, size, List.length_cons, List.length_map, length_placesAmong nested,
        Nat.add_comm]

theorem length_placesAmong :
    ∀ messages : List Message, (placesAmong messages).length = totalSize messages
  | [] => rfl
  | message :: others => by
      rw [placesAmong, totalSize, List.length_append, length_places message,
        length_placesAmong others]

end

end Message

/-- The places of all messages of a schema file. -/
def File.places (file : File) : List Place :=
  Message.placesAmong file.messages

end SchemaInterfaces.Descriptor
