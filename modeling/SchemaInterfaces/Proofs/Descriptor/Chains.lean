import Mathlib.Data.List.Nodup
import SchemaInterfaces.Proofs.Descriptor.Places

/-!
# Chains of names

A message is reached by the names of the messages around it and its own. When messages declared
side by side have different names, at every level, no chain leads to two messages, whatever names
are used again at other levels.
-/

namespace SchemaInterfaces.Descriptor.Message

/-- What holds of a message as soon as it holds of the messages declared in it holds of all. -/
theorem induction_on_nested {motive : Message → Prop}
    (step : ∀ message : Message, (∀ inner ∈ message.nested, motive inner) → motive message)
    (message : Message) : motive message :=
  step message fun inner _ => induction_on_nested step inner
termination_by sizeOf message
decreasing_by
  -- a message is smaller than the one that declares it
  cases message
  have := List.sizeOf_lt_of_mem ‹inner ∈ _›
  simp only [Message.mk.sizeOf_spec] at this ⊢
  omega

theorem mem_places {place : Place} {message : Message} :
    place ∈ message.places ↔
      place = ⟨[], message⟩ ∨
        ∃ inner ∈ message.nested, ∃ lower ∈ inner.places,
          place = lower.inside message.nameText := by
  rw [places_eq, List.mem_cons, List.mem_map]
  refine or_congr_right ⟨?_, ?_⟩
  · rintro ⟨lower, hlower, rfl⟩
    obtain ⟨inner, hinner, hmem⟩ := mem_placesAmong.mp hlower
    exact ⟨inner, hinner, lower, hmem, rfl⟩
  · rintro ⟨inner, hinner, lower, hmem, rfl⟩
    exact ⟨lower, mem_placesAmong.mpr ⟨inner, hinner, hmem⟩, rfl⟩

/-- Every name in a chain is the name of a message of the tree. -/
theorem exists_place_of_mem_chain (message : Message) :
    ∀ place ∈ message.places, ∀ name ∈ place.chain,
      ∃ other ∈ message.places, other.message.nameText = name := by
  induction message using induction_on_nested with
  | step message ih =>
      intro place hplace name hname
      have hroot : ⟨[], message⟩ ∈ message.places := mem_places.mpr (Or.inl rfl)
      obtain rfl | ⟨inner, hinner, lower, hlower, rfl⟩ := mem_places.mp hplace
      · exact ⟨_, hroot, (List.mem_singleton.mp hname).symm⟩
      · rcases List.mem_cons.mp hname with rfl | hname
        · exact ⟨_, hroot, rfl⟩
        · obtain ⟨other, hother, rfl⟩ := ih inner hinner lower hlower name hname
          exact ⟨other.inside message.nameText,
            mem_places.mpr (Or.inr ⟨inner, hinner, other, hother, rfl⟩), rfl⟩

/-- The chains of names that lead to the messages of several trees, in pre-order. -/
def chains (messages : List Message) : List (List String) :=
  (placesAmong messages).map Place.chain

/-- The messages declared side by side: the given ones, and those in each message. -/
def groups (messages : List Message) : List (List Message) :=
  messages :: (placesAmong messages).map fun place => place.message.nested

theorem chains_eq_flatMap (messages : List Message) :
    chains messages = messages.flatMap fun message => message.places.map Place.chain := by
  rw [chains, placesAmong_eq_flatMap, List.map_flatMap]

theorem map_chain_places (message : Message) :
    message.places.map Place.chain =
      [message.nameText] :: (chains message.nested).map (message.nameText :: ·) := by
  rw [places_eq, List.map_cons, chains, List.map_map, List.map_map]
  rfl

/-- Every chain in a tree starts with the name of its outermost message. -/
theorem exists_eq_cons_of_mem_map_chain {message : Message} {chain : List String}
    (hchain : chain ∈ message.places.map Place.chain) :
    ∃ inner, chain = message.nameText :: inner := by
  rw [map_chain_places] at hchain
  rcases List.mem_cons.mp hchain with rfl | hchain
  · exact ⟨[], rfl⟩
  · obtain ⟨inner, -, rfl⟩ := List.mem_map.mp hchain
    exact ⟨inner, rfl⟩

/-- A chain starts with one of the outermost messages and goes on inside it, if at all. -/
theorem mem_chains {messages : List Message} {chain : List String} :
    chain ∈ chains messages ↔
      ∃ message ∈ messages, ∃ inner ∈ [] :: chains message.nested,
        chain = message.nameText :: inner := by
  simp only [chains_eq_flatMap messages, List.mem_flatMap, map_chain_places, List.mem_cons,
    List.mem_map]
  refine exists_congr fun message => and_congr_right fun _ => ⟨?_, ?_⟩
  · rintro (rfl | ⟨inner, hinner, rfl⟩)
    · exact ⟨[], Or.inl rfl, rfl⟩
    · exact ⟨inner, Or.inr hinner, rfl⟩
  · rintro ⟨inner, rfl | hinner, rfl⟩
    · exact Or.inl rfl
    · exact Or.inr ⟨inner, hinner, rfl⟩

theorem ne_nil_of_mem_chains {messages : List Message} {chain : List String}
    (hchain : chain ∈ chains messages) : chain ≠ [] := by
  obtain ⟨message, -, inner, -, rfl⟩ := mem_chains.mp hchain
  simp

theorem groups_nested_subset {messages : List Message} {message : Message}
    (hmessage : message ∈ messages) : groups message.nested ⊆ groups messages := by
  intro group hgroup
  refine List.mem_cons_of_mem _ (List.mem_map.mpr ?_)
  rcases List.mem_cons.mp hgroup with rfl | hgroup
  · exact ⟨⟨[], message⟩,
      mem_placesAmong.mpr ⟨message, hmessage, mem_places.mpr (Or.inl rfl)⟩, rfl⟩
  · obtain ⟨lower, hlower, rfl⟩ := List.mem_map.mp hgroup
    obtain ⟨inner, hinner, hmem⟩ := mem_placesAmong.mp hlower
    exact ⟨lower.inside message.nameText, mem_placesAmong.mpr ⟨message, hmessage,
      mem_places.mpr (Or.inr ⟨inner, hinner, lower, hmem, rfl⟩)⟩, rfl⟩

section

variable {messages : List Message}

/-- Trees side by side have no chain in common, because their chains start differently. -/
theorem nodup_chains_of_trees (hnames : (messages.map nameText).Nodup)
    (htrees : ∀ message ∈ messages, (message.places.map Place.chain).Nodup) :
    (chains messages).Nodup := by
  rw [chains_eq_flatMap, List.nodup_flatMap]
  refine ⟨htrees, (List.pairwise_map.mp hnames).imp ?_⟩
  intro first second hne chain hfirst hsecond
  obtain ⟨inner, rfl⟩ := exists_eq_cons_of_mem_map_chain hfirst
  obtain ⟨other, hother⟩ := exists_eq_cons_of_mem_map_chain hsecond
  exact hne (List.cons.inj hother).1

theorem nodup_map_chain_places (message : Message) :
    (∀ group ∈ groups message.nested, (group.map nameText).Nodup) →
      (message.places.map Place.chain).Nodup := by
  induction message using induction_on_nested with
  | step message ih =>
      intro hdistinct
      have hnested : (chains message.nested).Nodup := by
        refine nodup_chains_of_trees (hdistinct _ List.mem_cons_self) fun inner hinner => ?_
        exact ih inner hinner fun group hgroup =>
          hdistinct group (groups_nested_subset hinner hgroup)
      rw [map_chain_places, List.nodup_cons]
      -- the chain of the message itself ends at once, and no chain inside it is empty
      refine ⟨?_, hnested.map (List.cons_injective)⟩
      simp only [List.mem_map, List.cons.injEq, true_and, not_exists, not_and]
      exact fun chain hchain => ne_nil_of_mem_chains hchain

/-- No chain leads to two messages if the names side by side differ at every level. -/
theorem nodup_chains (hdistinct : ∀ group ∈ groups messages, (group.map nameText).Nodup) :
    (chains messages).Nodup :=
  nodup_chains_of_trees (hdistinct _ List.mem_cons_self) fun message hmessage =>
    nodup_map_chain_places message fun group hgroup =>
      hdistinct group (groups_nested_subset hmessage hgroup)

/-- What stands inside a message is reached through the message. -/
theorem append_mem_map_chain (message : Message) :
    ∀ place ∈ message.places, ∀ chain ∈ chains place.message.nested,
      place.chain ++ chain ∈ message.places.map Place.chain := by
  induction message using induction_on_nested with
  | step message ih =>
      intro place hplace chain hchain
      rw [map_chain_places]
      obtain rfl | ⟨inner, hinner, lower, hlower, rfl⟩ := mem_places.mp hplace
      · exact List.mem_cons_of_mem _ (List.mem_map_of_mem hchain)
      · refine List.mem_cons_of_mem _ (List.mem_map.mpr ⟨lower.chain ++ chain, ?_, rfl⟩)
        rw [chains_eq_flatMap]
        exact List.mem_flatMap.mpr ⟨inner, hinner, ih inner hinner lower hlower chain hchain⟩

/-- Messages declared side by side share the chain of names that leads to them. -/
theorem exists_above_of_mem_groups {group : List Message} (hgroup : group ∈ groups messages) :
    ∃ above, ∀ chain ∈ chains group, above ++ chain ∈ chains messages := by
  rcases List.mem_cons.mp hgroup with rfl | hgroup
  · exact ⟨[], fun _ hchain => hchain⟩
  · obtain ⟨place, hplace, rfl⟩ := List.mem_map.mp hgroup
    obtain ⟨message, hmessage, hmem⟩ := mem_placesAmong.mp hplace
    refine ⟨place.chain, fun chain hchain => ?_⟩
    rw [chains_eq_flatMap messages]
    exact List.mem_flatMap.mpr
      ⟨message, hmessage, append_mem_map_chain message place hmem chain hchain⟩

end

end SchemaInterfaces.Descriptor.Message

namespace SchemaInterfaces.Descriptor.File

/-- The messages of a file declared side by side, at every level. -/
def groups (file : File) : List (List Message) :=
  Message.groups file.messages

/-- What holds of the names of all messages holds of the names in all chains. -/
theorem forall_mem_chain {file : File} {property : String → Prop}
    (hnames : ∀ place ∈ file.places, property place.message.nameText) {place : Place}
    (hplace : place ∈ file.places) : ∀ name ∈ place.chain, property name := by
  intro name hname
  obtain ⟨message, hmessage, hmem⟩ := Message.mem_placesAmong.mp hplace
  obtain ⟨other, hother, rfl⟩ := Message.exists_place_of_mem_chain message place hmem name hname
  exact hnames other (Message.mem_placesAmong.mpr ⟨message, hmessage, hother⟩)

/-- No two places of a file have the same chain if the names side by side differ at every level. -/
theorem nodup_map_chain {file : File}
    (hdistinct : ∀ group ∈ file.groups, (group.map Message.nameText).Nodup) :
    (file.places.map Place.chain).Nodup :=
  Message.nodup_chains hdistinct

end SchemaInterfaces.Descriptor.File
