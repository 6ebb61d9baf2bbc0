import SchemaInterfaces.Proofs.Descriptor.Chains
import SchemaInterfaces.Proofs.Rendering.References

/-!
# Interface names

The interface of a message is named by its chain of names, joined by underscores. Chains are unique
in a file whose messages side by side have different names, but the joined names need not be: an
underscore inside a name reads like one between names. Two interfaces share a name exactly if two
messages side by side clash, that is, the name of one goes on, behind the name of the other and an
underscore, in the same way as a chain inside the other.
-/

namespace SchemaInterfaces

open Descriptor Text

namespace Descriptor

namespace Message

/-- Whether some chain inside `first` is joined to the same text as what is left of the name of
`second`, possibly with a chain inside `second` behind it. -/
def Clash (first second : Message) : Prop :=
  ∃ rest, second.nameText = first.nameText ++ "_" ++ rest ∧
    ∃ inner ∈ chains first.nested, ∃ outer ∈ [] :: chains second.nested,
      "_".intercalate inner = "_".intercalate (rest :: outer)

variable {messages : List Message}

/-- Joined names that start with the names of two messages, in the three ways to be equal. -/
theorem intercalate_cons_eq_cases {first second : String} {inner outer : List String}
    (h : "_".intercalate (first :: inner) = "_".intercalate (second :: outer)) :
    (first = second ∧ (inner = [] ↔ outer = []) ∧
      "_".intercalate inner = "_".intercalate outer) ∨
    (∃ rest, second = first ++ "_" ++ rest ∧ inner ≠ [] ∧
      "_".intercalate inner = "_".intercalate (rest :: outer)) ∨
    ∃ rest, first = second ++ "_" ++ rest ∧ outer ≠ [] ∧
      "_".intercalate outer = "_".intercalate (rest :: inner) := by
  have hlist : ['_'].intercalate (first.toList :: inner.map String.toList) =
      ['_'].intercalate (second.toList :: outer.map String.toList) := by
    simpa using congrArg String.toList h
  obtain ⟨hname, hnil, hjoined⟩ | ⟨rest, hname, hne, hjoined⟩ | ⟨rest, hname, hne, hjoined⟩ :=
    Text.intercalate_cons_eq_cases hlist
  · refine Or.inl ⟨String.toList_injective hname, by simpa using hnil, ?_⟩
    exact String.toList_injective (by simpa using hjoined)
  · refine Or.inr (Or.inl ⟨String.ofList rest, ?_, by simpa using hne, ?_⟩)
    · exact String.toList_injective (by simp [hname])
    · exact String.toList_injective (by simpa using hjoined)
  · refine Or.inr (Or.inr ⟨String.ofList rest, ?_, by simpa using hne, ?_⟩)
    · exact String.toList_injective (by simp [hname])
    · exact String.toList_injective (by simpa using hjoined)

/-- Of two clashing messages the second has the longer name, and both are the start of chains with
the same joined names. -/
theorem clash_iff {first second : Message} :
    first.Clash second ↔
      first.nameText.length < second.nameText.length ∧
        ∃ inner ∈ chains first.nested, ∃ outer ∈ [] :: chains second.nested,
          "_".intercalate (first.nameText :: inner) =
            "_".intercalate (second.nameText :: outer) := by
  have hunderscore : "_".length = 1 := rfl
  refine ⟨?_, ?_⟩
  · rintro ⟨rest, hname, inner, hinner, outer, houter, hjoined⟩
    refine ⟨?_, inner, hinner, outer, houter, ?_⟩
    · rw [hname, String.length_append, String.length_append]
      omega
    · rw [String.intercalate_cons_of_ne_nil (ne_nil_of_mem_chains hinner), hjoined, hname,
        ← String.intercalate_cons_append]
  · rintro ⟨hlength, inner, hinner, outer, houter, hjoined⟩
    obtain ⟨hname, -⟩ | ⟨rest, hname, -, hrest⟩ | ⟨rest, hname, -⟩ :=
      intercalate_cons_eq_cases hjoined
    · rw [hname] at hlength
      exact absurd hlength (Nat.lt_irrefl _)
    · exact ⟨rest, hname, inner, hinner, outer, houter, hrest⟩
    · rw [hname, String.length_append, String.length_append] at hlength
      omega

instance (first second : Message) : Decidable (first.Clash second) :=
  decidable_of_iff _ clash_iff.symm

/-- Without a clash, the joined names of a chain determine the chain. -/
theorem chain_eq_of_intercalate_eq
    (hdistinct : ∀ group ∈ groups messages, (group.map nameText).Nodup)
    (hclash : ∀ group ∈ groups messages, ∀ first ∈ group, ∀ second ∈ group,
      ¬ first.Clash second)
    {chain other : List String} (hchain : chain ∈ chains messages)
    (hother : other ∈ chains messages)
    (h : "_".intercalate chain = "_".intercalate other) : chain = other := by
  induction chain generalizing messages other with
  | nil => exact absurd rfl (ne_nil_of_mem_chains hchain)
  | cons name inner ih =>
      obtain ⟨first, hfirst, tail, hinner, heq⟩ := mem_chains.mp hchain
      obtain ⟨rfl, rfl⟩ := List.cons.inj heq
      obtain ⟨second, hsecond, outer, houter, rfl⟩ := mem_chains.mp hother
      have hhere : messages ∈ groups messages := List.mem_cons_self
      obtain ⟨hname, hnil, hjoined⟩ | ⟨rest, hname, hne, hjoined⟩ | ⟨rest, hname, hne, hjoined⟩ :=
        intercalate_cons_eq_cases h
      · -- equal names side by side belong to one message, and the chains part further inside
        obtain rfl := List.inj_on_of_nodup_map (hdistinct messages hhere) hfirst hsecond hname
        have hsub := groups_nested_subset hfirst
        rcases List.mem_cons.mp hinner with rfl | hinner
        · rw [hnil.mp rfl]
        · have houter := (List.mem_cons.mp houter).resolve_left fun hempty =>
            ne_nil_of_mem_chains hinner (hnil.mpr hempty)
          rw [ih (fun group hgroup => hdistinct group (hsub hgroup))
            (fun group hgroup => hclash group (hsub hgroup)) hinner houter hjoined]
      · have hinner := (List.mem_cons.mp hinner).resolve_left hne
        exact absurd ⟨rest, hname, inner, hinner, outer, houter, hjoined⟩
          (hclash messages hhere first hfirst second hsecond)
      · have houter := (List.mem_cons.mp houter).resolve_left hne
        exact absurd ⟨rest, hname, outer, houter, inner, hinner, hjoined⟩
          (hclash messages hhere second hsecond first hfirst)

/-- Clashing messages give two chains with the same joined names. -/
theorem Clash.exists_chains {group : List Message} (hgroup : group ∈ groups messages)
    {first second : Message} (hfirst : first ∈ group) (hsecond : second ∈ group)
    (hclash : first.Clash second) :
    ∃ chain ∈ chains messages, ∃ other ∈ chains messages, chain ≠ other ∧
      "_".intercalate chain = "_".intercalate other := by
  obtain ⟨hlength, inner, hinner, outer, houter, hjoined⟩ := clash_iff.mp hclash
  obtain ⟨above, habove⟩ := exists_above_of_mem_groups hgroup
  refine ⟨above ++ first.nameText :: inner,
    habove _ (mem_chains.mpr ⟨first, hfirst, inner, List.mem_cons_of_mem _ hinner, rfl⟩),
    above ++ second.nameText :: outer,
    habove _ (mem_chains.mpr ⟨second, hsecond, outer, houter, rfl⟩), ?_, ?_⟩
  · intro heq
    rw [(List.cons.inj (List.append_cancel_left heq)).1] at hlength
    exact Nat.lt_irrefl _ hlength
  · by_cases hnil : above = []
    · subst hnil
      exact hjoined
    · rw [String.intercalate_append_of_ne_nil hnil (by simp), hjoined,
        String.intercalate_append_of_ne_nil hnil (by simp)]

end Message

end Descriptor

namespace Listing

/-- The names of the interfaces of a listing, in order. -/
def interfaceNames (listing : Listing) : List String :=
  listing.definitions.map fun definition => Naming.flatten definition.path

theorem interfaceNames_ofFile (policy : WidePolicy) {file : File}
    (hnames : ∀ place ∈ file.places, isIdentifier place.message.nameText = true) :
    (ofFile policy file).interfaceNames =
      (Message.chains file.messages).map ("_".intercalate ·) := by
  rw [interfaceNames, definitions_ofFile, List.map_map, Message.chains, List.map_map]
  refine List.map_congr_left fun place hplace => ?_
  have hchain : ∀ name ∈ place.chain, isIdentifier name = true :=
    File.forall_mem_chain hnames hplace
  exact Naming.flatten_intercalate fun name hname =>
    isComponent_of_isIdentifier (hchain name hname)

/-- In a file whose messages have identifiers for names, different ones side by side, the names of
the interfaces are different exactly if no two messages side by side clash. -/
theorem nodup_interfaceNames_iff (policy : WidePolicy) (file : File)
    (hnames : ∀ place ∈ file.places, isIdentifier place.message.nameText = true)
    (hdistinct : ∀ group ∈ file.groups, (group.map Message.nameText).Nodup) :
    (ofFile policy file).interfaceNames.Nodup ↔
      ∀ group ∈ file.groups, ∀ first ∈ group, ∀ second ∈ group, ¬ first.Clash second := by
  rw [interfaceNames_ofFile policy hnames,
    List.nodup_map_iff_inj_on (Message.nodup_chains hdistinct)]
  refine ⟨?_, ?_⟩
  · intro hinj group hgroup first hfirst second hsecond hclash
    obtain ⟨chain, hchain, other, hother, hne, hjoined⟩ :=
      hclash.exists_chains hgroup hfirst hsecond
    exact hne (hinj chain hchain other hother hjoined)
  · intro hclash chain hchain other hother hjoined
    exact Message.chain_eq_of_intercalate_eq hdistinct hclash hchain hother hjoined

/-- A message `A_B` beside a message `A` that holds a message `B`. -/
def clashingFile : File where
  messages := [{ name := some "A_B" }, { name := some "A", nested := [{ name := some "B" }] }]

/-- Identifiers that differ side by side are not enough: the interface of `B` inside `A` has the
name of the interface of `A_B`. -/
theorem not_nodup_interfaceNames_clashingFile :
    (∀ place ∈ clashingFile.places, isIdentifier place.message.nameText = true) ∧
      (∀ group ∈ clashingFile.groups, (group.map Message.nameText).Nodup) ∧
      ¬ (ofFile .nativeNumeric clashingFile).interfaceNames.Nodup := by
  decide

/-- A message `A_B` beside a message `A` that holds a message `C`. -/
def clearFile : File where
  messages := [{ name := some "A_B" }, { name := some "A", nested := [{ name := some "C" }] }]

theorem nodup_interfaceNames_clearFile :
    (∀ place ∈ clearFile.places, isIdentifier place.message.nameText = true) ∧
      (∀ group ∈ clearFile.groups, (group.map Message.nameText).Nodup) ∧
      (ofFile .nativeNumeric clearFile).interfaceNames.Nodup := by
  have hnames : ∀ place ∈ clearFile.places, isIdentifier place.message.nameText = true := by
    decide
  have hdistinct : ∀ group ∈ clearFile.groups, (group.map Message.nameText).Nodup := by
    decide
  refine ⟨hnames, hdistinct, ?_⟩
  exact (nodup_interfaceNames_iff .nativeNumeric clearFile hnames hdistinct).mpr (by decide)

end Listing

end SchemaInterfaces
