import SchemaInterfaces.Check.Basic
import SchemaInterfaces.Proofs.Rendering.References

/-!
# Names seen from inside a package

A file knows every name by its local components: a package that is a proper beginning of the name is
left out. References and interfaces share these names, so a reference into another package that is
spelled like the path of a message of the file reads as a reference to that message.
-/

namespace SchemaInterfaces

open Descriptor Text

namespace Naming

/-- Whether a package is a proper beginning of a name, and there is a package at all. -/
def IsInside (package names : List String) : Prop :=
  package ≠ [] ∧ package <+: names ∧ package ≠ names

instance (package names : List String) : Decidable (IsInside package names) :=
  inferInstanceAs (Decidable (_ ∧ _ ∧ _))

/-- The components by which a file of the given package knows a name. -/
def localComponents (package names : List String) : List String :=
  if IsInside package names then names.drop package.length else names

section

variable {package names chain : List String}

theorem IsInside.append (hpackage : package ≠ []) (hchain : chain ≠ []) :
    IsInside package (package ++ chain) :=
  ⟨hpackage, List.prefix_append _ _, by simpa using hchain⟩

theorem IsInside.exists_rest (hinside : IsInside package names) :
    ∃ rest, rest ≠ [] ∧ names = package ++ rest := by
  obtain ⟨-, ⟨rest, rfl⟩, hne⟩ := hinside
  refine ⟨rest, ?_, rfl⟩
  rintro rfl
  simp at hne

theorem localComponents_suffix : localComponents package names <:+ names := by
  unfold localComponents
  split
  · exact List.drop_suffix _ _
  · exact List.suffix_rfl

theorem localComponents_ne_nil (hne : names ≠ []) : localComponents package names ≠ [] := by
  unfold localComponents
  split
  next hinside =>
    obtain ⟨rest, hrest, rfl⟩ := hinside.exists_rest
    simpa using hrest
  next => exact hne

/-- A name is known by a chain in two ways: it is the chain inside the package, or it is the chain
and not inside the package. -/
theorem localComponents_eq_iff (hchain : chain ≠ []) :
    localComponents package names = chain ↔
      names = package ++ chain ∨ (names = chain ∧ ¬ IsInside package chain) := by
  constructor
  · intro hlocal
    unfold localComponents at hlocal
    split at hlocal
    next hinside =>
      obtain ⟨rest, -, rfl⟩ := hinside.exists_rest
      rw [List.drop_left] at hlocal
      exact Or.inl (by rw [hlocal])
    next houtside =>
      subst hlocal
      exact Or.inr ⟨rfl, houtside⟩
  · rintro (rfl | ⟨rfl, houtside⟩)
    · by_cases hpackage : package = []
      · subst hpackage
        exact if_neg fun hinside => hinside.1 rfl
      · rw [localComponents, if_pos (IsInside.append hpackage hchain), List.drop_left]
    · exact if_neg houtside

/-- A dot in front of a name says that it is a full one, and is not rendered. -/
theorem ofReference_dot (package name : String) :
    ofReference package ("." ++ name) = ofReference package name := by
  simp [ofReference, Text.Chars.dropDots]

/-- What a name is rendered as, whether or not it is written with a dot in front. -/
theorem ofReference_eq_localComponents (hpackage : ∀ name ∈ package, IsComponent name)
    (hnames : ∀ name ∈ names, IsComponent name) (hne : names ≠ []) :
    ofReference (".".intercalate package) (".".intercalate names) =
      "_".intercalate (localComponents package names) := by
  rw [← ofReference_dot, ofReference_intercalate hpackage hnames hne]
  rfl

/-- Without underscores in the components, a name is rendered as the identifier of a path exactly if
the file knows it by that path. -/
theorem ofReference_eq_flatten_iff (hpackage : ∀ name ∈ package, IsComponent name)
    (hnames : ∀ name ∈ names, IsComponent name) (hchain : ∀ name ∈ chain, IsComponent name)
    (hne : names ≠ []) (hchainNe : chain ≠ [])
    (hscores : ∀ name ∈ localComponents package names, '_' ∉ name.toList)
    (hchainScores : ∀ name ∈ chain, '_' ∉ name.toList) :
    ofReference (".".intercalate package) (".".intercalate names) =
        flatten (".".intercalate chain) ↔
      localComponents package names = chain := by
  rw [ofReference_eq_localComponents hpackage hnames hne, flatten_intercalate hchain]
  constructor
  · exact intercalate_inj_of_notMem rfl (localComponents_ne_nil hne) hchainNe hscores hchainScores
  · exact congrArg _

end

/-- Where no underscores stand in the names, a full name is rendered in a file as the name of one of
its interfaces in two cases only: it is the full name of the message, or it lies outside the package
of the file and is spelled like the path of the message in the file. -/
theorem ofShape_eq_interface_iff (policy : WidePolicy) (file : File) (package names : List String)
    (place : Place) (htext : file.packageText = ".".intercalate package)
    (hpackage : ∀ name ∈ package, IsComponent name) (hplace : place ∈ file.places)
    (hchain : ∀ name ∈ place.chain, IsComponent name ∧ '_' ∉ name.toList)
    (hnames : ∀ name ∈ names, IsComponent name) (hne : names ≠ [])
    (hscores : ∀ name ∈ localComponents package names, '_' ∉ name.toList) :
    place.definition policy none ∈ (Listing.ofFile policy file).definitions ∧
      (ofShape (Listing.ofFile policy file).package (.reference ("." ++ ".".intercalate names)) =
          flatten (place.definition policy none).path ↔
        ".".intercalate names =
            Check.qualify file.packageText (place.definition policy none).path ∨
          (".".intercalate names = (place.definition policy none).path ∧
            ¬ IsInside package names)) := by
  have hcomponents : ∀ name ∈ place.chain, IsComponent name := fun name hname =>
    (hchain name hname).1
  have hjoined {others : List String} (hothers : ∀ name ∈ others, IsComponent name)
      (hothersNe : others ≠ []) :
      ".".intercalate names = ".".intercalate others ↔ names = others := by
    refine ⟨fun h => ?_, congrArg _⟩
    exact intercalate_inj_of_notMem rfl hne hothersNe
      (fun name hname => (hnames name hname).dot_notMem)
      (fun name hname => (hothers name hname).dot_notMem) h
  have hfull : ∀ name ∈ package ++ place.chain, IsComponent name :=
    List.forall_mem_append.mpr ⟨hpackage, hcomponents⟩
  refine ⟨?_, ?_⟩
  · rw [Listing.definitions_ofFile]
    exact List.mem_map_of_mem hplace
  · have hpath : (place.definition policy none).path = ".".intercalate place.chain := rfl
    rw [Listing.ofFile_eq, hpath, htext, qualify_intercalate hpackage place.chain_ne_nil,
      hjoined hfull (by simp [place.chain_ne_nil]), hjoined hcomponents place.chain_ne_nil]
    change ofReference (".".intercalate package) _ = _ ↔ _
    rw [ofReference_dot, ofReference_eq_flatten_iff hpackage hnames hcomponents hne
      place.chain_ne_nil hscores fun name hname => (hchain name hname).2,
      localComponents_eq_iff place.chain_ne_nil]
    refine or_congr_right (and_congr_right ?_)
    rintro rfl
    rfl

/-- A file of the package `shop` with a message `other.Thing`, and a field of the type `Thing` of
the package `other`. -/
def shopFile : File where
  name := some "shop.proto"
  package := some "shop"
  dependencies := ["other.proto"]
  messages :=
    [{ name := some "other", nested := [{ name := some "Thing" }] },
      { name := some "Holder"
        fields := [{ name := some "x", number := some 1, label := some 1, kind := some 11,
                     typeName := some ".other.Thing" }] }]

def otherFile : File where
  name := some "other.proto"
  package := some "other"
  messages := [{ name := some "Thing" }]

/-- The place of the message `other.Thing` of `shopFile`. -/
def shopPlace : Place :=
  ⟨["other"], { name := some "Thing" }⟩

theorem shopPlace_mem : shopPlace ∈ shopFile.places :=
  List.mem_of_getElem? (show (shopFile.places)[1]? = some shopPlace from rfl)

/-- The type of the other package is rendered as the name of the message in `shop`, although both
files make up a schema, the names are plain identifiers and the full names differ. -/
theorem ofShape_foreign_shopFile :
    Check.checkFiles [otherFile, shopFile] = .ok () ∧
      shopPlace ∈ shopFile.places ∧
      (∀ name ∈ ["shop", "other", "Thing"], isIdentifier name = true ∧ '_' ∉ name.toList) ∧
      ofShape (Listing.ofFile .nativeNumeric shopFile).package (.reference ".other.Thing") =
        flatten (shopPlace.definition .nativeNumeric none).path ∧
      "other.Thing" ≠
        Check.qualify shopFile.packageText (shopPlace.definition .nativeNumeric none).path := by
  exact ⟨rfl, shopPlace_mem, by decide, by decide, by decide⟩

/-- The full name of the message in `shop` is rendered as the name of its interface. -/
theorem ofShape_eq_interface_shopFile :
    shopFile.packageText = ".".intercalate ["shop"] ∧
      (∀ name ∈ ["shop"], IsComponent name) ∧
      shopPlace ∈ shopFile.places ∧
      (∀ name ∈ shopPlace.chain, IsComponent name ∧ '_' ∉ name.toList) ∧
      (∀ name ∈ ["shop", "other", "Thing"], IsComponent name) ∧
      ["shop", "other", "Thing"] ≠ [] ∧
      (∀ name ∈ localComponents ["shop"] ["shop", "other", "Thing"], '_' ∉ name.toList) ∧
      ofShape (Listing.ofFile .nativeNumeric shopFile).package
          (.reference ("." ++ ".".intercalate ["shop", "other", "Thing"])) =
        flatten (shopPlace.definition .nativeNumeric none).path := by
  have htext : shopFile.packageText = ".".intercalate ["shop"] := by decide
  have hpackage : ∀ name ∈ ["shop"], IsComponent name := by decide
  have hchain : ∀ name ∈ shopPlace.chain, IsComponent name ∧ '_' ∉ name.toList := by decide
  have hnames : ∀ name ∈ ["shop", "other", "Thing"], IsComponent name := by decide
  have hscores : ∀ name ∈ localComponents ["shop"] ["shop", "other", "Thing"],
      '_' ∉ name.toList := by decide
  refine ⟨htext, hpackage, shopPlace_mem, hchain, hnames, by decide, hscores, ?_⟩
  exact (ofShape_eq_interface_iff .nativeNumeric shopFile ["shop"] ["shop", "other", "Thing"]
    shopPlace htext hpackage shopPlace_mem hchain hnames (by decide) hscores).2.mpr
      (Or.inl (by decide))

end Naming

end SchemaInterfaces
