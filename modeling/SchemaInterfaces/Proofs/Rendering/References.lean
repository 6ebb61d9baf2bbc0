import Mathlib.Logic.Function.Iterate
import SchemaInterfaces.Check.Symbols
import SchemaInterfaces.Proofs.Listing.Preorder
import SchemaInterfaces.Proofs.Rendering.Lines
import SchemaInterfaces.Proofs.Text.Identifier

/-!
# References by component

References are rendered character by character, but what comes out is a law on the components of
names: a package that is a proper beginning of the referenced name is taken off, component by
component, and the rest is joined by underscores. A message is referred to by the package of its
file and its chain of names, so such a reference is rendered as the name of the interface itself.
-/

namespace SchemaInterfaces.Naming

open Descriptor Text

namespace Chars

variable {parts : List (List Char)}

/-- Joined components have no dot in front, so there is nothing to drop. -/
theorem dropDots_intercalate (hparts : ∀ part ∈ parts, part ≠ [] ∧ '.' ∉ part) :
    Text.Chars.dropDots (['.'].intercalate parts) = ['.'].intercalate parts := by
  cases parts with
  | nil => rfl
  | cons part rest =>
      obtain ⟨hne, hfree⟩ := hparts part List.mem_cons_self
      obtain ⟨c, tail, rfl⟩ := List.exists_cons_of_ne_nil hne
      have hc : c ≠ '.' := fun h => hfree (h ▸ List.mem_cons_self)
      rw [List.intercalate_cons_cons_left, Text.Chars.dropDots,
        List.dropWhile_cons_of_neg (by simpa using hc)]

theorem flatten_intercalate (hparts : ∀ part ∈ parts, part ≠ [] ∧ '.' ∉ part) :
    flatten (['.'].intercalate parts) = ['_'].intercalate parts := by
  rw [flatten, dropDots_intercalate hparts]
  induction parts with
  | nil => rfl
  | cons part rest ih =>
      have hkeep : part.map (fun c => if c = '.' then '_' else c) = part := by
        refine (List.map_congr_left fun c hc => ?_).trans (List.map_id part)
        have hdot : c ≠ '.' := fun h => (hparts part List.mem_cons_self).2 (h ▸ hc)
        simp [hdot]
      have hrest := ih fun other hother => hparts other (List.mem_cons_of_mem _ hother)
      by_cases hnil : rest = []
      · subst hnil
        simpa using hkeep
      · rw [List.intercalate_cons_of_ne_nil hnil, List.intercalate_cons_of_ne_nil hnil,
          List.map_append, List.map_append, hkeep, hrest]
        rfl

/-- A package is taken off a name exactly if its components are the first of more components. -/
theorem localPart_intercalate {package name : List (List Char)}
    (hpackage : ∀ part ∈ package, part ≠ [] ∧ '.' ∉ part)
    (hname : ∀ part ∈ name, part ≠ [] ∧ '.' ∉ part) (hne : name ≠ []) :
    localPart (['.'].intercalate package) (['.'].intercalate name) =
      ['.'].intercalate
        (if package ≠ [] ∧ package <+: name ∧ package ≠ name then name.drop package.length
          else name) := by
  by_cases hnil : package = []
  · subst hnil
    simp
  have hempty : ['.'].intercalate package ≠ [] :=
    Text.intercalate_ne_nil hnil fun part hpart => (hpackage part hpart).1
  have hfree : ∀ part ∈ package, '.' ∉ part := fun part hpart => (hpackage part hpart).2
  split
  next hinside =>
    obtain ⟨others, rfl⟩ := hinside.2.1
    have hothers : others ≠ [] := fun h => hinside.2.2 (by simp [h])
    rw [Text.intercalate_append_of_ne_nil hnil hothers, localPart_append hempty,
      List.drop_left]
  next houtside =>
    rw [localPart, if_neg (by simpa using hempty), if_neg]
    intro hprefix
    obtain ⟨rest, hrest⟩ := List.isPrefixOf_iff_prefix.mp hprefix
    rw [List.append_assoc, List.singleton_append] at hrest
    -- reading both sides back into components puts the package in front of the name
    have hparts : package ++ Text.Chars.partsAt '.' rest = name := by
      rw [← Text.Chars.partsAt_intercalate_append hnil hfree rest, hrest,
        Text.Chars.partsAt_intercalate hne fun part hpart => (hname part hpart).2]
    refine houtside ⟨hnil, ⟨_, hparts⟩, ?_⟩
    rintro rfl
    exact Text.Chars.partsAt_ne_nil '.' rest (List.append_right_eq_self.mp hparts)

end Chars

theorem components_toList {names : List String} (hnames : ∀ name ∈ names, IsComponent name) :
    ∀ part ∈ names.map String.toList, part ≠ [] ∧ '.' ∉ part := by
  intro part hpart
  obtain ⟨name, hname, rfl⟩ := List.mem_map.mp hpart
  exact ⟨fun h => (hnames name hname).ne_empty (String.toList_eq_nil_iff.mp h),
    (hnames name hname).dot_notMem⟩

/-- The identifier of a dotted name joins its components by underscores. -/
theorem flatten_intercalate {names : List String} (hnames : ∀ name ∈ names, IsComponent name) :
    flatten (".".intercalate names) = "_".intercalate names := by
  apply String.toList_inj.mp
  rw [flatten, String.toList_ofList, String.toList_intercalate, String.toList_intercalate]
  exact Chars.flatten_intercalate (components_toList hnames)

/-- What a full name is rendered as, in components of the package and of the name. -/
theorem ofReference_intercalate {package names : List String}
    (hpackage : ∀ name ∈ package, IsComponent name) (hnames : ∀ name ∈ names, IsComponent name)
    (hne : names ≠ []) :
    ofReference (".".intercalate package) ("." ++ ".".intercalate names) =
      "_".intercalate
        (if package ≠ [] ∧ package <+: names ∧ package ≠ names then names.drop package.length
          else names) := by
  have hparts := components_toList hnames
  have htarget : Text.Chars.dropDots ("." ++ ".".intercalate names).toList =
      ['.'].intercalate (names.map String.toList) := by
    rw [String.toList_append, String.toList_intercalate]
    exact Chars.dropDots_intercalate hparts
  have hempty : ['.'].intercalate (names.map String.toList) ≠ [] :=
    Text.intercalate_ne_nil (by simpa using hne) fun part hpart => (hparts part hpart).1
  have hinj : Function.Injective String.toList := fun _ _ => String.toList_injective
  have hinside : (package.map String.toList ≠ [] ∧
        package.map String.toList <+: names.map String.toList ∧
        package.map String.toList ≠ names.map String.toList) ↔
      (package ≠ [] ∧ package <+: names ∧ package ≠ names) := by
    rw [List.prefix_map_iff_of_injective hinj]
    simp [List.map_inj_right hinj]
  have hlocal := Chars.localPart_intercalate (components_toList hpackage) hparts
    (by simpa using hne)
  simp only [hinside, List.length_map, ← List.map_drop, ← apply_ite (List.map String.toList)]
    at hlocal
  apply String.toList_inj.mp
  rw [ofReference, htarget, if_neg (by simpa using hempty), String.toList_ofList,
    String.toList_intercalate, String.toList_intercalate]
  change Chars.flatten (Chars.localPart (['.'].intercalate _) _) = _
  rw [hlocal]
  refine Chars.flatten_intercalate (components_toList fun name hname => hnames name ?_)
  split at hname
  · exact List.mem_of_mem_drop hname
  · exact hname

/-- Every sequence around a shape puts one more array around what is rendered. -/
theorem ofShape_iterate_sequence (package : String) (shape : Shape) (depth : Nat) :
    ofShape package (Shape.sequence^[depth] shape) =
      (fun text => "Array<" ++ text ++ ">")^[depth] (ofShape package shape) := by
  induction depth with
  | zero => rfl
  | succ depth ih =>
      rw [Function.iterate_succ_apply', Function.iterate_succ_apply', ← ih]
      rfl

theorem intercalate_ne_empty {names : List String} (hne : names ≠ [])
    (hnames : ∀ name ∈ names, IsComponent name) : ".".intercalate names ≠ "" := by
  intro h
  have hlist := congrArg String.toList h
  rw [String.toList_intercalate] at hlist
  exact Text.intercalate_ne_nil (by simpa using hne)
    (fun part hpart => (components_toList hnames part hpart).1) hlist

/-- The full name of a message in components: those of the package, then the chain. -/
theorem qualify_intercalate {package chain : List String}
    (hpackage : ∀ name ∈ package, IsComponent name) (hchain : chain ≠ []) :
    Check.qualify (".".intercalate package) (".".intercalate chain) =
      ".".intercalate (package ++ chain) := by
  by_cases hnil : package = []
  · subst hnil
    rfl
  · have hne := intercalate_ne_empty hnil hpackage
    rw [Check.qualify, if_neg (by simpa using hne),
      String.intercalate_append_of_ne_nil hnil hchain]

/-- References and definitions agree, component by component: under a package, a full name keeps
the components that follow the package if the package is a non-empty, proper beginning of it, and
all its components otherwise, joined by underscores. So a message of a file, at any depth, is
referred to in that file by the very name that its interface is given in the text of the file, with
one array for each sequence around the reference. -/
theorem ofShape_reference_components :
    (∀ package names : List String, (∀ name ∈ package, IsComponent name) →
      (∀ name ∈ names, IsComponent name) → names ≠ [] →
      ofShape (".".intercalate package) (.reference ("." ++ ".".intercalate names)) =
        "_".intercalate
          (if package ≠ [] ∧ package <+: names ∧ package ≠ names then names.drop package.length
            else names)) ∧
    ∀ (policy : WidePolicy) (file : File) (package : List String),
      file.packageText = ".".intercalate package → (∀ name ∈ package, IsComponent name) →
      ∀ place ∈ file.places, (∀ name ∈ place.chain, IsComponent name) →
        place.definition policy none ∈ (Listing.ofFile policy file).definitions ∧
        (∃ before after, Rendering.content (Listing.ofFile policy file) =
          before ++
            Text.ofLines
              ("" ::
                ("export interface " ++ flatten (place.definition policy none).path ++ " \x7b") ::
                (place.definition policy none).members.map
                  (Rendering.memberLine (Listing.ofFile policy file).package) ++ ["\x7d"]) ++
            after) ∧
        ∀ depth : Nat,
          ofShape (Listing.ofFile policy file).package
              (Shape.sequence^[depth] (.reference
                ("." ++ Check.qualify file.packageText (place.definition policy none).path))) =
            (fun text => "Array<" ++ text ++ ">")^[depth]
              (flatten (place.definition policy none).path) := by
  refine ⟨fun package names hpackage hnames hne => ofReference_intercalate hpackage hnames hne, ?_⟩
  intro policy file package htext hpackage place hplace hchain
  have hmem : place.definition policy none ∈ (Listing.ofFile policy file).definitions := by
    rw [Listing.definitions_ofFile]
    exact List.mem_map_of_mem hplace
  refine ⟨hmem, Rendering.exists_content_eq_of_mem hmem, fun depth => ?_⟩
  have hpath : (place.definition policy none).path = ".".intercalate place.chain := rfl
  have hfull : ∀ name ∈ package ++ place.chain, IsComponent name := fun name hname =>
    (List.mem_append.mp hname).elim (hpackage name) (hchain name)
  rw [Listing.ofFile_eq, ofShape_iterate_sequence, hpath, htext,
    qualify_intercalate hpackage place.chain_ne_nil, flatten_intercalate hchain]
  congr 1
  change ofReference _ _ = _
  rw [ofReference_intercalate hpackage hfull (by simp [place.chain_ne_nil])]
  -- the full name begins with the package and goes on with the chain
  by_cases hnil : package = []
  · simp [hnil]
  · rw [if_pos ⟨hnil, List.prefix_append _ _, by simp [place.chain_ne_nil]⟩, List.drop_left]

/-- A file with one message inside another one, in a package of two components. -/
def nestedFile : File where
  package := some "shop.v1"
  messages := [{ name := some "Outer", nested := [{ name := some "Inner" }] }]

/-- The place of the inner message of `nestedFile`. -/
def nestedPlace : Place :=
  ⟨["Outer"], { name := some "Inner" }⟩

/-- The inner message is referred to by its interface's name, and a sequence of it by an array. -/
theorem ofShape_reference_nestedFile :
    ((∀ name ∈ ["shop", "v1"], IsComponent name) ∧
      (∀ name ∈ ["shop", "v1", "Outer", "Inner"], IsComponent name) ∧
      ["shop", "v1", "Outer", "Inner"] ≠ [] ∧
      ofShape (".".intercalate ["shop", "v1"])
        (.reference ("." ++ ".".intercalate ["shop", "v1", "Outer", "Inner"])) = "Outer_Inner") ∧
    nestedFile.packageText = ".".intercalate ["shop", "v1"] ∧
    nestedPlace ∈ nestedFile.places ∧
    (∀ name ∈ nestedPlace.chain, IsComponent name) ∧
    (∃ before after, Rendering.content (Listing.ofFile .nativeNumeric nestedFile) =
      before ++ "\nexport interface Outer_Inner \x7b\n\x7d\n" ++ after) ∧
    ofShape (Listing.ofFile .nativeNumeric nestedFile).package
      (.sequence (.reference ("." ++ Check.qualify nestedFile.packageText
        (nestedPlace.definition .nativeNumeric none).path))) = "Array<Outer_Inner>" := by
  have hpackage : ∀ name ∈ ["shop", "v1"], IsComponent name := by decide
  have htext : nestedFile.packageText = ".".intercalate ["shop", "v1"] := by decide
  have hplace : nestedPlace ∈ nestedFile.places := List.mem_cons_of_mem _ List.mem_cons_self
  have hchain : ∀ name ∈ nestedPlace.chain, IsComponent name := by decide
  obtain ⟨-, ⟨before, after, hcontent⟩, hreference⟩ :=
    ofShape_reference_components.2 .nativeNumeric nestedFile ["shop", "v1"] htext hpackage
      nestedPlace hplace hchain
  refine ⟨⟨hpackage, by decide, by decide, ?_⟩, htext, hplace, hchain, ⟨before, after, ?_⟩, ?_⟩
  · exact (ofShape_reference_components.1 ["shop", "v1"] ["shop", "v1", "Outer", "Inner"]
      hpackage (by decide) (by decide)).trans (by decide)
  · exact hcontent.trans (congrArg (before ++ · ++ after) (by decide))
  · exact (hreference 1).trans (by decide)

end SchemaInterfaces.Naming
