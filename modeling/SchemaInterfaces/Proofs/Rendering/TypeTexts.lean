import SchemaInterfaces.Listing.Assembly
import SchemaInterfaces.Proofs.Rendering.Legible

/-!
# Texts that stand for types

What is rendered for a shape is a type: one of a few words, a name, or an array of a type. The one
thing that can go wrong is a reference to the package itself with dots behind it. It passes for a
name inside the package, and nothing is left of it once the package is taken off.
-/

namespace SchemaInterfaces

namespace Naming

open Text

/-- The words that stand for types without being names. -/
def typeWords : List String :=
  ["number", "bigint", "[number, number]", "boolean", "string", "Uint8Array", "unknown"]

/-- Whether a character is an ASCII letter or an underscore. -/
def isNameChar (c : Char) : Bool :=
  c.isAlpha || c == '_'

/-- The texts that are types. -/
inductive IsType : String → Prop where
  | word {text : String} : text ∈ typeWords → IsType text
  | name {text : String} : text ≠ "" → (∀ c ∈ text.toList, isNameChar c = true) → IsType text
  | array {item : String} : IsType item → IsType ("Array<" ++ item ++ ">")

/-- A text of letters, underscores and dots, in any arrangement. -/
def IsLoose (s : String) : Prop :=
  ∀ c ∈ s.toList, isNameChar c = true ∨ c = '.'

instance (s : String) : Decidable (IsLoose s) :=
  decidable_of_iff (s.toList.all fun c => isNameChar c || c == '.') (by simp [IsLoose])

/-- That a reference is to the package itself, with dots behind it and perhaps in front. -/
def Vanishes (package name : String) : Prop :=
  package ≠ "" ∧ package.toList.head? ≠ some '.' ∧
    ∃ front back, name.toList = front ++ package.toList ++ '.' :: back ∧
      (∀ dot ∈ front, dot = '.') ∧ ∀ dot ∈ back, dot = '.'

theorem IsType.ne_empty {text : String} (h : IsType text) : text ≠ "" := by
  cases h with
  | word hword =>
      rintro rfl
      revert hword
      decide
  | name hne _ => exact hne
  | array _ => simp

/-- Arrays of types are the only types with an angle bracket. -/
theorem isType_array_iff {item : String} : IsType ("Array<" ++ item ++ ">") ↔ IsType item := by
  refine ⟨?_, .array⟩
  intro h
  generalize htext : "Array<" ++ item ++ ">" = text at h
  have hbracket : '<' ∈ text.toList := by
    simp [← htext]
  cases h with
  | word hword =>
      have hwords : ∀ word ∈ typeWords, '<' ∉ word.toList := by decide
      exact absurd hbracket (hwords _ hword)
  | name _ hchars => cases hchars '<' hbracket
  | @array other hother =>
      have hitem : item = other := by
        simpa [← String.toList_inj] using htext
      rwa [hitem]

namespace Chars

theorem flatten_eq_nil_iff {s : List Char} : flatten s = [] ↔ ∀ c ∈ s, c = '.' := by
  rw [flatten, List.map_eq_nil_iff, Text.Chars.dropDots_eq_nil_iff]

/-- Nothing but dots is left of a name that does not begin with a dot only if it is the package with
dots behind it. -/
theorem forall_mem_localPart_iff {package rest : List Char} {c : Char} (hc : c ≠ '.') :
    (∀ dot ∈ localPart package (c :: rest), dot = '.') ↔
      package ≠ [] ∧ ∃ back, c :: rest = package ++ '.' :: back ∧ ∀ dot ∈ back, dot = '.' := by
  constructor
  · intro hdots
    -- The name begins with a character that is left unless the package is taken off.
    unfold localPart at hdots
    split at hdots
    next => exact absurd (hdots c List.mem_cons_self) hc
    next hpackage =>
      split at hdots
      next hprefix =>
        obtain ⟨back, hback⟩ := List.isPrefixOf_iff_prefix.mp hprefix
        rw [← hback, List.drop_left' (by simp)] at hdots
        exact ⟨by simpa using hpackage, back, by simp [← hback], hdots⟩
      next => exact absurd (hdots c List.mem_cons_self) hc
  · rintro ⟨hpackage, back, hname, hback⟩
    rwa [hname, localPart_append hpackage]

end Chars

/-- Without the dots in front, a reference that vanishes begins with the package. -/
theorem vanishes_iff {package name : String} :
    Vanishes package name ↔
      package.toList ≠ [] ∧ ∃ back,
        Text.Chars.dropDots name.toList = package.toList ++ '.' :: back ∧
          ∀ dot ∈ back, dot = '.' := by
  rw [Vanishes, ne_eq, ← String.toList_eq_nil_iff]
  constructor
  · rintro ⟨hne, hhead, front, back, hname, hfront, hback⟩
    obtain ⟨c, rest, hpackage⟩ := List.exists_cons_of_ne_nil hne
    rw [hpackage] at hhead hname ⊢
    refine ⟨List.cons_ne_nil c rest, back, ?_, hback⟩
    have hc : c ≠ '.' := fun hc => hhead (congrArg some hc)
    refine Text.Chars.dropDots_eq_cons_iff.mpr ⟨hc, front, ?_, hfront⟩
    rw [hname, List.append_assoc]
    rfl
  · rintro ⟨hne, back, hname, hback⟩
    obtain ⟨c, rest, hpackage⟩ := List.exists_cons_of_ne_nil hne
    rw [hpackage] at hname ⊢
    obtain ⟨hc, front, hwhole, hfront⟩ := Text.Chars.dropDots_eq_cons_iff.mp hname
    refine ⟨List.cons_ne_nil c rest, by simpa using hc, front, back, ?_, hfront, hback⟩
    rw [hwhole, List.append_assoc]
    rfl

/-- Only a reference that vanishes is rendered as nothing. -/
theorem ofReference_eq_empty_iff {package name : String} :
    ofReference package name = "" ↔ Vanishes package name := by
  rw [vanishes_iff, ofReference]
  cases htarget : Text.Chars.dropDots name.toList with
  | nil => simp
  | cons c rest =>
      have hc := (Text.Chars.dropDots_eq_cons_iff.mp htarget).1
      rw [← Chars.forall_mem_localPart_iff hc, ← Chars.flatten_eq_nil_iff]
      simp

instance (package name : String) : Decidable (Vanishes package name) :=
  decidable_of_iff _ ofReference_eq_empty_iff

theorem dot_notMem_ofReference (package name : String) :
    '.' ∉ (ofReference package name).toList := by
  rw [ofReference]
  split
  · decide
  · rw [String.toList_ofList]
    exact Chars.dot_notMem_flatten _

theorem isType_ofReference_iff {package name : String} (hname : IsLoose name) :
    IsType (ofReference package name) ↔ ¬ Vanishes package name := by
  rw [← ofReference_eq_empty_iff]
  refine ⟨IsType.ne_empty, fun hne => .name hne ?_⟩
  intro c hc
  rcases mem_ofReference hc with hunknown | rfl | hmem
  · have hchars : "unknown".toList.all isNameChar = true := rfl
    exact List.all_eq_true.mp hchars c hunknown
  · rfl
  · -- The dots of the reference are all gone.
    refine (hname c hmem).resolve_right ?_
    rintro rfl
    exact dot_notMem_ofReference package name hc

theorem dot_notMem_ofShape (package : String) (shape : Shape) :
    '.' ∉ (ofShape package shape).toList := by
  induction shape with
  | primitive type =>
      unfold ofShape ofPrimitive
      split <;> decide
  | sequence item ih => simpa [ofShape] using ih
  | reference name => exact dot_notMem_ofReference package name

theorem ofShape_eq_empty_iff {package : String} {shape : Shape} :
    ofShape package shape = "" ↔ ∃ name, shape = .reference name ∧ Vanishes package name := by
  cases shape with
  | primitive type =>
      unfold ofShape ofPrimitive
      split <;> simp
  | sequence item => simp [ofShape]
  | reference name => simp [ofShape, ofReference_eq_empty_iff]

theorem isType_ofPrimitive (type : Primitive) : IsType (ofPrimitive type) := by
  apply IsType.word
  unfold ofPrimitive
  split <;> decide

/-- Sequences around a reference make no difference to whether a type is rendered. -/
theorem isType_ofShape_of (package : String) {shape : Shape}
    (hshape : ∀ target ∈ shape.target?, IsLoose target) :
    IsType (ofShape package shape) ↔ ∀ target ∈ shape.target?, ¬ Vanishes package target := by
  induction shape with
  | primitive type => simp [ofShape, Shape.target?, isType_ofPrimitive]
  | sequence item ih => rw [ofShape, isType_array_iff, ih hshape, Shape.target?]
  | reference name =>
      rw [ofShape, isType_ofReference_iff (hshape name rfl), Shape.target?]
      simp

end Naming

namespace Rendering

open Text

/-- The lines that declare a member: its name, which is an identifier, and a type. -/
def DeclaresMember (line : String) : Prop :=
  ∃ name type, isIdentifier name = true ∧ Naming.IsType type ∧
    line = "  " ++ name ++ ": " ++ type ++ ";"

/-- The first colon ends the name of a member, so the type can be told from it. -/
theorem eq_of_memberText_eq {name other type others : String} (hname : isIdentifier name = true)
    (hother : isIdentifier other = true) (h : memberText name type = memberText other others) :
    type = others := by
  have hcut (name type : String) (hname : isIdentifier name = true) :
      Chars.cutAt? ':' (memberText name type).toList =
        some (("  " ++ name).toList, (" " ++ type ++ ";").toList) := by
    have hcolon : ':' ∉ ("  " ++ name).toList := by
      simpa using notMem_of_isIdentifier hname rfl
    rw [← Chars.cutAt?_append hcolon]
    simp [memberText]
  have hsides := congrArg (Chars.cutAt? ':') (congrArg String.toList h)
  rw [hcut name type hname, hcut other others hother] at hsides
  have hboth : name.toList = other.toList ∧ type.toList = others.toList := by
    simpa using hsides
  exact String.toList_inj.mp hboth.2

theorem declaresMember_memberLine_iff (package : String) (member : Member)
    (hname : isIdentifier member.name = true) :
    DeclaresMember (memberLine package member) ↔
      Naming.IsType (Naming.ofShape package member.shape) := by
  constructor
  · rintro ⟨name, type, hother, htype, hline⟩
    rwa [eq_of_memberText_eq hname hother hline]
  · intro htype
    exact ⟨_, _, hname, htype, rfl⟩

end Rendering

/-- Where a reference is made of letters, underscores and dots, what is rendered for a shape is a
type exactly if the reference does not vanish, and the line of a member of this shape is then, and
only then, a declaration. A shape is rendered as nothing exactly if it is a reference that vanishes,
and it is never rendered with a dot. -/
theorem Naming.isType_ofShape_iff (package : String) (shape : Shape)
    (hshape : ∀ target ∈ shape.target?, IsLoose target) :
    (IsType (ofShape package shape) ↔ ∀ target ∈ shape.target?, ¬ Vanishes package target) ∧
      (ofShape package shape = "" ↔
        ∃ target, shape = .reference target ∧ Vanishes package target) ∧
      '.' ∉ (ofShape package shape).toList ∧
      ∀ name, Text.isIdentifier name = true →
        (Rendering.DeclaresMember (Rendering.memberLine package ⟨name, shape⟩) ↔
          ∀ target ∈ shape.target?, ¬ Vanishes package target) := by
  have htype := isType_ofShape_of package hshape
  refine ⟨htype, ofShape_eq_empty_iff, dot_notMem_ofShape package shape, ?_⟩
  intro name hname
  exact (Rendering.declaresMember_memberLine_iff package ⟨name, shape⟩ hname).trans htype

/-- Doubled and closing dots leave a name, as long as there is something between them. -/
theorem Naming.isType_ofShape_doubledDots :
    (∀ target ∈ (Shape.sequence (.reference "..shop..Cart_.")).target?, IsLoose target) ∧
      IsType (ofShape "shop" (.sequence (.reference "..shop..Cart_."))) ∧
      ofShape "shop" (.sequence (.reference "..shop..Cart_.")) = "Array<Cart__>" ∧
      Text.isIdentifier "items" = true ∧
      Rendering.DeclaresMember "  items: Array<Cart__>;" := by
  have hloose : ∀ target ∈ (Shape.sequence (.reference "..shop..Cart_.")).target?,
      IsLoose target := by
    decide
  have hkept : ∀ target ∈ (Shape.sequence (.reference "..shop..Cart_.")).target?,
      ¬ Vanishes "shop" target := by
    decide
  have hname : Text.isIdentifier "items" = true := by decide
  have htext : ofShape "shop" (.sequence (.reference "..shop..Cart_.")) = "Array<Cart__>" := by
    decide
  obtain ⟨htype, -, -, hmember⟩ :=
    isType_ofShape_iff "shop" (.sequence (.reference "..shop..Cart_.")) hloose
  refine ⟨hloose, htype.mpr hkept, htext, hname, ?_⟩
  have hline : Rendering.memberLine "shop" ⟨"items", .sequence (.reference "..shop..Cart_.")⟩ =
      "  items: Array<Cart__>;" := by
    decide
  exact hline ▸ (hmember "items" hname).mpr hkept

/-- A file with a field that refers to the package of the file. -/
def packageFile : Descriptor.File where
  name := some "a.proto"
  package := some "a"
  messages := [{
    name := some "M"
    fields := [{ name := some "x", kind := some 11, typeName := some ".a." }] }]

/-- A field that refers to the package of its file, with a dot behind it, is left without a type. -/
theorem Naming.not_isType_ofShape_packageFile :
    IsLoose "a" ∧ IsLoose ".a." ∧ ofShape "a" (.reference ".a.") = "" ∧
      ¬ IsType (ofShape "a" (.reference ".a.")) ∧
      ((Listing.ofFile .nativeNumeric packageFile).render "ts").content =
        "// Generated by protoc-gen-interfaces from a.proto. Do not edit.\n// Package: a\n\n" ++
          "export interface M \x7b\n  x: ;\n\x7d\n" := by
  have hempty : ofShape "a" (.reference ".a.") = "" := by decide
  refine ⟨by decide, by decide, hempty, ?_, by decide +kernel⟩
  rw [hempty]
  exact fun htype => htype.ne_empty rfl

end SchemaInterfaces
