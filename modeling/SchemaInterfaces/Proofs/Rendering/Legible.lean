import SchemaInterfaces.Proofs.Rendering.Lines
import SchemaInterfaces.Proofs.Text.Identifier

/-!
# Legible listings

What is asked of the names in a listing so that its text can be taken apart again. No name holds a
line feed, so every line of the text is one line; identifiers and dotted names meet all of it.
-/

namespace SchemaInterfaces

/-- The name under which a shape refers to a type, if it does. -/
def Shape.target? : Shape → Option String
  | primitive _ => none
  | sequence item => item.target?
  | reference name => some name

namespace Naming

open Text

namespace Chars

theorem mem_flatten {s : List Char} {c : Char} (hc : c ∈ flatten s) : c = '_' ∨ c ∈ s := by
  rw [flatten, List.mem_map] at hc
  obtain ⟨d, hd, rfl⟩ := hc
  split
  · exact Or.inl rfl
  · exact Or.inr ((List.dropWhile_sublist _).mem hd)

theorem mem_localPart {package name : List Char} {c : Char} (hc : c ∈ localPart package name) :
    c ∈ name := by
  unfold localPart at hc
  split at hc
  · exact hc
  · split at hc
    · exact List.mem_of_mem_drop hc
    · exact hc

end Chars

theorem mem_ofReference {package name : String} {c : Char}
    (hc : c ∈ (ofReference package name).toList) :
    c ∈ "unknown".toList ∨ c = '_' ∨ c ∈ name.toList := by
  rw [ofReference] at hc
  split at hc
  · exact Or.inl hc
  · rw [String.toList_ofList] at hc
    rcases Chars.mem_flatten hc with rfl | hlocal
    · exact Or.inr (Or.inl rfl)
    · have htarget := Chars.mem_localPart hlocal
      exact Or.inr (Or.inr ((List.dropWhile_sublist _).mem htarget))

theorem isLine_ofReference (package : String) {name : String} (hname : IsLine name) :
    IsLine (ofReference package name) := by
  intro hfeed
  rcases mem_ofReference hfeed with hunknown | hscore | hmem
  · revert hunknown
    decide
  · cases hscore
  · exact hname hmem

/-- What stands for a shape is on one line if the name in it is. -/
theorem isLine_ofShape (package : String) {shape : Shape}
    (hshape : ∀ target ∈ shape.target?, IsLine target) : IsLine (ofShape package shape) := by
  induction shape with
  | primitive type =>
      unfold ofShape ofPrimitive
      split <;> decide
  | sequence item ih =>
      have hopen : IsLine "Array<" := by decide
      have hclose : IsLine ">" := by decide
      exact (hopen.append (ih hshape)).append hclose
  | reference name => exact isLine_ofReference package (hshape name rfl)

theorem isLine_flatten {name : String} (hname : IsLine name) : IsLine (flatten name) := by
  intro hfeed
  rw [flatten, String.toList_ofList] at hfeed
  rcases Chars.mem_flatten hfeed with hscore | hmem
  · cases hscore
  · exact hname hmem

end Naming

/-- What a listing needs so that its text can be read back: names without line feeds, names of
members also without colons, and a package that trimming leaves. -/
structure Listing.Legible (listing : Listing) : Prop where
  source : Text.IsLine listing.source
  package : Text.IsLine listing.package
  packageEnd : listing.package.isEmpty = true ∨ Text.endsVisibly listing.package = true
  path : ∀ definition ∈ listing.definitions, Text.IsLine definition.path
  name : ∀ definition ∈ listing.definitions, ∀ member ∈ definition.members,
    Text.IsLine member.name ∧ ':' ∉ member.name.toList
  target : ∀ definition ∈ listing.definitions, ∀ member ∈ definition.members,
    ∀ target ∈ member.shape.target?, Text.IsLine target

/-- A listing whose names are what they are in a schema: the package, if there is one, and the paths
are dotted names, the members are named by identifiers, and references are empty or dotted names. -/
structure Listing.WellNamed (listing : Listing) : Prop where
  source : '\n' ∉ listing.source.toList
  package : listing.package = "" ∨ Text.isDottedName listing.package = true
  path : ∀ definition ∈ listing.definitions, Text.isDottedName definition.path = true
  name : ∀ definition ∈ listing.definitions, ∀ member ∈ definition.members,
    Text.isIdentifier member.name = true
  target : ∀ definition ∈ listing.definitions, ∀ member ∈ definition.members,
    ∀ target ∈ member.shape.target?, Text.isReference target = true

/-- Dotted names end in an identifier character or a dot, and neither is blank. -/
theorem Text.endsVisibly_of_isDottedName {s : String} (hs : isDottedName s = true) :
    endsVisibly s = true := by
  unfold endsVisibly
  cases hlast : s.toList.getLast? with
  | none =>
      rw [List.getLast?_eq_none_iff, String.toList_eq_nil_iff] at hlast
      subst hlast
      cases hs
  | some c =>
      rw [Option.any_some]
      rcases mem_of_isDottedName hs (List.mem_of_getLast? hlast) with hchar | rfl
      · rw [isBlank_of_isIdentifierChar hchar, Bool.not_false]
      · rfl

theorem Listing.WellNamed.legible {listing : Listing} (hnamed : listing.WellNamed) :
    listing.Legible where
  source := hnamed.source
  package := by
    rcases hnamed.package with hempty | hdotted
    · rw [hempty]
      exact List.not_mem_nil
    · exact Text.notMem_of_isDottedName hdotted rfl (by decide)
  packageEnd := by
    rcases hnamed.package with hempty | hdotted
    · exact Or.inl (String.isEmpty_iff.mpr hempty)
    · exact Or.inr (Text.endsVisibly_of_isDottedName hdotted)
  path definition hdefinition :=
    Text.notMem_of_isDottedName (hnamed.path definition hdefinition) rfl (by decide)
  name definition hdefinition member hmember :=
    have hname := hnamed.name definition hdefinition member hmember
    ⟨Text.notMem_of_isIdentifier hname rfl, Text.notMem_of_isIdentifier hname rfl⟩
  target definition hdefinition member hmember target htarget :=
    Text.notMem_of_isReference (hnamed.target definition hdefinition member hmember target htarget)
      rfl (by decide)

namespace Rendering

open Text

variable {listing : Listing}

theorem isLine_of_mem_headingLines (hlegible : listing.Legible) {line : String}
    (hline : line ∈ headingLines listing) : IsLine line := by
  have hfront : IsLine "// Generated by protoc-gen-interfaces from " := by decide
  have hback : IsLine ". Do not edit." := by decide
  have hlabel : IsLine "// Package: " := by decide
  rcases List.mem_cons.mp hline with rfl | hpackage
  · exact (hfront.append hlegible.source).append hback
  · split at hpackage
    · cases hpackage
    · rw [List.mem_singleton.mp hpackage]
      exact hlabel.append hlegible.package

theorem isLine_memberLine (hlegible : listing.Legible) {definition : Definition}
    (hdefinition : definition ∈ listing.definitions) {member : Member}
    (hmember : member ∈ definition.members) : IsLine (memberLine listing.package member) := by
  have hindent : IsLine "  " := by decide
  have hcolon : IsLine ": " := by decide
  have hend : IsLine ";" := by decide
  have hname := (hlegible.name definition hdefinition member hmember).1
  have htype := Naming.isLine_ofShape listing.package
    (hlegible.target definition hdefinition member hmember)
  exact (((hindent.append hname).append hcolon).append htype).append hend

theorem isLine_of_mem_interfaceLines (hlegible : listing.Legible) {definition : Definition}
    (hdefinition : definition ∈ listing.definitions) {line : String}
    (hline : line ∈ interfaceLines listing.package definition) : IsLine line := by
  have hfront : IsLine "export interface " := by decide
  have hback : IsLine " \x7b" := by decide
  have hclosing : IsLine "\x7d" := by decide
  rw [interfaceLines, List.cons_append, List.mem_cons, List.mem_append, List.mem_map,
    List.mem_singleton] at hline
  rcases hline with rfl | ⟨member, hmember, rfl⟩ | rfl
  · have hpath := Naming.isLine_flatten (hlegible.path definition hdefinition)
    exact (hfront.append hpath).append hback
  · exact isLine_memberLine hlegible hdefinition hmember
  · exact hclosing

theorem isLine_of_mem_lines (hlegible : listing.Legible) {line : String}
    (hline : line ∈ lines listing) : IsLine line := by
  rw [lines, List.mem_append, List.mem_flatMap] at hline
  rcases hline with hheading | ⟨definition, hdefinition, hmem⟩
  · exact isLine_of_mem_headingLines hlegible hheading
  · rcases List.mem_cons.mp hmem with rfl | hmem
    · exact List.not_mem_nil
    · exact isLine_of_mem_interfaceLines hlegible hdefinition hmem

end Rendering

end SchemaInterfaces
