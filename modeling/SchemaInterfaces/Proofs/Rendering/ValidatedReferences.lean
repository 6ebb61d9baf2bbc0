import SchemaInterfaces.Proofs.Check.Fields
import SchemaInterfaces.Proofs.Check.Scope
import SchemaInterfaces.Proofs.Descriptor.Chains
import SchemaInterfaces.Proofs.Rendering.LocalNames

/-!
# References in accepted schemas

The check of a schema resolves the type of a field from where the field stands, while the output
only takes dots and the package off the type as it is written. Both agree for types written in full,
and for the path of a message in its own file as long as the path does not begin like the package. A
type that is written from any other scope is accepted and rendered as another name.
-/

namespace SchemaInterfaces

open Descriptor Text

namespace Descriptor.Place

variable {package : List String}

theorem qualify_concat (hpackage : ∀ name ∈ package, IsComponent name) (name : String) :
    Check.qualify (".".intercalate package) name = ".".intercalate (package ++ [name]) := by
  simpa using Naming.qualify_intercalate hpackage (List.cons_ne_nil name [])

theorem foldl_qualify (hpackage : ∀ name ∈ package, IsComponent name) {chain : List String}
    (hchain : ∀ name ∈ chain, IsComponent name) :
    chain.foldl Check.qualify (".".intercalate package) = ".".intercalate (package ++ chain) := by
  induction chain generalizing package with
  | nil => simp
  | cons name chain ih =>
      rw [List.forall_mem_cons] at hchain
      have hextended : ∀ part ∈ package ++ [name], IsComponent part :=
        List.forall_mem_append.mpr ⟨hpackage, List.forall_mem_singleton.mpr hchain.1⟩
      rw [List.foldl_cons, qualify_concat hpackage, ih hextended hchain.2, List.append_assoc,
        List.singleton_append]

/-- The full name of a message is its path behind the package. -/
theorem fullName_intercalate (hpackage : ∀ name ∈ package, IsComponent name) {place : Place}
    (hchain : ∀ name ∈ place.chain, IsComponent name) :
    place.fullName (".".intercalate package) =
      Check.qualify (".".intercalate package) (".".intercalate place.chain) := by
  rw [fullName, foldl_qualify hpackage hchain,
    Naming.qualify_intercalate hpackage place.chain_ne_nil]

end Descriptor.Place

namespace Naming

variable {package chain around : List String}

theorem ofReference_fullName (hpackage : ∀ name ∈ package, IsComponent name)
    (hchain : ∀ name ∈ chain, IsComponent name) (hne : chain ≠ []) :
    ofReference (".".intercalate package) (".".intercalate (package ++ chain)) =
      flatten (".".intercalate chain) := by
  have hfull : ∀ name ∈ package ++ chain, IsComponent name :=
    List.forall_mem_append.mpr ⟨hpackage, hchain⟩
  rw [ofReference_eq_localComponents hpackage hfull (by simp [hne]), flatten_intercalate hchain,
    (localComponents_eq_iff hne).mpr (Or.inl rfl)]

/-- The rest of a full name behind some scope is rendered as the path of the message only if it is
the full name, or the path and not shortened any further. -/
theorem eq_or_eq_of_ofReference_eq (hpackage : ∀ name ∈ package, IsComponent name)
    (hchain : ∀ name ∈ chain, IsComponent name) (hne : chain ≠ []) {rest : List String}
    (hrest : rest <:+ package ++ chain) (hrestNe : rest ≠ [])
    (h : ofReference (".".intercalate package) (".".intercalate rest) =
      flatten (".".intercalate chain)) :
    rest = package ++ chain ∨ (rest = chain ∧ ¬ IsInside package chain) := by
  have hcomponents : ∀ name ∈ rest, IsComponent name := fun name hname =>
    List.forall_mem_append.mpr ⟨hpackage, hchain⟩ name (hrest.mem hname)
  rw [ofReference_eq_localComponents hpackage hcomponents hrestNe, flatten_intercalate hchain] at h
  rw [← localComponents_eq_iff hne]
  have hscore : 0 < "_".length := by decide
  -- both are what is left of the full name, so equal texts leave equally much of it
  have hlocal : localComponents package rest <:+ package ++ chain :=
    localComponents_suffix.trans hrest
  rcases List.suffix_or_suffix_of_suffix hlocal (List.suffix_append package chain) with
    hshorter | hlonger
  · exact (eq_of_suffix_of_intercalate_eq hscore hshorter (localComponents_ne_nil hrestNe)
      h.symm).symm
  · exact eq_of_suffix_of_intercalate_eq hscore hlonger hne h

/-- A name that leads to a message of the file, from the scope of some names around it, is rendered
as the name of its interface exactly if it is written in full, with or without a dot in front, or as
the path of the message where the package does not begin this path. -/
theorem ofReference_eq_iff_of_scope (hpackage : ∀ name ∈ package, IsComponent name)
    (hchain : ∀ name ∈ chain, IsComponent name) (hne : chain ≠ [])
    (haround : ∀ name ∈ around, IsComponent name) (haroundNe : around ≠ []) {name full : String}
    (hfull : full = Check.qualify (".".intercalate package) (".".intercalate chain))
    (hname : name = "." ++ full ∨
      ∃ scope ∈ Check.enclosingScopes (".".intercalate around), full = Check.qualify scope name) :
    ofReference (".".intercalate package) name = flatten (".".intercalate chain) ↔
      name = "." ++ full ∨ name = full ∨
        (name = ".".intercalate chain ∧ ¬ IsInside package chain) := by
  rw [qualify_intercalate hpackage hne] at hfull
  have hcomponents : ∀ name ∈ package ++ chain, IsComponent name :=
    List.forall_mem_append.mpr ⟨hpackage, hchain⟩
  constructor
  · intro h
    rcases hname with hdot | ⟨scope, hscope, hinside⟩
    · exact Or.inl hdot
    · obtain ⟨outer, houter, rfl⟩ :=
        Check.exists_prefix_of_mem_enclosingScopes haround haroundNe hscope
      obtain ⟨rest, hrestNe, hrest, rfl⟩ := Check.exists_rest_of_qualify_eq
        (fun name hname => haround name (houter.mem hname)) hcomponents (by simp [hne])
        (hinside.symm.trans hfull)
      rcases eq_or_eq_of_ofReference_eq hpackage hchain hne ⟨outer, hrest⟩ hrestNe h with
        rfl | ⟨rfl, houtside⟩
      · exact Or.inr (Or.inl hfull.symm)
      · exact Or.inr (Or.inr ⟨rfl, houtside⟩)
  · rintro (rfl | rfl | ⟨rfl, houtside⟩)
    · rw [ofReference_dot, hfull, ofReference_fullName hpackage hchain hne]
    · rw [hfull, ofReference_fullName hpackage hchain hne]
    · rw [ofReference_eq_localComponents hpackage hchain hne, flatten_intercalate hchain,
        (localComponents_eq_iff hne).mpr (Or.inr ⟨rfl, houtside⟩)]

/-- What stands for a field of a message kind: what stands for its type, as an array if the field is
repeated. -/
theorem ofShape_shape (policy : WidePolicy) (package : String) {field : Field}
    (hkind : field.fieldKind? = some .message) :
    ofShape package (field.shape policy) =
      if field.isRepeated then "Array<" ++ ofReference package (textOf field.typeName) ++ ">"
        else ofReference package (textOf field.typeName) := by
  rw [Field.shape, hkind]
  cases field.isRepeated <;> rfl

theorem arrayIf_inj {repeated : Bool} {first second : String} :
    ((if repeated then "Array<" ++ first ++ ">" else first) =
        if repeated then "Array<" ++ second ++ ">" else second) ↔ first = second := by
  cases repeated <;> simp

/-- In an accepted schema whose names are identifiers, the type of every field of a message kind
resolves where the field stands. If it leads to a message of the same file, the field is rendered as
the interface of this message, in an array if and only if the field is repeated, exactly if the type
is written in full, with or without a dot in front, or as the path of the message where the package
is no proper beginning of this path. -/
theorem ofShape_eq_interface_iff_of_checkFiles (policy : WidePolicy) (files : List File)
    (hvalid : Check.checkFiles files = .ok ()) :
    ∃ symbols, Check.Symbols.ofFiles files = .ok symbols ∧
      ∀ (file : File) (package : List String), file ∈ files →
        file.packageText = ".".intercalate package →
        (∀ name ∈ package, isIdentifier name = true) →
        (∀ place ∈ file.places, isIdentifier place.message.nameText = true ∧
          ∀ field ∈ place.message.fields, isIdentifier field.nameText = true) →
        ∀ place ∈ file.places, ∀ field ∈ place.message.fields,
          field.fieldKind? = some .message →
          ∃ symbol : Check.SymbolEntry,
            (Check.View.mk symbols (Check.visibleFiles files file)).resolve .messageOrEnumeration
                (Check.qualify
                  (Check.qualify file.packageText (place.definition policy none).path)
                  field.nameText)
                (textOf field.typeName) = .ok symbol ∧
            ∀ message : Message, symbol.entity = .message message →
              symbol.file = file.nameText →
              ∃ target ∈ file.places, target.message = message ∧
                symbol.name =
                  Check.qualify file.packageText (target.definition policy none).path ∧
                (ofShape (Listing.ofFile policy file).package (field.shape policy) =
                    (if field.isRepeated then
                      "Array<" ++ flatten (target.definition policy none).path ++ ">"
                    else flatten (target.definition policy none).path) ↔
                  textOf field.typeName = "." ++ symbol.name ∨
                    textOf field.typeName = symbol.name ∨
                    (textOf field.typeName = (target.definition policy none).path ∧
                      ¬ IsInside package target.chain)) := by
  obtain ⟨symbols, hsymbols, hresolves⟩ := Check.exists_symbol_of_checkFiles hvalid
  refine ⟨symbols, hsymbols, ?_⟩
  intro file package hfile htext hpackage hnames place hplace field hfield hkind
  have hcomponents : ∀ name ∈ package, IsComponent name := fun name hname =>
    isComponent_of_isIdentifier (hpackage name hname)
  have hchain {other : Place} (hother : other ∈ file.places) :
      ∀ name ∈ other.chain, IsComponent name :=
    File.forall_mem_chain
      (fun place hplace => isComponent_of_isIdentifier (hnames place hplace).1) hother
  obtain ⟨symbol, hresolve⟩ := hresolves file hfile place hplace field hfield hkind
  rw [htext, Place.fullName_intercalate hcomponents (hchain hplace), ← htext] at hresolve
  refine ⟨symbol, hresolve, ?_⟩
  intro message hentity hdeclared
  obtain ⟨hlookUp, hname⟩ := Check.View.exists_fullName_of_resolve hresolve
  have hmem := (Check.View.of_lookUp_eq_ok hlookUp).1
  obtain ⟨target, htarget, hmessage, hfull⟩ :=
    Check.Symbols.exists_place hsymbols hfile hmem hdeclared hentity
  rw [htext, Place.fullName_intercalate hcomponents (hchain htarget)] at hfull
  refine ⟨target, htarget, hmessage, by rw [htext]; exact hfull.symm, ?_⟩
  -- around the field stand the names of the package, of the messages and its own
  have haround : ∀ name ∈ package ++ place.chain ++ [field.nameText], IsComponent name := by
    have hfieldName := isComponent_of_isIdentifier ((hnames place hplace).2 field hfield)
    rw [List.forall_mem_append, List.forall_mem_append, List.forall_mem_singleton]
    exact ⟨⟨hcomponents, hchain hplace⟩, hfieldName⟩
  have hscope : Check.qualify (Check.qualify file.packageText (".".intercalate place.chain))
      field.nameText = ".".intercalate (package ++ place.chain ++ [field.nameText]) := by
    rw [htext, qualify_intercalate hcomponents place.chain_ne_nil, Place.qualify_concat]
    exact fun name hname => haround name (List.mem_append_left _ hname)
  rw [hscope] at hname
  rw [Listing.ofFile_eq, ofShape_shape policy _ hkind, arrayIf_inj]
  change ofReference file.packageText _ = flatten (".".intercalate target.chain) ↔ _
  rw [htext]
  exact ofReference_eq_iff_of_scope hcomponents (hchain htarget) target.chain_ne_nil haround
    (by simp) hfull.symm hname

def innerMessage : Message where
  name := some "Inner"

/-- A field whose type is written from the scope of the message around it. -/
def scopedField : Field where
  name := some "first"
  number := some 1
  label := some 1
  kind := some 11
  typeName := some "Inner"

/-- A field with values of the same type, written in full. -/
def fullField : Field where
  name := some "others"
  number := some 2
  label := some 3
  kind := some 11
  typeName := some ".shop.Outer.Inner"

def outerMessage : Message where
  name := some "Outer"
  fields := [scopedField, fullField]
  nested := [innerMessage]

def outerFile : File where
  name := some "outer.proto"
  package := some "shop"
  messages := [outerMessage]

theorem outerFile_places : outerFile.places = [⟨[], outerMessage⟩, ⟨["Outer"], innerMessage⟩] := rfl

theorem outerFile_names : ∀ place ∈ outerFile.places,
    isIdentifier place.message.nameText = true ∧
      ∀ field ∈ place.message.fields, isIdentifier field.nameText = true := by
  decide

/-- The type `Inner` is accepted and leads to the message inside `Outer`, but it is not rendered as
the name of the interface of this message. -/
theorem ofShape_scopedField_ne :
    Check.checkFiles [outerFile] = .ok () ∧
      scopedField ∈ outerMessage.fields ∧ scopedField.fieldKind? = some .message ∧
      ⟨[], outerMessage⟩ ∈ outerFile.places ∧ ⟨["Outer"], innerMessage⟩ ∈ outerFile.places ∧
      (∃ symbols, Check.Symbols.ofFiles [outerFile] = .ok symbols ∧
        (Check.View.mk symbols (Check.visibleFiles [outerFile] outerFile)).resolve
            .messageOrEnumeration "shop.Outer.first" "Inner" =
          .ok ⟨"shop.Outer.Inner", .message innerMessage, "outer.proto"⟩) ∧
      ofShape (Listing.ofFile .nativeNumeric outerFile).package
          (scopedField.shape .nativeNumeric) ≠
        flatten ((Place.mk ["Outer"] innerMessage).definition .nativeNumeric none).path := by
  refine ⟨rfl, List.mem_cons_self, rfl, ?_, ?_, ⟨_, rfl, rfl⟩, by decide⟩
  · rw [outerFile_places]
    exact List.mem_cons_self
  · rw [outerFile_places]
    exact List.mem_cons_of_mem _ List.mem_cons_self

/-- The same type written in full is rendered as an array of that interface. -/
theorem ofShape_fullField :
    Check.checkFiles [outerFile] = .ok () ∧
      (∀ place ∈ outerFile.places, isIdentifier place.message.nameText = true ∧
        ∀ field ∈ place.message.fields, isIdentifier field.nameText = true) ∧
      ofShape (Listing.ofFile .nativeNumeric outerFile).package
        (fullField.shape .nativeNumeric) = "Array<Outer_Inner>" := by
  have hvalid : Check.checkFiles [outerFile] = .ok () := rfl
  have hplace : ⟨[], outerMessage⟩ ∈ outerFile.places := by
    rw [outerFile_places]
    exact List.mem_cons_self
  have hfield : fullField ∈ outerMessage.fields := by decide
  obtain ⟨symbols, hsymbols, hfiles⟩ :=
    ofShape_eq_interface_iff_of_checkFiles .nativeNumeric [outerFile] hvalid
  cases hsymbols
  obtain ⟨symbol, hresolve, hrendered⟩ := hfiles outerFile ["shop"] List.mem_cons_self (by decide)
    (by decide) outerFile_names _ hplace _ hfield rfl
  cases hresolve
  obtain ⟨target, htarget, -, hname, hiff⟩ := hrendered innerMessage rfl rfl
  rw [outerFile_places, List.mem_pair] at htarget
  rcases htarget with rfl | rfl
  · exact absurd hname (by decide)
  · exact ⟨hvalid, outerFile_names, (hiff.mpr (Or.inl rfl)).trans (by decide)⟩

end Naming

end SchemaInterfaces
