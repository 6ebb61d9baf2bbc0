import SchemaInterfaces.Proofs.Generator

/-!
# What the policy for wide integers decides

Under arbitrary precision every wide integer can be told from all other types. The listings under
any policy are those under arbitrary precision, with the primitive of the policy in place of the
wide integers: a policy is a substitution, and has no say in anything else.
-/

namespace SchemaInterfaces

open Descriptor

/-- The kinds of fields that hold integers of 64 bits. -/
def FieldKind.wide : List FieldKind :=
  [int64, uint64, sint64, fixed64, sfixed64]

/-- The primitive that a policy puts in the place of one chosen under arbitrary precision. -/
def Primitive.under (policy : WidePolicy) : Primitive → Primitive
  | wideInteger .arbitraryPrecision => policy.primitive
  | type => type

namespace Shape

/-- The shape with the primitive at its core put under a policy. -/
def under (policy : WidePolicy) : Shape → Shape
  | primitive type => primitive (type.under policy)
  | sequence item => sequence (item.under policy)
  | reference name => reference name

theorem ofKind_eq_under (policy : WidePolicy) (kind : Option FieldKind) (target : String) :
    ofKind policy kind target = (ofKind .arbitraryPrecision kind target).under policy := by
  cases kind with
  | none => rfl
  | some kind => cases kind <;> rfl

/-- Only wide kinds have different shapes under different policies. -/
theorem exists_wide_of_ofKind_ne {first second : WidePolicy} {kind : Option FieldKind}
    {target : String} (h : ofKind first kind target ≠ ofKind second kind target) :
    ∃ wide ∈ FieldKind.wide, kind = some wide := by
  cases kind with
  | none => exact absurd rfl h
  | some kind =>
      refine ⟨kind, ?_, rfl⟩
      cases kind <;> simp [FieldKind.wide, ofKind] at h ⊢

end Shape

def Member.under (policy : WidePolicy) (member : Member) : Member :=
  { member with shape := member.shape.under policy }

def Definition.under (policy : WidePolicy) (definition : Definition) : Definition :=
  { definition with members := definition.members.map (Member.under policy) }

/-- The listing with all its shapes put under a policy, and otherwise as it is. -/
def Listing.under (policy : WidePolicy) (listing : Listing) : Listing :=
  { listing with definitions := listing.definitions.map (Definition.under policy) }

namespace Descriptor

theorem Field.shape_eq_under (policy : WidePolicy) (field : Field) :
    field.shape policy = (field.shape .arbitraryPrecision).under policy := by
  rw [shape, shape, Shape.ofKind_eq_under policy]
  cases field.isRepeated <;> rfl

theorem Field.exists_wide_of_member_ne {first second : WidePolicy} {field : Field}
    (h : field.member first ≠ field.member second) :
    ∃ kind ∈ FieldKind.wide, field.fieldKind? = some kind := by
  apply Shape.exists_wide_of_ofKind_ne
  intro hkind
  apply h
  rw [member, member, shape, shape, hkind]

theorem Place.definition_eq_under (policy : WidePolicy) (parent : Option String) (place : Place) :
    place.definition policy parent =
      (place.definition .arbitraryPrecision parent).under policy := by
  simp only [definition, Definition.under, List.map_map, Definition.mk.injEq, true_and]
  apply List.map_congr_left
  intro field _
  rw [Field.shape_eq_under policy]
  rfl

/-- The field at a position: the file, its message in pre-order, and the field of the message. -/
def fieldAt? (files : List File) (file message field : Nat) : Option Field := do
  let place ← (← files[file]?).places[message]?
  place.message.fields[field]?

end Descriptor

namespace Listing

theorem ofFile_eq_under (policy : WidePolicy) (file : File) :
    ofFile policy file = (ofFile .arbitraryPrecision file).under policy := by
  have hdefinitions : (ofFile policy file).definitions =
      (ofFile .arbitraryPrecision file).definitions.map (Definition.under policy) := by
    rw [definitions_ofFile, definitions_ofFile, List.map_map]
    apply List.map_congr_left
    intro place _
    exact place.definition_eq_under policy none
  rw [under, ← hdefinitions, ofFile_eq, ofFile_eq]

/-- The member at a position: the listing, the definition in it, and the member of that. -/
def memberAt? (listings : List Listing) (listing definition member : Nat) : Option Member := do
  let definition ← (← listings[listing]?).definitions[definition]?
  definition.members[member]?

/-- Members stand where their fields do. -/
theorem memberAt?_map_ofFile (policy : WidePolicy) (files : List File) (i j k : Nat) :
    memberAt? (files.map (ofFile policy)) i j k =
      (fieldAt? files i j k).map (Field.member policy) := by
  rw [memberAt?, fieldAt?, List.getElem?_map]
  cases files[i]? with
  | none => rfl
  | some file =>
      simp only [Option.map_some, Option.bind_eq_bind, Option.bind_some, definitions_ofFile,
        List.getElem?_map]
      cases file.places[j]? with
      | none => rfl
      | some place =>
          simp only [Option.map_some, Option.bind_some, Place.definition, List.getElem?_map]
          rfl

end Listing

theorem Settings.assemble_eq_under (settings : Settings) (files : List File)
    (targets : List String) (policy : WidePolicy) :
    ({ settings with wideIntegers := policy } : Settings).assemble files targets =
      (({ settings with wideIntegers := .arbitraryPrecision } : Settings).assemble files
        targets).map (·.map (Listing.under policy)) := by
  rw [assemble_eq, assemble_eq]
  cases (if settings.validate then (Check.checkFiles files).mapError Failure.violation
      else .ok ()) with
  | error failure => rfl
  | ok _ =>
      simp only [Except.map, List.map_map]
      congr 1
      apply List.map_congr_left
      intro file _
      exact Listing.ofFile_eq_under policy file

/-- Under a policy the run gives what it gives under arbitrary precision, failures included, with
the primitive of the policy in place of all wide integers and nothing else changed. So where the
members at one position differ between two policies, the field they stand for holds integers of 64
bits. -/
theorem Settings.assemble_wideIntegers (settings : Settings) (files : List File)
    (targets : List String) :
    (∀ policy,
      ({ settings with wideIntegers := policy } : Settings).assemble files targets =
        (({ settings with wideIntegers := .arbitraryPrecision } : Settings).assemble files
          targets).map (·.map (Listing.under policy))) ∧
      ∀ first second listings others,
        ({ settings with wideIntegers := first } : Settings).assemble files targets =
            .ok listings →
          ({ settings with wideIntegers := second } : Settings).assemble files targets =
              .ok others →
            ∀ i j k, Listing.memberAt? listings i j k ≠ Listing.memberAt? others i j k →
              ∃ field, fieldAt? (settings.chosen files targets) i j k = some field ∧
                ∃ kind ∈ FieldKind.wide, field.fieldKind? = some kind := by
  refine ⟨settings.assemble_eq_under files targets, ?_⟩
  intro first second listings others hfirst hsecond i j k hdiffers
  rw [eq_map_of_assemble hfirst, eq_map_of_assemble hsecond, Listing.memberAt?_map_ofFile,
    Listing.memberAt?_map_ofFile] at hdiffers
  change (fieldAt? (settings.chosen files targets) i j k).map _ ≠
    (fieldAt? (settings.chosen files targets) i j k).map _ at hdiffers
  cases hfield : fieldAt? (settings.chosen files targets) i j k with
  | none =>
      rw [hfield] at hdiffers
      exact absurd rfl hdiffers
  | some field =>
      rw [hfield] at hdiffers
      exact ⟨field, rfl, Field.exists_wide_of_member_ne (mt (congrArg some) hdiffers)⟩

/-- A file whose message has a field of a narrow kind and a repeated one of a wide kind. -/
def ledgerFile : File where
  name := some "ledger.proto"
  messages := [{
    name := some "Ledger"
    fields := [{ name := some "count", kind := some 5 },
      { name := some "totals", kind := some 18, label := some repeatedLabel }] }]

/-- The second member differs between two policies, and stands for the field of the wide kind. -/
theorem Settings.assemble_wideIntegers_ledgerFile :
    ∃ listings others,
      ({ wideIntegers := .wordPair } : Settings).assemble [ledgerFile] ["ledger.proto"] =
          .ok listings ∧
        ({ wideIntegers := .nativeNumeric } : Settings).assemble [ledgerFile] ["ledger.proto"] =
          .ok others ∧
        Listing.memberAt? listings 0 0 1 =
          some ⟨"totals", .sequence (.primitive (.wideInteger .wordPair))⟩ ∧
        Listing.memberAt? others 0 0 1 = some ⟨"totals", .sequence (.primitive .numeric)⟩ ∧
        ∃ field, fieldAt? (Settings.chosen {} [ledgerFile] ["ledger.proto"]) 0 0 1 = some field ∧
          ∃ kind ∈ FieldKind.wide, field.fieldKind? = some kind := by
  obtain ⟨-, hdiffers⟩ := Settings.assemble_wideIntegers {} [ledgerFile] ["ledger.proto"]
  exact ⟨_, _, rfl, rfl, rfl, rfl, hdiffers .wordPair .nativeNumeric _ _ rfl rfl 0 0 1 (by decide)⟩

end SchemaInterfaces
