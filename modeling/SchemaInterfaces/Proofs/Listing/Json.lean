import SchemaInterfaces.Listing.Json
import SchemaInterfaces.Proofs.Json.Legible
import SchemaInterfaces.Proofs.Listing.Preorder

/-!
# Listings read back from JSON

Every part of a listing is written as a legible value, and read back from it as long as the value
nests no deeper than the reader allows; a value that nests deeper is refused. Each constructor adds
its own levels to the nesting, and the reader counts the same levels.

Listings that are made from schema files never come near the limit: their shapes are at most one
sequence deep.
-/

namespace SchemaInterfaces

namespace Json

mutual

/-- How deeply arrays and objects nest in a value. -/
def nesting : Json → Nat
  | null | bool _ | number _ | string _ => 0
  | array items => nestingOfItems items + 1
  | object entries => nestingOfEntries entries + 1

def nestingOfItems : List Json → Nat
  | [] => 0
  | item :: others => max item.nesting (nestingOfItems others)

def nestingOfEntries : List (Option String × Json) → Nat
  | [] => 0
  | (_, value) :: others => max value.nesting (nestingOfEntries others)

end

@[simp] theorem nesting_ofText (s : String) : (ofText s).nesting = 0 := by
  rw [ofText, nesting]

theorem nesting_array_map_le {α : Type} {write : α → Json} {xs : List α} {depth : Nat}
    (h : ∀ x ∈ xs, (write x).nesting ≤ depth) : (array (xs.map write)).nesting ≤ depth + 1 := by
  rw [nesting]
  refine Nat.succ_le_succ ?_
  induction xs with
  | nil => exact Nat.zero_le depth
  | cons x xs ih =>
      rw [List.forall_mem_cons] at h
      rw [List.map_cons, nestingOfItems]
      exact Nat.max_le.mpr ⟨h.1, ih h.2⟩

/-- Whatever is written is read back if it nests no deeper than is allowed, and refused if it nests
deeper. -/
def ReadsBack {α : Type} (write : α → Json) (read : Nat → Json → Option α) : Prop :=
  ∀ depth x, read depth (write x) = if (write x).nesting ≤ depth then some x else none

theorem legible_array_map {α : Type} {write : α → Json} (h : ∀ x, (write x).Legible)
    (xs : List α) : (array (xs.map write)).Legible := by
  refine legible_array ?_
  intro item hitem
  obtain ⟨x, -, rfl⟩ := List.mem_map.mp hitem
  exact h x

theorem ReadsBack.items {α : Type} {write : α → Json} {read : Nat → Json → Option α}
    (h : ReadsBack write read) : ReadsBack (fun xs => array (xs.map write)) (items? read) := by
  intro depth xs
  rw [nesting]
  cases depth with
  | zero => rfl
  | succ depth =>
      rw [items?]
      simp only [Nat.add_le_add_iff_right]
      induction xs with
      | nil => rfl
      | cons x xs ih =>
          rw [List.map_cons, List.mapM_cons, h, ih, nestingOfItems]
          simp only [Nat.max_le]
          by_cases hx : (write x).nesting ≤ depth
          · by_cases hxs : nestingOfItems (xs.map write) ≤ depth
            · simp [hx, hxs]
            · simp [hx, hxs]
          · simp [hx]

end Json

theorem Primitive.legible_toJson (type : Primitive) : type.toJson.Legible := by
  cases type with
  | numeric => exact Json.legible_ofText _
  | boolean => exact Json.legible_ofText _
  | text => exact Json.legible_ofText _
  | bytes => exact Json.legible_ofText _
  | wideInteger form => exact Json.legible_object (by simp [WideForm.toJson, Json.legible_ofText])

theorem Primitive.readsBack_toJson : Json.ReadsBack toJson (ofJson? .direct) := by
  intro depth type
  cases type with
  | numeric => rw [toJson, Json.nesting_ofText, if_pos (Nat.zero_le depth)]; rfl
  | boolean => rw [toJson, Json.nesting_ofText, if_pos (Nat.zero_le depth)]; rfl
  | text => rw [toJson, Json.nesting_ofText, if_pos (Nat.zero_le depth)]; rfl
  | bytes => rw [toJson, Json.nesting_ofText, if_pos (Nat.zero_le depth)]; rfl
  | wideInteger form =>
      have hnesting : (wideInteger form).toJson.nesting = 1 := by
        simp [toJson, Json.nesting, Json.nestingOfEntries, WideForm.toJson]
      rw [hnesting]
      cases depth with
      | zero => rfl
      | succ depth => cases form <;> simp <;> rfl

namespace Shape

theorem legible_toJson (shape : Shape) : shape.toJson.Legible := by
  induction shape with
  | primitive type =>
      exact Json.legible_object (by simp [Json.legible_ofText, type.legible_toJson])
  | sequence item ih => exact Json.legible_object (by simp [Json.legible_ofText, ih])
  | reference name => exact Json.legible_object (by simp [Json.legible_ofText])

theorem parts?_object (depth : Nat) (kind : Kind) (value : Json) :
    parts? .direct depth (.object [(some "kind", .ofText kind.name), (some "value", value)]) =
      some (kind, value, .direct) := by
  cases kind <;> rfl

/-- A shape nests one level deeper than the value in it. -/
theorem nesting_object (kind : Kind) (value : Json) :
    (Json.object [(some "kind", .ofText kind.name), (some "value", value)]).nesting =
      value.nesting + 1 := by
  simp [Json.nesting, Json.nestingOfEntries]

theorem readsBack_toJson : Json.ReadsBack toJson (ofJson? .direct) := by
  intro depth shape
  induction shape generalizing depth with
  | primitive type =>
      rw [toJson, nesting_object]
      cases depth with
      | zero => rfl
      | succ depth =>
          rw [ofJson?, parts?_object]
          simp only [Option.bind_eq_bind, Option.bind_some, Primitive.readsBack_toJson depth type,
            Nat.add_le_add_iff_right]
          split <;> rfl
  | sequence item ih =>
      rw [toJson, nesting_object]
      cases depth with
      | zero => rfl
      | succ depth =>
          rw [ofJson?, parts?_object]
          simp only [Option.bind_eq_bind, Option.bind_some, ih depth, Nat.add_le_add_iff_right]
          split <;> rfl
  | reference name =>
      rw [toJson, nesting_object, Json.nesting_ofText]
      cases depth with
      | zero => rfl
      | succ depth =>
          rw [ofJson?, parts?_object, if_pos (Nat.succ_le_succ (Nat.zero_le depth))]
          rfl

end Shape

namespace Member

theorem legible_toJson (member : Member) : member.toJson.Legible :=
  Json.legible_object (by simp [Json.legible_ofText, member.shape.legible_toJson])

theorem nesting_toJson (member : Member) :
    member.toJson.nesting = member.shape.toJson.nesting + 1 := by
  simp [toJson, Json.nesting, Json.nestingOfEntries]

theorem readsBack_toJson : Json.ReadsBack toJson ofJson? := by
  intro depth member
  rw [nesting_toJson]
  cases depth with
  | zero => rfl
  | succ depth =>
      have hproperties : member.toJson.properties? ["name", "resolved_type"] =
          some [some (.ofText member.name), some member.shape.toJson] := rfl
      rw [ofJson?, hproperties]
      simp only [Option.bind_eq_bind, Option.bind_some, Shape.readsBack_toJson depth member.shape,
        Nat.add_le_add_iff_right]
      split <;> rfl

end Member

namespace Definition

theorem legible_toJson (definition : Definition) : definition.toJson.Legible :=
  Json.legible_object (by
    simp [Json.legible_ofText, Json.legible_array_map Member.legible_toJson])

theorem nesting_toJson (definition : Definition) :
    definition.toJson.nesting =
      (Json.array (definition.members.map Member.toJson)).nesting + 1 := by
  simp [toJson, Json.nesting, Json.nestingOfEntries]

theorem readsBack_toJson : Json.ReadsBack toJson ofJson? := by
  intro depth definition
  have hmembers := Member.readsBack_toJson.items
  rw [nesting_toJson]
  cases depth with
  | zero => rfl
  | succ depth =>
      have hproperties : definition.toJson.properties? ["name", "qualified_name", "fields"] =
          some [some (.ofText definition.name), some (.ofText definition.path),
            some (.array (definition.members.map Member.toJson))] := rfl
      rw [ofJson?, hproperties]
      simp only [Option.bind_eq_bind, Option.bind_some, hmembers depth definition.members,
        Nat.add_le_add_iff_right]
      split <;> rfl

end Definition

namespace Listing

theorem legible_toJson (listing : Listing) : listing.toJson.Legible :=
  Json.legible_object (by
    simp [Json.legible_ofText, Json.legible_array_map Definition.legible_toJson])

theorem nesting_toJson (listing : Listing) :
    listing.toJson.nesting =
      (Json.array (listing.definitions.map Definition.toJson)).nesting + 1 := by
  simp [toJson, Json.nesting, Json.nestingOfEntries]

theorem readsBack_toJson : Json.ReadsBack toJson ofJson? := by
  intro depth listing
  have hdefinitions := Definition.readsBack_toJson.items
  rw [nesting_toJson]
  cases depth with
  | zero => rfl
  | succ depth =>
      have hproperties : listing.toJson.properties? ["name", "package", "types"] =
          some [some (.ofText listing.source), some (.ofText listing.package),
            some (.array (listing.definitions.map Definition.toJson))] := rfl
      rw [ofJson?, hproperties]
      simp only [Option.bind_eq_bind, Option.bind_some, hdefinitions depth listing.definitions,
        Nat.add_le_add_iff_right]
      split <;> rfl

end Listing

/-! ## The nesting of what schema files give -/

theorem Primitive.nesting_toJson_le (type : Primitive) : type.toJson.nesting ≤ 1 := by
  cases type <;> simp [toJson, WideForm.toJson, Json.nesting, Json.nestingOfEntries]

theorem Shape.nesting_ofKind_le (policy : WidePolicy) (kind : Option FieldKind)
    (target : String) : (ofKind policy kind target).toJson.nesting ≤ 2 := by
  unfold ofKind
  split
  all_goals
    rw [toJson, nesting_object]
    exact Nat.succ_le_succ (by simp [Primitive.nesting_toJson_le])

theorem Descriptor.Field.nesting_shape_le (policy : WidePolicy) (field : Field) :
    (field.shape policy).toJson.nesting ≤ 3 := by
  have hsingle := Shape.nesting_ofKind_le policy field.fieldKind? (textOf field.typeName)
  rw [shape]
  cases field.isRepeated with
  | false => exact Nat.le_succ_of_le hsingle
  | true =>
      simp only [if_true, Shape.toJson]
      rw [Shape.nesting_object]
      exact Nat.succ_le_succ hsingle

theorem Listing.nesting_ofFile_le (policy : WidePolicy) (file : Descriptor.File) :
    (ofFile policy file).toJson.nesting ≤ 8 := by
  rw [nesting_toJson, definitions_ofFile]
  refine Nat.succ_le_succ (Json.nesting_array_map_le ?_)
  intro definition hdefinition
  obtain ⟨place, -, rfl⟩ := List.mem_map.mp hdefinition
  rw [Definition.nesting_toJson]
  refine Nat.succ_le_succ (Json.nesting_array_map_le ?_)
  intro member hmember
  obtain ⟨field, -, rfl⟩ := List.mem_map.mp hmember
  rw [Member.nesting_toJson]
  exact Nat.succ_le_succ (field.nesting_shape_le policy)

end SchemaInterfaces
