import Mathlib.Logic.Function.Basic
import SchemaInterfaces.Listing.Basic

/-!
# Descriptions of shapes

A shape can be told from its description. The name of a reference stands in it as it is, so brackets
need not match and a name may read like a description itself. The first letter tells what kind of
shape it is, though, and the texts around an inner description or a name are fixed, so what stands
between them is known to the last character.
-/

namespace SchemaInterfaces

namespace Primitive

theorem describe_injective : Function.Injective describe := by
  intro type other
  rcases type with _ | ⟨_ | _⟩ | _ | _ | _ <;> rcases other with _ | ⟨_ | _⟩ | _ | _ | _ <;> decide

/-- No primitive is described with the first letter of sequences or of references. -/
theorem head?_describe_ne (type : Primitive) :
    type.describe.toList.head? ≠ some 's' ∧ type.describe.toList.head? ≠ some 'r' := by
  rcases type with _ | ⟨_ | _⟩ | _ | _ | _ <;> decide

end Primitive

namespace Shape

theorem head?_describe_sequence (item : Shape) :
    (sequence item).describe.toList.head? = some 's' := by
  simp [describe]

theorem head?_describe_reference (name : String) :
    (reference name).describe.toList.head? = some 'r' := by
  simp [describe]

variable {shape : Shape}

theorem exists_item_of_head? (h : shape.describe.toList.head? = some 's') :
    ∃ item, shape = sequence item := by
  cases shape with
  | primitive type => exact absurd h type.head?_describe_ne.1
  | sequence item => exact ⟨item, rfl⟩
  | reference name =>
      rw [head?_describe_reference] at h
      exact absurd h (by decide)

theorem exists_name_of_head? (h : shape.describe.toList.head? = some 'r') :
    ∃ name, shape = reference name := by
  cases shape with
  | primitive type => exact absurd h type.head?_describe_ne.2
  | sequence item =>
      rw [head?_describe_sequence] at h
      exact absurd h (by decide)
  | reference name => exact ⟨name, rfl⟩

/-- The word for a primitive describes nothing else, whatever a reference may be called. -/
theorem describe_eq_primitive_iff {type : Primitive} :
    shape.describe = type.describe ↔ shape = primitive type := by
  constructor
  · intro h
    obtain ⟨hsequence, hreference⟩ := type.head?_describe_ne
    rw [← h] at hsequence hreference
    cases shape with
    | primitive other => exact congrArg primitive (Primitive.describe_injective h)
    | sequence item => exact absurd (head?_describe_sequence item) hsequence
    | reference name => exact absurd (head?_describe_reference name) hreference
  · rintro rfl
    rfl

/-- Any text in the brackets of a sequence is the description of its item. -/
theorem describe_eq_sequence_iff {text : String} :
    shape.describe = "sequence<" ++ text ++ ">" ↔
      ∃ item, shape = sequence item ∧ item.describe = text := by
  constructor
  · intro h
    obtain ⟨item, rfl⟩ : ∃ item, shape = sequence item :=
      exists_item_of_head? (by rw [h]; simp)
    refine ⟨item, rfl, ?_⟩
    exact (String.append_right_inj _).mp ((String.append_left_inj _).mp h)
  · rintro ⟨item, rfl, rfl⟩
    rfl

/-- Any text in the parentheses of a reference is its name. -/
theorem describe_eq_reference_iff {name : String} :
    shape.describe = "ref(" ++ name ++ ")" ↔ shape = reference name := by
  constructor
  · intro h
    obtain ⟨other, rfl⟩ : ∃ other, shape = reference other :=
      exists_name_of_head? (by rw [h]; simp)
    exact congrArg reference ((String.append_right_inj _).mp ((String.append_left_inj _).mp h))
  · rintro rfl
    rfl

/-- Shapes are described alike only if they are the same, however deep their sequences are and
whatever stands in the names of their references. -/
theorem describe_inj (first second : Shape) :
    first.describe = second.describe ↔ first = second := by
  constructor
  · intro h
    -- The description of the first shape says how the second is made, one constructor at a time.
    induction first generalizing second with
    | primitive type => exact (describe_eq_primitive_iff.mp h.symm).symm
    | sequence item ih =>
        obtain ⟨other, rfl, hitem⟩ := describe_eq_sequence_iff.mp h.symm
        rw [ih other hitem.symm]
    | reference name => exact (describe_eq_reference_iff.mp h.symm).symm
  · rintro rfl
    rfl

/-- A reference may be called what another shape is described as, unmatched brackets included. -/
example : (sequence (reference ">")).describe = "sequence<ref(>)>" ∧
    (reference "sequence<ref(>)>").describe = "ref(sequence<ref(>)>)" := by
  decide

end Shape

end SchemaInterfaces
