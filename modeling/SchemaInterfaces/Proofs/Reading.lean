import SchemaInterfaces.Reading

/-!
# What readers read

A reader reads a piece as a value if it does so whatever stands behind the piece, and leaves what
stands there. Pieces that are read one after the other are read by a loop, which stops where the
last of them ends.
-/

namespace SchemaInterfaces

variable {τ ε α β : Type}

/-- The reader takes exactly the piece from the front of its input, as the value. -/
def Reads (reader : Reader τ ε α) (value : α) (piece : List τ) : Prop :=
  ∀ rest, (reader (piece ++ rest)).map (fun r => (r.value, r.rest)) = .ok (value, rest)

/-- The reader takes pieces one after the other, as the values. -/
inductive ReadsAll (reader : Reader τ ε α) : List α → List τ → Prop where
  | nil : ReadsAll reader [] []
  | cons {value : α} {values : List α} {piece pieces : List τ} :
      Reads reader value piece → ReadsAll reader values pieces →
        ReadsAll reader (value :: values) (piece ++ pieces)

namespace Reads

variable {reader : Reader τ ε α} {value : α} {piece : List τ}

theorem eq_ok (h : Reads reader value piece) (rest : List τ) :
    ∃ shorter, reader (piece ++ rest) = .ok ⟨value, rest, shorter⟩ := by
  have hread := h rest
  cases hr : reader (piece ++ rest) with
  | error e =>
      rw [hr] at hread
      cases hread
  | ok r =>
      obtain ⟨found, after, shorter⟩ := r
      rw [hr] at hread
      simp only [Except.map, Except.ok.injEq, Prod.mk.injEq] at hread
      obtain ⟨rfl, rfl⟩ := hread
      exact ⟨shorter, rfl⟩

theorem of_eq_ok
    (h : ∀ rest, ∃ shorter, reader (piece ++ rest) = .ok ⟨value, rest, shorter⟩) :
    Reads reader value piece := by
  intro rest
  obtain ⟨shorter, hread⟩ := h rest
  rw [hread]
  rfl

protected theorem map (h : Reads reader value piece) (f : α → β) :
    Reads (fun s => (reader s).map (·.map f)) (f value) piece := by
  apply of_eq_ok
  intro rest
  obtain ⟨shorter, hread⟩ := h.eq_ok rest
  exact ⟨shorter, by simp only [hread]; rfl⟩

end Reads

namespace ReadsAll

variable {reader : Reader τ ε α} {values : List α} {pieces : List τ}

theorem single {value : α} {piece : List τ} (h : Reads reader value piece) :
    ReadsAll reader [value] piece := by
  have hall := ReadsAll.cons h ReadsAll.nil
  rwa [List.append_nil] at hall

theorem append {others : List α} {after : List τ} (h : ReadsAll reader values pieces)
    (hafter : ReadsAll reader others after) :
    ReadsAll reader (values ++ others) (pieces ++ after) := by
  induction h with
  | nil => exact hafter
  | cons hpiece _ ih =>
      rw [List.cons_append, List.append_assoc]
      exact .cons hpiece ih

/-- What is not always written is read if it is. -/
theorem optional {κ : Type} {item : Option κ} {entry : κ → α} {write : κ → List τ}
    (h : ∀ found ∈ item, Reads reader (entry found) (write found)) :
    ReadsAll reader (item.toList.map entry) ((item.map write).getD []) := by
  cases item with
  | none => exact .nil
  | some found => exact .single (h found rfl)

/-- What is written item by item is read item by item. -/
theorem flatMap {κ : Type} {items : List κ} {entry : κ → α} {write : κ → List τ}
    (h : ∀ item ∈ items, Reads reader (entry item) (write item)) :
    ReadsAll reader (items.map entry) (items.flatMap write) := by
  induction items with
  | nil => exact .nil
  | cons item items ih =>
      rw [List.forall_mem_cons] at h
      exact .cons h.1 (ih h.2)

/-- A loop reads all pieces if it is to stop where they end. -/
theorem readWhile_eq_ok (h : ReadsAll reader values pieces) (rest : List τ) :
    ∃ notLonger, readWhile reader rest.length (pieces ++ rest) =
      .ok ⟨values, rest, notLonger⟩ := by
  induction h with
  | nil => exact ⟨Nat.le_refl _, readWhile_of_length_le reader (Nat.le_refl _)⟩
  | @cons value values piece pieces hpiece _ ih =>
      obtain ⟨shorter, hread⟩ := hpiece.eq_ok (pieces ++ rest)
      obtain ⟨notLonger, hothers⟩ := ih
      rw [List.append_assoc]
      have hmore : rest.length < (piece ++ (pieces ++ rest)).length :=
        Nat.lt_of_le_of_lt notLonger shorter
      refine ⟨Nat.le_of_lt hmore, ?_⟩
      rw [readWhile, if_pos hmore]
      simp only [hread, hothers]

end ReadsAll

end SchemaInterfaces
