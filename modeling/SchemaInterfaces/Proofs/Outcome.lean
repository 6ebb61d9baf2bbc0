import Mathlib.Data.List.Forall2

/-!
# Steps that may fail

What is known once a chain of steps that may fail has succeeded: every step of it has. What is known
once it has failed: the first step to fail has failed in the same way.
-/

namespace SchemaInterfaces.Outcome

universe u v w

variable {ε : Type u} {α β : Type v}

theorem bind_eq_ok {x : Except ε α} {f : α → Except ε β} {b : β} :
    (x >>= f) = .ok b ↔ ∃ a, x = .ok a ∧ f a = .ok b := by
  cases x <;> simp [bind, Except.bind]

theorem bind_eq_error {x : Except ε α} {f : α → Except ε β} {failure : ε} :
    (x >>= f) = .error failure ↔
      x = .error failure ∨ ∃ a, x = .ok a ∧ f a = .error failure := by
  cases x <;> simp [bind, Except.bind]

theorem map_eq_ok {x : Except ε α} {f : α → β} {b : β} :
    x.map f = .ok b ↔ ∃ a, x = .ok a ∧ f a = b := by
  cases x <;> simp [Except.map]

theorem toOption_eq_some {x : Except ε α} {a : α} : x.toOption = some a ↔ x = .ok a := by
  cases x <;> simp [Except.toOption]

theorem then_eq_ok {x : Except ε PUnit} {y : Except ε α} {a : α} :
    (x >>= fun _ => y) = .ok a ↔ x = .ok ⟨⟩ ∧ y = .ok a := by
  rw [bind_eq_ok]
  exact ⟨fun ⟨⟨⟩, hx, hy⟩ => ⟨hx, hy⟩, fun ⟨hx, hy⟩ => ⟨⟨⟩, hx, hy⟩⟩

/-- A step for each element of a list succeeds if it does for every element. -/
theorem forM_eq_ok {xs : List α} {f : α → Except ε PUnit} :
    xs.forM f = .ok ⟨⟩ ↔ ∀ x ∈ xs, f x = .ok ⟨⟩ := by
  induction xs with
  | nil => exact ⟨fun _ _ hx => absurd hx List.not_mem_nil, fun _ => rfl⟩
  | cons x xs ih =>
      change (f x >>= fun _ => xs.forM f) = _ ↔ _
      rw [then_eq_ok, ih, List.forall_mem_cons]

/-- Steps that give results, one for each element, fail if one of them does. -/
theorem exists_mapM_eq_error {xs : List α} {f : α → Except ε β} {x : α} {failure : ε}
    (hx : x ∈ xs) (h : f x = .error failure) : ∃ first, xs.mapM f = .error first := by
  induction xs with
  | nil => cases hx
  | cons y ys ih =>
      rw [List.mapM_cons]
      cases hy : f y with
      | error first => exact ⟨first, rfl⟩
      | ok result =>
          rcases List.mem_cons.mp hx with rfl | hx
          · rw [h] at hy
            cases hy
          · obtain ⟨first, hfirst⟩ := ih hx
            rw [hfirst]
            exact ⟨first, rfl⟩

/-- Steps that give results, one for each element, succeed if each of them does. -/
theorem mapM_eq_ok_iff {xs : List α} {f : α → Except ε β} {ys : List β} :
    xs.mapM f = .ok ys ↔ List.Forall₂ (fun x y => f x = .ok y) xs ys := by
  induction xs generalizing ys with
  | nil => cases ys <;> simp [pure, Except.pure]
  | cons x xs ih =>
      rw [List.mapM_cons, bind_eq_ok]
      simp only [bind_eq_ok, ih, List.forall₂_cons_left_iff]
      constructor
      · rintro ⟨y, hy, others, hothers, hys⟩
        exact ⟨y, others, hy, hothers, (Except.ok.inj hys).symm⟩
      · rintro ⟨y, others, hy, hothers, rfl⟩
        exact ⟨y, hy, others, hothers, rfl⟩

/-- The failure of steps, one for each element, is that of the first step that fails. -/
theorem mapM_eq_error_iff {xs : List α} {f : α → Except ε β} {failure : ε} :
    xs.mapM f = .error failure ↔
      ∃ front x back, xs = front ++ x :: back ∧ (∀ y ∈ front, ∃ b, f y = .ok b) ∧
        f x = .error failure := by
  induction xs with
  | nil => simp [pure, Except.pure]
  | cons x xs ih =>
      rw [List.mapM_cons, bind_eq_error]
      constructor
      · rintro (hx | ⟨b, hx, hrest⟩)
        · exact ⟨[], x, xs, rfl, by simp, hx⟩
        · obtain hrest | ⟨_, _, hnever⟩ := bind_eq_error.mp hrest
          · obtain ⟨front, y, back, rfl, hfront, hy⟩ := ih.mp hrest
            refine ⟨x :: front, y, back, rfl, ?_, hy⟩
            exact List.forall_mem_cons.mpr ⟨⟨b, hx⟩, hfront⟩
          · cases hnever
      · rintro ⟨front, y, back, hxs, hfront, hy⟩
        cases front with
        | nil =>
            obtain ⟨rfl, rfl⟩ := List.cons.inj hxs
            exact Or.inl hy
        | cons z front =>
            obtain ⟨rfl, rfl⟩ := List.cons.inj hxs
            obtain ⟨⟨b, hb⟩, hfront⟩ := List.forall_mem_cons.mp hfront
            have hrest := ih.mpr ⟨front, y, back, rfl, hfront, hy⟩
            exact Or.inr ⟨b, hb, bind_eq_error.mpr (Or.inl hrest)⟩

end SchemaInterfaces.Outcome
