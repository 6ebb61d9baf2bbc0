/-!
# Reading from the front of a list

A reader takes something from the front of its input and hands back the rest. The result carries
the fact that the rest is shorter, so a loop of readers ends because its input runs out; no reader
needs a bound on its steps.
-/

namespace SchemaInterfaces

/-- A value read from the front of `s`, and the rest of `s`, which is shorter than `s`. -/
structure Read {τ : Type} (α : Type) (s : List τ) where
  value : α
  rest : List τ
  shorter : rest.length < s.length

/-- Values read one after the other from the front of `s`, and the rest of `s`. -/
structure ReadMany {τ : Type} (α : Type) (s : List τ) where
  values : List α
  rest : List τ
  notLonger : rest.length ≤ s.length

/-- Something that reads an `α` from the front of its input or fails with an `ε`. -/
abbrev Reader (τ ε α : Type) : Type :=
  (s : List τ) → Except ε (Read α s)

namespace Read

variable {τ α β : Type} {s : List τ}

/-- The same rest after another value. -/
def map (f : α → β) (r : Read α s) : Read β s :=
  ⟨f r.value, r.rest, r.shorter⟩

@[simp] theorem value_map (f : α → β) (r : Read α s) : (r.map f).value = f r.value := rfl

@[simp] theorem rest_map (f : α → β) (r : Read α s) : (r.map f).rest = r.rest := rfl

/-- What was read from the rest of an earlier reading was read from the whole input. -/
def after (first : Read β s) (second : Read α first.rest) : Read α s :=
  ⟨second.value, second.rest, Nat.lt_trans second.shorter first.shorter⟩

end Read

/-- Reads one value after the other as long as more than `stop` elements are left. The last value
may reach beyond that point. -/
def readWhile {τ ε α : Type} (reader : Reader τ ε α) (stop : Nat) (s : List τ) :
    Except ε (ReadMany α s) :=
  if stop < s.length then
    match reader s with
    | .error e => .error e
    | .ok first =>
      match readWhile reader stop first.rest with
      | .error e => .error e
      | .ok others =>
        .ok ⟨first.value :: others.values, others.rest,
          Nat.le_of_lt (Nat.lt_of_le_of_lt others.notLonger first.shorter)⟩
  else
    .ok ⟨[], s, Nat.le_refl _⟩
termination_by s.length
decreasing_by exact first.shorter

/-- Nothing is read where no more than `stop` elements are left. -/
theorem readWhile_of_length_le {τ ε α : Type} (reader : Reader τ ε α) {stop : Nat} {s : List τ}
    (h : s.length ≤ stop) : readWhile reader stop s = .ok ⟨[], s, Nat.le_refl _⟩ := by
  rw [readWhile, if_neg (Nat.not_lt_of_le h)]

end SchemaInterfaces
