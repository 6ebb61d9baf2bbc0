import SchemaInterfaces.Text.Split

/-!
# Joined texts

Parts joined with a separator between them. Where parts may hold the separator, two joined texts can
be equal in more than one way, and the ways are listed. Where they do not, dividing the joined text
at the separator gives the parts back, also those of a text that goes on after one more separator.
-/

namespace SchemaInterfaces.Text

universe u

section

variable {α : Type u} {separator : α} {parts : List (List α)}

/-- After the first part, a separator stands in front of every part. -/
theorem intercalate_cons (part : List α) (rest : List (List α)) :
    [separator].intercalate (part :: rest) = part ++ rest.flatMap (separator :: ·) := by
  induction rest generalizing part with
  | nil => simp
  | cons other rest ih => rw [List.intercalate_cons_cons, ih]; simp

theorem intercalate_append_of_ne_nil {others : List (List α)} (hne : parts ≠ [])
    (hothers : others ≠ []) :
    [separator].intercalate (parts ++ others) =
      [separator].intercalate parts ++ separator :: [separator].intercalate others := by
  obtain ⟨part, rest, rfl⟩ := List.exists_cons_of_ne_nil hne
  obtain ⟨other, others, rfl⟩ := List.exists_cons_of_ne_nil hothers
  rw [List.cons_append, intercalate_cons, intercalate_cons, intercalate_cons]
  simp

theorem intercalate_ne_nil (hne : parts ≠ []) (hparts : ∀ part ∈ parts, part ≠ []) :
    [separator].intercalate parts ≠ [] := by
  obtain ⟨part, rest, rfl⟩ := List.exists_cons_of_ne_nil hne
  obtain ⟨c, tail, hpart⟩ := List.exists_cons_of_ne_nil (hparts part List.mem_cons_self)
  simp [hpart]

theorem mem_intercalate {c : α} (hc : c ∈ [separator].intercalate parts) :
    c = separator ∨ ∃ part ∈ parts, c ∈ part := by
  cases parts with
  | nil => simp at hc
  | cons part rest =>
      rw [intercalate_cons, List.mem_append, List.mem_flatMap] at hc
      obtain hpart | ⟨other, hother, hmem⟩ := hc
      · exact Or.inr ⟨part, List.mem_cons_self, hpart⟩
      · rcases List.mem_cons.mp hmem with rfl | hmem
        · exact Or.inl rfl
        · exact Or.inr ⟨other, List.mem_cons_of_mem _ hother, hmem⟩

variable {others : List (List α)}

theorem intercalate_eq_of_flatMap_eq
    (h : parts.flatMap (separator :: ·) = others.flatMap (separator :: ·)) :
    (parts = [] ↔ others = []) ∧
      [separator].intercalate parts = [separator].intercalate others := by
  cases parts <;> cases others <;> simp_all [intercalate_cons]

/-- Text that a separator follows, found where separated parts stand, begins with a separator and
goes on like those parts. -/
theorem exists_rest_of_flatMap_eq {more : List α} (hmore : more ≠ [])
    (h : parts.flatMap (separator :: ·) = more ++ others.flatMap (separator :: ·)) :
    ∃ rest, more = separator :: rest ∧ parts ≠ [] ∧
      [separator].intercalate parts = [separator].intercalate (rest :: others) := by
  obtain ⟨c, rest, rfl⟩ := List.exists_cons_of_ne_nil hmore
  cases parts with
  | nil => simp at h
  | cons part parts =>
      simp only [List.flatMap_cons, List.cons_append, List.cons.injEq] at h
      refine ⟨rest, by rw [h.1], by simp, ?_⟩
      rw [intercalate_cons, intercalate_cons, h.2]

/-- Joined texts are equal in three ways: their first parts are equal and so are the joined rests,
or one first part goes on, behind a separator, like the rest behind the other first part. The parts
may hold the separator. -/
theorem intercalate_cons_eq_cases {first second : List α}
    (h : [separator].intercalate (first :: parts) = [separator].intercalate (second :: others)) :
    (first = second ∧ (parts = [] ↔ others = []) ∧
      [separator].intercalate parts = [separator].intercalate others) ∨
    (∃ rest, second = first ++ separator :: rest ∧ parts ≠ [] ∧
      [separator].intercalate parts = [separator].intercalate (rest :: others)) ∨
    ∃ rest, first = second ++ separator :: rest ∧ others ≠ [] ∧
      [separator].intercalate others = [separator].intercalate (rest :: parts) := by
  rw [intercalate_cons, intercalate_cons] at h
  obtain ⟨more, hsecond, hrest⟩ | ⟨more, hfirst, hrest⟩ := List.append_eq_append_iff.mp h
  · by_cases hmore : more = []
    · subst hmore
      exact Or.inl ⟨by simpa using hsecond.symm, intercalate_eq_of_flatMap_eq hrest⟩
    · obtain ⟨rest, rfl, hne, hjoined⟩ := exists_rest_of_flatMap_eq hmore hrest
      exact Or.inr (Or.inl ⟨rest, hsecond, hne, hjoined⟩)
  · by_cases hmore : more = []
    · subst hmore
      exact Or.inl ⟨by simpa using hfirst, intercalate_eq_of_flatMap_eq hrest.symm⟩
    · obtain ⟨rest, rfl, hne, hjoined⟩ := exists_rest_of_flatMap_eq hmore hrest
      exact Or.inr (Or.inr ⟨rest, hfirst, hne, hjoined⟩)

end

namespace Chars

/-- Dividing a text is splitting the list of its characters. -/
theorem partsAt_eq_splitOn (separator : Char) (s : List Char) :
    partsAt separator s = s.splitOn separator := by
  induction s with
  | nil => rfl
  | cons c rest ih =>
      rw [partsAt, ih, List.splitOn_cons_eq_if_modifyHead]
      obtain ⟨part, parts, hparts⟩ :=
        List.exists_cons_of_ne_nil (List.splitOn_ne_nil separator rest)
      simp [hparts, consFirst]

section

variable {separator : Char} {parts : List (List Char)}

theorem partsAt_intercalate (hne : parts ≠ []) (hfree : ∀ part ∈ parts, separator ∉ part) :
    partsAt separator ([separator].intercalate parts) = parts := by
  rw [partsAt_eq_splitOn]
  exact List.splitOn_intercalate separator hfree hne

/-- What follows after one more separator only adds parts at the end. -/
theorem partsAt_intercalate_append (hne : parts ≠ [])
    (hfree : ∀ part ∈ parts, separator ∉ part) (rest : List Char) :
    partsAt separator ([separator].intercalate parts ++ separator :: rest) =
      parts ++ partsAt separator rest := by
  rw [partsAt_eq_splitOn, List.splitOn_append_cons_self,
    List.splitOn_intercalate separator hfree hne, partsAt_eq_splitOn]

end

/-- Text without separators at the end of another text belongs to the last part. -/
theorem exists_last_part (separator : Char) (s : List Char) :
    ∃ front last, ∀ t, separator ∉ t → partsAt separator (s ++ t) = front ++ [last ++ t] := by
  induction s with
  | nil =>
      refine ⟨[], [], ?_⟩
      intro t ht
      rw [List.nil_append, partsAt_eq_splitOn, List.splitOn_eq_singleton ht]
      rfl
  | cons c rest ih =>
      obtain ⟨front, last, hparts⟩ := ih
      by_cases hc : c = separator
      · refine ⟨[] :: front, last, ?_⟩
        intro t ht
        rw [List.cons_append, partsAt, if_pos hc, hparts t ht]
        rfl
      · cases front with
        | nil =>
            refine ⟨[], c :: last, ?_⟩
            intro t ht
            rw [List.cons_append, partsAt, if_neg hc, hparts t ht]
            rfl
        | cons part others =>
            refine ⟨(c :: part) :: others, last, ?_⟩
            intro t ht
            rw [List.cons_append, partsAt, if_neg hc, hparts t ht]
            rfl

/-- Text without separators in front of another text belongs to the first part. -/
theorem exists_first_part (separator : Char) (t : List Char) :
    ∃ first others, ∀ s, separator ∉ s → partsAt separator (s ++ t) = (s ++ first) :: others := by
  obtain ⟨first, others, hparts⟩ := List.exists_cons_of_ne_nil (partsAt_ne_nil separator t)
  refine ⟨first, others, ?_⟩
  intro s hs
  induction s with
  | nil => exact hparts
  | cons c rest ih =>
      obtain ⟨hc, hrest⟩ := not_or.mp (mt List.mem_cons.mpr hs)
      rw [List.cons_append, partsAt, if_neg (Ne.symm hc), ih hrest]
      rfl

theorem cutAt?_eq_none_iff {c : Char} {s : List Char} : cutAt? c s = none ↔ c ∉ s := by
  induction s with
  | nil => simp [cutAt?]
  | cons x rest ih =>
      rw [cutAt?, List.mem_cons, not_or]
      split
      next hx => simp [hx]
      next hx => simp [ih, Ne.symm hx]

/-- Text is cut at a character where the character first stands. -/
theorem cutAt?_append {c : Char} {front : List Char} (hfront : c ∉ front) (back : List Char) :
    cutAt? c (front ++ c :: back) = some (front, back) := by
  induction front with
  | nil => rw [List.nil_append, cutAt?, if_pos rfl]
  | cons x rest ih =>
      have hx : x ≠ c := fun h => hfront (h ▸ List.mem_cons_self)
      rw [List.cons_append, cutAt?, if_neg hx, ih fun h => hfront (List.mem_cons_of_mem _ h)]
      rfl

end Chars

theorem exists_last_part (separator : Char) (s : String) :
    ∃ front last, ∀ t : String, separator ∉ t.toList →
      partsAt separator (s ++ t) = front ++ [last ++ t] := by
  obtain ⟨front, last, hparts⟩ := Chars.exists_last_part separator s.toList
  refine ⟨front.map String.ofList, String.ofList last, ?_⟩
  intro t ht
  rw [partsAt, String.toList_append, hparts t.toList ht]
  simp

theorem exists_first_part (separator : Char) (t : String) :
    ∃ first others, ∀ s : String, separator ∉ s.toList →
      partsAt separator (s ++ t) = (s ++ first) :: others := by
  obtain ⟨first, others, hparts⟩ := Chars.exists_first_part separator t.toList
  refine ⟨String.ofList first, others.map String.ofList, ?_⟩
  intro s hs
  rw [partsAt, String.toList_append, hparts s.toList hs]
  simp

/-- Where no part holds the separator, the joined text determines the parts. -/
theorem intercalate_inj_of_notMem {separator : String} {c : Char}
    (hseparator : separator.toList = [c]) {names others : List String} (hnames : names ≠ [])
    (hothers : others ≠ []) (hfree : ∀ name ∈ names, c ∉ name.toList)
    (hfree' : ∀ name ∈ others, c ∉ name.toList)
    (h : separator.intercalate names = separator.intercalate others) : names = others := by
  have hlist : [c].intercalate (names.map String.toList) =
      [c].intercalate (others.map String.toList) := by
    rw [← hseparator, ← String.toList_intercalate, h, String.toList_intercalate]
  have hparts := congrArg (Chars.partsAt c) hlist
  rw [Chars.partsAt_intercalate (by simpa using hnames) (by simpa using hfree),
    Chars.partsAt_intercalate (by simpa using hothers) (by simpa using hfree')] at hparts
  exact (List.map_inj_right fun _ _ => String.toList_injective).mp hparts

/-- Fewer parts at the front make a shorter text. -/
theorem eq_of_suffix_of_intercalate_eq {separator : String} (hseparator : 0 < separator.length)
    {names others : List String} (hsuffix : others <:+ names) (hothers : others ≠ [])
    (h : separator.intercalate names = separator.intercalate others) : names = others := by
  obtain ⟨front, rfl⟩ := hsuffix
  by_cases hfront : front = []
  · rw [hfront, List.nil_append]
  · rw [String.intercalate_append_of_ne_nil hfront hothers] at h
    have hlength := congrArg String.length h
    rw [String.length_append, String.length_append] at hlength
    omega

theorem partsAt_intercalate_dot {names : List String} (hne : names ≠ [])
    (hfree : ∀ name ∈ names, '.' ∉ name.toList) : partsAt '.' (".".intercalate names) = names := by
  have hparts : Chars.partsAt '.' (['.'].intercalate (names.map String.toList)) =
      names.map String.toList :=
    Chars.partsAt_intercalate (by simpa using hne) (by simpa using hfree)
  rw [partsAt, String.toList_intercalate]
  change (Chars.partsAt '.' (['.'].intercalate _)).map _ = _
  rw [hparts, List.map_map]
  simp [Function.comp_def]

/-- A text with a separator in it has the parts in front of the separator and those behind it. -/
theorem partsAt_append {separator : String} {c : Char} (hseparator : separator.toList = [c])
    (s t : String) : partsAt c (s ++ separator ++ t) = partsAt c s ++ partsAt c t := by
  simp [partsAt, Chars.partsAt_eq_splitOn, hseparator, List.splitOn_append_cons_self]

theorem partsAt_ne_nil (separator : Char) (s : String) : partsAt separator s ≠ [] := by
  simpa [partsAt] using Chars.partsAt_ne_nil separator s.toList

/-- Putting the dots back between the parts gives the text. -/
theorem intercalate_partsAt_dot (s : String) : ".".intercalate (partsAt '.' s) = s := by
  apply String.toList_inj.mp
  rw [String.toList_intercalate, partsAt, List.map_map]
  simpa [Function.comp_def] using Chars.intercalate_partsAt '.' s.toList

end SchemaInterfaces.Text
