import Mathlib.Data.List.TakeWhile
import SchemaInterfaces.Text.Basic
import SchemaInterfaces.Text.Dotted

/-!
# Trimmed texts

Trimming takes away the blank characters around a text and stops where the text itself begins and
ends. A trimmed text is one that has no blank character at either end. Dots are taken away from the
front of a text alone, and what they stood in front of may be blank.
-/

namespace SchemaInterfaces.Text

namespace Chars

variable {front back : List Char}

theorem trimStart_append (hfront : ∀ c ∈ front, isBlank c = true) (s : List Char) :
    trimStart (front ++ s) = trimStart s :=
  List.dropWhile_append_of_pos hfront

theorem trimEnd_append (hback : ∀ c ∈ back, isBlank c = true) (s : List Char) :
    trimEnd (s ++ back) = trimEnd s := by
  have hreverse : ∀ c ∈ back.reverse, isBlank c = true := by
    intro c hc
    exact hback c (List.mem_reverse.mp hc)
  rw [trimEnd, List.reverse_append, List.dropWhile_append_of_pos hreverse, trimEnd]

/-- Only blank characters are cut off in front. -/
theorem exists_append_trimStart (s : List Char) :
    ∃ front, front ++ trimStart s = s ∧ ∀ c ∈ front, isBlank c = true :=
  ⟨s.takeWhile isBlank, List.takeWhile_append_dropWhile, fun _ => List.mem_takeWhile_imp⟩

/-- Only blank characters are cut off at the end. -/
theorem exists_trimEnd_append (s : List Char) :
    ∃ back, trimEnd s ++ back = s ∧ ∀ c ∈ back, isBlank c = true := by
  obtain ⟨front, hfront, hblank⟩ := exists_append_trimStart s.reverse
  refine ⟨front.reverse, ?_, fun c hc => hblank c (List.mem_reverse.mp hc)⟩
  rw [← List.reverse_inj, List.reverse_append, List.reverse_reverse, reverse_trimEnd, hfront]

/-- Only dots are dropped. -/
theorem exists_append_dropDots (s : List Char) :
    ∃ dots, dots ++ dropDots s = s ∧ ∀ c ∈ dots, c = '.' :=
  ⟨s.takeWhile (· == '.'), List.takeWhile_append_dropWhile, fun _ hc => by
    simpa using List.mem_takeWhile_imp hc⟩

theorem dropDots_eq_nil_iff {s : List Char} : dropDots s = [] ↔ ∀ c ∈ s, c = '.' := by
  simp [dropDots]

/-- What is left of a text begins with its first character that is no dot. -/
theorem dropDots_eq_cons_iff {s rest : List Char} {c : Char} :
    dropDots s = c :: rest ↔
      c ≠ '.' ∧ ∃ front, s = front ++ c :: rest ∧ ∀ dot ∈ front, dot = '.' := by
  constructor
  · intro h
    have hc : c ≠ '.' := by
      have hhead := List.head?_dropWhile_not (· == '.') s
      rw [← dropDots, h] at hhead
      simpa using hhead
    obtain ⟨front, hfront, hdots⟩ := exists_append_dropDots s
    exact ⟨hc, front, by rw [← h, hfront], hdots⟩
  · rintro ⟨hc, front, rfl, hfront⟩
    rw [dropDots, List.dropWhile_append_of_pos fun dot hdot => beq_iff_eq.mpr (hfront dot hdot)]
    exact List.dropWhile_cons_of_neg (by simpa using hc)

end Chars

theorem toList_trim (s : String) : (trim s).toList = Chars.trim s.toList :=
  String.toList_ofList

theorem toList_dropDots (s : String) : (dropDots s).toList = Chars.dropDots s.toList :=
  String.toList_ofList

theorem head?_dropDots_ne (s : String) : (dropDots s).toList.head? ≠ some '.' := by
  intro hhead
  rw [toList_dropDots] at hhead
  obtain ⟨rest, hrest⟩ := List.head?_eq_some_iff.mp hhead
  exact (Chars.dropDots_eq_cons_iff.mp hrest).1 rfl

/-- A text loses the dots that it begins with, and what is left does not begin with one. -/
inductive LosesDots : String → String → Prop where
  | behind {dots rest : String} : (∀ c ∈ dots.toList, c = '.') → rest.toList.head? ≠ some '.' →
      LosesDots (dots ++ rest) rest

theorem losesDots_dropDots (s : String) : LosesDots s (dropDots s) := by
  obtain ⟨dots, hdots, hall⟩ := Chars.exists_append_dropDots s.toList
  have hwhole : String.ofList dots ++ dropDots s = s := by
    rw [dropDots, ← String.ofList_append, hdots, String.ofList_toList]
  have hloses : LosesDots (String.ofList dots ++ dropDots s) (dropDots s) :=
    .behind (by simpa using hall) (head?_dropDots_ne s)
  rwa [hwhole] at hloses

theorem losesDots_iff {s rest : String} : LosesDots s rest ↔ dropDots s = rest := by
  constructor
  · rintro ⟨hdots, hhead⟩
    have hdrop := dropDots_eq_self hhead
    rw [dropDots, String.toList_append, Chars.dropDots,
      List.dropWhile_append_of_pos fun c hc => beq_iff_eq.mpr (hdots c hc)]
    exact hdrop
  · rintro rfl
    exact losesDots_dropDots s

/-- A text with no blank character at either end. -/
structure IsTrimmed (s : String) : Prop where
  front : ∀ c ∈ s.toList.head?, isBlank c = false
  back : ∀ c ∈ s.toList.getLast?, isBlank c = false

theorem isTrimmed_iff (s : String) :
    IsTrimmed s ↔ s.toList.head?.all (!isBlank ·) = true ∧
      s.toList.getLast?.all (!isBlank ·) = true := by
  simp only [Option.all_eq_true, Bool.not_eq_true']
  exact ⟨fun h => ⟨h.front, h.back⟩, fun h => ⟨h.1, h.2⟩⟩

instance (s : String) : Decidable (IsTrimmed s) :=
  decidable_of_iff _ (isTrimmed_iff s).symm

theorem IsTrimmed.trim_eq {s : String} (h : IsTrimmed s) : Chars.trim s.toList = s.toList :=
  Chars.trim_eq_self h.front h.back

theorem isTrimmed_trim (s : String) : IsTrimmed (trim s) := by
  constructor
  · intro c hc
    rw [toList_trim] at hc
    obtain ⟨rest, hrest⟩ := List.head?_eq_some_iff.mp hc
    -- Cutting at the end leaves the first character as it is.
    obtain ⟨cut, hcut, -⟩ := Chars.exists_trimEnd_append (Chars.trimStart s.toList)
    rw [← Chars.trim, hrest] at hcut
    exact Chars.isBlank_of_head?_trimStart (congrArg List.head? hcut.symm)
  · intro c hc
    rw [toList_trim] at hc
    exact Chars.isBlank_of_getLast?_trimEnd hc

/-- Blank characters around a trimmed text are all that is cut off. -/
theorem IsTrimmed.trim_append {s : String} (h : IsTrimmed s) {front back : List Char}
    (hfront : ∀ c ∈ front, isBlank c = true) (hback : ∀ c ∈ back, isBlank c = true) :
    Chars.trim (front ++ s.toList ++ back) = s.toList := by
  rw [Chars.trim, List.append_assoc, Chars.trimStart_append hfront]
  cases hlist : s.toList with
  | nil =>
      have hall := Chars.trimStart_append hback []
      rw [List.append_nil] at hall
      rw [List.nil_append, hall]
      rfl
  | cons c rest =>
      have hstart : Chars.trimStart (c :: rest ++ back) = c :: rest ++ back := by
        apply Chars.trimStart_eq_self
        intro first hfirst
        exact h.front first (hlist ▸ hfirst)
      rw [hstart, Chars.trimEnd_append hback, ← hlist, Chars.trimEnd_eq_self h.back]

/-- A text loses the blank characters around it, and what is left is trimmed. -/
inductive TrimsTo : String → String → Prop where
  | around {front core back : String} : (∀ c ∈ front.toList, isBlank c = true) →
      IsTrimmed core → (∀ c ∈ back.toList, isBlank c = true) → TrimsTo (front ++ core ++ back) core

theorem TrimsTo.isTrimmed {s core : String} (h : TrimsTo s core) : IsTrimmed core := by
  cases h with
  | around _ hcore _ => exact hcore

theorem trimsTo_trim (s : String) : TrimsTo s (trim s) := by
  obtain ⟨front, hfront, hblank⟩ := Chars.exists_append_trimStart s.toList
  obtain ⟨back, hback, hend⟩ := Chars.exists_trimEnd_append (Chars.trimStart s.toList)
  have hwhole : String.ofList front ++ trim s ++ String.ofList back = s := by
    rw [← String.toList_inj]
    simp [toList_trim, Chars.trim, hback, hfront]
  have htrims : TrimsTo (String.ofList front ++ trim s ++ String.ofList back) (trim s) :=
    .around (by simpa using hblank) (isTrimmed_trim s) (by simpa using hend)
  rwa [hwhole] at htrims

theorem trimsTo_iff {s core : String} : TrimsTo s core ↔ trim s = core := by
  constructor
  · rintro ⟨hfront, hcore, hback⟩
    rw [trim, String.toList_append, String.toList_append, hcore.trim_append hfront hback,
      String.ofList_toList]
  · rintro rfl
    exact trimsTo_trim s

/-- What stands between two trimmed texts is at neither end. -/
theorem IsTrimmed.append {s t : String} (hs : IsTrimmed s) (ht : IsTrimmed t) (hs' : s ≠ "")
    (ht' : t ≠ "") (middle : String) : IsTrimmed (s ++ middle ++ t) := by
  obtain ⟨first, rest, hfirst⟩ := List.exists_cons_of_ne_nil (mt String.toList_eq_nil_iff.mp hs')
  have hlast := List.getLast?_eq_some_getLast (mt String.toList_eq_nil_iff.mp ht')
  constructor
  · intro c hc
    rw [String.toList_append, String.toList_append, hfirst] at hc
    exact hs.front c (hfirst ▸ hc)
  · intro c hc
    rw [String.toList_append, List.getLast?_append, hlast] at hc
    exact ht.back c (hlast ▸ hc)

end SchemaInterfaces.Text
