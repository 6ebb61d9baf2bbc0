import Mathlib.Algebra.Group.Nat.Even
import Mathlib.Data.List.Induction
import SchemaInterfaces.Proofs.Text.Escaping

/-!
# Splitting joined texts

What stands in front of a separator decides whether it divides. A backslash takes the character
after it, so a backslash that is left over at the end of a text takes the separator that is put
behind the text; the backslashes at the end are taken in pairs, and one is left over if their number
is odd. Behind any other text a separator divides, and the joined texts have the pieces of each.
-/

namespace SchemaInterfaces.Text

namespace Chars

variable {separator : Char}

/-- How many backslashes stand at the end of a text. -/
def closingSlashes (s : List Char) : Nat :=
  (s.reverse.takeWhile (· = '\\')).length

/-- Whether a text ends with a backslash that takes what follows the text. -/
def isOpen (s : List Char) : Bool :=
  s.foldl (fun taken c => !taken && c == '\\') false

theorem isOpen_concat (s : List Char) (c : Char) :
    isOpen (s ++ [c]) = (!isOpen s && c == '\\') := by
  rw [isOpen, List.foldl_append, ← isOpen]
  rfl

/-- The backslashes at the end of a text are taken in pairs. -/
theorem isOpen_eq_false_iff (s : List Char) : isOpen s = false ↔ Even (closingSlashes s) := by
  induction s using List.reverseRecOn with
  | nil => simp [isOpen, closingSlashes]
  | append_singleton s c ih =>
      rw [isOpen_concat, closingSlashes, List.reverse_concat, List.takeWhile_cons]
      by_cases hc : c = '\\'
      · rw [closingSlashes] at ih
        simp [hc, Nat.even_add_one, ← ih]
      · simp [hc]

theorem isOpen_cons {c : Char} (hc : c ≠ '\\') (s : List Char) : isOpen (c :: s) = isOpen s := by
  have htaken : (!false && c == '\\') = false := by simpa using hc
  rw [isOpen, List.foldl_cons, htaken, ← isOpen]

theorem pieces_ne_nil (separator : Char) (s : List Char) : pieces separator s ≠ [] := by
  have hfirst (c : Char) (parts : List (List Char)) : consFirst c parts ≠ [] := by
    cases parts <;> simp [consFirst]
  fun_cases pieces separator s <;> simp [hfirst]

theorem consFirst_append (c : Char) {parts : List (List Char)} (hparts : parts ≠ [])
    (others : List (List Char)) :
    consFirst c (parts ++ others) = consFirst c parts ++ others := by
  obtain ⟨part, parts, rfl⟩ := List.exists_cons_of_ne_nil hparts
  rfl

/-- A separator divides where no backslash takes it. -/
theorem pieces_append (hslash : separator ≠ '\\') {s : List Char} (hs : isOpen s = false)
    (t : List Char) :
    pieces separator (s ++ separator :: t) = pieces separator s ++ pieces separator t := by
  fun_induction pieces separator s with
  | case1 => exact pieces_separator hslash t
  | case2 => cases hs
  | case3 c rest ih =>
      have hrest : isOpen rest = false := hs
      rw [List.cons_append, List.cons_append, pieces, ih hrest,
        consFirst_append c (pieces_ne_nil separator rest)]
  | case4 rest hlast hpair ih =>
      rw [isOpen_cons hslash] at hs
      rw [List.cons_append, pieces_separator hslash, ih hs, List.cons_append]
  | case5 c rest hlast hpair hc ih =>
      have hc' : c ≠ '\\' := by
        rintro rfl
        cases rest with
        | nil => exact hlast rfl rfl
        | cons d rest => exact hpair d rest rfl rfl
      rw [isOpen_cons hc'] at hs
      rw [List.cons_append, pieces_plain hc' hc, ih hs,
        consFirst_append c (pieces_ne_nil separator rest)]

end Chars

/-- How many backslashes stand at the end of a text. -/
def closingSlashes (s : String) : Nat :=
  Chars.closingSlashes s.toList

/-- Where no backslash is left over in front of it, a separator between two texts keeps their pieces
apart. -/
theorem splitEscaped_append {separator : String} {c : Char} (hseparator : separator.toList = [c])
    (hslash : c ≠ '\\') {s : String} (hs : Even (closingSlashes s)) (t : String) :
    splitEscaped c (s ++ separator ++ t) = splitEscaped c s ++ splitEscaped c t := by
  have hopen : Chars.isOpen s.toList = false := (Chars.isOpen_eq_false_iff s.toList).mpr hs
  have htext : (s ++ separator ++ t).toList = s.toList ++ c :: t.toList := by
    simp [hseparator]
  rw [splitEscaped, htext, Chars.pieces_append hslash hopen]
  simp [splitEscaped]

/-- Joined texts have the pieces of each of them, if no backslash is left over in front of a
separator. -/
theorem splitEscaped_intercalate_append {separator : String} {c : Char}
    (hseparator : separator.toList = [c]) (hslash : c ≠ '\\') {texts : List String}
    (htexts : ∀ text ∈ texts, Even (closingSlashes text)) (last : String) :
    splitEscaped c (separator.intercalate (texts ++ [last])) =
      texts.flatMap (splitEscaped c) ++ splitEscaped c last := by
  induction texts with
  | nil => simp
  | cons text texts ih =>
      rw [List.forall_mem_cons] at htexts
      have hjoin : separator.intercalate (text :: texts ++ [last]) =
          text ++ separator ++ separator.intercalate (texts ++ [last]) := by
        have hrest : texts ++ [last] ≠ [] := by simp
        obtain ⟨next, others, hnext⟩ := List.exists_cons_of_ne_nil hrest
        rw [List.cons_append, hnext, String.intercalate_cons_cons]
      rw [hjoin, splitEscaped_append hseparator hslash htexts.1, ih htexts.2, List.flatMap_cons,
        List.append_assoc]

end SchemaInterfaces.Text
