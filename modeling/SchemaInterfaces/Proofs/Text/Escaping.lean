import SchemaInterfaces.Proofs.Text.Joining
import SchemaInterfaces.Proofs.Text.Trimming

/-!
# Writing texts to be divided

A text stands inside a piece by the characters that spell it: a character that a backslash precedes
spells itself, and so does any other character but the separator and the backslash. What is spelled
part by part is spelled as a whole, and dividing spelled texts with separators between them gives
the texts.
-/

namespace SchemaInterfaces.Text

namespace Chars

variable {separator : Char} {written text more others : List Char}

/-- The characters of a text with a backslash before every backslash and every separator. -/
def escape (separator : Char) (s : List Char) : List Char :=
  s.flatMap fun c => if c = '\\' ∨ c = separator then ['\\', c] else [c]

theorem pieces_separator (hslash : separator ≠ '\\') (rest : List Char) :
    pieces separator (separator :: rest) = [] :: pieces separator rest := by
  cases rest <;> simp [pieces, hslash]

theorem pieces_plain {c : Char} (hslash : c ≠ '\\') (hseparator : c ≠ separator)
    (rest : List Char) : pieces separator (c :: rest) = consFirst c (pieces separator rest) := by
  cases rest <;> simp [pieces, hslash, hseparator]

/-- Written in front of a piece, the characters put the text in front of it and divide nothing. -/
def Spells (separator : Char) (written text : List Char) : Prop :=
  ∀ rest piece others, pieces separator rest = piece :: others →
    pieces separator (written ++ rest) = (text ++ piece) :: others

namespace Spells

theorem nil (separator : Char) : Spells separator [] [] :=
  fun _ _ _ h => h

theorem append (h : Spells separator written text) (hmore : Spells separator more others) :
    Spells separator (written ++ more) (text ++ others) := by
  intro rest piece pieces hrest
  rw [List.append_assoc, List.append_assoc]
  exact h _ _ _ (hmore _ _ _ hrest)

theorem escaped (separator c : Char) : Spells separator ['\\', c] [c] := by
  intro rest piece others hrest
  change consFirst c (pieces separator rest) = _
  rw [hrest]
  rfl

theorem plain {c : Char} (hslash : c ≠ '\\') (hseparator : c ≠ separator) :
    Spells separator [c] [c] := by
  intro rest piece others hrest
  rw [List.singleton_append, pieces_plain hslash hseparator, hrest]
  rfl

/-- Escaped, any text is spelled. -/
theorem escape (separator : Char) (s : List Char) :
    Spells separator (escape separator s) s := by
  induction s with
  | nil => exact nil separator
  | cons c s ih =>
      rw [Chars.escape, List.flatMap_cons]
      split
      next => exact (escaped separator c).append ih
      next hplain =>
        rw [not_or] at hplain
        exact (plain hplain.1 hplain.2).append ih

/-- Blank characters need no escape where the separator is none of them. -/
theorem blank (hseparator : isBlank separator = false) {s : List Char}
    (hs : ∀ c ∈ s, isBlank c = true) : Spells separator s s := by
  induction s with
  | nil => exact nil separator
  | cons c s ih =>
      rw [List.forall_mem_cons] at hs
      have hne {d : Char} (hd : isBlank d = false) : c ≠ d := by
        rintro rfl
        rw [hs.1] at hd
        cases hd
      exact (plain (hne (by decide)) (hne hseparator)).append (ih hs.2)

/-- What spells a text is one piece. -/
theorem pieces_eq (h : Spells separator written text) : pieces separator written = [text] := by
  have hpiece := h [] [] [] rfl
  rwa [List.append_nil, List.append_nil] at hpiece

end Spells

/-- Spelled texts with separators between them are divided into the texts. -/
theorem pieces_intercalate (hseparator : separator ≠ '\\') {α : Type} {items : List α}
    (hitems : items ≠ []) {write text : α → List Char}
    (h : ∀ item ∈ items, Spells separator (write item) (text item)) :
    pieces separator ([separator].intercalate (items.map write)) = items.map text := by
  induction items with
  | nil => exact absurd rfl hitems
  | cons item items ih =>
      rw [List.forall_mem_cons] at h
      cases items with
      | nil => simpa using h.1.pieces_eq
      | cons next items =>
          have hfirst := h.1 _ _ _ (pieces_separator hseparator
            ([separator].intercalate ((next :: items).map write)))
          rw [ih (List.cons_ne_nil _ _) h.2, List.append_nil] at hfirst
          rw [List.map_cons, List.map_cons, List.intercalate_cons_cons]
          simpa using hfirst

end Chars

/-- The text with a backslash before every backslash and every separator. -/
def escape (separator : Char) (s : String) : String :=
  String.ofList (Chars.escape separator s.toList)

theorem spells_escape (separator : Char) (s : String) :
    Chars.Spells separator (escape separator s).toList s.toList := by
  rw [escape, String.toList_ofList]
  exact .escape separator s.toList

/-- Texts that are spelled with nothing but blank characters around them, and joined, are what the
joined text is split into. -/
theorem splitEscaped_intercalate {separator : String} {c : Char}
    (hseparator : separator.toList = [c]) (hslash : c ≠ '\\') {α : Type} {items : List α}
    {write text : α → String} {padded : α → List Char}
    (hspells : ∀ item ∈ items, Chars.Spells c (write item).toList (padded item))
    (htrim : ∀ item ∈ items, Chars.trim (padded item) = (text item).toList)
    (hempty : ∀ item ∈ items, text item ≠ "") :
    splitEscaped c (separator.intercalate (items.map write)) = items.map text := by
  by_cases hitems : items = []
  · subst hitems
    rfl
  · have htexts : (items.map padded).map Chars.trim = items.map fun item => (text item).toList := by
      rw [List.map_map]
      exact List.map_congr_left htrim
    have hkept : ∀ s ∈ items.map fun item => (text item).toList, (!s.isEmpty) = true := by
      simpa using hempty
    rw [splitEscaped, String.toList_intercalate, hseparator, List.map_map]
    change ((((Chars.pieces c ([c].intercalate (items.map fun item => (write item).toList))).map
      Chars.trim).filter _).map _) = _
    rw [Chars.pieces_intercalate hslash hitems hspells, htexts, List.filter_eq_self.mpr hkept,
      List.map_map]
    simp [Function.comp_def]

/-- What spells a trimmed text is not split. -/
theorem splitEscaped_of_spells {separator : Char} {written text : String}
    (h : Chars.Spells separator written.toList text.toList) (hne : text ≠ "")
    (htrim : IsTrimmed text) : splitEscaped separator written = [text] := by
  rw [splitEscaped, h.pieces_eq]
  simp [htrim.trim_eq, hne]

/-- Trimmed texts, written with a backslash before every backslash and every separator and joined
with separators, are split back into themselves. -/
theorem splitEscaped_escape (separator : Char) (hslash : separator ≠ '\\') (texts : List String)
    (htexts : ∀ text ∈ texts, text ≠ "" ∧ IsTrimmed text) :
    splitEscaped separator
      ((String.singleton separator).intercalate (texts.map (escape separator))) = texts := by
  have htrim : ∀ text ∈ texts, Chars.trim text.toList = (id text).toList :=
    fun text h => (htexts text h).2.trim_eq
  have hsplit := splitEscaped_intercalate (String.toList_singleton separator) hslash
    (fun text _ => spells_escape separator text) htrim fun text h => (htexts text h).1
  rw [hsplit, List.map_id]

/-- A separator that is a blank character, and texts with separators and backslashes inside and at
their ends. -/
theorem splitEscaped_escape_blank :
    ' ' ≠ '\\' ∧ (∀ text ∈ ["a b", "\\", "c\\\\ \\"], text ≠ "" ∧ IsTrimmed text) ∧
      splitEscaped ' ' "a\\ b \\\\ c\\\\\\\\\\ \\\\" = ["a b", "\\", "c\\\\ \\"] := by
  have htexts : ∀ text ∈ ["a b", "\\", "c\\\\ \\"], text ≠ "" ∧ IsTrimmed text := by
    decide
  exact ⟨by decide, htexts, splitEscaped_escape ' ' (by decide) _ htexts⟩

end SchemaInterfaces.Text
