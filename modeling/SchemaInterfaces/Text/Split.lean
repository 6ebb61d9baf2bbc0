import SchemaInterfaces.Text.Basic

/-!
# Splitting and lines

A text is divided at a separator, in one of two ways: plainly, where every separator divides and
every part is kept, or with escapes. With escapes, a backslash takes the character after it out of
the division and is dropped itself; a backslash at the very end is dropped. Pieces are trimmed, and
empty ones are left out.

A plain division loses nothing: the parts with separators between them are the text. Lines make up
a text with a line feed behind each of them.
-/

namespace SchemaInterfaces.Text

namespace Chars

/-- Puts a character in front of the first piece. -/
def consFirst (c : Char) : List (List Char) → List (List Char)
  | [] => [[c]]
  | piece :: pieces => (c :: piece) :: pieces

/-- The parts between all separators; a text without separators is its only part. -/
def partsAt (separator : Char) : List Char → List (List Char)
  | [] => [[]]
  | c :: rest =>
    if c = separator then [] :: partsAt separator rest else consFirst c (partsAt separator rest)

theorem partsAt_ne_nil (separator : Char) (s : List Char) : partsAt separator s ≠ [] := by
  cases s with
  | nil => simp [partsAt]
  | cons c rest =>
    rw [partsAt]
    split
    · simp
    · unfold consFirst
      split <;> simp

/-- The parts with separators between them are the text. -/
theorem intercalate_partsAt (separator : Char) (s : List Char) :
    [separator].intercalate (partsAt separator s) = s := by
  induction s with
  | nil => rfl
  | cons c rest ih =>
    rw [partsAt]
    obtain ⟨piece, pieces, h⟩ := List.exists_cons_of_ne_nil (partsAt_ne_nil separator rest)
    rw [h] at ih ⊢
    split
    next hc => rw [List.intercalate_cons_cons, ih, hc]; rfl
    next hc =>
      rw [consFirst, ← ih]
      cases pieces with
      | nil => simp
      | cons other others => simp [List.intercalate_cons_cons]

/-- The pieces between the separators that no backslash precedes, with the backslashes undone. -/
def pieces (separator : Char) : List Char → List (List Char)
  | [] => [[]]
  | ['\\'] => [[]]
  | '\\' :: c :: rest => consFirst c (pieces separator rest)
  | c :: rest =>
    if c = separator then [] :: pieces separator rest else consFirst c (pieces separator rest)

/-- The part before the first occurrence of a character and the part after it, if it occurs. -/
def cutAt? (c : Char) : List Char → Option (List Char × List Char)
  | [] => none
  | x :: rest =>
    if x = c then some ([], rest) else (cutAt? c rest).map fun cut => (x :: cut.1, cut.2)

/-- Where a text is cut, the character stands, for the first time. -/
theorem eq_of_cutAt? {c : Char} {s front back : List Char} (h : cutAt? c s = some (front, back)) :
    s = front ++ c :: back ∧ c ∉ front := by
  induction s generalizing front with
  | nil => cases h
  | cons x rest ih =>
    rw [cutAt?] at h
    split at h
    next hx => cases h; exact ⟨by rw [hx]; rfl, List.not_mem_nil⟩
    next hx =>
      obtain ⟨cut, hcut, hfront⟩ := Option.map_eq_some_iff.mp h
      cases hfront
      obtain ⟨whole, fresh⟩ := ih hcut
      refine ⟨by rw [whole]; rfl, ?_⟩
      intro hc
      rcases List.mem_cons.mp hc with rfl | hc
      · exact hx rfl
      · exact fresh hc

end Chars

def partsAt (separator : Char) (s : String) : List String :=
  (Chars.partsAt separator s.toList).map String.ofList

/-- The trimmed pieces of a text that are not empty, in order. -/
def splitEscaped (separator : Char) (s : String) : List String :=
  (((Chars.pieces separator s.toList).map Chars.trim).filter (!·.isEmpty)).map String.ofList

/-- The text of some lines, each with a line feed at its end. -/
def ofLines (lines : List String) : String :=
  String.join (lines.map (· ++ "\n"))

@[simp] theorem ofLines_nil : ofLines [] = "" := rfl

@[simp] theorem ofLines_cons (line : String) (lines : List String) :
    ofLines (line :: lines) = line ++ "\n" ++ ofLines lines := by
  simp [ofLines]

theorem ofLines_append (lines others : List String) :
    ofLines (lines ++ others) = ofLines lines ++ ofLines others := by
  simp [ofLines]

end SchemaInterfaces.Text
