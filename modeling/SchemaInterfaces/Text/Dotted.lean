/-!
# Dotted names

Names whose parts are separated by dots.
-/

namespace SchemaInterfaces.Text

namespace Chars

/-- The characters without the dots in front. -/
def dropDots (s : List Char) : List Char :=
  s.dropWhile (· == '.')

/-- The beginnings of a text that end in front of a dot, the shortest first, given what stands in
front of the text. -/
def beginningsAfter (done : List Char) : List Char → List (List Char)
  | [] => []
  | c :: rest =>
    if c = '.' then done :: beginningsAfter (done ++ [c]) rest
    else beginningsAfter (done ++ [c]) rest

end Chars

def dropDots (s : String) : String :=
  String.ofList (Chars.dropDots s.toList)

/-- A text with no dot in front stays as it is. -/
theorem dropDots_eq_self {s : String} (h : s.toList.head? ≠ some '.') : dropDots s = s := by
  have hchars : Chars.dropDots s.toList = s.toList := by
    cases hlist : s.toList with
    | nil => rfl
    | cons c rest =>
      rw [hlist] at h
      exact List.dropWhile_cons_of_neg (by simpa using h)
  rw [dropDots, hchars, String.ofList_toList]

def beginnings (s : String) : List String :=
  (Chars.beginningsAfter [] s.toList).map String.ofList

end SchemaInterfaces.Text
