/-!
# Places in a YAML text

Where in a text something stands, and the classes of characters that YAML tells apart. Five line
breaks are known; the three common ones are all read as a line feed.
-/

namespace SchemaInterfaces.Yaml

/-- A place in a text: how many bytes, lines, and characters of its line are before it. -/
structure Mark where
  index : Nat := 0
  line : Nat := 0
  column : Nat := 0
  deriving DecidableEq, Repr, Inhabited

namespace Mark

/-- The place after `n` more characters of the line that are one byte each. -/
def skip (mark : Mark) (n : Nat) : Mark :=
  { mark with index := mark.index + n, column := mark.column + n }

/-- The place after one more character of the line. -/
def pass (mark : Mark) (c : Char) : Mark :=
  { mark with index := mark.index + c.utf8Size, column := mark.column + 1 }

/-- The place after more characters of the line. -/
def passAll (mark : Mark) (s : List Char) : Mark :=
  s.foldl pass mark

/-- Where all characters are one byte each, their number is all that counts. -/
theorem passAll_eq_skip (mark : Mark) {s : List Char} (h : ∀ c ∈ s, c.utf8Size = 1) :
    mark.passAll s = mark.skip s.length := by
  induction s generalizing mark with
  | nil => rfl
  | cons c s ih =>
    rw [passAll, List.foldl_cons, ← passAll, ih _ fun d hd => h d (List.mem_cons_of_mem c hd)]
    simp only [pass, skip, h c List.mem_cons_self, List.length_cons, Mark.mk.injEq, true_and]
    omega

/-- The place after a line break of `n` bytes. -/
def newLine (mark : Mark) (n : Nat) : Mark :=
  ⟨mark.index + n, mark.line + 1, 0⟩

/-- How reports name a place; lines and columns are counted from one. -/
def describe (mark : Mark) : String :=
  "line " ++ toString (mark.line + 1) ++ " column " ++ toString (mark.column + 1)

end Mark

/-- Whether a character is a blank inside a line. -/
def isBlank (c : Char) : Bool :=
  c == ' ' || c == '\t'

/-- Whether a character breaks a line. -/
def isBreak (c : Char) : Bool :=
  c == '\r' || c == '\n' || c == '\u0085' || c == '\u2028' || c == '\u2029'

/-- Whether a text ends, or goes on with a blank or a line break. -/
def atGap : List Char → Bool
  | [] => true
  | c :: _ => isBlank c || isBreak c

/-- Whether a text ends, or goes on with a line break. -/
def atLineEnd : List Char → Bool
  | [] => true
  | c :: _ => isBreak c

/-- What a line break is read as. -/
def breakContent (c : Char) : Char :=
  if c == '\u2028' || c == '\u2029' then c else '\n'

/-- Whether a character may occur in names of anchors and directives. -/
def isWordChar (c : Char) : Bool :=
  c.isAlphanum || c == '_' || c == '-'

/-- Whether a character may occur in a text at all. -/
def isAllowed (c : Char) : Bool :=
  let n := c.toNat
  n == 0x09 || n == 0x0A || n == 0x0D || (0x20 ≤ n && n ≤ 0x7E) || n == 0x85 ||
    (0xA0 ≤ n && n ≤ 0xD7FF) || (0xE000 ≤ n && n ≤ 0xFFFD) || 0x10000 ≤ n

/-- Whether three equal characters stand here as the mark of a document's beginning or end. -/
def isTriple (c : Char) : List Char → Bool
  | a :: b :: d :: rest => a == c && b == c && d == c && atGap rest
  | _ => false

/-- Whether the mark of a document's beginning or end stands at the beginning of a line. -/
def atDocumentMark (mark : Mark) (s : List Char) : Bool :=
  mark.column == 0 && (isTriple '-' s || isTriple '.' s)

end SchemaInterfaces.Yaml
