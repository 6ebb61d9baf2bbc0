/-!
# Styled text

Text that a terminal shows in a colour or in bold, by codes around it. Where a styled text itself
ends a style, the outer one is resumed.
-/

namespace SchemaInterfaces.CommandLine

inductive Style where
  | cyan
  | green
  | yellow
  | bold
  | boldGreen
  deriving DecidableEq, Repr

namespace Style

/-- The numbers that stand for a style in its code. -/
def numbers : Style → String
  | cyan => "36"
  | green => "32"
  | yellow => "33"
  | bold => "1"
  | boldGreen => "1;32"

/-- The code that begins a style. -/
def start (style : Style) : List Char :=
  ("\x1b[" ++ style.numbers ++ "m").toList

/-- The code that ends all styles. -/
def reset : List Char :=
  ['\x1b', '[', '0', 'm']

/-- A text in which the style begins again after each code that ends it. -/
def resume (style : Style) : List Char → List Char
  | '\x1b' :: '[' :: '0' :: 'm' :: rest => reset ++ style.start ++ resume style rest
  | c :: rest => c :: resume style rest
  | [] => []

/-- A text without codes is not changed. -/
theorem resume_of_notMem (style : Style) {s : List Char} (h : '\x1b' ∉ s) : resume style s = s := by
  fun_induction resume style s with
  | case1 => simp at h
  | case2 c rest _ ih => rw [ih fun hc => h (List.mem_cons_of_mem _ hc)]
  | case3 => rfl

/-- A text in a style; without colours it stays as it is. -/
def apply (coloured : Bool) (style : Style) (text : String) : String :=
  if coloured then String.ofList (style.start ++ style.resume text.toList ++ reset) else text

end Style

end SchemaInterfaces.CommandLine
