import SchemaInterfaces.Text.Basic
import SchemaInterfaces.Yaml.Mark

/-!
# Contents of scalars

How the four ways of writing a scalar are read: plain, between quotes, and as a block of lines.
Line breaks inside plain and quoted scalars are folded: a single one becomes a blank, and of
several all but the first stay.
-/

namespace SchemaInterfaces.Yaml

/-- What stands between two words of a scalar: blanks of a line, or line breaks. -/
structure Gap where
  blanks : List Char := []
  /-- Whether there is a line break in the gap; blanks after it do not count. -/
  broken : Bool := false
  /-- The first line break, unless it is an escaped one. -/
  first : List Char := []
  others : List Char := []

namespace Gap

/-- The gap with a blank at its end. -/
def addBlank (gap : Gap) (c : Char) : Gap :=
  if gap.broken then gap else { gap with blanks := gap.blanks ++ [c] }

/-- The gap with a line break at its end. -/
def addBreak (gap : Gap) (c : Char) : Gap :=
  if gap.broken then { gap with others := gap.others ++ [breakContent c] }
  else { broken := true, first := [breakContent c] }

/-- What a gap is read as. -/
def content (gap : Gap) : List Char :=
  if gap.broken then
    if gap.first == ['\n'] then
      if gap.others.isEmpty then [' '] else gap.others
    else gap.first ++ gap.others
  else gap.blanks

/-- Whether nothing stands in a gap. -/
def isEmpty (gap : Gap) : Bool :=
  !gap.broken && gap.blanks.isEmpty

end Gap

/-- A scalar that was read: its content, and where the text goes on. -/
structure Contents where
  content : List Char
  mark : Mark
  rest : List Char
  /-- Whether a line break was passed after the last word. -/
  broken : Bool := false

/-- The contents with more characters in front. -/
def Contents.prepend (contents : Contents) (s : List Char) : Contents :=
  { contents with content := s ++ contents.content }

/-- The character with the number that hexadecimal digits denote. -/
def hexChar? (digits : List Char) : Option Char := do
  let n ← Text.numberIn? 16 digits
  if h : n.isValidChar then some (Char.ofNatAux n h) else none

/-- What the character after a backslash stands for, apart from those that announce digits. -/
def escape? : Char → Option Char
  | '0' => some '\x00'
  | 'a' => some '\x07'
  | 'b' => some '\x08'
  | 't' => some '\t'
  | '\t' => some '\t'
  | 'n' => some '\n'
  | 'v' => some '\x0b'
  | 'f' => some '\x0c'
  | 'r' => some '\r'
  | 'e' => some '\x1b'
  | ' ' => some ' '
  | '"' => some '"'
  | '/' => some '/'
  | '\\' => some '\\'
  | 'N' => some '\u0085'
  | '_' => some '\u00a0'
  | 'L' => some '\u2028'
  | 'P' => some '\u2029'
  | _ => none

/-- Reads a scalar in single quotes, after the opening one. A quote is written twice. -/
def readSingleQuoted (gap : Gap) (mark : Mark) : List Char → Option Contents
  | [] => none
  | '\'' :: '\'' :: rest =>
    (readSingleQuoted {} (mark.skip 2) rest).map (·.prepend (gap.content ++ ['\'']))
  | '\r' :: '\n' :: rest => readSingleQuoted (gap.addBreak '\n') (mark.newLine 2) rest
  | c :: rest =>
    if isBlank c then readSingleQuoted (gap.addBlank c) (mark.pass c) rest
    else if isBreak c then readSingleQuoted (gap.addBreak c) (mark.newLine c.utf8Size) rest
    else if atDocumentMark mark (c :: rest) then none
    else if c = '\'' then some ⟨gap.content, mark.skip 1, rest, false⟩
    else (readSingleQuoted {} (mark.pass c) rest).map (·.prepend (gap.content ++ [c]))

/-- Reads a scalar in double quotes, after the opening one. -/
def readDoubleQuoted (gap : Gap) (mark : Mark) : List Char → Option Contents
  | [] => none
  | '\\' :: 'x' :: a :: b :: rest => do
    let c ← hexChar? [a, b]
    (readDoubleQuoted {} (mark.skip 4) rest).map (·.prepend (gap.content ++ [c]))
  | '\\' :: 'u' :: a :: b :: c :: d :: rest => do
    let c ← hexChar? [a, b, c, d]
    (readDoubleQuoted {} (mark.skip 6) rest).map (·.prepend (gap.content ++ [c]))
  | '\\' :: 'U' :: a :: b :: c :: d :: e :: f :: g :: h :: rest => do
    let c ← hexChar? [a, b, c, d, e, f, g, h]
    (readDoubleQuoted {} (mark.skip 10) rest).map (·.prepend (gap.content ++ [c]))
  | '\\' :: '\r' :: '\n' :: rest =>
    (readDoubleQuoted { broken := true } ((mark.skip 1).newLine 2) rest).map
      (·.prepend gap.content)
  | '\\' :: e :: rest =>
    if isBreak e then
      (readDoubleQuoted { broken := true } ((mark.skip 1).newLine e.utf8Size) rest).map
        (·.prepend gap.content)
    else do
      let c ← escape? e
      (readDoubleQuoted {} (mark.skip 2) rest).map (·.prepend (gap.content ++ [c]))
  | '\r' :: '\n' :: rest => readDoubleQuoted (gap.addBreak '\n') (mark.newLine 2) rest
  | c :: rest =>
    if isBlank c then readDoubleQuoted (gap.addBlank c) (mark.pass c) rest
    else if isBreak c then readDoubleQuoted (gap.addBreak c) (mark.newLine c.utf8Size) rest
    else if atDocumentMark mark (c :: rest) || c = '\\' then none
    else if c = '"' then some ⟨gap.content, mark.skip 1, rest, false⟩
    else (readDoubleQuoted {} (mark.pass c) rest).map (·.prepend (gap.content ++ [c]))

/-- Whether a character separates the parts of a flow collection. -/
def isFlowIndicator (c : Char) : Bool :=
  c == ',' || c == '[' || c == ']' || c == '\x7b' || c == '\x7d'

/-- Reads a plain scalar. Outside of flow collections it ends at a line that is indented less than
`indent`. -/
def readPlain (inFlow : Bool) (indent : Int) (gap : Gap) (mark : Mark) :
    List Char → Option Contents
  | [] => some ⟨[], mark, [], gap.broken⟩
  | '\r' :: '\n' :: rest => readPlain inFlow indent (gap.addBreak '\n') (mark.newLine 2) rest
  | c :: rest =>
    let ended : Contents := ⟨[], mark, c :: rest, gap.broken⟩
    if isBlank c then
      if gap.broken && (mark.column : Int) < indent && c == '\t' then none
      else readPlain inFlow indent (gap.addBlank c) (mark.pass c) rest
    else if isBreak c then readPlain inFlow indent (gap.addBreak c) (mark.newLine c.utf8Size) rest
    else if !gap.isEmpty && !inFlow && (mark.column : Int) < indent then some ended
    else if atDocumentMark mark (c :: rest) || (!gap.isEmpty && c == '#') then some ended
    else if inFlow && c == ':' && rest.head?.any (fun d => isFlowIndicator d || d == '?') then
      none
    else if (c == ':' && atGap rest) || (inFlow && isFlowIndicator c) then some ended
    else (readPlain inFlow indent {} (mark.pass c) rest).map (·.prepend (gap.content ++ [c]))

/-- What is done with the line breaks at the end of a block scalar. -/
inductive Chomping where
  | strip
  | clip
  | keep
  deriving DecidableEq

/-- The blank lines and indentation in front of a line of a block scalar. -/
structure Indentation where
  breaks : List Char
  /-- The largest column that was reached. -/
  deepest : Nat
  mark : Mark
  rest : List Char

/-- Reads blank lines and indentation up to the column `limit`, or any indentation if there is no
limit yet. -/
def readIndentation (limit : Option Nat) (breaks : List Char) (deepest : Nat) (mark : Mark) :
    List Char → Option Indentation
  | [] => some ⟨breaks, max deepest mark.column, mark, []⟩
  | '\r' :: '\n' :: rest =>
    readIndentation limit (breaks ++ ['\n']) (max deepest mark.column) (mark.newLine 2) rest
  | c :: rest =>
    let below := limit.all fun limit => decide (mark.column < limit)
    if below && c == ' ' then readIndentation limit breaks deepest (mark.skip 1) rest
    else if below && c == '\t' then none
    else if isBreak c then
      readIndentation limit (breaks ++ [breakContent c]) (max deepest mark.column)
        (mark.newLine c.utf8Size) rest
    else some ⟨breaks, max deepest mark.column, mark, c :: rest⟩

/-- Where the reading of a block scalar stands. -/
structure BlockState where
  /-- Whether it stands inside a line, not in front of one. -/
  inLine : Bool := false
  /-- The line break that ended the last line. -/
  ending : List Char := []
  /-- Whether the last line began with a blank. -/
  afterBlank : Bool := false
  /-- The line breaks after that one. -/
  breaks : List Char

/-- What is read in front of a line that begins with `c`. -/
def BlockState.joint (state : BlockState) (folded : Bool) (c : Char) : List Char :=
  if folded && state.ending == ['\n'] && !state.afterBlank && !isBlank c then
    if state.breaks.isEmpty then [' '] else state.breaks
  else state.ending ++ state.breaks

/-- What is read at the end of a block scalar. -/
def BlockState.tail (state : BlockState) : Chomping → List Char
  | .strip => []
  | .clip => state.ending
  | .keep => state.ending ++ state.breaks

/-- Reads the lines of a block scalar, which are indented to the column `indent`. -/
def readBlock (folded : Bool) (chomping : Chomping) (indent : Nat) (state : BlockState)
    (mark : Mark) : List Char → Option Contents
  | [] => some ⟨state.tail chomping, mark, [], false⟩
  | '\r' :: '\n' :: rest =>
    if state.inLine then
      readBlock folded chomping indent
        { state with inLine := false, ending := ['\n'], breaks := [] } (mark.newLine 2) rest
    else
      readBlock folded chomping indent { state with breaks := state.breaks ++ ['\n'] }
        (mark.newLine 2) rest
  | c :: rest =>
    if isBreak c then
      if state.inLine then
        readBlock folded chomping indent
          { state with inLine := false, ending := [breakContent c], breaks := [] }
          (mark.newLine c.utf8Size) rest
      else
        readBlock folded chomping indent { state with breaks := state.breaks ++ [breakContent c] }
          (mark.newLine c.utf8Size) rest
    else if state.inLine then
      (readBlock folded chomping indent state (mark.pass c) rest).map (·.prepend [c])
    else if mark.column < indent then
      if c == ' ' then readBlock folded chomping indent state (mark.skip 1) rest
      else if c == '\t' then none
      else some ⟨state.tail chomping, mark, c :: rest, false⟩
    else if mark.column = indent then
      (readBlock folded chomping indent
        { inLine := true, ending := [], afterBlank := isBlank c, breaks := [] }
        (mark.pass c) rest).map (·.prepend (state.joint folded c ++ [c]))
    else some ⟨state.tail chomping, mark, c :: rest, false⟩

/-- The value of an indentation indicator, which is a digit other than zero; other characters are
none. -/
def indentDigit? (d : Char) : Option (Option Nat) :=
  if d = '0' then none
  else if d.isDigit then some (some (d.toNat - '0'.toNat))
  else some none

/-- The chomping that a character indicates. -/
def chomping? (c : Char) : Option Chomping :=
  if c = '+' then some .keep else if c = '-' then some .strip else none

/-- The indicators of a block scalar, chomping and indentation in either order, and how many
characters they are. -/
def blockIndicators? (s : List Char) : Option (Chomping × Option Nat × Nat) :=
  match s with
  | [] => some (.clip, none, 0)
  | c :: rest =>
    match chomping? c with
    | some chomping =>
      match rest.head?.map indentDigit? with
      | some none => none
      | some (some (some n)) => some (chomping, some n, 2)
      | some (some none) | none => some (chomping, none, 1)
    | none =>
      match indentDigit? c with
      | none => none
      | some none => some (.clip, none, 0)
      | some (some n) =>
        match rest.head?.bind chomping? with
        | some chomping => some (chomping, some n, 2)
        | none => some (.clip, some n, 1)

/-- The number of blanks in front of a text, and of characters of a comment after them. -/
def gapLength (s : List Char) : Nat :=
  let blanks := (s.takeWhile isBlank).length
  match s.drop blanks with
  | '#' :: rest => blanks + 1 + (rest.takeWhile fun c => !isBreak c).length
  | _ => blanks

/-- Passes a line break, if there is one. -/
def passBreak (mark : Mark) : List Char → Mark × List Char
  | '\r' :: '\n' :: rest => (mark.newLine 2, rest)
  | c :: rest => if isBreak c then (mark.newLine c.utf8Size, rest) else (mark, c :: rest)
  | [] => (mark, [])

/-- Reads a block scalar after its first character; `outer` is the indentation around it. -/
def readBlockScalar (folded : Bool) (outer : Int) (mark : Mark) (s : List Char) :
    Option Contents := do
  let (chomping, increment, length) ← blockIndicators? s
  let passed := length + gapLength (s.drop length)
  let rest := s.drop passed
  if !atLineEnd rest then none
  else
    let (mark, rest) := passBreak (mark.passAll (s.take passed)) rest
    let given := increment.map fun n => if 0 ≤ outer then outer.toNat + n else n
    let front ← readIndentation given [] 0 mark rest
    let indent := given.getD (max (max front.deepest (outer + 1).toNat) 1)
    readBlock folded chomping indent { breaks := front.breaks } front.mark front.rest

end SchemaInterfaces.Yaml
