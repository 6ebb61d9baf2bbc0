import SchemaInterfaces.Yaml.Tag

/-!
# YAML tokens

A text as a list of tokens. What indentation says about the nesting of blocks is made explicit:
each block collection is between a token that opens it and one that closes it. That something was
the key of a mapping shows only at the colon after it, so the token for a key is put in front of
what has been read already; this is possible on one line and within about a thousand bytes.
-/

namespace SchemaInterfaces.Yaml

/-- How a scalar is written. -/
inductive Style where
  | plain
  | singleQuoted
  | doubleQuoted
  | literal
  | folded
  deriving DecidableEq, Repr

inductive Token where
  | directive (directive : Directive)
  | documentStart
  | documentEnd
  | blockSequence
  | blockMapping
  | blockEnd
  | flowSequence
  | flowSequenceEnd
  | flowMapping
  | flowMappingEnd
  | blockEntry
  | flowEntry
  | key
  | value
  | aliasTo (name : String)
  | anchor (name : String)
  | tag (text : TagText)
  | scalar (style : Style) (content : String)

/-- A token and where it stands. -/
structure Placed where
  token : Token
  start : Mark
  stop : Mark

/-- A place at which a key may have begun, as long as no colon settles it. -/
structure PendingKey where
  /-- Whether nothing but a key can stand here. -/
  required : Bool
  /-- How many tokens are before it. -/
  position : Nat
  mark : Mark

/-- Where the reading of tokens stands. -/
structure Lexer where
  mark : Mark
  rest : List Char
  tokens : List Placed := []
  /-- The indentation of the innermost block collection. -/
  indent : Int := -1
  /-- The indentations of the collections around it. -/
  outer : List Int := []
  /-- Whether a key without an indicator may begin here. -/
  keyAllowed : Bool := true
  /-- The possible key of the innermost flow collection, or outside of them. -/
  pending : Option PendingKey := none
  /-- The possible keys around it, one for each flow collection. -/
  around : List (Option PendingKey) := []

namespace Lexer

def inFlow (lexer : Lexer) : Bool :=
  !lexer.around.isEmpty

/-- The lexer after another token. -/
def emit (lexer : Lexer) (token : Token) (start : Mark) : Lexer :=
  { lexer with tokens := lexer.tokens ++ [⟨token, start, lexer.mark⟩] }

/-- The lexer after `n` characters of a line. -/
def skip (lexer : Lexer) (n : Nat) : Lexer :=
  { lexer with mark := lexer.mark.passAll (lexer.rest.take n), rest := lexer.rest.drop n }

/-- The lexer after `n` characters of a line that are a token. -/
def emitNext (lexer : Lexer) (token : Token) (n : Nat) : Lexer :=
  (lexer.skip n).emit token lexer.mark

/-- Steps over blanks, comments and line breaks, from a mark. Outside of flow collections a new
line allows a key. Tabs may not stand where a key may. A byte order mark may stand at the beginning
of a line, where it is a character of that line. -/
def toNextToken (inFlow : Bool) : (keyAllowed inComment : Bool) → Mark → List Char →
    Bool × Mark × List Char
  | keyAllowed, _, mark, [] => (keyAllowed, mark, [])
  | keyAllowed, _, mark, '\r' :: '\n' :: rest =>
    toNextToken inFlow (keyAllowed || !inFlow) false (mark.newLine 2) rest
  | keyAllowed, inComment, mark, c :: rest =>
    if isBreak c then
      toNextToken inFlow (keyAllowed || !inFlow) false (mark.newLine c.utf8Size) rest
    else if inComment || c == '#' then toNextToken inFlow keyAllowed true (mark.pass c) rest
    else if c == ' ' || (c == '\t' && (inFlow || !keyAllowed)) ||
        (c == '\ufeff' && mark.column == 0) then
      toNextToken inFlow keyAllowed false (mark.pass c) rest
    else (keyAllowed, mark, c :: rest)

/-- How many bytes may lie between the beginning of a key and its colon. -/
def keyLimit : Nat :=
  1024

/-- A possible key, unless its line or its length is passed; a required one must not be. -/
def refreshKey (mark : Mark) : Option PendingKey → Option (Option PendingKey)
  | none => some none
  | some key =>
    if key.mark.line < mark.line || key.mark.index + keyLimit < mark.index then
      if key.required then none else some none
    else some (some key)

/-- The lexer without the possible keys that are too far behind. -/
def refreshKeys (lexer : Lexer) : Option Lexer := do
  return { lexer with
    pending := ← refreshKey lexer.mark lexer.pending
    around := ← lexer.around.mapM (refreshKey lexer.mark) }

/-- The lexer without the possible key of the innermost collection; a required one must not be
given up. -/
def dropKey (lexer : Lexer) : Option Lexer :=
  match lexer.pending with
  | some key => if key.required then none else some { lexer with pending := none }
  | none => some lexer

/-- The lexer with a possible key here, if one is allowed here. -/
def saveKey (lexer : Lexer) : Option Lexer :=
  if lexer.keyAllowed then do
    let lexer ← lexer.dropKey
    let required := !lexer.inFlow && lexer.indent == (lexer.mark.column : Int)
    return { lexer with pending := some ⟨required, lexer.tokens.length, lexer.mark⟩ }
  else
    some lexer

/-- Closes block collections that are indented more than `column`; `outer` holds the indentations
around the innermost one. -/
def unroll (column : Int) (mark : Mark) (tokens : List Placed) (indent : Int) :
    List Int → List Placed × Int × List Int
  | [] => (tokens, indent, [])
  | next :: outer =>
    if column < indent then
      unroll column mark (tokens ++ [⟨.blockEnd, mark, mark⟩]) next outer
    else (tokens, indent, next :: outer)

/-- Closes block collections that are indented more than `column`. -/
def closeBlocks (lexer : Lexer) (column : Int) : Lexer :=
  if lexer.inFlow then lexer
  else
    let (tokens, indent, outer) :=
      unroll column lexer.mark lexer.tokens lexer.indent lexer.outer
    { lexer with tokens, indent, outer }

/-- Opens a block collection in front of the token with the given position, if the column is
indented more than the innermost one. -/
def openBlock (lexer : Lexer) (token : Token) (position : Nat) (mark : Mark) : Lexer :=
  if !lexer.inFlow && lexer.indent < (mark.column : Int) then
    { lexer with
      tokens := lexer.tokens.insertIdx position ⟨token, mark, mark⟩
      indent := mark.column
      outer := lexer.indent :: lexer.outer }
  else lexer

/-- Opens a block collection here, where one may begin. -/
def openBlockHere (lexer : Lexer) (token : Token) : Option Lexer :=
  if lexer.inFlow then some lexer
  else if lexer.keyAllowed then
    some (lexer.openBlock token lexer.tokens.length lexer.mark)
  else none

/-- The lexer after the contents of a scalar. -/
def emitScalar (lexer : Lexer) (style : Style) (contents : Contents) : Lexer :=
  ({ lexer with mark := contents.mark, rest := contents.rest }).emit
    (.scalar style (String.ofList contents.content)) lexer.mark

/-- Reads the colon after a key, or one without a key in front. -/
def readValueMark (lexer : Lexer) : Option Lexer := do
  match lexer.pending with
  | some key =>
    -- The colon settles that a key began earlier, perhaps the first one of its mapping.
    let lexer := { lexer with
      tokens := lexer.tokens.insertIdx key.position ⟨.key, key.mark, key.mark⟩ }
    let lexer := lexer.openBlock .blockMapping key.position key.mark
    return { lexer with pending := none, keyAllowed := false }.emitNext .value 1
  | none =>
    let lexer ← lexer.openBlockHere .blockMapping
    return { lexer with keyAllowed := !lexer.inFlow }.emitNext .value 1

def readDirectiveLine (lexer : Lexer) : Option Lexer := do
  let lexer ← (lexer.closeBlocks (-1)).dropKey
  let (directive, rest) ← readDirective (lexer.rest.drop 1)
  let passed := lexer.rest.length - rest.length
  let gap := gapLength rest
  if !atLineEnd (rest.drop gap) then none
  else
    let front := lexer.rest.take (passed + gap)
    let (mark, rest) := passBreak (lexer.mark.passAll front) (rest.drop gap)
    return { lexer with keyAllowed := false, mark, rest }.emit (.directive directive) lexer.mark

/-- Reads the mark of a document's beginning or end. -/
def readDocumentMark (lexer : Lexer) (token : Token) : Option Lexer := do
  let lexer ← (lexer.closeBlocks (-1)).dropKey
  return { lexer with keyAllowed := false }.emitNext token 3

/-- Reads the name of an anchor or alias. -/
def readName (lexer : Lexer) (token : String → Token) : Option Lexer := do
  let lexer ← lexer.saveKey
  let name := (lexer.rest.drop 1).takeWhile isWordChar
  let after := lexer.rest.drop (name.length + 1)
  if name.isEmpty || !(atGap after || after.head?.any ("?:,]\x7d%@`".toList.contains ·)) then none
  else
    return { lexer with keyAllowed := false }.emitNext (token (String.ofList name))
      (name.length + 1)

def readTagMark (lexer : Lexer) : Option Lexer := do
  let lexer ← lexer.saveKey
  let (text, rest) ← readTag lexer.rest
  if atGap rest || (lexer.inFlow && rest.head? == some ',') then
    return { lexer with keyAllowed := false }.emitNext (.tag text)
      (lexer.rest.length - rest.length)
  else none

/-- Whether a plain scalar may begin with `c`, in front of `next`. -/
def mayBeginPlain (inFlow : Bool) (c : Char) (next : List Char) : Bool :=
  if c == '-' then !next.head?.any isBlank
  else if c == '?' || c == ':' then !inFlow && !atGap next
  else !(isBlank c || ",[]\x7b\x7d#&*!|>'\"%@`".toList.contains c)

/-- Reads a token that begins with the character `c`, which the rest of the text begins with. -/
def readToken (lexer : Lexer) (c : Char) : Option Lexer :=
  let next := lexer.rest.drop 1
  let atColumnZero := lexer.mark.column == 0
  if atColumnZero && c == '%' then lexer.readDirectiveLine
  else if atColumnZero && isTriple '-' lexer.rest then lexer.readDocumentMark .documentStart
  else if atColumnZero && isTriple '.' lexer.rest then lexer.readDocumentMark .documentEnd
  else if c == '[' || c == '\x7b' then do
    let lexer ← lexer.saveKey
    let lexer := { lexer with
      around := lexer.pending :: lexer.around, pending := none, keyAllowed := true }
    return lexer.emitNext (if c == '[' then .flowSequence else .flowMapping) 1
  else if c == ']' || c == '\x7d' then do
    let lexer ← lexer.dropKey
    let lexer :=
      match lexer.around with
      | key :: around => { lexer with pending := key, around }
      | [] => lexer
    return { lexer with keyAllowed := false }.emitNext
      (if c == ']' then .flowSequenceEnd else .flowMappingEnd) 1
  else if c == ',' then do
    return { ← lexer.dropKey with keyAllowed := true }.emitNext .flowEntry 1
  else if c == '-' && atGap next then do
    let lexer ← lexer.openBlockHere .blockSequence
    return { ← lexer.dropKey with keyAllowed := true }.emitNext .blockEntry 1
  else if c == '?' && (lexer.inFlow || atGap next) then do
    let lexer ← lexer.openBlockHere .blockMapping
    return { ← lexer.dropKey with keyAllowed := !lexer.inFlow }.emitNext .key 1
  else if c == ':' && (lexer.inFlow || atGap next) then lexer.readValueMark
  else if c == '*' then lexer.readName .aliasTo
  else if c == '&' then lexer.readName .anchor
  else if c == '!' then lexer.readTagMark
  else if (c == '|' || c == '>') && !lexer.inFlow then do
    let lexer ← lexer.dropKey
    let contents ← readBlockScalar (c == '>') lexer.indent (lexer.mark.skip 1) next
    return { lexer with keyAllowed := true }.emitScalar
      (if c == '>' then .folded else .literal) contents
  else if c == '\'' then do
    let lexer ← lexer.saveKey
    let contents ← readSingleQuoted {} (lexer.mark.skip 1) next
    return { lexer with keyAllowed := false }.emitScalar .singleQuoted contents
  else if c == '"' then do
    let lexer ← lexer.saveKey
    let contents ← readDoubleQuoted {} (lexer.mark.skip 1) next
    return { lexer with keyAllowed := false }.emitScalar .doubleQuoted contents
  else if !mayBeginPlain lexer.inFlow c next then none
  else do
    let lexer ← lexer.saveKey
    let contents ← readPlain lexer.inFlow (lexer.indent + 1) {} lexer.mark lexer.rest
    return { lexer with keyAllowed := contents.broken }.emitScalar .plain contents

/-- The lexer in front of the next token. -/
def advance (lexer : Lexer) : Option Lexer := do
  let (keyAllowed, mark, rest) :=
    toNextToken lexer.inFlow lexer.keyAllowed false lexer.mark lexer.rest
  let lexer ← { lexer with keyAllowed, mark, rest }.refreshKeys
  return lexer.closeBlocks mark.column

/-- All tokens of the text, given those read so far. Every token takes at least one character. -/
def run (lexer : Lexer) : Option (List Placed) := do
  let lexer' ← lexer.advance
  match lexer'.rest with
  | [] =>
    -- The end of the text counts as the beginning of a line.
    let mark := if lexer'.mark.column = 0 then lexer'.mark else lexer'.mark.newLine 0
    let lexer' ← ({ lexer' with mark }.closeBlocks (-1)).dropKey
    return lexer'.tokens
  | c :: _ =>
    let lexer'' ← lexer'.readToken c
    if _h : lexer''.rest.length < lexer.rest.length then lexer''.run else none
termination_by lexer.rest.length

end Lexer

/-- The tokens of a text, if it has only characters that a text may have. -/
def Token.ofText? (text : String) : Option (List Placed) :=
  let chars := text.toList
  if chars.all isAllowed then Lexer.run { mark := {}, rest := chars } else none

end SchemaInterfaces.Yaml
