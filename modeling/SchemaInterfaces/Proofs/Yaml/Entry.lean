import SchemaInterfaces.Proofs.Text.Identifier
import SchemaInterfaces.Proofs.Yaml.Quoted
import SchemaInterfaces.Yaml.Document

/-!
# A mapping with one entry

The text of an identifier, a colon, a quoted scalar and a line break is a document: a mapping from
the identifier to the text between the quotes. The reader of tokens is followed token by token.
-/

namespace SchemaInterfaces.Yaml

/-! ## Characters of identifiers -/

section

variable {c : Char} (hc : Text.isIdentifierChar c = true)
include hc

/-- A character of an identifier is none of those that mean something to YAML. -/
theorem beq_of_isIdentifierChar (d : Char) (hd : Text.isIdentifierChar d = false) :
    (c == d) = false := by
  rw [beq_eq_false_iff_ne]
  rintro rfl
  rw [hc] at hd
  cases hd

theorem isBlank_of_isIdentifierChar : isBlank c = false := by
  have hdiffers := beq_of_isIdentifierChar hc
  simp (disch := decide) only [isBlank, hdiffers, Bool.or_false]

theorem isBreak_of_isIdentifierChar : isBreak c = false := by
  have hdiffers := beq_of_isIdentifierChar hc
  simp (disch := decide) only [isBreak, hdiffers, Bool.or_false]

theorem mayBeginPlain_of_isIdentifierChar (inFlow : Bool) (next : List Char) :
    Lexer.mayBeginPlain inFlow c next = true := by
  have hdiffers := beq_of_isIdentifierChar hc
  have hne (d : Char) (hd : Text.isIdentifierChar d = false) : c ≠ d :=
    beq_eq_false_iff_ne.mp (hdiffers d hd)
  simp (disch := decide) [Lexer.mayBeginPlain, hdiffers, hne, isBlank_of_isIdentifierChar hc]

theorem isAllowed_of_isIdentifierChar : isAllowed c = true := by
  obtain ⟨hfrom, hto⟩ := Text.toNat_bounds_of_isIdentifierChar hc
  simp [isAllowed]
  omega

theorem utf8Size_of_isIdentifierChar : c.utf8Size = 1 := by
  have hto := (Text.toNat_bounds_of_isIdentifierChar hc).2
  rw [Char.utf8Size, if_pos]
  exact UInt32.le_iff_toNat_le.mpr (Nat.le_trans hto (by decide))

end

theorem isTriple_of_ne {c d : Char} (h : (d == c) = false) (s : List Char) :
    isTriple c (d :: s) = false := by
  unfold isTriple
  split
  next heq =>
    cases heq
    simp [h]
  next => rfl

theorem atDocumentMark_of_ne {d : Char} (hdash : (d == '-') = false) (hdot : (d == '.') = false)
    (mark : Mark) (s : List Char) : atDocumentMark mark (d :: s) = false := by
  rw [atDocumentMark, isTriple_of_ne hdash, isTriple_of_ne hdot, Bool.or_false, Bool.and_false]

/-- A plain word ends at the colon behind it. -/
theorem readPlain_word {word : List Char} (hword : ∀ c ∈ word, Text.isIdentifierChar c = true)
    (indent : Int) (mark : Mark) (rest : List Char) :
    readPlain false indent {} mark (word ++ ':' :: ' ' :: rest) =
      some ⟨word, mark.passAll word, ':' :: ' ' :: rest, false⟩ := by
  induction word generalizing mark with
  | nil =>
      rw [List.nil_append, readPlain]
      · simp [isBlank, isBreak, Gap.isEmpty, atDocumentMark_of_ne, atGap, Mark.passAll]
      · simp
  | cons c word ih =>
      obtain ⟨hc, hword⟩ := List.forall_mem_cons.mp hword
      have hdiffers := beq_of_isIdentifierChar hc
      rw [List.cons_append, readPlain]
      · simp [isBlank_of_isIdentifierChar hc, isBreak_of_isIdentifierChar hc, Gap.isEmpty,
          atDocumentMark_of_ne (hdiffers '-' rfl) (hdiffers '.' rfl), hdiffers ':' rfl, ih hword,
          Contents.prepend, Gap.content, Mark.passAll]
      · rintro _ rfl
        cases hc

namespace Lexer

/-- The lexer steps over what is in front of the next token, and reads the token. -/
def Step (lexer next : Lexer) : Prop :=
  ∃ (front : Lexer) (c : Char) (s : List Char), lexer.advance = some front ∧ front.rest = c :: s ∧
    front.readToken c = some next ∧ next.rest.length < lexer.rest.length

theorem Step.run_eq {lexer next : Lexer} (h : lexer.Step next) : lexer.run = next.run := by
  obtain ⟨front, c, s, hadvance, hfront, hread, hshorter⟩ := h
  rw [run, hadvance]
  simp only [Option.bind_eq_bind, Option.bind_some]
  split
  next heq =>
    rw [hfront] at heq
    cases heq
  next d _ heq =>
    obtain ⟨rfl, -⟩ := List.cons.inj (hfront.symm.trans heq)
    rw [hread, Option.bind_some, dif_pos hshorter]

/-- Whether a character is at the front of a token. -/
def isVisible (c : Char) : Bool :=
  !(isBlank c || isBreak c || c == '#' || c == '\ufeff')

theorem toNextToken_visible {c : Char} (hc : isVisible c = true) (inFlow keyAllowed : Bool)
    (mark : Mark) (s : List Char) :
    toNextToken inFlow keyAllowed false mark (c :: s) = (keyAllowed, mark, c :: s) := by
  simp [isVisible, isBlank] at hc
  rw [toNextToken]
  · simp [hc]
  · rintro _ rfl
    simp [isBreak] at hc

theorem isVisible_of_isIdentifierChar {c : Char} (hc : Text.isIdentifierChar c = true) :
    isVisible c = true := by
  have hdiffers := beq_of_isIdentifierChar hc
  simp (disch := decide) [isVisible, isBlank_of_isIdentifierChar hc, isBreak_of_isIdentifierChar hc,
    hdiffers]

/-- No block ends at a column that the innermost one reaches. -/
theorem closeBlocks_of_le {lexer : Lexer} {column : Int} (h : lexer.indent ≤ column) :
    lexer.closeBlocks column = lexer := by
  have hunroll : ∀ outer, unroll column lexer.mark lexer.tokens lexer.indent outer =
      (lexer.tokens, lexer.indent, outer)
    | [] => rfl
    | next :: outer => if_neg (Int.not_lt.mpr h)
  rw [closeBlocks, hunroll]
  split <;> rfl

theorem readToken_word {c : Char} (hc : Text.isIdentifierChar c = true) {lexer : Lexer}
    {s : List Char} (hrest : lexer.rest = c :: s) (haround : lexer.around = []) :
    lexer.readToken c = (do
      let lexer ← lexer.saveKey
      let contents ← readPlain lexer.inFlow (lexer.indent + 1) {} lexer.mark lexer.rest
      return { lexer with keyAllowed := contents.broken }.emitScalar .plain contents) := by
  have hdiffers := beq_of_isIdentifierChar hc
  simp (disch := decide) [readToken, hrest, inFlow, haround, hdiffers,
    isTriple_of_ne (hdiffers '-' rfl), isTriple_of_ne (hdiffers '.' rfl),
    mayBeginPlain_of_isIdentifierChar hc]

/-- Where no key is possible, a quoted scalar is read as one more token. -/
theorem readToken_quotes {style : Style} {written text : List Char} (h : Quotes style written text)
    {lexer : Lexer} (hkey : lexer.keyAllowed = false) (hcolumn : lexer.mark.column ≠ 0)
    {rest : List Char} (hrest : lexer.rest = written ++ rest) (hnext : rest.head? ≠ some '\'') :
    ∃ c s after, written = c :: s ∧ isVisible c = true ∧
      lexer.readToken c = some { lexer with
        mark := after
        rest := rest
        tokens := lexer.tokens ++
          [⟨.scalar style (String.ofList text), lexer.mark, after⟩] } := by
  -- Inside a line, dots and hyphens do not mark a document.
  have hinside : (lexer.mark.skip 1).column ≠ 0 := Nat.succ_ne_zero _
  cases h with
  | single h =>
      obtain ⟨after, hafter⟩ := h.isRead_single rest hnext [] _ hinside
      refine ⟨_, _, after, rfl, rfl, ?_⟩
      simp [readToken, hcolumn, hrest, saveKey, hkey, hafter, emitScalar, emit]
  | double h =>
      obtain ⟨after, hafter⟩ := h.isRead_double rest [] _ hinside
      refine ⟨_, _, after, rfl, rfl, ?_⟩
      simp [readToken, hcolumn, hrest, saveKey, hkey, hafter, emitScalar, emit]

/-- The lexer in front of an entry. -/
def atEntry (word s : List Char) : Lexer :=
  { mark := {}, rest := word ++ ':' :: ' ' :: s }

/-- The lexer behind the entry's key. -/
def atColon (word s : List Char) : Lexer :=
  { mark := Mark.passAll {} word
    rest := ':' :: ' ' :: s
    tokens := [⟨.scalar .plain (String.ofList word), {}, Mark.passAll {} word⟩]
    keyAllowed := false
    pending := some ⟨false, 0, {}⟩ }

/-- The lexer behind the entry's colon. -/
def atValue (word s : List Char) : Lexer :=
  { mark := (Mark.passAll {} word).pass ':'
    rest := ' ' :: s
    tokens := [⟨.blockMapping, {}, {}⟩, ⟨.key, {}, {}⟩,
      ⟨.scalar .plain (String.ofList word), {}, Mark.passAll {} word⟩,
      ⟨.value, Mark.passAll {} word, (Mark.passAll {} word).pass ':'⟩]
    indent := 0
    outer := [-1]
    keyAllowed := false }

/-- The lexer behind the entry's value. -/
def atEnd (word : List Char) (start after : Mark) (style : Style) (text s : List Char) : Lexer :=
  { mark := after
    rest := s
    tokens := (atValue word []).tokens ++ [⟨.scalar style (String.ofList text), start, after⟩]
    indent := 0
    outer := [-1]
    keyAllowed := false }

theorem step_key {word : List Char} (hne : word ≠ [])
    (hword : ∀ c ∈ word, Text.isIdentifierChar c = true) (s : List Char) :
    (atEntry word s).Step (atColon word s) := by
  obtain ⟨c, word', rfl⟩ := List.exists_cons_of_ne_nil hne
  have hc := hword c List.mem_cons_self
  refine ⟨atEntry (c :: word') s, c, _, ?_, rfl, ?_, ?_⟩
  · have hvisible := isVisible_of_isIdentifierChar hc
    simp [advance, atEntry, toNextToken_visible hvisible, refreshKeys, refreshKey,
      closeBlocks_of_le]
  · have hread := readPlain_word hword 0 {} s
    rw [readToken_word hc rfl rfl]
    simp [atEntry, atColon, saveKey, dropKey, inFlow, emitScalar, emit] at hread ⊢
    simp [hread]
  · simp only [atEntry, atColon, List.length_append, List.length_cons]
    omega

theorem step_colon {word : List Char} (hlength : word.length ≤ keyLimit)
    (hword : ∀ c ∈ word, Text.isIdentifierChar c = true) (s : List Char) :
    (atColon word s).Step (atValue word s) := by
  have hmark : Mark.passAll {} word = Mark.skip {} word.length :=
    Mark.passAll_eq_skip {} fun c hc => utf8Size_of_isIdentifierChar (hword c hc)
  refine ⟨atColon word s, ':', _, ?_, rfl, ?_, ?_⟩
  -- The key is still possible: its line has not ended, and no more than the limit lies behind it.
  · have hvisible : isVisible ':' = true := rfl
    have hcolumn (n : Nat) : (-1 : Int) ≤ n := by omega
    simp [advance, atColon, toNextToken_visible hvisible, hmark, refreshKeys, refreshKey,
      Mark.skip, Nat.not_lt_of_le hlength, closeBlocks_of_le, hcolumn]
  · simp [readToken, atColon, atValue, isTriple_of_ne, atGap, isBlank, readValueMark, openBlock,
      inFlow, emitNext, skip, emit, Mark.passAll]
  · simp [atColon, atValue]

theorem step_value {style : Style} {written text : List Char} (h : Quotes style written text)
    (word : List Char) {s : List Char} (hs : s.head? ≠ some '\'') :
    ∃ start after, (atValue word (written ++ s)).Step (atEnd word start after style text s) := by
  let start := ((Mark.passAll {} word).pass ':').pass ' '
  let front : Lexer := { atValue word (written ++ s) with mark := start, rest := written ++ s }
  have hkey : front.keyAllowed = false := rfl
  obtain ⟨c, tail, after, rfl, hvisible, hread⟩ :=
    readToken_quotes h hkey (Nat.succ_ne_zero _) rfl hs
  refine ⟨start, after, front, c, tail ++ s, ?_, rfl, hread, ?_⟩
  · simp [advance, atValue, front, start, toNextToken, isBreak, toNextToken_visible hvisible,
      refreshKeys, refreshKey, closeBlocks_of_le]
  · simp only [atValue, atEnd, List.length_append, List.length_cons]
    omega

/-- Behind the last line break, the mapping ends. -/
theorem run_atEnd (word : List Char) (start after : Mark) (style : Style) (text : List Char) :
    ∃ stop, (atEnd word start after style text ['\n']).run =
      some ((atEnd word start after style text []).tokens ++ [⟨.blockEnd, stop, stop⟩]) := by
  refine ⟨after.newLine 1, ?_⟩
  rw [run]
  simp [atEnd, atValue, advance, toNextToken, isBreak, refreshKeys, refreshKey, closeBlocks,
    unroll, inFlow, dropKey]
  rfl

end Lexer

theorem Document.ofTokens?_entry (key text : String) (style : Style) (m₁ m₂ m₃ m₄ m₅ : Mark) :
    Document.ofTokens? [⟨.blockMapping, {}, {}⟩, ⟨.key, {}, {}⟩, ⟨.scalar .plain key, {}, m₁⟩,
      ⟨.value, m₁, m₂⟩, ⟨.scalar style text, m₃, m₄⟩, ⟨.blockEnd, m₅, m₅⟩] =
    some ⟨some (.mapping {} none none
      [(.scalar {} none none .plain key, .scalar m₃ none none style text)])⟩ := by
  with_unfolding_all rfl

/-- A mapping with one entry is read as its key, which is an identifier, and the text between the
quotes. -/
theorem Document.ofText?_entry {key : String} (hkey : Text.isIdentifier key = true)
    (hlength : key.length ≤ Lexer.keyLimit) {style : Style} {written text : List Char}
    (hquotes : Quotes style written text) :
    ∃ mark, Document.ofText? (key ++ ": " ++ String.ofList written ++ "\n") =
      some ⟨some (.mapping {} none none
        [(.scalar {} none none .plain key,
          .scalar mark none none style (String.ofList text))])⟩ := by
  have hchars : (key ++ ": " ++ String.ofList written ++ "\n").toList =
      key.toList ++ ':' :: ' ' :: (written ++ ['\n']) := by
    simp
  have hword : ∀ c ∈ key.toList, Text.isIdentifierChar c = true :=
    fun c hc => Text.isIdentifierChar_of_mem hkey hc
  have hallowed : (key.toList ++ ':' :: ' ' :: (written ++ ['\n'])).all isAllowed = true := by
    have hcolon : isAllowed ':' = true := rfl
    have hblank : isAllowed ' ' = true := rfl
    have hbreak : isAllowed '\n' = true := rfl
    simp only [List.all_append, List.all_cons, List.all_nil, hcolon, hblank, hbreak,
      Bool.and_true, Bool.true_and, Bool.and_eq_true, List.all_eq_true]
    exact ⟨fun c hc => isAllowed_of_isIdentifierChar (hword c hc), hquotes.allowed⟩
  have hne : key.toList ≠ [] := by
    simpa using (Text.isComponent_of_isIdentifier hkey).ne_empty
  obtain ⟨start, after, hvalue⟩ :=
    Lexer.step_value hquotes key.toList (s := ['\n']) (by decide)
  obtain ⟨stop, hend⟩ := Lexer.run_atEnd key.toList start after style text
  refine ⟨start, ?_⟩
  have hrun : Token.ofText? (key ++ ": " ++ String.ofList written ++ "\n") = some
      ((Lexer.atEnd key.toList start after style text []).tokens ++ [⟨.blockEnd, stop, stop⟩]) :=
    calc Token.ofText? (key ++ ": " ++ String.ofList written ++ "\n")
        = (Lexer.atEntry key.toList (written ++ ['\n'])).run := by
          rw [Token.ofText?, hchars, if_pos hallowed]
          rfl
      _ = (Lexer.atColon key.toList (written ++ ['\n'])).run :=
          (Lexer.step_key hne hword _).run_eq
      _ = (Lexer.atValue key.toList (written ++ ['\n'])).run :=
          (Lexer.step_colon hlength hword _).run_eq
      _ = (Lexer.atEnd key.toList start after style text ['\n']).run := hvalue.run_eq
      _ = _ := hend
  rw [Document.ofText?, hrun]
  simp only [Lexer.atEnd, Lexer.atValue, String.ofList_toList]
  exact Document.ofTokens?_entry ..

end SchemaInterfaces.Yaml
