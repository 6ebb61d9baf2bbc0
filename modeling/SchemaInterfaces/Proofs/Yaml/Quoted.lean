import Mathlib.Data.List.Basic
import Mathlib.Tactic.SplitIfs
import SchemaInterfaces.Yaml.Token

/-!
# Quoted scalars

A text between quotes, all on one line. Between single quotes characters stand for themselves, but a
quote is written twice. Between double quotes they stand for themselves or behind a backslash: by a
letter, or by their number. A reader takes the text from between the quotes, whichever way each
character is written, and every text can be written so.
-/

namespace SchemaInterfaces.Yaml

/-- The ways to write a character between the quotes of a style. -/
inductive Spelling : Style → List Char → Char → Prop where
  | single {c : Char} : isAllowed c = true → isBreak c = false → c ≠ '\'' →
      Spelling .singleQuoted [c] c
  | quote : Spelling .singleQuoted ['\'', '\''] '\''
  | double {c : Char} : isAllowed c = true → isBreak c = false → c ≠ '"' → c ≠ '\\' →
      Spelling .doubleQuoted [c] c
  | escape {e c : Char} : escape? e = some c → Spelling .doubleQuoted ['\\', e] c
  | two {d₁ d₂ c : Char} : hexChar? [d₁, d₂] = some c →
      Spelling .doubleQuoted ['\\', 'x', d₁, d₂] c
  | four {d₁ d₂ d₃ d₄ c : Char} : hexChar? [d₁, d₂, d₃, d₄] = some c →
      Spelling .doubleQuoted ['\\', 'u', d₁, d₂, d₃, d₄] c
  | eight {d₁ d₂ d₃ d₄ d₅ d₆ d₇ d₈ c : Char} :
      hexChar? [d₁, d₂, d₃, d₄, d₅, d₆, d₇, d₈] = some c →
        Spelling .doubleQuoted ['\\', 'U', d₁, d₂, d₃, d₄, d₅, d₆, d₇, d₈] c

/-- What stands for a text between the quotes of a style. -/
inductive Spells (style : Style) : List Char → List Char → Prop where
  | nil : Spells style [] []
  | cons {unit written text : List Char} {c : Char} :
      Spelling style unit c → Spells style written text → Spells style (unit ++ written) (c :: text)

/-- A text with quotes around it, in one of the two styles. -/
inductive Quotes : Style → List Char → List Char → Prop where
  | single {written text : List Char} : Spells .singleQuoted written text →
      Quotes .singleQuoted ('\'' :: (written ++ ['\''])) text
  | double {written text : List Char} : Spells .doubleQuoted written text →
      Quotes .doubleQuoted ('"' :: (written ++ ['"'])) text

/-! ## Reading -/

/-- Inside a line, a reader takes the text from the front of `s`, with the blanks before it, and
leaves the rest. -/
def IsRead (reader : Gap → Mark → List Char → Option Contents) (s text rest : List Char) : Prop :=
  ∀ (blanks : List Char) (mark : Mark), mark.column ≠ 0 →
    ∃ after, reader { blanks := blanks } mark s = some ⟨blanks ++ text, after, rest, false⟩

theorem atDocumentMark_of_column {mark : Mark} (h : mark.column ≠ 0) (s : List Char) :
    atDocumentMark mark s = false := by
  rw [atDocumentMark, beq_eq_false_iff_ne.mpr h, Bool.false_and]

section

variable {reader : Gap → Mark → List Char → Option Contents} {s text rest unit : List Char}
  {c : Char}

theorem IsRead.cons (h : IsRead reader s text rest)
    (hstep : ∀ blanks (mark : Mark), mark.column ≠ 0 → ∃ next : Mark, next.column ≠ 0 ∧
      reader { blanks := blanks } mark (unit ++ s) =
        (reader {} next s).map (·.prepend (blanks ++ [c]))) :
    IsRead reader (unit ++ s) (c :: text) rest := by
  intro blanks mark hmark
  obtain ⟨next, hnext, hunit⟩ := hstep blanks mark hmark
  obtain ⟨after, hafter⟩ := h [] next hnext
  refine ⟨after, ?_⟩
  rw [hunit, hafter]
  simp [Contents.prepend]

theorem IsRead.blank (h : IsRead reader s text rest)
    (hstep : ∀ blanks (mark : Mark), reader { blanks := blanks } mark (c :: s) =
      reader { blanks := blanks ++ [c] } (mark.pass c) s) :
    IsRead reader (c :: s) (c :: text) rest := by
  intro blanks mark _
  obtain ⟨after, hafter⟩ := h (blanks ++ [c]) (mark.pass c) (Nat.succ_ne_zero _)
  refine ⟨after, ?_⟩
  rw [hstep blanks mark, hafter, List.append_assoc]
  rfl

end

variable {c : Char}

theorem readSingleQuoted_plain (gap : Gap) (mark : Mark) (hbreak : isBreak c = false)
    (hquote : c ≠ '\'') (s : List Char) :
    readSingleQuoted gap mark (c :: s) =
      if isBlank c then readSingleQuoted (gap.addBlank c) (mark.pass c) s
      else if atDocumentMark mark (c :: s) then none
      else (readSingleQuoted {} (mark.pass c) s).map (·.prepend (gap.content ++ [c])) := by
  rw [readSingleQuoted]
  · simp [hbreak, hquote]
  case x_2 =>
    rintro _ rfl
    cases hbreak
  all_goals
    intros
    contradiction

theorem readDoubleQuoted_plain (gap : Gap) (mark : Mark) (hbreak : isBreak c = false)
    (hslash : c ≠ '\\') (s : List Char) :
    readDoubleQuoted gap mark (c :: s) =
      if isBlank c then readDoubleQuoted (gap.addBlank c) (mark.pass c) s
      else if atDocumentMark mark (c :: s) then none
      else if c = '"' then some ⟨gap.content, mark.skip 1, s, false⟩
      else (readDoubleQuoted {} (mark.pass c) s).map (·.prepend (gap.content ++ [c])) := by
  rw [readDoubleQuoted]
  · simp [hbreak, hslash]
  case x_6 =>
    rintro _ rfl
    cases hbreak
  all_goals
    intros
    contradiction

theorem readDoubleQuoted_escape {e : Char} (h : escape? e = some c) (gap : Gap) (mark : Mark)
    (s : List Char) :
    readDoubleQuoted gap mark ('\\' :: e :: s) =
      (readDoubleQuoted {} (mark.skip 2) s).map (·.prepend (gap.content ++ [c])) := by
  have hne {d : Char} (hd : escape? d = none) : e ≠ d := by
    rintro rfl
    cases hd.symm.trans h
  have hbreak : isBreak e = false := by
    simp [isBreak, hne (rfl : escape? '\r' = none), hne (rfl : escape? '\n' = none),
      hne (rfl : escape? '\u0085' = none), hne (rfl : escape? '\u2028' = none),
      hne (rfl : escape? '\u2029' = none)]
  rw [readDoubleQuoted]
  · simp [hbreak, h]
  case x_1 => exact fun _ _ _ he => absurd he (hne rfl)
  case x_2 => exact fun _ _ _ _ _ he => absurd he (hne rfl)
  case x_3 => exact fun _ _ _ _ _ _ _ _ _ he => absurd he (hne rfl)
  case x_4 => exact fun _ he => absurd he (hne rfl)

theorem Spelling.isRead_single {unit s text rest : List Char}
    (hspelling : Spelling .singleQuoted unit c) (hs : IsRead readSingleQuoted s text rest) :
    IsRead readSingleQuoted (unit ++ s) (c :: text) rest := by
  cases hspelling with
  | single _ hbreak hquote =>
      by_cases hblank : isBlank c = true
      · apply hs.blank
        intro blanks mark
        rw [readSingleQuoted_plain _ _ hbreak hquote, if_pos hblank]
        rfl
      · apply hs.cons
        intro blanks mark hmark
        refine ⟨mark.pass c, Nat.succ_ne_zero _, ?_⟩
        rw [List.singleton_append, readSingleQuoted_plain _ _ hbreak hquote, if_neg hblank,
          atDocumentMark_of_column hmark]
        rfl
  | quote =>
      apply hs.cons
      intro blanks mark _
      refine ⟨mark.skip 2, Nat.succ_ne_zero _, ?_⟩
      change readSingleQuoted _ mark ('\'' :: '\'' :: s) = _
      rw [readSingleQuoted]
      rfl

theorem Spelling.isRead_double {unit s text rest : List Char}
    (hspelling : Spelling .doubleQuoted unit c) (hs : IsRead readDoubleQuoted s text rest) :
    IsRead readDoubleQuoted (unit ++ s) (c :: text) rest := by
  cases hspelling with
  | double _ hbreak hquote hslash =>
      by_cases hblank : isBlank c = true
      · apply hs.blank
        intro blanks mark
        rw [readDoubleQuoted_plain _ _ hbreak hslash, if_pos hblank]
        rfl
      · apply hs.cons
        intro blanks mark hmark
        refine ⟨mark.pass c, Nat.succ_ne_zero _, ?_⟩
        rw [List.singleton_append, readDoubleQuoted_plain _ _ hbreak hslash, if_neg hblank,
          atDocumentMark_of_column hmark, if_neg Bool.false_ne_true, if_neg hquote]
        rfl
  | escape hescape =>
      apply hs.cons
      intro blanks mark _
      exact ⟨mark.skip 2, Nat.succ_ne_zero _, readDoubleQuoted_escape hescape _ mark s⟩
  | two hdigits =>
      apply hs.cons
      intro blanks mark _
      refine ⟨mark.skip 4, Nat.succ_ne_zero _, ?_⟩
      change readDoubleQuoted _ mark ('\\' :: 'x' :: _ :: _ :: s) = _
      rw [readDoubleQuoted, hdigits]
      rfl
  | four hdigits =>
      apply hs.cons
      intro blanks mark _
      refine ⟨mark.skip 6, Nat.succ_ne_zero _, ?_⟩
      change readDoubleQuoted _ mark ('\\' :: 'u' :: _ :: _ :: _ :: _ :: s) = _
      rw [readDoubleQuoted, hdigits]
      rfl
  | eight hdigits =>
      apply hs.cons
      intro blanks mark _
      refine ⟨mark.skip 10, Nat.succ_ne_zero _, ?_⟩
      change readDoubleQuoted _ mark
        ('\\' :: 'U' :: _ :: _ :: _ :: _ :: _ :: _ :: _ :: _ :: s) = _
      rw [readDoubleQuoted, hdigits]
      rfl

/-- A text is read from between single quotes, behind the first of them. -/
theorem Spells.isRead_single {written text : List Char} (h : Spells .singleQuoted written text)
    (rest : List Char) (hrest : rest.head? ≠ some '\'') :
    IsRead readSingleQuoted (written ++ '\'' :: rest) text rest := by
  induction h with
  | nil =>
      intro blanks mark hmark
      refine ⟨mark.skip 1, ?_⟩
      rw [List.nil_append, readSingleQuoted]
      · simp [isBlank, isBreak, atDocumentMark_of_column hmark, Gap.content]
      · rintro after - rfl
        exact hrest rfl
      · intro _ h
        cases h
  | cons hspelling _ ih =>
      rw [List.append_assoc]
      exact hspelling.isRead_single ih

/-- A text is read from between double quotes, behind the first of them. -/
theorem Spells.isRead_double {written text : List Char} (h : Spells .doubleQuoted written text)
    (rest : List Char) : IsRead readDoubleQuoted (written ++ '"' :: rest) text rest := by
  induction h with
  | nil =>
      intro blanks mark hmark
      refine ⟨mark.skip 1, ?_⟩
      rw [List.nil_append, readDoubleQuoted_plain _ _ rfl (by decide),
        atDocumentMark_of_column hmark]
      simp [isBlank, Gap.content]
  | cons hspelling _ ih =>
      rw [List.append_assoc]
      exact hspelling.isRead_double ih

/-! ## Writing -/

theorem digitIn?_hexDigit {n : Nat} (h : n < 16) :
    Text.digitIn? 16 (Text.hexDigit n) = some n := by
  rw [Text.digitIn?, Text.hexDigit?_hexDigit n h, Option.bind_some, if_pos h]

theorem hexChar?_of_numberIn? {digits : List Char} (h : Text.numberIn? 16 digits = some c.toNat) :
    hexChar? digits = some c := by
  have hvalid : c.toNat.isValidChar := c.valid
  rw [hexChar?, h]
  change (if hvalid : c.toNat.isValidChar then some (Char.ofNatAux c.toNat hvalid) else none) = _
  rw [dif_pos hvalid]
  rfl

/-- Every character can be written by its number, in eight digits. -/
theorem exists_spelling (c : Char) : ∃ unit, Spelling .doubleQuoted unit c := by
  have hsmall : c.toNat < 16 ^ 8 := c.val.toNat_lt
  have hdigit (k : Nat) :
      Text.digitIn? 16 (Text.hexDigit (c.toNat / 16 ^ k % 16)) = some (c.toNat / 16 ^ k % 16) :=
    digitIn?_hexDigit (Nat.mod_lt _ (by decide))
  have hnumber :
      Text.numberIn? 16 ([7, 6, 5, 4, 3, 2, 1, 0].map fun k =>
        Text.hexDigit (c.toNat / 16 ^ k % 16)) = some c.toNat := by
    simp only [Text.numberIn?, List.map_cons, List.map_nil, List.foldlM_cons, hdigit]
    simp
    omega
  exact ⟨_, .eight (hexChar?_of_numberIn? hnumber)⟩

theorem exists_spells (text : List Char) : ∃ written, Spells .doubleQuoted written text := by
  induction text with
  | nil => exact ⟨[], .nil⟩
  | cons c text ih =>
      obtain ⟨unit, hunit⟩ := exists_spelling c
      obtain ⟨written, hwritten⟩ := ih
      exact ⟨unit ++ written, .cons hunit hwritten⟩

/-- Whether a character stands for itself between double quotes. -/
def isSelf (c : Char) : Bool :=
  isAllowed c && !isBreak c && c != '"' && c != '\\'

theorem Spells.self {text : List Char} (h : text.all isSelf = true) :
    Spells .doubleQuoted text text := by
  induction text with
  | nil => exact .nil
  | cons c text ih =>
      rw [List.all_cons, Bool.and_eq_true] at h
      obtain ⟨⟨⟨hallowed, hbreak⟩, hquote⟩, hslash⟩ := by
        simpa only [isSelf, Bool.and_eq_true, bne_iff_ne, Bool.not_eq_true'] using h.1
      exact .cons (.double hallowed hbreak hquote hslash) (ih h.2)

/-- Every text can be written between quotes. -/
theorem exists_quotes (text : List Char) : ∃ written, Quotes .doubleQuoted written text := by
  obtain ⟨written, hwritten⟩ := exists_spells text
  exact ⟨_, .double hwritten⟩

/-! ## Characters -/

theorem isSome_digitIn?_of_foldlM {base : Nat} {s : List Char} {start n : Nat}
    (h : s.foldlM (fun n c => (Text.digitIn? base c).map (base * n + ·)) start = some n) :
    ∀ c ∈ s, (Text.digitIn? base c).isSome = true := by
  induction s generalizing start with
  | nil => simp
  | cons c s ih =>
      obtain ⟨next, hnext, hrest⟩ := Option.bind_eq_some_iff.mp h
      obtain ⟨digit, hdigit, _⟩ := Option.map_eq_some_iff.mp hnext
      exact List.forall_mem_cons.mpr ⟨by rw [hdigit]; rfl, ih hrest⟩

theorem isAllowed_of_digit {base : Nat} (h : (Text.digitIn? base c).isSome = true) :
    isAllowed c = true := by
  obtain ⟨digit, hdigit⟩ := Option.isSome_iff_exists.mp h
  obtain ⟨n, hn, _⟩ := Option.bind_eq_some_iff.mp hdigit
  have hbetween {low high : Char} (hlow : 0x20 ≤ low.toNat) (hhigh : high.toNat ≤ 0x7E)
      (hrange : low ≤ c ∧ c ≤ high) : 0x20 ≤ c.toNat ∧ c.toNat ≤ 0x7E :=
    ⟨Nat.le_trans hlow (UInt32.le_iff_toNat_le.mp hrange.1),
      Nat.le_trans (UInt32.le_iff_toNat_le.mp hrange.2) hhigh⟩
  have hprintable : 0x20 ≤ c.toNat ∧ c.toNat ≤ 0x7E := by
    rw [Text.hexDigit?] at hn
    split_ifs at hn with hdecimal hsmall hcapital
    · exact hbetween (by decide) (by decide) hdecimal
    · exact hbetween (by decide) (by decide) hsmall
    · exact hbetween (by decide) (by decide) hcapital
  simp [isAllowed]
  omega

theorem isAllowed_of_hexChar? {digits : List Char} (h : hexChar? digits = some c) :
    ∀ d ∈ digits, isAllowed d = true := by
  obtain ⟨n, hn, _⟩ := Option.bind_eq_some_iff.mp h
  intro d hd
  exact isAllowed_of_digit (isSome_digitIn?_of_foldlM hn d hd)

theorem isAllowed_of_escape? {e : Char} (h : escape? e = some c) : isAllowed e = true := by
  unfold escape? at h
  split at h
  case h_19 => cases h
  all_goals rfl

theorem isAllowed_of_announced {announce : Char} {digits : List Char}
    (hannounce : isAllowed announce = true) (h : hexChar? digits = some c) :
    ∀ d ∈ '\\' :: announce :: digits, isAllowed d = true :=
  List.forall_mem_cons.mpr ⟨rfl, List.forall_mem_cons.mpr ⟨hannounce, isAllowed_of_hexChar? h⟩⟩

theorem Spelling.allowed {style : Style} {unit : List Char} (h : Spelling style unit c) :
    ∀ d ∈ unit, isAllowed d = true := by
  cases h with
  | single hallowed => simpa using hallowed
  | quote => exact List.forall_mem_cons.mpr ⟨rfl, List.forall_mem_singleton.mpr rfl⟩
  | double hallowed => simpa using hallowed
  | escape hescape =>
      simpa using ⟨rfl, isAllowed_of_escape? hescape⟩
  | two hdigits => exact isAllowed_of_announced rfl hdigits
  | four hdigits => exact isAllowed_of_announced rfl hdigits
  | eight hdigits => exact isAllowed_of_announced rfl hdigits

theorem Spells.allowed {style : Style} {written text : List Char} (h : Spells style written text) :
    ∀ d ∈ written, isAllowed d = true := by
  induction h with
  | nil => simp
  | cons hspelling _ ih => exact List.forall_mem_append.mpr ⟨hspelling.allowed, ih⟩

theorem Quotes.allowed {style : Style} {written text : List Char} (h : Quotes style written text) :
    ∀ d ∈ written, isAllowed d = true := by
  have hquoted {quote : Char} {between : List Char} (hquote : isAllowed quote = true)
      (hbetween : ∀ d ∈ between, isAllowed d = true) :
      ∀ d ∈ quote :: (between ++ [quote]), isAllowed d = true := by
    simpa [or_imp, forall_and] using ⟨hquote, hbetween, hquote⟩
  cases h with
  | single h => exact hquoted rfl h.allowed
  | double h => exact hquoted rfl h.allowed

end SchemaInterfaces.Yaml
