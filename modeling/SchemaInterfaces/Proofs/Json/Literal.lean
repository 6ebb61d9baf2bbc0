import Mathlib.Tactic.SplitIfs
import SchemaInterfaces.Json.Reader
import SchemaInterfaces.Json.Writer

/-!
# String literals read back

A character is written in one of three ways inside a literal: behind a backslash, by its number, or
as it is. Each way is read as one part of the literal, which denotes the character, so the literal of
a text is read as the text.
-/

namespace SchemaInterfaces.Json

/-- What a reader takes from the front of a text, and what it leaves. -/
def taken {α : Type} {s : List Char} (result : Option (Read α s)) : Option (α × List Char) :=
  result.map fun r => (r.value, r.rest)

theorem taken_eq_some {α : Type} {s rest : List Char} {result : Option (Read α s)} {value : α} :
    taken result = some (value, rest) ↔ ∃ shorter, result = some ⟨value, rest, shorter⟩ := by
  cases result with
  | none => simp [taken]
  | some r =>
      obtain ⟨found, after, shorter⟩ := r
      simp only [taken, Option.map_some, Option.some.injEq, Prod.mk.injEq, Read.mk.injEq]
      refine ⟨fun ⟨hvalue, hrest⟩ => ⟨hrest ▸ shorter, hvalue, hrest⟩, fun ⟨_, hparts⟩ => hparts⟩

/-- The ways to write a character inside a literal, each with the part that it makes up. -/
inductive Escapes (c : Char) : List Char → StringPart → Prop where
  | short {e : Char} : escape? e = some c → e ≠ 'u' → Escapes c ['\\', e] (.char c)
  | number : c.toNat < 0x20 →
      Escapes c
        ['\\', 'u', '0', '0', Text.hexDigit (c.toNat / 16), Text.hexDigit (c.toNat % 16)]
        (.unit c.toNat)
  | plain : ¬ c.toNat < 0x20 → c ≠ '"' → c ≠ '\\' → Escapes c [c] (.char c)

theorem exists_escapes (c : Char) : ∃ part, Escapes c (escapeChar c) part := by
  have hshort {d e : Char} (hd : c = d) (hescape : escape? e = some d) (he : e ≠ 'u') :
      ∃ part, Escapes c ['\\', e] part := ⟨_, .short (hd ▸ hescape) he⟩
  rw [escapeChar]
  split_ifs with hquote hslash hfeed hreturn htab hback hform hcontrol
  · exact hshort hquote rfl (by decide)
  · exact hshort hslash rfl (by decide)
  · exact hshort hfeed rfl (by decide)
  · exact hshort hreturn rfl (by decide)
  · exact hshort htab rfl (by decide)
  · exact hshort hback rfl (by decide)
  · exact hshort hform rfl (by decide)
  · exact ⟨_, .number hcontrol⟩
  · exact ⟨_, .plain hcontrol hquote hslash⟩

theorem numberIn?_hexDigit :
    ∀ n < 0x20,
      Text.numberIn? 16 ['0', '0', Text.hexDigit (n / 16), Text.hexDigit (n % 16)] = some n := by
  decide

namespace Escapes

variable {c : Char} {written : List Char} {part : StringPart}

/-- A character, however it is written, is read as its part. -/
theorem taken_readParts (h : Escapes c written part) (rest : List Char) :
    taken (readParts (written ++ rest)) =
      (taken (readParts rest)).map fun r => (part :: r.1, r.2) := by
  cases h with
  | @short e hescape hu =>
      rw [List.cons_append, List.singleton_append, readParts, hescape]
      · cases readParts rest <;> rfl
      · intro _ _ _ _ _ he
        exact absurd he hu
  | number hcontrol =>
      change taken (readParts ('\\' :: 'u' :: '0' :: '0' :: _ :: _ :: rest)) = _
      rw [readParts, numberIn?_hexDigit _ hcontrol]
      cases readParts rest <;> rfl
  | plain hcontrol hquote hslash =>
      rw [List.singleton_append, readParts, if_neg (not_or.mpr ⟨hcontrol, hslash⟩)]
      · cases readParts rest <;> rfl
      · exact hquote
      · intro _ _ _ _ _ hc
        exact absurd hc hslash
      · intro _ _ hc
        exact absurd hc hslash

/-- The part that a character is read as denotes the character. -/
theorem charsOf_cons (h : Escapes c written part) (parts : List StringPart) :
    charsOf (part :: parts) = (charsOf parts).map (c :: ·) := by
  cases h with
  | short => rfl
  | number hcontrol =>
      have hwhole : c.toNat < 0xD800 ∨ 0xE000 ≤ c.toNat := by omega
      rw [charsOf.eq_def]
      simp only [if_pos hwhole, Char.ofNat_toNat]
  | plain => rfl

end Escapes

/-- The characters of a literal, up to and with the quote that ends it, are read as parts that denote
the text. -/
theorem exists_taken_readParts (s rest : List Char) :
    ∃ parts, taken (readParts (s.flatMap escapeChar ++ '"' :: rest)) = some (parts, rest) ∧
      charsOf parts = some s := by
  induction s with
  | nil =>
      refine ⟨[], ?_, rfl⟩
      rw [List.flatMap_nil, List.nil_append, readParts]
      rfl
  | cons c s ih =>
      obtain ⟨parts, hparts, hchars⟩ := ih
      obtain ⟨part, hescapes⟩ := exists_escapes c
      refine ⟨part :: parts, ?_, ?_⟩
      · rw [List.flatMap_cons, List.append_assoc, hescapes.taken_readParts, hparts]
        rfl
      · rw [hescapes.charsOf_cons, hchars]
        rfl

theorem literal_some (s : String) :
    literal (some s) = '"' :: (s.toList.flatMap escapeChar ++ ['"']) := rfl

/-- A text is read back from its literal, behind the quote that begins it. -/
theorem taken_readString (s : String) (rest : List Char) :
    taken (readString (s.toList.flatMap escapeChar ++ '"' :: rest)) = some (some s, rest) := by
  obtain ⟨parts, hparts, hchars⟩ := exists_taken_readParts s.toList rest
  obtain ⟨shorter, hread⟩ := taken_eq_some.mp hparts
  rw [readString, hread]
  simp [taken, contentOf, hchars]

end SchemaInterfaces.Json
