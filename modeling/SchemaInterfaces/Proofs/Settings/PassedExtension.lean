import SchemaInterfaces.Proofs.Settings.Verdicts

/-!
# The extension that a parameter passes

The value of an extension is trimmed and must not be empty, and only then it loses the dots in front
of it. So an extension from a parameter has no dot in front and no blank character at its end. What
the dots stand in front of is not looked at again: it may be nothing, or begin with a blank
character.
-/

namespace SchemaInterfaces

namespace Text

/-- That the dots in front of a text are followed by a character that is not blank. -/
def ShowsBehindDots (s : String) : Prop :=
  ∃ front c rest, s.toList = front ++ c :: rest ∧ (∀ dot ∈ front, dot = '.') ∧ c ≠ '.' ∧
    isBlank c = false

theorem showsBehindDots_iff (s : String) :
    ShowsBehindDots s ↔ ∃ c ∈ (dropDots s).toList.head?, isBlank c = false := by
  rw [toList_dropDots]
  constructor
  · rintro ⟨front, c, rest, hs, hfront, hc, hblank⟩
    rw [Chars.dropDots_eq_cons_iff.mpr ⟨hc, front, hs, hfront⟩]
    exact ⟨c, rfl, hblank⟩
  · rintro ⟨c, hhead, hblank⟩
    obtain ⟨rest, hrest⟩ := List.head?_eq_some_iff.mp hhead
    obtain ⟨hc, front, hs, hfront⟩ := Chars.dropDots_eq_cons_iff.mp hrest
    exact ⟨front, c, rest, hs, hfront, hc, hblank⟩

/-- The end of a text is not touched where dots are taken away from its front. -/
theorem isBlank_of_getLast?_dropDots {s : String} (hs : IsTrimmed s) {c : Char}
    (hc : c ∈ (dropDots s).toList.getLast?) : isBlank c = false := by
  apply hs.back
  obtain ⟨front, hfront⟩ := List.dropWhile_suffix (l := s.toList) (· == '.')
  rw [toList_dropDots] at hc
  rw [← hfront, List.getLast?_append, ← Chars.dropDots, hc]
  rfl

/-- A trimmed text leaves something trimmed behind its dots if that can be seen where it begins. -/
theorem isTrimmed_dropDots_iff {s : String} (hs : IsTrimmed s) :
    (dropDots s ≠ "" ∧ IsTrimmed (dropDots s)) ↔ ShowsBehindDots s := by
  rw [showsBehindDots_iff]
  constructor
  · rintro ⟨hne, htrim⟩
    obtain ⟨c, rest, hlist⟩ := List.exists_cons_of_ne_nil (mt String.toList_eq_nil_iff.mp hne)
    have hhead : (dropDots s).toList.head? = some c := by
      rw [hlist]
      rfl
    exact ⟨c, hhead, htrim.front c hhead⟩
  · rintro ⟨c, hhead, hblank⟩
    refine ⟨?_, ?_, fun last hlast => isBlank_of_getLast?_dropDots hs hlast⟩
    · intro hempty
      rw [hempty] at hhead
      cases hhead
    · intro first hfirst
      rwa [Option.mem_unique hfirst hhead]

end Text

namespace Settings

variable {parameter : String} {settings : Settings}

/-- An accepted parameter has the settings that its options settle. -/
theorem verdict_of_ofParameter (h : ofParameter parameter = .ok settings) :
    Verdict (Text.splitEscaped ',' parameter) (.ok settings) :=
  h ▸ verdict_ofOptions (Text.splitEscaped ',' parameter)

theorem Divides.isTrimmed {option name text : String} (h : Divides option name (some text)) :
    Text.IsTrimmed text := by
  cases h with
  | pair _ _ hvalue => exact hvalue.isTrimmed

/-- The extension is what the last option for it leaves behind its dots. -/
theorem extension_eq_of_lastValue (h : ofParameter parameter = .ok settings)
    {value : Option String}
    (hvalue : LastValue (Text.splitEscaped ',' parameter) .extension value) :
    ∃ text, value = some text ∧ text ≠ "" ∧ Text.IsTrimmed text ∧
      settings.extension = Text.dropDots text := by
  have hlast := hvalue
  obtain ⟨_, _, _, -, hdivides, -⟩ := hlast
  cases verdict_of_ofParameter h with
  | settled _ _ htaken _ =>
      have htakes := htaken .extension value hvalue
      generalize hset : settings.assignment .extension = assignment at htakes
      cases htakes with
      | extension hne hrest =>
          rw [← Text.losesDots_iff.mp hrest] at hset
          exact ⟨_, rfl, hne, hdivides.isTrimmed, Assignment.extension.inj hset⟩

/-- Without an option for it, the extension is the default one. -/
theorem extension_eq_of_forall_not_lastValue (h : ofParameter parameter = .ok settings)
    (hvalue : ∀ value, ¬ LastValue (Text.splitEscaped ',' parameter) .extension value) :
    settings.extension = "ts" := by
  have hnone : ∀ option ∈ Text.splitEscaped ',' parameter, ¬ Mentions option .extension := by
    intro option hoption hmentions
    obtain ⟨value, hlast⟩ := exists_lastValue ⟨option, hoption, hmentions⟩
    exact hvalue value hlast
  cases verdict_of_ofParameter h with
  | settled _ _ _ hdefault => exact Assignment.extension.inj (hdefault .extension hnone)

/-- The extension that a parameter passes has no dot in front and no blank character at its end. It
is not empty and has no blank character in front either exactly if the last value given for it, if
there is one, goes on behind its dots with a character that is not blank. -/
theorem extension_of_ofParameter (h : ofParameter parameter = .ok settings) :
    settings.extension.toList.head? ≠ some '.' ∧
      (∀ c ∈ settings.extension.toList.getLast?, Text.isBlank c = false) ∧
      ((settings.extension ≠ "" ∧ Text.IsTrimmed settings.extension) ↔
        ∀ text, LastValue (Text.splitEscaped ',' parameter) .extension (some text) →
          Text.ShowsBehindDots text) := by
  by_cases hgiven : ∃ value, LastValue (Text.splitEscaped ',' parameter) .extension value
  · obtain ⟨value, hvalue⟩ := hgiven
    obtain ⟨text, rfl, -, htrim, hextension⟩ := extension_eq_of_lastValue h hvalue
    rw [hextension]
    refine ⟨Text.head?_dropDots_ne text, fun c => Text.isBlank_of_getLast?_dropDots htrim, ?_⟩
    constructor
    · intro hleft other hother
      obtain ⟨_, ⟨⟩, -, hotherTrim, hsame⟩ := extension_eq_of_lastValue h hother
      rw [← hextension, hsame] at hleft
      exact (Text.isTrimmed_dropDots_iff hotherTrim).mp hleft
    · intro hshows
      exact (Text.isTrimmed_dropDots_iff htrim).mpr (hshows text hvalue)
  · have hnone := not_exists.mp hgiven
    rw [extension_eq_of_forall_not_lastValue h hnone]
    have htrim : Text.IsTrimmed "ts" := by decide
    refine ⟨by decide, htrim.back, fun _ text htext => absurd htext (hnone _), fun _ => ?_⟩
    exact ⟨by decide, htrim⟩

/-- An extension with dots and a blank character behind its first visible one. -/
theorem extension_of_ofParameter_dotted :
    ofParameter "validate, file_extension = ..d .ts " =
        .ok { validate := true, extension := "d .ts" } ∧
      "d .ts".toList.head? ≠ some '.' ∧ Text.IsTrimmed "d .ts" ∧
      Text.ShowsBehindDots "..d .ts" := by
  have hok : ofParameter "validate, file_extension = ..d .ts " =
      .ok { validate := true, extension := "d .ts" } := rfl
  obtain ⟨hhead, -, hshows⟩ := extension_of_ofParameter hok
  have htrim : Text.IsTrimmed "d .ts" := by decide
  refine ⟨hok, hhead, htrim, hshows.mp ⟨by decide, htrim⟩ "..d .ts" ?_⟩
  exact ⟨["validate"], "file_extension = ..d .ts", [], by decide, divides_iff.mpr (by decide),
    by simp⟩

/-- Nothing but dots is taken for an extension, and so is a blank character behind a dot. -/
theorem extension_of_ofParameter_dots :
    ofParameter "file_extension=." = .ok { extension := "" } ∧
      ofParameter "file_extension=. ts" = .ok { extension := " ts" } ∧
      ¬ Text.IsTrimmed " ts" :=
  ⟨rfl, rfl, by decide⟩

end Settings

end SchemaInterfaces
