import SchemaInterfaces.Proofs.Settings.Options

/-!
# Reading a list of options

Options are read from the first to the last. What a list of them stands for is settled by three
rules alone, and the rules never disagree: the first refused option is reported, then all unknown
ones together, and where every option sets something, the last one for a key counts.
-/

namespace SchemaInterfaces.Settings

/-- The value for a key in the last of the options that name the key. -/
def LastValue (options : List String) (key : Key) (value : Option String) : Prop :=
  ∃ front option back, options = front ++ option :: back ∧ Divides option key.name value ∧
    ∀ later ∈ back, ¬ Mentions later key

/-- What a list of options has to be read as. -/
inductive Verdict (options : List String) : Except OptionError Settings → Prop where
  | refused {front back : List String} {option : String} {error : OptionError} :
      options = front ++ option :: back → (∀ earlier ∈ front, ∀ error, ¬ Refused earlier error) →
        Refused option error → Verdict options (.error error)
  | unknown :
      (∀ option ∈ options, ∀ error, ¬ Refused option error) →
        (∃ option ∈ options, Unknown option) →
          Verdict options (.error (.unknownOptions (options.filter Unknown)))
  | settled {settings : Settings} :
      (∀ option ∈ options, ∀ error, ¬ Refused option error) →
        (∀ option ∈ options, ¬ Unknown option) →
          (∀ key value, LastValue options key value →
            key.Takes value (settings.assignment key)) →
            (∀ key, (∀ option ∈ options, ¬ Mentions option key) →
              settings.assignment key = ({} : Settings).assignment key) →
              Verdict options (.ok settings)

/-- Settings are the same if every key is set to the same. -/
theorem eq_of_assignment_eq {first second : Settings}
    (h : ∀ key, first.assignment key = second.assignment key) : first = second := by
  have hwide := h .wideIntegers
  have hevery := h .everyFile
  have hvalidate := h .validate
  have hextension := h .extension
  cases first
  cases second
  simp_all [assignment]

variable {options : List String} {assignments : List Assignment} {key : Key}
  {settings : Settings}

theorem exists_lastValue (h : ∃ option ∈ options, Mentions option key) :
    ∃ value, LastValue options key value := by
  induction options with
  | nil => simp at h
  | cons option options ih =>
      by_cases hlater : ∃ later ∈ options, Mentions later key
      · obtain ⟨value, front, last, back, rfl, hlast⟩ := ih hlater
        exact ⟨value, option :: front, last, back, rfl, hlast⟩
      · obtain ⟨value, hdivides⟩ : Mentions option key := by
          simpa [hlater] using h
        exact ⟨value, [], option, options, rfl, hdivides, by simpa using hlater⟩

/-- Options that do not name a key leave it as it is. -/
theorem assignment_foldl_of_not_mentions (h : List.Forall₂ Assigns options assignments)
    (hkey : ∀ option ∈ options, ¬ Mentions option key) (start : Settings) :
    (assignments.foldl assign start).assignment key = start.assignment key := by
  induction h generalizing start with
  | nil => rfl
  | @cons option assignment options assignments hassigns _ ih =>
      obtain ⟨hfirst, hrest⟩ := List.forall_mem_cons.mp hkey
      obtain ⟨other, value, hdivides, htakes⟩ := hassigns
      have hother : other ≠ key := by
        rintro rfl
        exact hfirst ⟨value, hdivides⟩
      rw [List.foldl_cons, ih hrest, htakes.assignment_assign, if_neg hother]

/-- The last option for a key settles it, whatever was set before. -/
theorem LastValue.takes {value : Option String} (h : LastValue options key value)
    (hassigns : List.Forall₂ Assigns options assignments) (start : Settings) :
    key.Takes value ((assignments.foldl assign start).assignment key) := by
  obtain ⟨front, option, back, rfl, hdivides, hback⟩ := h
  induction front generalizing assignments start with
  | nil =>
      obtain ⟨assignment, others, hoption, hothers, rfl⟩ :=
        List.forall₂_cons_left_iff.mp hassigns
      obtain ⟨other, given, hgiven, htakes⟩ := hoption
      obtain ⟨rfl, rfl⟩ := hdivides.unique hgiven
      rw [List.foldl_cons, assignment_foldl_of_not_mentions hothers hback,
        htakes.assignment_assign, if_pos rfl]
      exact htakes
  | cons first front ih =>
      obtain ⟨assignment, others, _, hothers, rfl⟩ := List.forall₂_cons_left_iff.mp hassigns
      exact ih (start.assign assignment) hothers

/-- Options that all set something can be listed with what they set. -/
theorem exists_assignments (h : ∀ option ∈ options, ∃ assignment, Assigns option assignment) :
    ∃ assignments, List.Forall₂ Assigns options assignments := by
  induction options with
  | nil => exact ⟨[], .nil⟩
  | cons option options ih =>
      obtain ⟨⟨assignment, hoption⟩, hoptions⟩ := List.forall_mem_cons.mp h
      obtain ⟨assignments, hassigns⟩ := ih hoptions
      exact ⟨assignment :: assignments, .cons hoption hassigns⟩

/-- Reading goes through all options where none of them is refused. -/
theorem exists_mapM_readOption_iff :
    (∃ results, options.mapM readOption = .ok results) ↔
      ∀ option ∈ options, ∀ error, ¬ Refused option error := by
  constructor
  · rintro ⟨results, hresults⟩ option hoption error hrefused
    obtain ⟨first, hfirst⟩ := Outcome.exists_mapM_eq_error hoption hrefused.readOption_eq
    cases hresults.symm.trans hfirst
  · intro h
    cases hread : options.mapM readOption with
    | ok results => exact ⟨results, rfl⟩
    | error error =>
        obtain ⟨front, option, back, rfl, _, hoption⟩ := Outcome.mapM_eq_error_iff.mp hread
        exact absurd (readOption_eq_error_iff.mp hoption) (h option (by simp) error)

/-- Only unknown options are left over by reading. -/
theorem ofOptions_of_mapM {results : List (Option Assignment)}
    (h : options.mapM readOption = .ok results) :
    ofOptions options =
      if options.filter Unknown = [] then .ok (ofAssignments (results.filterMap id))
      else .error (.unknownOptions (options.filter Unknown)) := by
  have hfilter : options.filter (!isKnownOption ·) = options.filter Unknown := by
    apply List.filter_congr
    intro option _
    rw [Bool.eq_iff_iff, decide_eq_true_iff, ← isKnownOption_eq_false_iff, Bool.not_eq_true']
  rw [ofOptions, h, ← hfilter]
  simp only [← List.isEmpty_iff]
  rfl

/-- Where every option sets something, the settings are made of what is set. -/
theorem ofOptions_of_assigns (h : List.Forall₂ Assigns options assignments) :
    ofOptions options = .ok (ofAssignments assignments) := by
  have hread : options.mapM readOption = .ok (assignments.map some) := by
    rw [Outcome.mapM_eq_ok_iff, List.forall₂_map_right_iff]
    exact h.imp fun _ _ hassigns => hassigns.readOption_eq
  have hknown : ∀ option ∈ options, ¬ Unknown option :=
    ((List.forall₂_and_left ..).mp
      (h.imp fun _ _ hassigns => ⟨hassigns.not_unknown, hassigns⟩)).1
  rw [ofOptions_of_mapM hread, if_pos (by simpa using hknown)]
  simp [List.filterMap_map]

/-- Where no option is refused, all unknown ones are reported. -/
theorem ofOptions_of_unknown (hrefused : ∀ option ∈ options, ∀ error, ¬ Refused option error)
    (hunknown : ∃ option ∈ options, Unknown option) :
    ofOptions options = .error (.unknownOptions (options.filter Unknown)) := by
  obtain ⟨results, hread⟩ := exists_mapM_readOption_iff.mpr hrefused
  rw [ofOptions_of_mapM hread, if_neg (by simpa using hunknown)]

/-- The first refused option is reported. -/
theorem ofOptions_of_refused {front back : List String} {option : String} {error : OptionError}
    (hfront : ∀ earlier ∈ front, ∀ error, ¬ Refused earlier error)
    (hrefused : Refused option error) : ofOptions (front ++ option :: back) = .error error := by
  have hread : (front ++ option :: back).mapM readOption = .error error := by
    refine Outcome.mapM_eq_error_iff.mpr ⟨front, option, back, rfl, ?_, hrefused.readOption_eq⟩
    intro earlier hearlier
    cases h : readOption earlier with
    | ok result => exact ⟨result, rfl⟩
    | error error =>
        exact absurd (readOption_eq_error_iff.mp h) (hfront earlier hearlier error)
  rw [ofOptions, hread]
  rfl

/-- Options are accepted if each of them sets something. -/
theorem exists_ofOptions_iff :
    (∃ settings, ofOptions options = .ok settings) ↔
      ∀ option ∈ options, ∃ assignment, Assigns option assignment := by
  constructor
  · rintro ⟨settings, h⟩ option hoption
    obtain ⟨results, hread, _⟩ := Outcome.bind_eq_ok.mp h
    have hrefused := exists_mapM_readOption_iff.mp ⟨results, hread⟩
    refine exists_assigns (hrefused option hoption) ?_
    intro hunknown
    cases h.symm.trans (ofOptions_of_unknown hrefused ⟨option, hoption, hunknown⟩)
  · intro h
    obtain ⟨assignments, hassigns⟩ := exists_assignments h
    exact ⟨_, ofOptions_of_assigns hassigns⟩

/-- Accepted options make up the settings. -/
theorem exists_assignments_of_ofOptions (h : ofOptions options = .ok settings) :
    ∃ assignments, List.Forall₂ Assigns options assignments ∧
      ofAssignments assignments = settings := by
  obtain ⟨assignments, hassigns⟩ := exists_assignments (exists_ofOptions_iff.mp ⟨settings, h⟩)
  rw [ofOptions_of_assigns hassigns] at h
  exact ⟨assignments, hassigns, Except.ok.inj h⟩

/-- Only one reading of a list of options is right. -/
theorem Verdict.ofOptions_eq {result : Except OptionError Settings} (h : Verdict options result) :
    ofOptions options = result := by
  cases h with
  | refused hoptions hfront hrefused =>
      rw [hoptions]
      exact ofOptions_of_refused hfront hrefused
  | unknown hrefused hunknown => exact ofOptions_of_unknown hrefused hunknown
  | @settled settings hrefused hknown hlast hdefault =>
      obtain ⟨assignments, hassigns⟩ := exists_assignments fun option hoption =>
        exists_assigns (hrefused option hoption) (hknown option hoption)
      rw [ofOptions_of_assigns hassigns]
      refine congrArg Except.ok (eq_of_assignment_eq fun key => ?_)
      by_cases hmentions : ∃ option ∈ options, Mentions option key
      · obtain ⟨value, hvalue⟩ := exists_lastValue hmentions
        exact (hlast key value hvalue).unique (hvalue.takes hassigns {})
      · have hnone : ∀ option ∈ options, ¬ Mentions option key := by
          simpa using hmentions
        rw [hdefault key hnone]
        exact assignment_foldl_of_not_mentions hassigns hnone {}

theorem verdict_ofOptions (options : List String) : Verdict options (ofOptions options) := by
  cases hread : options.mapM readOption with
  | error error =>
      obtain ⟨front, option, back, hoptions, hfront, hoption⟩ :=
        Outcome.mapM_eq_error_iff.mp hread
      have hrefused := readOption_eq_error_iff.mp hoption
      have hearlier : ∀ earlier ∈ front, ∀ error, ¬ Refused earlier error := by
        intro earlier hmem error h
        obtain ⟨result, hresult⟩ := hfront earlier hmem
        cases hresult.symm.trans h.readOption_eq
      have hresult : ofOptions options = .error error := by
        rw [hoptions]
        exact ofOptions_of_refused hearlier hrefused
      rw [hresult]
      exact .refused hoptions hearlier hrefused
  | ok results =>
      have hrefused := exists_mapM_readOption_iff.mp ⟨results, hread⟩
      by_cases hunknown : ∃ option ∈ options, Unknown option
      · rw [ofOptions_of_unknown hrefused hunknown]
        exact .unknown hrefused hunknown
      · have hknown : ∀ option ∈ options, ¬ Unknown option := by
          simpa using hunknown
        obtain ⟨assignments, hassigns⟩ := exists_assignments fun option hoption =>
          exists_assigns (hrefused option hoption) (hknown option hoption)
        rw [ofOptions_of_assigns hassigns]
        exact .settled hrefused hknown (fun key value hvalue => hvalue.takes hassigns {})
          (fun key hkey => assignment_foldl_of_not_mentions hassigns hkey {})

/-- The options that a parameter is split into are read by the three rules. -/
theorem ofParameter_eq_iff_verdict (parameter : String) (result : Except OptionError Settings) :
    ofParameter parameter = result ↔ Verdict (Text.splitEscaped ',' parameter) result := by
  constructor
  · rintro rfl
    exact verdict_ofOptions (Text.splitEscaped ',' parameter)
  · exact Verdict.ofOptions_eq

/-- Blank characters of any kind are trimmed around both sides, dots are dropped in front alone, and
a key that occurs twice has its last value. -/
example : ofParameter "" =
      .ok { wideIntegers := .nativeNumeric, everyFile := false, validate := false,
            extension := "ts" } ∧
    ofParameter
        ("wide_integer_policy =\u00A0word_pair\u3000,validate=false," ++
          "file_extension\t=\u2028..d.ts.,validate,emit_dependencies = true") =
      .ok { wideIntegers := .wordPair, everyFile := true, validate := true,
            extension := "d.ts." } ∧
    ofParameter
        ("emit_dependencies,wide_integer_policy=native_numeric,emit_dependencies=false," ++
          "wide_integer_policy=arbitrary_precision") =
      .ok { wideIntegers := .arbitraryPrecision } := by
  decide +kernel

/-- A refused value is reported even behind unknown keys, and those are reported together. -/
example : (ofParameter "emit,a\\,c=1,validate=yes,file_extension").mapError OptionError.message =
      .error "`validate` expects true or false, got `yes`" ∧
    (ofParameter "emit,file_extension= ,validate=yes").mapError OptionError.message =
      .error "`file_extension` requires a value" ∧
    (ofParameter "wide_integer_policy= a=b ,emit").mapError OptionError.message =
      .error ("unknown wide_integer_policy `a=b` " ++
        "(expected native_numeric, arbitrary_precision or word_pair)") ∧
    (ofParameter "emit,validate,a\\,c=1,emit").mapError OptionError.message =
      .error "unknown options: emit, a,c=1, emit" := by
  decide +kernel

end SchemaInterfaces.Settings
