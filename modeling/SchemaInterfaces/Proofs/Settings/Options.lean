import SchemaInterfaces.Proofs.Outcome
import SchemaInterfaces.Proofs.Settings.Parameter

/-!
# What options stand for

An option has a name and perhaps a value. If the name is that of a key, the key either takes the
value, and is set, or refuses it; other names are unknown. A list of options is read as a whole: a
refused option comes before everything else, unknown options come next, and only where there are
neither of them each key has what it was given last.
-/

namespace SchemaInterfaces.Settings

/-- The name and the value of an option, which are the sides of its first equals sign without the
blank characters around them. An option without an equals sign is all name. -/
inductive Divides : String → String → Option String → Prop where
  | bare {option : String} : '=' ∉ option.toList → Divides option option none
  | pair {front back name value : String} : '=' ∉ front.toList → Text.TrimsTo front name →
      Text.TrimsTo back value → Divides (front ++ "=" ++ back) name (some value)

theorem divides_iff {option name : String} {value : Option String} :
    Divides option name value ↔ divideOption option = (name, value) := by
  constructor
  · intro h
    cases h with
    | bare hname => rw [divideOption, Text.Chars.cutAt?_eq_none_iff.mpr hname]
    | pair hfront hname hvalue =>
        rw [divideOption_pair hfront, Text.trimsTo_iff.mp hname, Text.trimsTo_iff.mp hvalue]
  · intro h
    rw [divideOption] at h
    cases hcut : Text.Chars.cutAt? '=' option.toList with
    | none =>
        rw [hcut] at h
        cases h
        exact .bare (Text.Chars.cutAt?_eq_none_iff.mp hcut)
    | some sides =>
        rw [hcut] at h
        cases h
        obtain ⟨hoption, hname⟩ := Text.Chars.eq_of_cutAt? hcut
        have hwhole : String.ofList sides.1 ++ "=" ++ String.ofList sides.2 = option := by
          rw [← String.toList_inj, hoption]
          simp
        have hpair : Divides (String.ofList sides.1 ++ "=" ++ String.ofList sides.2) _ _ :=
          .pair (by rwa [String.toList_ofList]) (Text.trimsTo_trim _) (Text.trimsTo_trim _)
        simpa only [hwhole, Text.trim, String.toList_ofList] using hpair

/-- The flag that a value stands for; without a value it is set. -/
inductive Flags : Option String → Bool → Prop where
  | bare : Flags none true
  | yes : Flags (some "true") true
  | no : Flags (some "false") false

namespace Key

/-- What a key is set to by a value that it takes. -/
inductive Takes : Key → Option String → Assignment → Prop where
  | wideIntegers (policy : WidePolicy) :
      Takes .wideIntegers (some policy.name) (.wideIntegers policy)
  | everyFile {value : Option String} {flag : Bool} :
      Flags value flag → Takes .everyFile value (.everyFile flag)
  | validate {value : Option String} {flag : Bool} :
      Flags value flag → Takes .validate value (.validate flag)
  | extension {text rest : String} : text ≠ "" → Text.LosesDots text rest →
      Takes .extension (some text) (.extension rest)

/-- The error with which a key refuses a value. -/
inductive Refuses : Key → Option String → OptionError → Prop where
  | missing {key : Key} {value : Option String} :
      key = .wideIntegers ∨ key = .extension → value = none ∨ value = some "" →
        Refuses key value (.missingValue key)
  | unknownPolicy {text : String} :
      text ≠ "" → (∀ policy : WidePolicy, policy.name ≠ text) →
        Refuses .wideIntegers (some text) (.unknownPolicy text)
  | notBoolean {key : Key} {text : String} :
      key = .everyFile ∨ key = .validate → text ≠ "true" → text ≠ "false" →
        Refuses key (some text) (.notBoolean key text)

variable {key : Key} {value : Option String} {assignment : Assignment} {error : OptionError}

theorem requireValue_of_ne {text : String} (h : text ≠ "") :
    requireValue key (some text) = .ok text := by
  rw [requireValue, if_neg (by simpa using h)]

theorem Takes.readValue_eq (h : key.Takes value assignment) :
    key.readValue value = .ok assignment := by
  cases h with
  | wideIntegers policy => cases policy <;> rfl
  | everyFile hflag => cases hflag <;> rfl
  | validate hflag => cases hflag <;> rfl
  | extension hne hrest =>
      rw [readValue, requireValue_of_ne hne, ← Text.losesDots_iff.mp hrest]
      rfl

theorem Refuses.readValue_eq (h : key.Refuses value error) :
    key.readValue value = .error error := by
  cases h with
  | missing hkey hvalue => rcases hkey with rfl | rfl <;> rcases hvalue with rfl | rfl <;> rfl
  | @unknownPolicy text hne hname =>
      have hnone : WidePolicy.ofName? text = none := by
        simpa [WidePolicy.ofName?] using fun policy _ => hname policy
      have hpolicy : readPolicy text = .error (.unknownPolicy text) := by
        rw [readPolicy, hnone]
      rw [readValue, requireValue_of_ne hne]
      change (readPolicy text >>= _) = _
      rw [hpolicy]
      rfl
  | notBoolean hkey htrue hfalse =>
      rcases hkey with rfl | rfl <;> rw [readValue, readFlag, if_neg htrue, if_neg hfalse] <;> rfl

theorem exists_flags_or (value : Option String) :
    (∃ flag, Flags value flag) ∨ ∃ text, value = some text ∧ text ≠ "true" ∧ text ≠ "false" := by
  cases value with
  | none => exact Or.inl ⟨true, .bare⟩
  | some text =>
      by_cases htrue : text = "true"
      · exact Or.inl ⟨true, htrue ▸ .yes⟩
      · by_cases hfalse : text = "false"
        · exact Or.inl ⟨false, hfalse ▸ .no⟩
        · exact Or.inr ⟨text, rfl, htrue, hfalse⟩

theorem missing_or (value : Option String) :
    (value = none ∨ value = some "") ∨ ∃ text, value = some text ∧ text ≠ "" := by
  cases value with
  | none => exact Or.inl (Or.inl rfl)
  | some text =>
      by_cases hempty : text = ""
      · exact Or.inl (Or.inr (congrArg some hempty))
      · exact Or.inr ⟨text, rfl, hempty⟩

/-- A key takes a value or refuses it. -/
theorem exists_takes_or_refuses (key : Key) (value : Option String) :
    (∃ assignment, key.Takes value assignment) ∨ ∃ error, key.Refuses value error := by
  cases key with
  | wideIntegers =>
      obtain hmissing | ⟨text, rfl, hne⟩ := missing_or value
      · exact Or.inr ⟨_, .missing (Or.inl rfl) hmissing⟩
      · by_cases hnamed : ∃ policy : WidePolicy, policy.name = text
        · obtain ⟨policy, rfl⟩ := hnamed
          exact Or.inl ⟨_, .wideIntegers policy⟩
        · exact Or.inr ⟨_, .unknownPolicy hne (not_exists.mp hnamed)⟩
  | everyFile =>
      obtain ⟨flag, hflag⟩ | ⟨text, rfl, htrue, hfalse⟩ := exists_flags_or value
      · exact Or.inl ⟨_, .everyFile hflag⟩
      · exact Or.inr ⟨_, .notBoolean (Or.inl rfl) htrue hfalse⟩
  | validate =>
      obtain ⟨flag, hflag⟩ | ⟨text, rfl, htrue, hfalse⟩ := exists_flags_or value
      · exact Or.inl ⟨_, .validate hflag⟩
      · exact Or.inr ⟨_, .notBoolean (Or.inr rfl) htrue hfalse⟩
  | extension =>
      obtain hmissing | ⟨text, rfl, hne⟩ := missing_or value
      · exact Or.inr ⟨_, .missing (Or.inr rfl) hmissing⟩
      · exact Or.inl ⟨_, .extension hne (Text.losesDots_dropDots text)⟩

theorem Takes.unique {other : Assignment} (h : key.Takes value assignment)
    (hother : key.Takes value other) : other = assignment :=
  Except.ok.inj (hother.readValue_eq.symm.trans h.readValue_eq)

/-- Setting a key changes what is found under that key alone. -/
theorem Takes.assignment_assign (h : key.Takes value assignment) (settings : Settings)
    (other : Key) :
    (settings.assign assignment).assignment other =
      if key = other then assignment else settings.assignment other := by
  cases h <;> cases other <;> rfl

end Key

/-- That an option names a key. -/
def Mentions (option : String) (key : Key) : Prop :=
  ∃ value, Divides option key.name value

/-- That an option names a key that takes its value. -/
def Assigns (option : String) (assignment : Assignment) : Prop :=
  ∃ (key : Key) (value : Option String), Divides option key.name value ∧ key.Takes value assignment

/-- That an option names a key that refuses its value. -/
def Refused (option : String) (error : OptionError) : Prop :=
  ∃ (key : Key) (value : Option String), Divides option key.name value ∧ key.Refuses value error

/-- That an option names no key. -/
def Unknown (option : String) : Prop :=
  ∀ key, ¬ Mentions option key

section

variable {option : String} {key : Key} {value : Option String} {assignment : Assignment}
  {error : OptionError}

theorem Divides.unique {other : Key} {more : Option String} (h : Divides option key.name value)
    (hother : Divides option other.name more) : other = key ∧ more = value := by
  obtain ⟨hname, hvalue⟩ := Prod.mk.inj ((divides_iff.mp hother).symm.trans (divides_iff.mp h))
  have hfound := congrArg Key.ofName? hname
  rw [Key.ofName?_name, Key.ofName?_name] at hfound
  exact ⟨Option.some.inj hfound, hvalue⟩

theorem Divides.readOption_eq (h : Divides option key.name value) :
    readOption option = (key.readValue value).map some := by
  rw [readOption, divides_iff.mp h]
  simp

theorem Assigns.readOption_eq (h : Assigns option assignment) :
    readOption option = .ok (some assignment) := by
  obtain ⟨key, value, hdivides, htakes⟩ := h
  rw [hdivides.readOption_eq, htakes.readValue_eq]
  rfl

theorem Refused.readOption_eq (h : Refused option error) : readOption option = .error error := by
  obtain ⟨key, value, hdivides, hrefuses⟩ := h
  rw [hdivides.readOption_eq, hrefuses.readValue_eq]
  rfl

theorem isKnownOption_eq_false_iff : isKnownOption option = false ↔ Unknown option := by
  have hname : Unknown option ↔ ∀ key : Key, key.name ≠ (divideOption option).1 := by
    constructor
    · intro h key hkey
      exact h key ⟨_, divides_iff.mpr (Prod.ext hkey.symm rfl)⟩
    · rintro h key ⟨value, hdivides⟩
      exact h key (by rw [divides_iff.mp hdivides])
  rw [hname, isKnownOption, Option.isSome_eq_false_iff, Option.isNone_iff_eq_none]
  simp only [Key.ofName?, List.find?_eq_none, beq_iff_eq]
  refine ⟨fun h key => h key ?_, fun h key _ => h key⟩
  cases key <;> decide

instance : DecidablePred Unknown :=
  fun _ => decidable_of_iff _ isKnownOption_eq_false_iff

theorem Unknown.readOption_eq (h : Unknown option) : readOption option = .ok none := by
  have hnone : Key.ofName? (divideOption option).1 = none := by
    simpa [isKnownOption] using isKnownOption_eq_false_iff.mpr h
  rw [readOption]
  simp only [hnone]

theorem Assigns.not_unknown (h : Assigns option assignment) : ¬ Unknown option := by
  obtain ⟨key, value, hdivides, _⟩ := h
  exact fun hunknown => hunknown key ⟨value, hdivides⟩

/-- An option sets something, is refused, or is unknown. -/
theorem exists_assigns_or (option : String) :
    (∃ assignment, Assigns option assignment) ∨ (∃ error, Refused option error) ∨
      Unknown option := by
  by_cases hunknown : Unknown option
  · exact Or.inr (Or.inr hunknown)
  · obtain ⟨key, hmentions⟩ := not_forall_not.mp hunknown
    obtain ⟨value, hdivides⟩ := hmentions
    obtain ⟨assignment, htakes⟩ | ⟨error, hrefuses⟩ := key.exists_takes_or_refuses value
    · exact Or.inl ⟨assignment, key, value, hdivides, htakes⟩
    · exact Or.inr (Or.inl ⟨error, key, value, hdivides, hrefuses⟩)

/-- An option that is neither refused nor unknown sets something. -/
theorem exists_assigns (hrefused : ∀ error, ¬ Refused option error) (hknown : ¬ Unknown option) :
    ∃ assignment, Assigns option assignment := by
  obtain hassigns | ⟨error, h⟩ | hunknown := exists_assigns_or option
  · exact hassigns
  · exact absurd h (hrefused error)
  · exact absurd hunknown hknown

theorem readOption_eq_error_iff : readOption option = .error error ↔ Refused option error := by
  refine ⟨?_, Refused.readOption_eq⟩
  intro h
  obtain ⟨assignment, hassigns⟩ | ⟨other, hrefused⟩ | hunknown := exists_assigns_or option
  · cases h.symm.trans hassigns.readOption_eq
  · cases h.symm.trans hrefused.readOption_eq
    exact hrefused
  · cases h.symm.trans hunknown.readOption_eq

end

end SchemaInterfaces.Settings
