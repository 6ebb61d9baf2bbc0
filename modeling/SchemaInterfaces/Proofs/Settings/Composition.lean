import SchemaInterfaces.Proofs.Settings.Verdicts
import SchemaInterfaces.Proofs.Text.Splitting

/-!
# Joined parameters

Several parameters joined with commas are one parameter. It has the options of all of them and is
accepted where each of them is, and what it sets is what the parameters set one after the other. For
this no parameter in front of a comma may end with a backslash that takes the comma.
-/

namespace SchemaInterfaces.Settings

/-- That an option in a parameter names a key. -/
def IsMentioned (parameter : String) (key : Key) : Prop :=
  ∃ option ∈ Text.splitEscaped ',' parameter, Mentions option key

variable {options others : List String} {first second : Settings}

/-- Options after other options are accepted where both are, and a key that both name has what the
later ones set. -/
theorem ofOptions_append (hfirst : ofOptions options = .ok first)
    (hsecond : ofOptions others = .ok second) :
    ∃ joined, ofOptions (options ++ others) = .ok joined ∧
      ∀ key, ((∃ option ∈ others, Mentions option key) →
          joined.assignment key = second.assignment key) ∧
        ((∀ option ∈ others, ¬ Mentions option key) →
          joined.assignment key = first.assignment key) := by
  obtain ⟨assignments, hassigns, rfl⟩ := exists_assignments_of_ofOptions hfirst
  obtain ⟨more, hmore, rfl⟩ := exists_assignments_of_ofOptions hsecond
  refine ⟨_, ofOptions_of_assigns (List.rel_append hassigns hmore), ?_⟩
  intro key
  rw [ofAssignments_append]
  constructor
  · intro hmentions
    obtain ⟨value, hvalue⟩ := exists_lastValue hmentions
    exact (hvalue.takes hmore {}).unique (hvalue.takes hmore (ofAssignments assignments))
  · intro hmentions
    exact assignment_foldl_of_not_mentions hmore hmentions (ofAssignments assignments)

/-- Options after other options are accepted only where both are. -/
theorem exists_ofOptions_append_iff :
    (∃ joined, ofOptions (options ++ others) = .ok joined) ↔
      (∃ first, ofOptions options = .ok first) ∧ ∃ second, ofOptions others = .ok second := by
  rw [exists_ofOptions_iff, exists_ofOptions_iff, exists_ofOptions_iff, List.forall_mem_append]

/-- Behind a parameter that ends with an even number of backslashes, a separator divides. So a
parameter after it and a comma adds its options to it: both are accepted or the whole is not, and
what the later one names is as the later one sets it. -/
theorem ofParameter_append (s t : String) (hs : Even (Text.closingSlashes s)) :
    (∀ separator, separator ≠ '\\' →
      Text.splitEscaped separator (s ++ String.singleton separator ++ t) =
        Text.splitEscaped separator s ++ Text.splitEscaped separator t) ∧
    (∀ first second, ofParameter s = .ok first → ofParameter t = .ok second →
      ∃ joined, ofParameter (s ++ "," ++ t) = .ok joined ∧
        ∀ key, (IsMentioned t key → joined.assignment key = second.assignment key) ∧
          (¬ IsMentioned t key → joined.assignment key = first.assignment key)) ∧
    (∀ error, ofParameter s = .error error ∨ ofParameter t = .error error →
      ∃ error, ofParameter (s ++ "," ++ t) = .error error) ∧
    ∀ earlier : List String, (∀ text ∈ earlier, Even (Text.closingSlashes text)) →
      Text.splitEscaped ',' (",".intercalate (earlier ++ [t])) =
        earlier.flatMap (Text.splitEscaped ',') ++ Text.splitEscaped ',' t := by
  have hjoined : ofParameter (s ++ "," ++ t) =
      ofOptions (Text.splitEscaped ',' s ++ Text.splitEscaped ',' t) := by
    rw [ofParameter, Text.splitEscaped_append rfl (by decide) hs]
  refine ⟨?_, ?_, ?_, ?_⟩
  · intro separator hslash
    exact Text.splitEscaped_append (String.toList_singleton separator) hslash hs t
  · intro first second hfirst hsecond
    obtain ⟨joined, hok, hkeys⟩ := ofOptions_append hfirst hsecond
    refine ⟨joined, hjoined.trans hok, ?_⟩
    intro key
    obtain ⟨hlater, hearlier⟩ := hkeys key
    refine ⟨hlater, ?_⟩
    intro hmentioned
    exact hearlier fun option hoption hmentions => hmentioned ⟨option, hoption, hmentions⟩
  · intro error herror
    cases hresult : ofParameter (s ++ "," ++ t) with
    | error error => exact ⟨error, rfl⟩
    | ok joined =>
        obtain ⟨⟨first, hfirst⟩, second, hsecond⟩ :=
          exists_ofOptions_append_iff.mp ⟨joined, hjoined.symm.trans hresult⟩
        rcases herror with herror | herror
        · cases herror.symm.trans hfirst
        · cases herror.symm.trans hsecond
  · intro earlier hearlier
    exact Text.splitEscaped_intercalate_append rfl (by decide) hearlier t

/-- A value that ends with an escaped backslash, and an option after it that sets the same key. -/
theorem ofParameter_append_slashes :
    Even (Text.closingSlashes "validate,file_extension=d\\\\") ∧
      ∃ joined, ofParameter "validate,file_extension=d\\\\,file_extension=.ts" = .ok joined ∧
        joined.assignment .extension = .extension "ts" ∧
          joined.assignment .validate = .validate true := by
  have hs : Even (Text.closingSlashes "validate,file_extension=d\\\\") := by
    decide
  refine ⟨hs, ?_⟩
  obtain ⟨joined, hok, hkeys⟩ := (ofParameter_append _ "file_extension=.ts" hs).2.1
    { validate := true, extension := "d\\" } { extension := "ts" } rfl rfl
  refine ⟨joined, hok, (hkeys .extension).1 ?_, (hkeys .validate).2 ?_⟩
  · exact ⟨"file_extension=.ts", by decide, some ".ts", divides_iff.mpr (by decide)⟩
  · rintro ⟨option, hoption, value, hdivides⟩
    have hsplit : Text.splitEscaped ',' "file_extension=.ts" = ["file_extension=.ts"] := by
      decide
    rw [hsplit, List.mem_singleton] at hoption
    subst hoption
    have hextension : Divides "file_extension=.ts" Key.extension.name (some ".ts") :=
      divides_iff.mpr (by decide)
    cases (hdivides.unique hextension).1

end SchemaInterfaces.Settings
