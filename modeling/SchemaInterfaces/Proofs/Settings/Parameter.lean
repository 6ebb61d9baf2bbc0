import SchemaInterfaces.Proofs.Text.Escaping
import SchemaInterfaces.Settings.Parameter

/-!
# Settings written as a parameter

Settings can be passed as a parameter that names every key with its value. Each option gives back
what it was written for, and options for different keys do not disturb each other, so they may come
in any order.
-/

namespace SchemaInterfaces.Settings

/-- What a key is set to. -/
def assignment (settings : Settings) : Key → Assignment
  | .wideIntegers => .wideIntegers settings.wideIntegers
  | .everyFile => .everyFile settings.everyFile
  | .validate => .validate settings.validate
  | .extension => .extension settings.extension

/-- The value of a key in an option. -/
def valueText (settings : Settings) : Key → String
  | .wideIntegers => settings.wideIntegers.name
  | .everyFile => toString settings.everyFile
  | .validate => toString settings.validate
  | .extension => settings.extension

/-- The option that sets a key, before it is escaped. -/
def optionText (settings : Settings) (key : Key) : String :=
  key.name ++ "=" ++ settings.valueText key

/-- Settings whose extension an option can give: it is not empty, and loses neither blank characters
nor dots when it is read. -/
structure IsPassable (settings : Settings) : Prop where
  extension_ne_empty : settings.extension ≠ ""
  isTrimmed_extension : Text.IsTrimmed settings.extension
  head_extension : settings.extension.toList.head? ≠ some '.'

theorem readFlag_toString (key : Key) (flag : Bool) :
    readFlag key (some (toString flag)) = .ok flag := by
  cases flag <;> rfl

theorem assign_comm (settings start : Settings) (first second : Key) :
    (start.assign (settings.assignment first)).assign (settings.assignment second) =
      (start.assign (settings.assignment second)).assign (settings.assignment first) := by
  cases first <;> cases second <;> rfl

/-- What is set for each key, in any order, makes up the settings. -/
theorem ofAssignments_assignment (settings : Settings) {order : List Key}
    (horder : order.Perm Key.all) : ofAssignments (order.map settings.assignment) = settings := by
  rw [ofAssignments, List.foldl_map]
  exact horder.foldl_eq' (fun first _ second _ start => settings.assign_comm start first second) {}

theorem divideOption_pair {name : String} (hname : '=' ∉ name.toList) (value : String) :
    divideOption (name ++ "=" ++ value) = (Text.trim name, some (Text.trim value)) := by
  have hcut : Text.Chars.cutAt? '=' (name ++ "=" ++ value).toList =
      some (name.toList, value.toList) := by
    rw [String.toList_append, String.toList_append, List.append_assoc]
    exact Text.Chars.cutAt?_append hname value.toList
  rw [divideOption, hcut]
  rfl

theorem divideOption_append {name value : String} (hname : '=' ∉ name.toList)
    (htrim : Text.IsTrimmed name) (hvalue : Text.IsTrimmed value) :
    divideOption (name ++ "=" ++ value) = (name, some value) := by
  rw [divideOption_pair hname, Text.trim, Text.trim, htrim.trim_eq, hvalue.trim_eq,
    String.ofList_toList, String.ofList_toList]

theorem isTrimmed_name (key : Key) : Text.IsTrimmed key.name ∧ key.name ≠ "" := by
  cases key <;> decide

theorem optionText_ne_empty (settings : Settings) (key : Key) : settings.optionText key ≠ "" := by
  simp [optionText, (isTrimmed_name key).2]

namespace IsPassable

variable {settings : Settings}

theorem isTrimmed_valueText (h : settings.IsPassable) (key : Key) :
    Text.IsTrimmed (settings.valueText key) ∧ settings.valueText key ≠ "" := by
  cases key with
  | wideIntegers =>
      rw [valueText]
      cases settings.wideIntegers <;> decide
  | everyFile =>
      rw [valueText]
      cases settings.everyFile <;> decide
  | validate =>
      rw [valueText]
      cases settings.validate <;> decide
  | extension => exact ⟨h.isTrimmed_extension, h.extension_ne_empty⟩

theorem readValue_valueText (h : settings.IsPassable) (key : Key) :
    key.readValue (some (settings.valueText key)) = .ok (settings.assignment key) := by
  cases key with
  | wideIntegers =>
      rw [valueText, assignment]
      cases settings.wideIntegers <;> rfl
  | everyFile => rw [Key.readValue, valueText, readFlag_toString]; rfl
  | validate => rw [Key.readValue, valueText, readFlag_toString]; rfl
  | extension =>
      have hvalue : requireValue .extension (some settings.extension) = .ok settings.extension := by
        rw [requireValue, if_neg (by simpa using h.extension_ne_empty)]
      rw [Key.readValue, valueText, hvalue]
      change Except.ok (Assignment.extension (Text.dropDots settings.extension)) = _
      rw [Text.dropDots_eq_self h.head_extension]
      rfl

theorem divideOption_optionText (h : settings.IsPassable) (key : Key) :
    divideOption (settings.optionText key) = (key.name, some (settings.valueText key)) := by
  have hname : '=' ∉ key.name.toList := by
    cases key <;> decide
  exact divideOption_append hname (isTrimmed_name key).1 (h.isTrimmed_valueText key).1

/-- The option for a key sets the key. -/
theorem readOption_optionText (h : settings.IsPassable) (key : Key) :
    readOption (settings.optionText key) = .ok (some (settings.assignment key)) := by
  rw [readOption, h.divideOption_optionText]
  simp only [Key.ofName?_name, h.readValue_valueText key]
  rfl

theorem isKnownOption_optionText (h : settings.IsPassable) (key : Key) :
    isKnownOption (settings.optionText key) = true := by
  rw [isKnownOption, h.divideOption_optionText, Key.ofName?_name]
  rfl

/-- The options for all keys, in any order, stand for the settings. -/
theorem ofOptions_optionText (h : settings.IsPassable) {order : List Key}
    (horder : order.Perm Key.all) : ofOptions (order.map settings.optionText) = .ok settings := by
  have hread : (order.map settings.optionText).mapM readOption =
      .ok (order.map fun key => some (settings.assignment key)) := by
    have hstep : readOption ∘ settings.optionText =
        fun key => pure (some (settings.assignment key)) := funext h.readOption_optionText
    rw [List.mapM_map, hstep, List.mapM_pure]
    rfl
  have hknown : (order.map settings.optionText).filter (!isKnownOption ·) = [] := by
    simp [h.isKnownOption_optionText]
  have hassigned : (order.map fun key => some (settings.assignment key)).filterMap id =
      order.map settings.assignment := by
    simp [List.filterMap_map]
  rw [ofOptions, hread, hknown]
  change Except.ok (ofAssignments _) = _
  rw [hassigned, settings.ofAssignments_assignment horder]

/-- An option begins with its key and ends with its value. -/
theorem isTrimmed_optionText (h : settings.IsPassable) (key : Key) :
    Text.IsTrimmed (settings.optionText key) := by
  obtain ⟨hname, hnameNe⟩ := isTrimmed_name key
  obtain ⟨hvalue, hvalueNe⟩ := h.isTrimmed_valueText key
  exact hname.append hvalue hnameNe hvalueNe "="

end IsPassable

/-- Passable settings are what a parameter stands for that sets every key, whatever the order of the
options, and whatever blank characters stand around them. -/
theorem ofParameter_options (settings : Settings) (hpassable : settings.IsPassable)
    (order : List Key) (horder : order.Perm Key.all) (before after : Key → String)
    (hbefore : ∀ key, ∀ c ∈ (before key).toList, Text.isBlank c = true)
    (hafter : ∀ key, ∀ c ∈ (after key).toList, Text.isBlank c = true) :
    ofParameter (",".intercalate (order.map fun key =>
      before key ++ Text.escape ',' (settings.optionText key) ++ after key)) = .ok settings := by
  have hspells (key : Key) :
      Text.Chars.Spells ',' (before key ++ Text.escape ',' (settings.optionText key) ++
          after key).toList
        ((before key).toList ++ (settings.optionText key).toList ++ (after key).toList) := by
    rw [String.toList_append, String.toList_append, Text.escape, String.toList_ofList]
    exact ((Text.Chars.Spells.blank (by decide) (hbefore key)).append (.escape ',' _)).append
      (.blank (by decide) (hafter key))
  have hsplit : Text.splitEscaped ',' (",".intercalate (order.map fun key =>
      before key ++ Text.escape ',' (settings.optionText key) ++ after key)) =
        order.map settings.optionText := by
    refine Text.splitEscaped_intercalate rfl (by decide) (fun key _ => hspells key) ?_ ?_
    · intro key _
      exact (hpassable.isTrimmed_optionText key).trim_append (hbefore key) (hafter key)
    · intro key _
      exact settings.optionText_ne_empty key
  rw [ofParameter, hsplit, hpassable.ofOptions_optionText horder]

/-- Settings whose extension holds what options are divided at. -/
def listedSettings : Settings where
  wideIntegers := .wordPair
  validate := true
  extension := "d,\\ =.ts"

theorem ofParameter_options_listedSettings :
    listedSettings.IsPassable ∧
      [Key.extension, .validate, .everyFile, .wideIntegers].Perm Key.all ∧
      ofParameter ("\tfile_extension=d\\,\\\\ =.ts\u3000,\tvalidate=true\u3000," ++
        "\temit_dependencies=false\u3000,\twide_integer_policy=word_pair\u3000") =
          .ok listedSettings := by
  have hpassable : listedSettings.IsPassable := by
    constructor <;> decide
  have horder : [Key.extension, .validate, .everyFile, .wideIntegers].Perm Key.all := by
    decide
  refine ⟨hpassable, horder, ?_⟩
  exact ofParameter_options listedSettings hpassable _ horder (fun _ => "\t") (fun _ => "\u3000")
    (fun _ => List.all_eq_true.mp rfl) (fun _ => List.all_eq_true.mp rfl)

end SchemaInterfaces.Settings
