import SchemaInterfaces.Proofs.Rendering.OutputNames
import SchemaInterfaces.Proofs.Settings.Verdicts
import SchemaInterfaces.Proofs.Yaml.Entry
import SchemaInterfaces.Settings.Document

/-!
# One extension, written in two ways

A parameter and a document can both set nothing but the extension of the output. From the parameter
the extension is taken without the dots in front of it, from the document as it stands there. So the
two give the same settings, and the output the same names, for an extension without a dot in front,
and for no other one.
-/

namespace SchemaInterfaces

theorem Text.dropDots_eq_self_iff {s : String} : dropDots s = s ↔ s.toList.head? ≠ some '.' := by
  refine ⟨?_, dropDots_eq_self⟩
  intro hdrop
  have hhead := head?_dropDots_ne s
  rwa [hdrop] at hhead

/-- Extensions give all output the same names only if they are the same. -/
theorem Naming.ofFile_eq_iff {first second : String} :
    (∀ source, ofFile source first = ofFile source second) ↔ first = second := by
  constructor
  · intro h
    simpa [ofFile, ← String.toList_inj] using h ""
  · rintro rfl source
    rfl

namespace Settings

/-- The parameter that sets the extension alone. -/
def extensionParameter (text : String) : String :=
  Key.extension.name ++ "=" ++ Text.escape ',' text

/-- The document that sets the extension alone, which is written between quotes. -/
def extensionDocument (written : List Char) : String :=
  Key.extension.name ++ ": " ++ String.ofList written ++ "\n"

variable {text : String}

theorem ofParameter_extension (hne : text ≠ "") (htrim : Text.IsTrimmed text) :
    ofParameter (extensionParameter text) = .ok { extension := Text.dropDots text } := by
  obtain ⟨hname, hnameNe⟩ := isTrimmed_name .extension
  have hspells : Text.Chars.Spells ',' (extensionParameter text).toList
      (Key.extension.name ++ "=" ++ text).toList := by
    -- The name of the key is the same with escapes.
    have hkey : Text.Chars.Spells ',' (Key.extension.name ++ "=").toList
        (Key.extension.name ++ "=").toList :=
      Text.spells_escape ',' (Key.extension.name ++ "=")
    have hoption := hkey.append (Text.spells_escape ',' text)
    rwa [← String.toList_append, ← String.toList_append] at hoption
  have hsplit : Text.splitEscaped ',' (extensionParameter text) =
      [Key.extension.name ++ "=" ++ text] :=
    Text.splitEscaped_of_spells hspells (by simp [hnameNe]) (hname.append htrim hnameNe hne "=")
  have hdivides : Divides (Key.extension.name ++ "=" ++ text) Key.extension.name (some text) :=
    divides_iff.mpr (divideOption_append (by decide) hname htrim)
  have hassigns : Assigns (Key.extension.name ++ "=" ++ text) (.extension (Text.dropDots text)) :=
    ⟨.extension, some text, hdivides, .extension hne (Text.losesDots_dropDots text)⟩
  rw [ofParameter, hsplit, ofOptions_of_assigns (.cons hassigns .nil)]
  rfl

theorem ofText_extension {style : Yaml.Style} {written : List Char}
    (h : Yaml.Quotes style written text.toList) :
    ofText (extensionDocument written) = .ok { extension := text } := by
  have hkey : Text.isIdentifier Key.extension.name = true := by decide
  have hlength : Key.extension.name.length ≤ Yaml.Lexer.keyLimit := by decide
  obtain ⟨mark, hdocument⟩ := Yaml.Document.ofText?_entry hkey hlength h
  rw [String.ofList_toList] at hdocument
  rw [ofText, extensionDocument, hdocument]
  rfl

/-- Given between quotes in a document, an extension is kept as it is, while a parameter gives it
without the dots in front of it. The settings, and with them the names of the output, are the same
just for the extensions that have no dot in front. -/
theorem extension_agreement (text : String) (hne : text ≠ "") (htrim : Text.IsTrimmed text) :
    (∃ style written, Yaml.Quotes style written text.toList) ∧
    ∀ style written, Yaml.Quotes style written text.toList →
      ∃ passed loaded, ofParameter (extensionParameter text) = .ok passed ∧
        ofText (extensionDocument written) = .ok loaded ∧
        passed = { extension := Text.dropDots text } ∧ loaded = { extension := text } ∧
        (passed = loaded ↔ text.toList.head? ≠ some '.') ∧
        ((∀ source, Naming.ofFile source passed.extension =
            Naming.ofFile source loaded.extension) ↔ text.toList.head? ≠ some '.') := by
  constructor
  · obtain ⟨written, hquotes⟩ := Yaml.exists_quotes text.toList
    exact ⟨.doubleQuoted, written, hquotes⟩
  · intro style written hquotes
    refine ⟨_, _, ofParameter_extension hne htrim, ofText_extension hquotes, rfl, rfl, ?_, ?_⟩
    · rw [← Text.dropDots_eq_self_iff]
      simp
    · rw [← Text.dropDots_eq_self_iff]
      exact Naming.ofFile_eq_iff

/-- An extension with a comma, which a backslash keeps together in a parameter, and which may be
written by its number in a document. -/
theorem extension_agreement_comma :
    "d,ts" ≠ "" ∧ Text.IsTrimmed "d,ts" ∧
      ∃ settings, ofParameter "file_extension=d\\,ts" = .ok settings ∧
        ofText "file_extension: \"d\\x2cts\"\n" = .ok settings := by
  have hne : "d,ts" ≠ "" := by decide
  have htrim : Text.IsTrimmed "d,ts" := by decide
  have hcomma : Yaml.Spells .doubleQuoted ['\\', 'x', '2', 'c', 't', 's'] [',', 't', 's'] :=
    .cons (.two rfl) (.self rfl)
  have hspells : Yaml.Spells .doubleQuoted ['d', '\\', 'x', '2', 'c', 't', 's']
      ['d', ',', 't', 's'] :=
    .cons (.double rfl rfl (by decide) (by decide)) hcomma
  obtain ⟨passed, loaded, hpassed, hloaded, -, -, hagree, -⟩ :=
    (extension_agreement "d,ts" hne htrim).2 _ _ (.double hspells)
  obtain rfl : passed = loaded := hagree.mpr (by decide)
  have hparameter : extensionParameter "d,ts" = "file_extension=d\\,ts" := by decide
  exact ⟨hne, htrim, passed, hparameter ▸ hpassed, hloaded⟩

/-- An extension with a dot in front gives two settings, and output of two names. -/
theorem extension_disagreement_dot :
    ".ts" ≠ "" ∧ Text.IsTrimmed ".ts" ∧
      Yaml.Quotes .doubleQuoted ['"', '.', 't', 's', '"'] ".ts".toList ∧
      ofParameter "file_extension=.ts" = .ok { extension := "ts" } ∧
      ofText "file_extension: \".ts\"\n" = .ok { extension := ".ts" } ∧
      Naming.ofFile "a.proto" "ts" = "a.ts" ∧ Naming.ofFile "a.proto" ".ts" = "a..ts" := by
  have hne : ".ts" ≠ "" := by decide
  have htrim : Text.IsTrimmed ".ts" := by decide
  have hspells : Yaml.Spells .doubleQuoted ['.', 't', 's'] ['.', 't', 's'] := .self rfl
  have hquotes : Yaml.Quotes .doubleQuoted ['"', '.', 't', 's', '"'] ".ts".toList :=
    .double hspells
  have hparameter : extensionParameter ".ts" = "file_extension=.ts" := by decide
  have hdocument : extensionDocument ['"', '.', 't', 's', '"'] =
      "file_extension: \".ts\"\n" := by
    decide
  have hpassed := ofParameter_extension hne htrim
  have hloaded := ofText_extension hquotes
  have hdrop : Text.dropDots ".ts" = "ts" := by decide
  rw [hparameter, hdrop] at hpassed
  rw [hdocument] at hloaded
  exact ⟨hne, htrim, hquotes, hpassed, hloaded, by decide, by decide⟩

end Settings

end SchemaInterfaces
