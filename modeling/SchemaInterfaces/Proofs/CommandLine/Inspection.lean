import SchemaInterfaces.Proofs.CommandLine.Sessions
import SchemaInterfaces.Proofs.Generator
import SchemaInterfaces.Proofs.Listing.Json

/-!
# Listings shown as JSON

The text of a listing, laid out or not, is read back as that listing, unless it nests too deeply. A
session that shows a schema set as JSON says one document and nothing else, and the document reads
back as the listings that were assembled.
-/

namespace SchemaInterfaces

open Storage

/-- A listing is read back from its text, and refused if it nests deeper than a reader goes. -/
theorem Listing.ofJson?_parse? (listing : Listing) {spacing : Json.Spacing}
    (hblank : spacing.IsBlank) :
    (Json.parse? (String.ofList (Json.write spacing 0 listing.toJson))).bind
        (ofJson? Json.nestingLimit) =
      if listing.toJson.nesting ≤ Json.nestingLimit then some listing else none := by
  have hparse := listing.legible_toJson.parse?_eq hblank (List.forall_mem_nil _)
    (List.forall_mem_nil _)
  rw [List.append_nil, List.nil_append] at hparse
  rw [hparse, Option.bind_some, readsBack_toJson]

/-- Listings of schema files are always read back. -/
theorem Listing.items?_map_ofFile (policy : WidePolicy) (files : List Descriptor.File) :
    Json.items? ofJson? Json.nestingLimit
        (.array ((files.map (ofFile policy)).map toJson)) =
      some (files.map (ofFile policy)) := by
  have hdepth : (Json.array ((files.map (ofFile policy)).map toJson)).nesting ≤ 9 := by
    refine Json.nesting_array_map_le ?_
    intro listing hlisting
    obtain ⟨file, -, rfl⟩ := List.mem_map.mp hlisting
    exact nesting_ofFile_le policy file
  rw [readsBack_toJson.items, if_pos (Nat.le_trans hdepth (by decide))]

namespace CommandLine

namespace Session

/-- The document is read back from the text that it is said as. -/
theorem parse?_document (listings : List Listing) :
    Json.parse? (Text.ofLines [document listings]) =
      some (.array (listings.map Listing.toJson)) := by
  have hback : ∀ c ∈ ['\n'], Json.isSpace c = true := List.forall_mem_singleton.mpr rfl
  have hparse := (Json.legible_array_map Listing.legible_toJson listings).parse?_eq
    Json.isBlank_prettySpacing (List.forall_mem_nil _) hback
  rw [List.nil_append, String.ofList_append] at hparse
  exact hparse

/-- A session that shows a schema set as JSON only reads, and says nothing but the document. -/
theorem perform_inspect_json (manner : Manner) (source : Source) (said : String) (tree : Tree) :
    (inspect manner source true).perform said tree =
      match settingsIn source tree with
      | .error halt => ((.error halt, said), tree)
      | .ok settings =>
        match ((SchemaSet.load (m := StateM Tree) source.schemaSet).run tree).1 with
        | .error failure => ((.error ⟨.loadSchemaSet, failure⟩, said), tree)
        | .ok set =>
          match settings.assemble set.files set.targets with
          | .error failure => ((.error ⟨.assemble, failure⟩, said), tree)
          | .ok listings => ((.ok (), said ++ Text.ofLines [document listings]), tree) := by
  simp only [inspect, perform_bind, perform_settingsOf, perform_take, SchemaSet.snd_run_load,
    if_true]
  cases settingsIn source tree with
  | error halt => rfl
  | ok settings =>
      simp only
      cases ((SchemaSet.load (m := StateM Tree) source.schemaSet).run tree).1 with
      | error failure => rfl
      | ok set =>
          simp only [Step.outcome, Except.mapError]
          cases settings.assemble set.files set.targets with
          | error failure => rfl
          | ok listings =>
              simp only [Text.ofLines_cons, Text.ofLines_nil, String.append_empty,
                ← String.append_assoc]
              rfl

/-- Where a session shows a schema set as JSON and does not halt, it has assembled listings, and
their document is all that it says. -/
theorem exists_listings_of_inspect {manner : Manner} {source : Source} {tree after : Tree}
    {outcome : Outcome}
    (h : (inspect (m := StateM Tree) manner source true).outcome.run tree = (outcome, after))
    (hcode : outcome.code = 0) :
    ∃ settings set listings, settingsIn source tree = .ok settings ∧
      ((SchemaSet.load (m := StateM Tree) source.schemaSet).run tree).1 = .ok set ∧
        settings.assemble set.files set.targets = .ok listings ∧
          outcome.output = Text.toBytes (Text.ofLines [document listings]) := by
  obtain ⟨said, hperform, rfl⟩ := exists_said_of_code_eq_zero h hcode
  rw [perform_inspect_json] at hperform
  cases hsettings : settingsIn source tree with
  | error halt =>
      rw [hsettings] at hperform
      cases hperform
  | ok settings =>
      rw [hsettings] at hperform
      cases hset : ((SchemaSet.load (m := StateM Tree) source.schemaSet).run tree).1 with
      | error failure =>
          simp only [hset] at hperform
          cases hperform
      | ok set =>
          simp only [hset] at hperform
          cases hlistings : settings.assemble set.files set.targets with
          | error failure =>
              simp only [hlistings] at hperform
              cases hperform
          | ok listings =>
              simp only [hlistings, String.empty_append] at hperform
              cases hperform
              exact ⟨settings, set, listings, rfl, rfl, hlistings, rfl⟩

end Session

/-- A listing is read back from its JSON text, compact or laid out, if the text nests to 127 levels
at most, and nothing is read from a deeper one. A run that shows a schema set as JSON and succeeds
puts out one document, and this reads back as the listings that were assembled. -/
theorem json_reads_back :
    (∀ (listing : Listing) (text : String),
      text = listing.toJson.compact ∨ text = listing.toJson.pretty →
        (listing.toJson.nesting ≤ 127 →
          (Json.parse? text).bind (Listing.ofJson? Json.nestingLimit) = some listing) ∧
        (127 < listing.toJson.nesting →
          (Json.parse? text).bind (Listing.ofJson? Json.nestingLimit) = none)) ∧
      ∀ coloured verbose arguments input source tree outcome after,
        Invocation.ofArguments arguments = .ok ⟨verbose, .inspect source true⟩ →
          (run (m := StateM Tree) coloured arguments input).run tree = (outcome, after) →
            outcome.code = 0 →
              ∃ settings set listings, Session.settingsIn source tree = .ok settings ∧
                ((SchemaSet.load (m := StateM Tree) source.schemaSet).run tree).1 = .ok set ∧
                  settings.assemble set.files set.targets = .ok listings ∧
                    ∃ text json, Text.ofBytes? outcome.output = some text ∧
                      Json.parse? text = some json ∧
                        Json.items? Listing.ofJson? Json.nestingLimit json = some listings := by
  refine ⟨?_, ?_⟩
  · intro listing text htext
    have hread : (Json.parse? text).bind (Listing.ofJson? Json.nestingLimit) =
        if listing.toJson.nesting ≤ 127 then some listing else none := by
      rcases htext with rfl | rfl
      · exact listing.ofJson?_parse? Json.isBlank_compactSpacing
      · exact listing.ofJson?_parse? Json.isBlank_prettySpacing
    refine ⟨?_, ?_⟩
    · intro hshallow
      rw [hread, if_pos hshallow]
    · intro hdeep
      rw [hread, if_neg (Nat.not_le.mpr hdeep)]
  · intro coloured verbose arguments input source tree outcome after harguments hrun hcode
    rw [run, harguments] at hrun
    obtain ⟨settings, set, listings, hsettings, hset, hlistings, houtput⟩ :=
      Session.exists_listings_of_inspect hrun hcode
    refine ⟨settings, set, listings, hsettings, hset, hlistings,
      Text.ofLines [Session.document listings], _, ?_, Session.parse?_document listings, ?_⟩
    · rw [houtput, Text.ofBytes?_toBytes]
    · rw [Settings.eq_map_of_assemble hlistings]
      exact Listing.items?_map_ofFile settings.wideIntegers _

/-- A listing whose only member is an array of wide integers, as many arrays in each other as
asked for, under a name that cannot be written as it is. -/
def nestedListing (depth : Nat) : Listing where
  source := "a \"\\\n\t\x01.proto"
  definitions :=
    [⟨"Grid", "Grid", [⟨"cells", Shape.sequence^[depth] (.primitive (.wideInteger .wordPair))⟩]⟩]

open Wire in
/-- A directory with settings, and a schema set of one file with one message. -/
def ledgerTree : Tree where
  home := ["work"]
  entries :=
    [(["work"], .directory),
      (["work", "wide.yaml"], .file (Text.toBytes "wide_integer_policy: word_pair")),
      (["work", "ledger.pb"],
        .file (Writer.blob 1
          (Writer.text 1 "ledger.proto" ++
            Writer.blob 4
              (Writer.text 1 "Ledger" ++
                Writer.blob 2
                  (Writer.text 1 "totals" ++ Writer.number 3 1 ++ Writer.number 4 3 ++
                    Writer.number 5 18)))))]

/-- What is made of the schema set. -/
def ledgerListing : Listing where
  source := "ledger.proto"
  definitions :=
    [⟨"Ledger", "Ledger", [⟨"totals", .sequence (.primitive (.wideInteger .wordPair))⟩]⟩]

theorem json_reads_back_ledgerTree :
    (Json.parse? (nestedListing 120).toJson.compact).bind
        (Listing.ofJson? Json.nestingLimit) = some (nestedListing 120) ∧
      (Json.parse? (nestedListing 121).toJson.pretty).bind
          (Listing.ofJson? Json.nestingLimit) = none ∧
        ∃ outcome text json,
          ((run (m := StateM Tree) false
            ["inspect", "-d", "ledger.pb", "--json", "-c", "wide.yaml"] ⟨[], none⟩).run
              ledgerTree).1 = outcome ∧
            outcome.code = 0 ∧ Text.ofBytes? outcome.output = some text ∧
              Json.parse? text = some json ∧
                Json.items? Listing.ofJson? Json.nestingLimit json = some [ledgerListing] := by
  obtain ⟨hlistings, hruns⟩ := json_reads_back
  refine ⟨(hlistings _ _ (.inl rfl)).1 (by decide +kernel),
    (hlistings _ _ (.inr rfl)).2 (by decide +kernel), ?_⟩
  have hcode : ((run (m := StateM Tree) false
      ["inspect", "-d", "ledger.pb", "--json", "-c", "wide.yaml"] ⟨[], none⟩).run
        ledgerTree).1.code = 0 := by decide +kernel
  obtain ⟨settings, set, listings, hsettings, hset, hassemble, text, json, htext, hjson, hitems⟩ :=
    hruns false false ["inspect", "-d", "ledger.pb", "--json", "-c", "wide.yaml"] ⟨[], none⟩
      ⟨"ledger.pb", some "wide.yaml", false⟩ ledgerTree _ _ rfl rfl hcode
  have hwide : Session.settingsIn ⟨"ledger.pb", some "wide.yaml", false⟩ ledgerTree =
      .ok { wideIntegers := .wordPair } := by decide +kernel
  cases hsettings.symm.trans hwide
  have hledger : (((SchemaSet.load (m := StateM Tree) "ledger.pb").run ledgerTree).1.toOption.map
      fun set => ({ wideIntegers := .wordPair } : Settings).assemble set.files set.targets) =
        some (.ok [ledgerListing]) := by decide +kernel
  rw [hset] at hledger
  cases hassemble.symm.trans (Option.some.inj hledger)
  exact ⟨_, text, json, rfl, hcode, htext, hjson, hitems⟩

end CommandLine

end SchemaInterfaces
