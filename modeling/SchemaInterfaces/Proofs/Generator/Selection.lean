import SchemaInterfaces.Proofs.Generator

/-!
# Which listings there are

Without a check of the schema a run never fails to give listings, and each of them comes from one
schema file. A file is listed or left out by its own name, whatever other files there are, and the
targets count as a set of names.
-/

namespace SchemaInterfaces

open Descriptor

theorem Listing.source_ofFile (policy : WidePolicy) (file : File) :
    (ofFile policy file).source = file.nameText := by
  rw [ofFile_eq]

namespace Settings

variable (settings : Settings) (files others : List File) (targets : List String)

theorem chosen_append :
    settings.chosen (files ++ others) targets =
      settings.chosen files targets ++ settings.chosen others targets :=
  List.filter_append _ _

theorem chosen_congr {names : List String} (h : ∀ name, name ∈ names ↔ name ∈ targets) :
    settings.chosen files names = settings.chosen files targets := by
  apply List.filter_congr
  intro file _
  rw [Bool.eq_iff_iff, Bool.or_eq_true, Bool.or_eq_true, List.contains_iff_mem,
    List.contains_iff_mem, h]

/-- Choosing files before they are listed is choosing listings by their source. -/
theorem map_ofFile_chosen (heveryFile : settings.everyFile = false) :
    (settings.chosen files targets).map (Listing.ofFile settings.wideIntegers) =
      (Listing.ofFiles settings.wideIntegers files).filter
        fun listing => listing.source ∈ targets := by
  rw [Listing.ofFiles, List.filter_map, chosen]
  congr 1
  apply List.filter_congr
  intro file _
  rw [heveryFile, Bool.false_or, Function.comp_apply, Listing.source_ofFile]
  simp

theorem assemble_of_not_validate (hvalidate : settings.validate = false) :
    settings.assemble files targets =
      .ok ((settings.chosen files targets).map (Listing.ofFile settings.wideIntegers)) :=
  assemble_of_accepted (fun hchecked => absurd (hvalidate.symm.trans hchecked) (by decide)) targets

theorem assemble_everyFile (hvalidate : settings.validate = false) :
    ({ settings with everyFile := true } : Settings).assemble files targets =
      .ok (Listing.ofFiles settings.wideIntegers files) := by
  have hchosen : ({ settings with everyFile := true } : Settings).chosen files targets = files :=
    List.filter_eq_self.mpr fun _ _ => rfl
  refine (assemble_of_not_validate { settings with everyFile := true } files targets
    hvalidate).trans ?_
  rw [hchosen]
  rfl

/-- Without a check, files behind other files add their own listings to the others, and only the
set of the targets counts. Unless every file gives output, the listings are those of all files, in
their order, whose source is a target; these are all listings exactly if every file is a target. -/
theorem assemble_selection (hvalidate : settings.validate = false) :
    (∃ first second,
      settings.assemble files targets = .ok first ∧
        settings.assemble others targets = .ok second ∧
        settings.assemble (files ++ others) targets = .ok (first ++ second)) ∧
    (∀ names : List String, (∀ name, name ∈ names ↔ name ∈ targets) →
      settings.assemble files names = settings.assemble files targets) ∧
    ({ settings with everyFile := true } : Settings).assemble (files ++ others) targets =
      .ok (Listing.ofFiles settings.wideIntegers (files ++ others)) ∧
    (settings.everyFile = false →
      settings.assemble (files ++ others) targets =
          .ok ((Listing.ofFiles settings.wideIntegers (files ++ others)).filter
            fun listing => listing.source ∈ targets) ∧
        (settings.assemble (files ++ others) targets =
            ({ settings with everyFile := true } : Settings).assemble (files ++ others) targets ↔
          ∀ file ∈ files ++ others, file.nameText ∈ targets)) := by
  have hall := settings.assemble_everyFile (files ++ others) targets hvalidate
  refine ⟨?_, ?_, hall, ?_⟩
  · refine ⟨_, _, settings.assemble_of_not_validate files targets hvalidate,
      settings.assemble_of_not_validate others targets hvalidate, ?_⟩
    rw [assemble_of_not_validate _ _ _ hvalidate, chosen_append, List.map_append]
  · intro names hnames
    rw [assemble_of_not_validate _ _ _ hvalidate, assemble_of_not_validate _ _ _ hvalidate,
      chosen_congr _ _ _ hnames]
  · intro heveryFile
    have hselected : settings.assemble (files ++ others) targets =
        .ok ((Listing.ofFiles settings.wideIntegers (files ++ others)).filter
          fun listing => listing.source ∈ targets) := by
      rw [assemble_of_not_validate _ _ _ hvalidate, map_ofFile_chosen _ _ _ heveryFile]
    refine ⟨hselected, ?_⟩
    rw [hselected, hall, Except.ok.injEq, List.filter_eq_self, Listing.ofFiles, List.forall_mem_map]
    simp only [Listing.source_ofFile, decide_eq_true_eq]

/-- Two files of one name, another file between them, and a file without a name. -/
def repeatedFiles : List File :=
  [{ name := some "a.proto", package := some "first" }, { name := some "b.proto" },
    { name := some "a.proto", package := some "second" }, {}]

/-- A name given twice, in any place among the targets, chooses both files of the name and no other
one. -/
theorem assemble_selection_repeatedFiles :
    ({} : Settings).validate = false ∧
      ({} : Settings).assemble repeatedFiles ["c.proto", "a.proto", "a.proto"] =
        ({} : Settings).assemble repeatedFiles ["a.proto", "c.proto"] ∧
      ({} : Settings).assemble repeatedFiles ["a.proto", "c.proto"] =
        .ok [{ source := "a.proto", package := "first" },
          { source := "a.proto", package := "second" }] ∧
      ({} : Settings).assemble repeatedFiles ["a.proto", "c.proto"] ≠
        ({ everyFile := true } : Settings).assemble repeatedFiles ["a.proto", "c.proto"] := by
  obtain ⟨-, hset, -, hselection⟩ := assemble_selection {} repeatedFiles [] ["a.proto", "c.proto"]
    rfl
  obtain ⟨hlisted, hall⟩ := hselection rfl
  rw [List.append_nil] at hlisted hall
  refine ⟨rfl, hset _ ?_, hlisted.trans rfl, fun hsame => ?_⟩
  · intro name
    simp only [List.mem_cons, List.not_mem_nil, or_false]
    tauto
  · exact absurd (hall.mp hsame) (by decide)

end Settings

end SchemaInterfaces
