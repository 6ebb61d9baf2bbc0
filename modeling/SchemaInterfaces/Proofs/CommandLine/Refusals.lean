import SchemaInterfaces.Proofs.CommandLine.Sessions
import SchemaInterfaces.Proofs.Generator.Effects

/-!
# Runs that cannot make their output

All output is made before any is written. So a run whose schema is rejected, or whose renderer fails
on one of the chosen files, wherever this file stands among them, changes no file; all that it may
leave is its output directory. A run that finds no settings or no schema set does not come that far.
-/

namespace SchemaInterfaces

open Storage Storage.Tree

namespace Generator

/-- No output can be made: the schema has to be checked and is rejected, or the renderer fails on a
chosen file. -/
def Refuses (settings : Settings) (render : Listing → Except Failure Rendered)
    (files : List Descriptor.File) (targets : List String) : Prop :=
  (settings.validate = true ∧ ∃ violation, Check.checkFiles files = .error violation) ∨
    ∃ file ∈ settings.chosen files targets, ∃ failure,
      render (Listing.ofFile settings.wideIntegers file) = .error failure

variable {settings : Settings} {render : Listing → Except Failure Rendered}
  {files : List Descriptor.File} {targets : List String}

theorem Refuses.exists_failure (h : Refuses settings render files targets) :
    ∃ failure, (ofFunction settings render : Generator Id).generate files targets =
      .error failure := by
  rw [generate_ofFunction, settings.assemble_eq]
  rcases h with ⟨hvalidate, violation, hcheck⟩ | ⟨file, hfile, failure, hrender⟩
  · rw [hvalidate, hcheck]
    exact ⟨_, rfl⟩
  · cases (if settings.validate then (Check.checkFiles files).mapError Failure.violation
        else .ok ()) with
    | error failure => exact ⟨failure, rfl⟩
    | ok _ => exact Outcome.exists_mapM_eq_error (List.mem_map_of_mem hfile) hrender

/-- Where no output can be made, nothing is left but the output directory. -/
theorem Refuses.run_generateBelow (h : Refuses settings render files targets) (directory : String)
    (tree : Tree) :
    ∃ failure,
      ((ofFunction settings render).generateBelow (m := StateM Tree) files targets directory).run
        tree = (.error failure, (tree.createDirectories directory).2) := by
  obtain ⟨failure, hgenerate⟩ := h.exists_failure
  have hends := runEnds_generateBelow settings render files targets directory tree
  rw [hgenerate] at hends
  generalize ((ofFunction settings render).generateBelow (m := StateM Tree) files targets
    directory).run tree = result at hends ⊢
  cases hends with
  | uncreated hmade => exact ⟨_, by rw [hmade]⟩
  | refused hmade => exact ⟨_, by rw [hmade]⟩

end Generator

namespace CommandLine

/-- The settings or the schema set of a source cannot be loaded from a tree. -/
def Unloadable (source : Source) (tree : Tree) : Prop :=
  (∃ path failure, source.settings = some path ∧
      ((Settings.load (m := StateM Tree) path).run tree).1 = .error failure) ∨
    ∃ failure, ((SchemaSet.load (m := StateM Tree) source.schemaSet).run tree).1 = .error failure

theorem Unloadable.run_render {source : Source} {tree : Tree} (h : Unloadable source tree)
    (manner : Manner) (output : String) :
    ∃ outcome, (Session.render (m := StateM Tree) manner source output).outcome.run tree =
        (outcome, tree) ∧ outcome.code = 1 := by
  rw [Session.run_outcome, Session.perform_render]
  rcases h with ⟨path, failure, hpath, hload⟩ | ⟨failure, hload⟩
  · have hsettings : Session.settingsIn source tree = .error ⟨.loadSettings, failure⟩ := by
      rw [Session.settingsIn, hpath]
      simp only [hload]
      rfl
    rw [hsettings]
    exact ⟨_, rfl, rfl⟩
  · cases Session.settingsIn source tree with
    | error halt => exact ⟨_, rfl, rfl⟩
    | ok settings =>
        simp only [hload]
        exact ⟨_, rfl, rfl⟩

/-- A session that writes output and finds everything, but whose run fails. -/
theorem run_render_of_failure {source : Source} {tree after : Tree} {settings : Settings}
    {set : SchemaSet} {failure : Failure} {output : String}
    (hsettings : Session.settingsIn source tree = .ok settings)
    (hset : ((SchemaSet.load (m := StateM Tree) source.schemaSet).run tree).1 = .ok set)
    (hrun : ((Generator.ofSettings settings).generateBelow (m := StateM Tree) set.files set.targets
      output).run tree = (.error failure, after)) (manner : Manner) :
    ∃ outcome, (Session.render (m := StateM Tree) manner source output).outcome.run tree =
        (outcome, after) ∧ outcome.code = 1 := by
  rw [Session.run_outcome, Session.perform_render, hsettings]
  simp only [hset, hrun]
  exact ⟨_, rfl, rfl⟩

theorem run_of_render {coloured verbose : Bool} {arguments : List String} {source : Source}
    {output : String}
    (h : Invocation.ofArguments arguments = .ok ⟨verbose, .render source output⟩) (input : Input) :
    run (m := StateM Tree) coloured arguments input =
      (Session.render { coloured := coloured, verbose := verbose } source output).outcome := by
  rw [run, h]

/-- A run that cannot make its output fails without touching a file. Only directories on the way to
its output directory are new, and not even those if the settings or the schema set of a command that
writes output cannot be loaded. -/
theorem refused_run_effect (tree : Tree) :
    (∀ settings render files targets directory,
      Generator.Refuses settings render files targets →
        ∃ failure after,
          ((Generator.ofFunction settings render).generateBelow (m := StateM Tree) files targets
              directory).run tree = (.error failure, after) ∧
            after.content? = tree.content? ∧
            AddsDirectories (lineage tree.home directory) tree after) ∧
      ∀ coloured verbose arguments input source output,
        Invocation.ofArguments arguments = .ok ⟨verbose, .render source output⟩ →
          (Unloadable source tree →
            ∃ outcome, (run (m := StateM Tree) coloured arguments input).run tree =
                (outcome, tree) ∧ outcome.code = 1) ∧
          ∀ settings set violation, Session.settingsIn source tree = .ok settings →
            ((SchemaSet.load (m := StateM Tree) source.schemaSet).run tree).1 = .ok set →
              settings.validate = true → Check.checkFiles set.files = .error violation →
                ∃ outcome after, (run (m := StateM Tree) coloured arguments input).run tree =
                    (outcome, after) ∧ outcome.code = 1 ∧ after.content? = tree.content? ∧
                      AddsDirectories (lineage tree.home output) tree after := by
  have hadds (directory : String) := tree.addsDirectories_createDirectories directory
  refine ⟨?_, ?_⟩
  · intro settings render files targets directory hrefuses
    obtain ⟨failure, hrun⟩ := hrefuses.run_generateBelow directory tree
    exact ⟨failure, _, hrun, (hadds directory).content?_eq, hadds directory⟩
  · intro coloured verbose arguments input source output harguments
    rw [run_of_render harguments]
    refine ⟨fun h => h.run_render _ output, ?_⟩
    intro settings set violation hsettings hset hvalidate hcheck
    have hrefuses : Generator.Refuses settings
        (fun listing => pure (listing.render settings.extension)) set.files set.targets :=
      Or.inl ⟨hvalidate, violation, hcheck⟩
    obtain ⟨failure, hrun⟩ := hrefuses.run_generateBelow output tree
    obtain ⟨outcome, houtcome, hcode⟩ := run_render_of_failure hsettings hset hrun
      { coloured := coloured, verbose := verbose }
    exact ⟨outcome, _, houtcome, hcode, (hadds output).content?_eq, hadds output⟩

/-- A directory with settings that ask for the schema to be checked, and a schema set of one file
that imports a file which is not there. -/
def strictTree : Tree where
  home := ["work"]
  entries :=
    [(["work"], .directory), (["work", "notes"], .file [104, 105]),
      (["work", "strict.yaml"], .file (Text.toBytes "validate: true")),
      (["work", "lost.pb"], .file ([10, 12, 10, 7] ++ Text.toBytes "a.proto" ++ [26, 1, 98]))]

/-- A renderer of interfaces that fails on one file. -/
def refusing (source : String) (listing : Listing) : Except Failure Rendered :=
  if listing.source = source then .error (.rendering "refused") else pure (listing.render "ts")

/-- A renderer that fails on the second of three files, a schema set that is not there, and one that
is rejected. -/
theorem refused_run_effect_strictTree :
    (∃ failure after,
      ((Generator.ofFunction { everyFile := true } (refusing "b/c.proto")).generateBelow
          (m := StateM Tree) Generator.threeFiles [] "new/out").run strictTree =
          (.error failure, after) ∧
        after.content? = strictTree.content? ∧
        AddsDirectories (lineage strictTree.home "new/out") strictTree after) ∧
      (∃ outcome,
        (run (m := StateM Tree) false ["render", "-d", "missing.pb"] ⟨[], none⟩).run strictTree =
          (outcome, strictTree) ∧ outcome.code = 1) ∧
      ∃ outcome after,
        (run (m := StateM Tree) false ["render", "-d", "lost.pb", "-c", "strict.yaml"]
            ⟨[], none⟩).run strictTree = (outcome, after) ∧
          outcome.code = 1 ∧ after.content? = strictTree.content? ∧
          AddsDirectories (lineage strictTree.home "./generated") strictTree after := by
  obtain ⟨hgenerator, hcommand⟩ := refused_run_effect strictTree
  refine ⟨?_, ?_, ?_⟩
  · have hchosen : ({ name := some "b/c.proto" } : Descriptor.File) ∈
        ({ everyFile := true } : Settings).chosen Generator.threeFiles [] := by
      simp [Settings.chosen, Generator.threeFiles]
    exact hgenerator _ (refusing "b/c.proto") _ _ _
      (Or.inr ⟨_, hchosen, .rendering "refused", by decide +kernel⟩)
  · have hmissing : Unloadable ⟨"missing.pb", none, false⟩ strictTree := Or.inr ⟨_, rfl⟩
    exact (hcommand false false ["render", "-d", "missing.pb"] _ _ "./generated" rfl).1 hmissing
  · have hsettings : Session.settingsIn ⟨"lost.pb", some "strict.yaml", false⟩ strictTree =
        .ok { validate := true } := by decide +kernel
    have hchecked : (((SchemaSet.load (m := StateM Tree) "lost.pb").run strictTree).1.toOption.map
        fun set => Check.checkFiles set.files) = some (.error (.missingImport "b")) := by
      decide +kernel
    obtain ⟨set, hset, hcheck⟩ := Option.map_eq_some_iff.mp hchecked
    exact (hcommand false false ["render", "-d", "lost.pb", "-c", "strict.yaml"] _
      ⟨"lost.pb", some "strict.yaml", false⟩ "./generated" rfl).2 _ set _ hsettings
        (Outcome.toOption_eq_some.mp hset) rfl hcheck

end CommandLine

end SchemaInterfaces
