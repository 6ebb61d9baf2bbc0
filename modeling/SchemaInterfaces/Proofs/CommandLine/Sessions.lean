import SchemaInterfaces.CommandLine.Run
import SchemaInterfaces.Proofs.Storage.Changes

/-!
# Sessions on a tree

How a session runs on a tree: what it says changes nothing, loading only reads, and a step that
fails ends the session and leaves the tree as it is then.
-/

namespace SchemaInterfaces

open Storage

theorem Settings.snd_run_load (path : String) (tree : Tree) :
    ((Settings.load (m := StateM Tree) path).run tree).2 = tree := by
  have hread := tree.snd_run_readText path
  rw [Settings.load, Tree.run_bind]
  split <;> exact hread

theorem SchemaSet.snd_run_load (path : String) (tree : Tree) :
    ((SchemaSet.load (m := StateM Tree) path).run tree).2 = tree := by
  rw [SchemaSet.load, Tree.run_bind, Tree.run_read]
  split <;> rfl

namespace CommandLine.Session

variable {α β : Type}

/-- The run of a session on a tree, with the text said before and after. -/
def perform (session : Session (StateM Tree) α) (said : String) (tree : Tree) :
    (Except Halt α × String) × Tree :=
  (session.run.run said).run tree

variable (said : String) (tree : Tree)

theorem perform_pure (a : α) :
    (pure a : Session (StateM Tree) α).perform said tree = ((.ok a, said), tree) := rfl

theorem perform_bind (session : Session (StateM Tree) α) (next : α → Session (StateM Tree) β) :
    (session >>= next).perform said tree =
      match session.perform said tree with
      | ((.ok a, said), tree) => (next a).perform said tree
      | ((.error halt, said), tree) => ((.error halt, said), tree) := by
  rw [perform, ExceptT.run_bind, StateT.run_bind, StateT.run_bind, perform]
  obtain ⟨⟨result, more⟩, after⟩ := (session.run.run said).run tree
  cases result <;> rfl

theorem perform_take (step : Step) (action : StateM Tree (Except Failure α)) :
    (take step action).perform said tree =
      ((step.outcome (action.run tree).1, said), (action.run tree).2) := rfl

theorem perform_say (line : String) :
    (say line).perform said tree = ((.ok (), said ++ line ++ "\n"), tree) := rfl

theorem perform_forM_say (lines : List String) :
    (lines.forM say).perform said tree = ((.ok (), said ++ Text.ofLines lines), tree) := by
  induction lines generalizing said with
  | nil => simp [perform_pure]
  | cons line lines ih =>
      change (say line >>= fun _ => lines.forM say).perform said tree = _
      rw [perform_bind, perform_say]
      simp only [ih]
      simp [String.append_assoc]

/-- The settings of a source, as they are found in a tree. -/
def settingsIn (source : Source) (tree : Tree) : Except Halt Settings := do
  let settings ←
    match source.settings with
    | some path => Step.loadSettings.outcome ((Settings.load (m := StateM Tree) path).run tree).1
    | none => pure {}
  return if source.all then { settings with everyFile := true } else settings

theorem perform_settingsOf (source : Source) :
    (settingsOf source).perform said tree = ((settingsIn source tree, said), tree) := by
  unfold settingsOf settingsIn
  cases source.settings with
  | none => rfl
  | some path =>
      simp only [perform_bind, perform_take, Settings.snd_run_load]
      cases ((Settings.load (m := StateM Tree) path).run tree).1 <;> rfl

/-! ## Writing output -/

/-- The session halts at settings or a schema set that cannot be loaded, and else ends as the run of
the generator does. -/
theorem perform_render (manner : Manner) (source : Source) (output : String) :
    (render manner source output).perform said tree =
      match settingsIn source tree with
      | .error halt => ((.error halt, said ++ Text.ofLines [openingLine manner source]), tree)
      | .ok settings =>
        match ((SchemaSet.load (m := StateM Tree) source.schemaSet).run tree).1 with
        | .error failure =>
          ((.error ⟨.loadSchemaSet, failure⟩, said ++ Text.ofLines (openingLine manner source ::
            settingsLines manner output settings)), tree)
        | .ok set =>
          match ((Generator.ofSettings settings).generateBelow (m := StateM Tree) set.files
            set.targets output).run tree with
          | (.error failure, after) =>
            ((.error ⟨.render, failure⟩, said ++ Text.ofLines (openingLine manner source ::
              settingsLines manner output settings ++ [loadedLine manner set])), after)
          | (.ok paths, after) =>
            ((.ok (), said ++ Text.ofLines (openingLine manner source ::
              settingsLines manner output settings ++ loadedLine manner set ::
                closingLines manner paths)), after) := by
  simp only [render, perform_bind, perform_say, perform_settingsOf, perform_take,
    SchemaSet.snd_run_load, perform_forM_say]
  cases settingsIn source tree with
  | error halt => simp [String.append_assoc]
  | ok settings =>
      simp only
      cases ((SchemaSet.load (m := StateM Tree) source.schemaSet).run tree).1 with
      | error failure =>
          simp [Step.outcome, Except.mapError, String.append_assoc]
      | ok set =>
          simp only [Step.outcome, Except.mapError]
          cases ((Generator.ofSettings settings).generateBelow (m := StateM Tree) set.files
            set.targets output).run tree with
          | mk result after =>
              cases result with
              | error failure => simp [Text.ofLines_append, String.append_assoc]
              | ok paths => simp [Text.ofLines_append, String.append_assoc]

theorem run_outcome (session : Session (StateM Tree) Unit) :
    session.outcome.run tree =
      match session.perform "" tree with
      | ((.ok _, said), after) => ({ code := 0, output := Text.toBytes said }, after)
      | ((.error halt, said), after) =>
        ({ code := 1, output := Text.toBytes said, report := halt.report }, after) := by
  rw [outcome, Tree.run_bind, perform]
  obtain ⟨⟨result, said⟩, after⟩ := (session.run.run "").run tree
  cases result <;> rfl

/-- A session that succeeds has come to its end, and its output is what it has said. -/
theorem exists_said_of_code_eq_zero {session : Session (StateM Tree) Unit} {tree after : Tree}
    {outcome : Outcome} (h : session.outcome.run tree = (outcome, after))
    (hcode : outcome.code = 0) :
    ∃ said, session.perform "" tree = ((.ok (), said), after) ∧
      outcome = { code := 0, output := Text.toBytes said } := by
  rw [run_outcome] at h
  generalize session.perform "" tree = performed at h ⊢
  obtain ⟨⟨result, said⟩, last⟩ := performed
  cases result with
  | ok =>
      obtain ⟨rfl, rfl⟩ := Prod.mk.inj h
      exact ⟨said, rfl, rfl⟩
  | error halt =>
      obtain ⟨rfl, -⟩ := Prod.mk.inj h
      cases hcode

end CommandLine.Session

end SchemaInterfaces
