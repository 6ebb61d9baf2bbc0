import SchemaInterfaces.Generator
import SchemaInterfaces.Proofs.Listing.Preorder
import SchemaInterfaces.Proofs.Outcome

/-!
# What is generated

The files that give output, and the output they give. A generator of interfaces has no effects and
does not fail once there are listings.
-/

namespace SchemaInterfaces

/-- The files that are to give output. -/
def Settings.chosen (settings : Settings) (files : List Descriptor.File)
    (targets : List String) : List Descriptor.File :=
  files.filter fun file => settings.everyFile || targets.contains file.nameText

/-- The schema is checked if the settings say so, and then the chosen files are listed. -/
theorem Settings.assemble_eq (settings : Settings) (files : List Descriptor.File)
    (targets : List String) :
    settings.assemble files targets =
      (if settings.validate then (Check.checkFiles files).mapError .violation else .ok ()).map
        fun _ => (files.filter fun file =>
          settings.everyFile || targets.contains file.nameText).map
            (Listing.ofFile settings.wideIntegers) := by
  have hchosen : (if settings.everyFile then Listing.ofFiles settings.wideIntegers files
      else Listing.ofRequested settings.wideIntegers files targets) =
        (files.filter fun file => settings.everyFile || targets.contains file.nameText).map
          (Listing.ofFile settings.wideIntegers) := by
    cases settings.everyFile with
    | false => rfl
    | true =>
        simp only [if_true, Listing.ofFiles, Bool.true_or]
        rw [List.filter_eq_self.mpr fun _ _ => rfl]
  rw [← hchosen, assemble]
  cases settings.validate <;> cases settings.everyFile <;> cases Check.checkFiles files <;> rfl

/-- Where there are listings, they are those of the chosen files. -/
theorem Settings.eq_map_of_assemble {settings : Settings} {files : List Descriptor.File}
    {targets : List String} {listings : List Listing}
    (h : settings.assemble files targets = .ok listings) :
    listings = (settings.chosen files targets).map (Listing.ofFile settings.wideIntegers) := by
  rw [assemble_eq] at h
  obtain ⟨_, -, hlistings⟩ := Outcome.map_eq_ok.mp h
  exact hlistings.symm

/-- There are listings where the schema is not checked, or nothing is found in it. -/
theorem Settings.assemble_of_accepted {settings : Settings} {files : List Descriptor.File}
    (haccepted : settings.validate = true → Check.checkFiles files = .ok ())
    (targets : List String) :
    settings.assemble files targets =
      .ok ((settings.chosen files targets).map (Listing.ofFile settings.wideIntegers)) := by
  rw [assemble_eq]
  split
  next hvalidate =>
    rw [haccepted hvalidate]
    rfl
  next => rfl

/-- Only a violation of the schema rules keeps a run from listings. -/
theorem Settings.exists_violation_of_assemble {settings : Settings}
    {files : List Descriptor.File} {targets : List String} {failure : Failure}
    (h : settings.assemble files targets = .error failure) :
    ∃ violation, failure = .violation violation := by
  rw [assemble_eq] at h
  cases hvalidate : settings.validate with
  | false =>
      rw [hvalidate] at h
      cases h
  | true =>
      rw [hvalidate, if_pos rfl] at h
      cases hcheck : Check.checkFiles files with
      | error violation =>
          rw [hcheck] at h
          exact ⟨violation, (Except.error.inj h).symm⟩
      | ok _ =>
          rw [hcheck] at h
          cases h

namespace Generator

variable {m : Type → Type} [Monad m]

/-- A generator whose renderer has no effects. -/
def ofFunction (settings : Settings) (render : Listing → Except Failure Rendered) :
    Generator m where
  settings := settings
  render listing := pure (render listing)

/-- A renderer of interfaces never fails. -/
theorem ofSettings_eq (settings : Settings) :
    (ofSettings settings : Generator m) =
      ofFunction settings fun listing => pure (listing.render settings.extension) := rfl

variable [LawfulMonad m]

theorem renderAll_ofFunction (settings : Settings) (render : Listing → Except Failure Rendered)
    (listings : List Listing) :
    (ofFunction settings render : Generator m).renderAll listings =
      pure (listings.mapM render) := by
  induction listings with
  | nil => rfl
  | cons listing others ih =>
      rw [renderAll, List.mapM_cons, ofFunction, pure_bind]
      cases render listing with
      | error failure => rfl
      | ok rendered =>
          change (do return Except.map _ (← (ofFunction settings render).renderAll others)) = _
          rw [ih, pure_bind]
          rfl

/-- The listings of the chosen files are rendered in their order, up to the first failure. -/
theorem generate_ofFunction (settings : Settings) (render : Listing → Except Failure Rendered)
    (files : List Descriptor.File) (targets : List String) :
    (ofFunction settings render : Generator m).generate files targets =
      pure (settings.assemble files targets >>= fun listings => listings.mapM render) := by
  have hsettings : (ofFunction settings render : Generator m).settings = settings := rfl
  rw [generate, hsettings]
  cases settings.assemble files targets with
  | error failure => rfl
  | ok listings => exact renderAll_ofFunction settings render listings

theorem generate_ofSettings (settings : Settings) (files : List Descriptor.File)
    (targets : List String) :
    (ofSettings settings : Generator m).generate files targets =
      pure ((settings.assemble files targets).map (·.map (Listing.render settings.extension))) := by
  simp only [ofSettings_eq, generate_ofFunction, List.mapM_pure]
  cases settings.assemble files targets <;> rfl

/-- Each chosen file gives one output, under the name that is made of its own. -/
theorem map_name_of_generate {settings : Settings} {files : List Descriptor.File}
    {targets : List String} {rendered : List Rendered}
    (h : (ofSettings settings : Generator Id).generate files targets = .ok rendered) :
    rendered.map Rendered.name = (settings.chosen files targets).map fun file =>
      Naming.ofFile file.nameText settings.extension := by
  rw [generate_ofSettings] at h
  obtain ⟨listings, hlistings, rfl⟩ := Outcome.map_eq_ok.mp h
  rw [Settings.eq_map_of_assemble hlistings, List.map_map, List.map_map]
  apply List.map_congr_left
  intro file _
  simp only [Function.comp_apply, Listing.render, Listing.ofFile_eq]

end Generator

end SchemaInterfaces
