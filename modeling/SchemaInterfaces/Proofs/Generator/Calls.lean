import SchemaInterfaces.Proofs.Generator

/-!
# What a renderer is called on

A renderer that notes its calls shows how a run makes use of it. It is called on the listings of the
run, one after the other, up to the first on which it fails. A schema that is refused keeps it from
being called at all, and a check that finds nothing makes no difference.
-/

namespace SchemaInterfaces.Generator

/-- A generator whose renderer notes each listing before it answers. -/
def noting (settings : Settings) (render : Listing → Except Failure Rendered) :
    Generator (StateM (List Listing)) where
  settings := settings
  render listing := do
    modify (· ++ [listing])
    return render listing

/-- How the rendering of listings ends, and what the renderer has been called on by then. -/
inductive RenderingEnds (render : Listing → Except Failure Rendered) (listings : List Listing) :
    Except Failure (List Rendered) × List Listing → Prop where
  | rendered {output : List Rendered} :
      List.Forall₂ (fun listing rendered => render listing = .ok rendered) listings output →
        RenderingEnds render listings (.ok output, listings)
  | stopped (front : List Listing) {back : List Listing} {listing : Listing} {failure : Failure} :
      listings = front ++ listing :: back →
        (∀ earlier ∈ front, ∃ rendered, render earlier = .ok rendered) →
          render listing = .error failure →
            RenderingEnds render listings (.error failure, front ++ [listing])

variable {settings : Settings} {render : Listing → Except Failure Rendered}

theorem run_render (listing : Listing) (calls : List Listing) :
    ((noting settings render).render listing).run calls =
      (render listing, calls ++ [listing]) := rfl

theorem run_renderAll_of_error {listing : Listing} {failure : Failure}
    (h : render listing = .error failure) (others calls : List Listing) :
    ((noting settings render).renderAll (listing :: others)).run calls =
      (.error failure, calls ++ [listing]) := by
  rw [renderAll, StateT.run_bind, run_render, h]
  rfl

theorem run_renderAll_of_ok {listing : Listing} {rendered : Rendered}
    (h : render listing = .ok rendered) (others calls : List Listing) :
    ((noting settings render).renderAll (listing :: others)).run calls =
      (((noting settings render).renderAll others).run (calls ++ [listing])).map
        (Except.map (rendered :: ·)) id := by
  rw [renderAll, StateT.run_bind, run_render, h]
  rfl

/-- All calls, added to those that have been noted before. -/
theorem exists_renderingEnds_renderAll (settings : Settings)
    (render : Listing → Except Failure Rendered) (listings calls : List Listing) :
    ∃ result made,
      ((noting settings render).renderAll listings).run calls = (result, calls ++ made) ∧
        RenderingEnds render listings (result, made) := by
  induction listings generalizing calls with
  | nil => exact ⟨.ok [], [], by rw [List.append_nil]; rfl, .rendered .nil⟩
  | cons listing others ih =>
      cases hlisting : render listing with
      | error failure =>
          refine ⟨_, _, run_renderAll_of_error hlisting others calls, ?_⟩
          exact .stopped [] rfl (List.forall_mem_nil _) hlisting
      | ok rendered =>
          obtain ⟨result, made, hrun, hends⟩ := ih (calls ++ [listing])
          refine ⟨result.map (rendered :: ·), listing :: made, ?_, ?_⟩
          · rw [run_renderAll_of_ok hlisting, hrun, List.append_assoc]
            rfl
          · cases hends with
            | rendered hothers => exact .rendered (.cons hlisting hothers)
            | stopped front hsplit hfront hfailed =>
                refine .stopped (listing :: front) (congrArg (listing :: ·) hsplit) ?_ hfailed
                exact List.forall_mem_cons.mpr ⟨⟨rendered, hlisting⟩, hfront⟩

/-- A schema that is checked and refused ends a run with its violation before the renderer is called
on anything. In every other run the renderer is called on the listings of the chosen files, which
are the same without a check, as far as the first one on which it fails. -/
theorem generate_calls (settings : Settings) (render : Listing → Except Failure Rendered)
    (files : List Descriptor.File) (targets : List String) :
    (∀ violation, settings.validate = true → Check.checkFiles files = .error violation →
      ((noting settings render).generate files targets).run [] =
        (.error (.violation violation), [])) ∧
    ((settings.validate = true → Check.checkFiles files = .ok ()) →
      ∃ listings,
        listings = (settings.chosen files targets).map (Listing.ofFile settings.wideIntegers) ∧
        settings.assemble files targets = .ok listings ∧
        ({ settings with validate := false } : Settings).assemble files targets = .ok listings ∧
        RenderingEnds render listings
          (((noting settings render).generate files targets).run [])) := by
  have hsettings : (noting settings render).settings = settings := rfl
  constructor
  · intro violation hvalidate hcheck
    rw [generate, hsettings, Settings.assemble_eq, if_pos hvalidate, hcheck]
    rfl
  · intro haccepted
    have hassemble := Settings.assemble_of_accepted haccepted targets
    refine ⟨_, rfl, hassemble, Settings.assemble_of_accepted (by rintro ⟨⟩) targets, ?_⟩
    obtain ⟨result, made, hrun, hends⟩ := exists_renderingEnds_renderAll settings render
      ((settings.chosen files targets).map (Listing.ofFile settings.wideIntegers)) []
    rw [generate, hsettings, hassemble]
    change RenderingEnds render _ (((noting settings render).renderAll _).run [])
    rw [hrun]
    exact hends

/-- A renderer that fails on one schema file. -/
def failingOn (source : String) (listing : Listing) : Except Failure Rendered :=
  if listing.source = source then .error (.rendering "failed") else .ok ⟨listing.source, ""⟩

def plainFiles : List Descriptor.File :=
  [{ name := some "c.proto" }, { name := some "b.proto" }, { name := some "a.proto" }]

/-- A file with two messages of one name. -/
def twiceFile : Descriptor.File where
  name := some "twice.proto"
  messages := [{ name := some "A" }, { name := some "A" }]

/-- A schema with a name that is defined twice keeps the renderer from being called. In a schema
that has passed the check, it is not called on the file behind the one that it fails on. -/
theorem generate_calls_failingOn :
    (Check.checkFiles [twiceFile] = .error (.definedTwice "A") ∧
      ((noting { validate := true, everyFile := true } (failingOn "b.proto")).generate [twiceFile]
          []).run [] =
        (.error (.violation (.definedTwice "A")), [])) ∧
    Check.checkFiles plainFiles = .ok () ∧
    ((noting { validate := true, everyFile := true } (failingOn "b.proto")).generate plainFiles
        []).run [] =
      (.error (.rendering "failed"), [{ source := "c.proto" }, { source := "b.proto" }]) ∧
    RenderingEnds (failingOn "b.proto") (plainFiles.map (Listing.ofFile .nativeNumeric))
      (.error (.rendering "failed"), [{ source := "c.proto" }, { source := "b.proto" }]) := by
  have htwice : Check.checkFiles [twiceFile] = .error (.definedTwice "A") := by decide +kernel
  have hplain : Check.checkFiles plainFiles = .ok () := by decide +kernel
  obtain ⟨hrefused, -⟩ := generate_calls { validate := true, everyFile := true }
    (failingOn "b.proto") [twiceFile] []
  obtain ⟨-, haccepted⟩ := generate_calls { validate := true, everyFile := true }
    (failingOn "b.proto") plainFiles []
  obtain ⟨listings, hlistings, -, -, hends⟩ := haccepted fun _ => hplain
  have hrun : ((noting { validate := true, everyFile := true } (failingOn "b.proto")).generate
      plainFiles []).run [] =
        (.error (.rendering "failed"), [{ source := "c.proto" }, { source := "b.proto" }]) := by
    rfl
  rw [hrun, hlistings] at hends
  exact ⟨⟨htwice, hrefused _ rfl htwice⟩, hplain, hrun, hends⟩

end SchemaInterfaces.Generator
