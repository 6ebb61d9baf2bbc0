import SchemaInterfaces.Proofs.Generator.Writing

/-!
# What a run below a directory leaves behind

A run first creates its directory, then makes all of its output, and only then writes. A run that
stops while writing has written exactly the files in front of the one that it stops at.
-/

namespace SchemaInterfaces.Generator

open Storage Storage.Tree

/-- The ways in which a run below a directory ends, given the output there is or why there is
none. -/
inductive RunEnds (directory : String) (tree : Tree) :
    Except Failure (List Rendered) → Except Failure (List String) × Tree → Prop where
  | uncreated {output : Except Failure (List Rendered)} {error : Storage.Error} {made : Tree} :
      tree.createDirectories directory = (.error error, made) →
        RunEnds directory tree output (.error (.outputDirectory error), made)
  | refused {failure : Failure} {made : Tree} :
      tree.createDirectories directory = (.ok (), made) →
        RunEnds directory tree (.error failure) (.error failure, made)
  | begun {rendered : List Rendered} {made : Tree} {result : Except Failure (List String) × Tree} :
      tree.createDirectories directory = (.ok (), made) →
        Rendered.EndsAll directory rendered made result →
          RunEnds directory tree (.ok rendered) result

section Run

variable (settings : Settings) (render : Listing → Except Failure Rendered)
  (files : List Descriptor.File) (targets : List String) (directory : String) (tree : Tree)

theorem runEnds_generateBelow :
    RunEnds directory tree
      ((ofFunction settings render : Generator Id).generate files targets)
      (((ofFunction settings render).generateBelow (m := StateM Tree) files targets directory).run
        tree) := by
  rw [generateBelow, run_bind, run_createDirectories, generate_ofFunction, generate_ofFunction]
  cases hmade : tree.createDirectories directory with
  | mk result made =>
      cases result with
      | error error => exact .uncreated hmade
      | ok _ =>
          simp only [pure_bind]
          change RunEnds directory tree
            (settings.assemble files targets >>= fun listings => listings.mapM render) _
          cases settings.assemble files targets >>= fun listings => listings.mapM render with
          | error failure => exact .refused hmade
          | ok rendered =>
              exact .begun hmade (Rendered.endsAll_writeAllBelow directory rendered made)

section Ends

variable {settings : Settings} {render : Listing → Except Failure Rendered}
  {directory : String} {tree after : Tree} {output : Except Failure (List Rendered)}
  {outcome : Except Failure (List String)}

theorem RunEnds.exists_paths_eq {paths : List String}
    (h : RunEnds directory tree output (.ok paths, after)) :
    ∃ rendered, output = .ok rendered ∧ paths = rendered.map (Rendered.pathBelow directory) := by
  cases h with
  | begun _ hwriting =>
      cases hwriting with
      | written _ => exact ⟨_, rfl, rfl⟩

/-- A run that has its directory but no output fails as making the output does. -/
theorem RunEnds.eq_error {failure : Failure}
    (hcreated : (tree.createDirectories directory).1 = .ok ())
    (h : RunEnds directory tree (.error failure) (outcome, after)) : outcome = .error failure := by
  cases h with
  | uncreated hmade =>
      rw [hmade] at hcreated
      cases hcreated
  | refused _ => rfl

/-- A run with output fails at writing it, if it does, and this counts as a matter of rendering. -/
theorem RunEnds.kind_eq_rendering {rendered : List Rendered} {failure : Failure}
    (h : RunEnds directory tree (.ok rendered) (.error failure, after)) :
    failure.kind = .rendering := by
  cases h with
  | uncreated _ => rfl
  | begun _ hwriting =>
      cases hwriting with
      | stopped _ _ _ hfile =>
          obtain ⟨⟨_, _, rfl⟩ | ⟨_, rfl⟩, -⟩ := Rendered.failure_of_writeBelow hfile
          · rfl
          · rfl

theorem RunEnds.wrote {rendered : List Rendered} {paths : List String}
    (h : RunEnds directory tree (.ok rendered) (.ok paths, after)) :
    paths = rendered.map (Rendered.pathBelow directory) ∧
      Rendered.Wrote directory rendered tree after := by
  cases h with
  | begun hmade hwriting =>
      have hadds := tree.addsDirectories_createDirectories directory
      rw [hmade] at hadds
      cases hwriting with
      | written hwrote => exact ⟨rfl, hwrote.of_addsDirectories hadds⟩

/-- However a run ends, it has changed nothing but files of output. -/
theorem RunEnds.exists_place_eq (h : RunEnds directory tree output (outcome, after))
    {location : Location} (hchanged : after.content? location ≠ tree.content? location) :
    ∃ rendered, output = .ok rendered ∧
      ∃ file ∈ rendered, file.place tree.home directory = location := by
  have hadds := tree.addsDirectories_createDirectories directory
  cases h with
  | uncreated hmade =>
      rw [hmade] at hadds
      exact absurd (congrFun hadds.content?_eq location) hchanged
  | refused hmade =>
      rw [hmade] at hadds
      exact absurd (congrFun hadds.content?_eq location) hchanged
  | @begun rendered _ _ hmade hwriting =>
      rw [hmade] at hadds
      refine ⟨rendered, rfl, ?_⟩
      by_contra hnone
      push Not at hnone
      apply hchanged
      cases hwriting with
      | written hwrote =>
          rw [(hwrote.of_addsDirectories hadds).content?_eq]
          exact Rendered.overwrite_of_forall_ne hnone
      | stopped hfiles _ hwrote hfile =>
          rw [(Rendered.failure_of_writeBelow hfile).2,
            (hwrote.of_addsDirectories hadds).content?_eq]
          refine Rendered.overwrite_of_forall_ne ?_
          intro file hmem
          exact hnone file (hfiles ▸ List.mem_append_left _ hmem)

end Ends

/-- What a run with output makes of a tree. If it succeeds, every path is that of a file of output
in its order, and leads to what was written there last; no other file has changed. If the directory
cannot be created, no file has changed. If it stops at a file of output, the files are what writing
the ones in front of it has made of them. -/
theorem generateBelow_effect {rendered : List Rendered}
    (hgenerate : (ofFunction settings render : Generator Id).generate files targets =
      .ok rendered) :
    ∃ outcome after,
      ((ofFunction settings render).generateBelow (m := StateM Tree) files targets directory).run
          tree = (outcome, after) ∧
        (∀ paths, outcome = .ok paths →
          paths = rendered.map (fun file => Path.join directory file.name) ∧
          (∀ front file back, rendered = front ++ file :: back →
            (∀ later ∈ back,
              later.place tree.home directory ≠ file.place tree.home directory) →
            after.content? (file.place tree.home directory) =
                some (Text.toBytes file.content) ∧
              after.read (Path.join directory file.name) = .ok (Text.toBytes file.content)) ∧
          ∀ location, (∀ file ∈ rendered, file.place tree.home directory ≠ location) →
            after.content? location = tree.content? location) ∧
        (∀ error, (tree.createDirectories directory).1 = .error error →
          outcome = .error (.outputDirectory error) ∧ after.content? = tree.content?) ∧
        ((tree.createDirectories directory).1 = .ok () → ∀ failure, outcome = .error failure →
          ∃ front file back before, rendered = front ++ file :: back ∧
            (Rendered.writeAllBelow (m := StateM Tree) directory front).run
                (tree.createDirectories directory).2 =
              (.ok (front.map (Rendered.pathBelow directory)), before) ∧
            (file.writeBelow (m := StateM Tree) directory).run before = (.error failure, after) ∧
            ((∃ parent error, failure = .directory parent error) ∨
              ∃ error, failure = .outputFile file.name error) ∧
            after.content? = Rendered.overwrite tree.home directory tree.content? front) := by
  have hends := runEnds_generateBelow settings render files targets directory tree
  have hadds := tree.addsDirectories_createDirectories directory
  rw [hgenerate] at hends
  generalize ((ofFunction settings render).generateBelow (m := StateM Tree) files targets
    directory).run tree = result at hends ⊢
  cases hends with
  | uncreated hmade =>
      rw [hmade] at hadds ⊢
      refine ⟨_, _, rfl, ?_, ?_, ?_⟩
      · rintro paths ⟨⟩
      · rintro _ ⟨⟩
        exact ⟨rfl, hadds.content?_eq⟩
      · rintro ⟨⟩
  | begun hmade hwriting =>
      rw [hmade] at hadds ⊢
      cases hwriting with
      | written hwrote =>
          have hall := hwrote.of_addsDirectories hadds
          refine ⟨_, _, rfl, ?_, ?_, ?_⟩
          · rintro paths ⟨⟩
            refine ⟨rfl, ?_, ?_⟩
            · rintro front file back rfl hlast
              refine ⟨?_, hall.read_eq hlast⟩
              rw [hall.content?_eq]
              exact Rendered.overwrite_last hlast
            · intro location hlocation
              rw [hall.content?_eq]
              exact Rendered.overwrite_of_forall_ne hlocation
          · rintro _ ⟨⟩
          · rintro - _ ⟨⟩
      | stopped hfiles hfront hwrote hfile =>
          obtain ⟨hfailure, hcontent⟩ := Rendered.failure_of_writeBelow hfile
          refine ⟨_, _, rfl, ?_, ?_, ?_⟩
          · rintro _ ⟨⟩
          · rintro _ ⟨⟩
          · rintro - _ ⟨⟩
            refine ⟨_, _, _, _, hfiles, hfront, hfile, hfailure, ?_⟩
            rw [hcontent, (hwrote.of_addsDirectories hadds).content?_eq]

end Run

/-- A directory for output that holds an older file, beside a file of notes. -/
def workTree : Tree where
  home := ["work"]
  entries :=
    [(["work"], .directory), (["work", "notes"], .file [104, 105]), (["work", "out"], .directory),
      (["work", "out", "a.ts"], .file [111, 108, 100])]

/-- Three files, the first and the last with output of one name. -/
def threeFiles : List Descriptor.File :=
  [{ name := some "a.proto" }, { name := some "b/c.proto" }, { name := some "a" }]

/-- The later of the two outputs stays, and the notes are left alone. -/
theorem generateBelow_effect_workTree :
    (ofSettings { everyFile := true } : Generator Id).generate threeFiles [] =
        .ok (threeFiles.map fun file => (Listing.ofFile .nativeNumeric file).render "ts") ∧
      ∃ after,
        ((ofSettings { everyFile := true }).generateBelow (m := StateM Tree) threeFiles []
            "out").run workTree = (.ok ["out/a.ts", "out/b/c.ts", "out/a.ts"], after) ∧
          after.read "out/a.ts" =
            .ok (Text.toBytes "// Generated by protoc-gen-interfaces from a. Do not edit.\n") ∧
          after.content? ["work", "notes"] = some [104, 105] := by
  have hgenerate : (ofSettings { everyFile := true } : Generator Id).generate threeFiles [] =
      .ok (threeFiles.map fun file => (Listing.ofFile .nativeNumeric file).render "ts") := rfl
  obtain ⟨outcome, after, hrun, hwritten, -⟩ := generateBelow_effect { everyFile := true }
    (fun listing => pure (listing.render "ts")) threeFiles [] "out" workTree hgenerate
  have houtcome : outcome = .ok ["out/a.ts", "out/b/c.ts", "out/a.ts"] :=
    (congrArg Prod.fst hrun).symm.trans (by decide +kernel)
  subst houtcome
  obtain ⟨-, hlast, hothers⟩ := hwritten _ rfl
  have hread := (hlast
    ((threeFiles.take 2).map fun file => (Listing.ofFile .nativeNumeric file).render "ts")
    ((Listing.ofFile .nativeNumeric { name := some "a" }).render "ts") [] rfl
    (List.forall_mem_nil _)).2
  have hpath : Path.join "out" ((Listing.ofFile .nativeNumeric { name := some "a" }).render
    "ts").name = "out/a.ts" := by decide +kernel
  have hcontent : ((Listing.ofFile .nativeNumeric { name := some "a" }).render "ts").content =
    "// Generated by protoc-gen-interfaces from a. Do not edit.\n" := by decide +kernel
  rw [hpath, hcontent] at hread
  exact ⟨hgenerate, after, hrun, hread, hothers ["work", "notes"] (by decide +kernel)⟩

end SchemaInterfaces.Generator
