import SchemaInterfaces.Proofs.Generator.Effects
import SchemaInterfaces.Proofs.Rendering.OutputNames

/-!
# How far a run reaches

A run writes to the places that the names of its output lead to from the output directory. Whether
they are inside it is a matter of the schema names: an absolute name or one with a step up too many
leads out of the directory, and nothing keeps a run from following.
-/

namespace SchemaInterfaces

open Storage

namespace Naming

/-- An extension that makes no directories and leaves none. -/
def IsPlain (extension : String) : Prop :=
  extension ≠ "" ∧ extension ≠ "." ∧ '/' ∉ extension.toList

instance (extension : String) : Decidable (IsPlain extension) :=
  inferInstanceAs (Decidable (_ ∧ _ ∧ _))

/-- A relative path whose directories never lead above where they begin. -/
def StaysInside (source : String) : Prop :=
  Path.isAbsolute source = false ∧
    ∀ front ∈ (Text.partsAt '/' source).dropLast.inits, Path.stepsUp front ≤ Path.stepsDown front

instance (source : String) : Decidable (StaysInside source) :=
  inferInstanceAs (Decidable (_ ∧ _))

theorem eq_stem_append (source : String) :
    ∃ ending : String, '/' ∉ ending.toList ∧ source = stem source ++ ending := by
  by_cases hsource : EndsInProto source
  · obtain ⟨front, rfl⟩ := hsource.exists_eq_append
    exact ⟨".proto", by decide, by rw [stem_append]⟩
  · exact ⟨"", by decide, by rw [stem_eq_self hsource, String.append_empty]⟩

/-- The last name of the output leads a step down. -/
theorem isIdle_append_extension {extension : String} (h : IsPlain extension) (last : String) :
    Path.isIdle (last ++ ("." ++ extension)) = false ∧ last ++ ("." ++ extension) ≠ ".." := by
  have hne : extension.toList ≠ [] := by simpa using h.1
  have hdot : extension.toList ≠ ['.'] := fun hext => h.2.1 (String.toList_injective hext)
  simp only [Path.isIdle, Bool.or_eq_false_iff, beq_eq_false_iff_ne, ne_eq, ← String.toList_inj,
    String.toList_append]
  cases last.toList with
  | nil => simp [hne, hdot]
  | cons c tail => simp [List.append_eq_cons_iff, hne]

/-- With a plain extension, the directories in a schema name decide where its output goes. -/
theorem descends_ofFile_iff {extension : String} (h : IsPlain extension) (source : String) :
    Path.Descends (ofFile source extension) ↔ StaysInside source := by
  have hextension : '/' ∉ ("." ++ extension).toList := by simpa using h.2.2
  obtain ⟨ending, hending, hsource⟩ := eq_stem_append source
  obtain ⟨front, last, hparts⟩ := Text.exists_last_part '/' (stem source)
  have hname : ofFile source extension = stem source ++ ("." ++ extension) := by
    rw [ofFile, String.append_assoc]
  have habsolute : Path.isAbsolute (ofFile source extension) = Path.isAbsolute source := by
    rw [hname, Path.isAbsolute_append_of_notMem hextension, hsource,
      Path.isAbsolute_append_of_notMem hending, ← hsource]
  have houtput : Text.partsAt '/' (ofFile source extension) =
      front ++ [last ++ ("." ++ extension)] := by
    rw [hname, hparts _ hextension]
  have hdirectories : (Text.partsAt '/' source).dropLast = front := by
    rw [hsource, hparts _ hending, List.dropLast_concat]
  obtain ⟨hidle, hup⟩ := isIdle_append_extension h last
  obtain ⟨hstepsUp, hstepsDown⟩ := Path.steps_concat_down hidle hup front
  rw [Path.Descends, StaysInside, habsolute, houtput, hdirectories, hstepsUp, hstepsDown]
  simp only [List.mem_inits, List.prefix_concat_iff]
  constructor
  · rintro ⟨hrelative, hfronts, -⟩
    exact ⟨hrelative, fun names hnames => hfronts names (Or.inr hnames)⟩
  · rintro ⟨hrelative, hfronts⟩
    have hlast := hfronts front List.prefix_rfl
    refine ⟨hrelative, ?_, by omega⟩
    rintro names (rfl | hnames)
    · omega
    · exact hfronts names hnames

end Naming

namespace Generator

section Reach

variable (settings : Settings) (files : List Descriptor.File) (targets : List String)
  (directory : String) (tree : Tree)

/-- The path that the output for a schema file is written to. -/
def pathFor (file : Descriptor.File) : String :=
  Path.join directory (Naming.ofFile file.nameText settings.extension)

theorem map_pathBelow_of_generate {rendered : List Rendered}
    (h : (ofSettings settings : Generator Id).generate files targets = .ok rendered) :
    rendered.map (Rendered.pathBelow directory) =
      (settings.chosen files targets).map (pathFor settings directory) := by
  have hpaths := congrArg (List.map (Path.join directory)) (map_name_of_generate h)
  simp only [List.map_map, Function.comp_def] at hpaths
  exact hpaths

/-- A run gives out the paths of its output, and changes files only where these paths lead. If all
names of output descend, that is below the output directory. Only such names lead below every
directory; with a plain extension, they are those of the schema files whose names stay inside. -/
theorem generateBelow_reach :
    (∃ outcome after,
      ((ofSettings settings).generateBelow (m := StateM Tree) files targets directory).run tree =
          (outcome, after) ∧
        (∀ paths, outcome = .ok paths →
          paths = (settings.chosen files targets).map (pathFor settings directory)) ∧
        (∀ location, after.content? location ≠ tree.content? location →
          ∃ file ∈ settings.chosen files targets,
            Path.resolve tree.home (pathFor settings directory file) = location) ∧
        ((∀ file ∈ settings.chosen files targets,
            Path.Descends (Naming.ofFile file.nameText settings.extension)) →
          (∀ paths, outcome = .ok paths → ∀ path ∈ paths,
            IsBelow (Path.resolve tree.home directory) (Path.resolve tree.home path)) ∧
          ∀ location, after.content? location ≠ tree.content? location →
            IsBelow (Path.resolve tree.home directory) location)) ∧
      ∀ file ∈ settings.chosen files targets,
        (Path.Descends (Naming.ofFile file.nameText settings.extension) ↔
          ∀ home base, IsBelow (Path.resolve home base)
            (Path.resolve home (pathFor settings base file))) ∧
        (Naming.IsPlain settings.extension →
          (Path.Descends (Naming.ofFile file.nameText settings.extension) ↔
            Naming.StaysInside file.nameText)) := by
  refine ⟨?_, fun file _ =>
    ⟨Path.descends_iff _, fun hplain => Naming.descends_ofFile_iff hplain _⟩⟩
  have hends : RunEnds directory tree ((ofSettings settings : Generator Id).generate files targets)
      (((ofSettings settings).generateBelow (m := StateM Tree) files targets directory).run tree) :=
    runEnds_generateBelow settings _ files targets directory tree
  generalize ((ofSettings settings).generateBelow (m := StateM Tree) files targets directory).run
    tree = result at hends ⊢
  obtain ⟨outcome, after⟩ := result
  have hpaths : ∀ paths, outcome = .ok paths →
      paths = (settings.chosen files targets).map (pathFor settings directory) := by
    rintro paths rfl
    obtain ⟨rendered, hgenerate, rfl⟩ := hends.exists_paths_eq
    exact map_pathBelow_of_generate settings files targets directory hgenerate
  have hchanged : ∀ location, after.content? location ≠ tree.content? location →
      ∃ file ∈ settings.chosen files targets,
        Path.resolve tree.home (pathFor settings directory file) = location := by
    intro location hlocation
    obtain ⟨rendered, hgenerate, output, houtput, rfl⟩ := hends.exists_place_eq hlocation
    have hmem : output.pathBelow directory ∈
        (settings.chosen files targets).map (pathFor settings directory) :=
      map_pathBelow_of_generate settings files targets directory hgenerate ▸
        List.mem_map_of_mem houtput
    obtain ⟨file, hfile, hpath⟩ := List.mem_map.mp hmem
    exact ⟨file, hfile, congrArg (Path.resolve tree.home) hpath⟩
  refine ⟨outcome, after, rfl, hpaths, hchanged, ?_⟩
  intro hdescends
  constructor
  · intro paths houtcome path hpath
    rw [hpaths paths houtcome] at hpath
    obtain ⟨file, hfile, rfl⟩ := List.mem_map.mp hpath
    exact (hdescends file hfile).isBelow tree.home directory
  · intro location hlocation
    obtain ⟨file, hfile, rfl⟩ := hchanged location hlocation
    exact (hdescends file hfile).isBelow tree.home directory

end Reach

/-- Output for schema names with a step up, but not one too many. -/
theorem generateBelow_reach_workTree :
    Path.Descends (Naming.ofFile "b/../c/d.proto" "ts") ∧
      ∃ outcome after,
        ((ofSettings { everyFile := true }).generateBelow (m := StateM Tree)
            [{ name := some "b/../c/d.proto" }] [] "out").run workTree = (outcome, after) ∧
          outcome = .ok ["out/b/../c/d.ts"] ∧
          IsBelow ["work", "out"] (Path.resolve workTree.home "out/b/../c/d.ts") ∧
          ∀ location, after.content? location ≠ workTree.content? location →
            IsBelow ["work", "out"] location := by
  have hdescends : Path.Descends (Naming.ofFile "b/../c/d.proto" "ts") := by decide +kernel
  obtain ⟨⟨outcome, after, hrun, -, -, hbelow⟩, -⟩ := generateBelow_reach { everyFile := true }
    [{ name := some "b/../c/d.proto" }] [] "out" workTree
  have houtcome : outcome = .ok ["out/b/../c/d.ts"] :=
    (congrArg Prod.fst hrun).symm.trans (by decide +kernel)
  obtain ⟨hpaths, hchanged⟩ := hbelow
    (by simpa [Settings.chosen, Descriptor.File.nameText, Descriptor.textOf] using hdescends)
  have hplace : Path.resolve workTree.home "out" = ["work", "out"] := by decide +kernel
  rw [hplace] at hpaths hchanged
  exact ⟨hdescends, outcome, after, hrun, houtcome,
    hpaths _ houtcome _ List.mem_cons_self, hchanged⟩

/-- A schema name that begins with two dots gets its output beside the output directory. -/
theorem not_isBelow_generateBelow_workTree :
    ∃ after,
      ((ofSettings {}).generateBelow (m := StateM Tree) [{ name := some "../escape.proto" }]
          ["../escape.proto"] "out").run workTree = (.ok ["out/../escape.ts"], after) ∧
        after.content? ["work", "escape.ts"] ≠ workTree.content? ["work", "escape.ts"] ∧
        ¬ IsBelow (Path.resolve workTree.home "out") ["work", "escape.ts"] ∧
        ¬ IsBelow (Path.resolve workTree.home "out")
          (Path.resolve workTree.home "out/../escape.ts") := by
  generalize hrun : ((ofSettings {}).generateBelow (m := StateM Tree)
    [{ name := some "../escape.proto" }] ["../escape.proto"] "out").run workTree = result
  obtain ⟨outcome, after⟩ := result
  have houtcome : outcome = .ok ["out/../escape.ts"] :=
    (congrArg Prod.fst hrun).symm.trans (by decide +kernel)
  have hcontent : (after.content? ["work", "escape.ts"]).isSome = true :=
    (congrArg (fun result => (result.2.content? ["work", "escape.ts"]).isSome) hrun).symm.trans
      (by decide +kernel)
  refine ⟨after, by rw [houtcome], ?_, by decide +kernel, by decide +kernel⟩
  exact Option.isSome_iff_ne_none.mp hcontent

end Generator

end SchemaInterfaces
