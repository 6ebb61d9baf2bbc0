import Mathlib.Logic.Function.Basic
import SchemaInterfaces.Proofs.Outcome
import SchemaInterfaces.Proofs.Storage.Walks

/-!
# Changes to a tree

What a request leaves behind, whether it succeeds or fails on the way. Directories are never taken
away; creating directories touches no file, and writing touches the file at the end of its path and
nothing else.
-/

namespace SchemaInterfaces.Storage.Tree

variable {tree middle after : Tree} {path : String} {content : List UInt8}

/-- The content of the file at a location, if there is one. -/
def content? (tree : Tree) (location : Location) : Option (List UInt8) :=
  match tree.find? location with
  | some (.file content) => some content
  | some .directory | none => none

/-- A tree with new directories, all of them at the given locations, and otherwise as it was. -/
structure AddsDirectories (locations : List Location) (tree after : Tree) : Prop where
  home_eq : after.home = tree.home
  same_or_new : ∀ place, after.find? place = tree.find? place ∨
    place ∈ locations ∧ tree.find? place = none ∧ after.find? place = some .directory

namespace AddsDirectories

variable {locations more : List Location}

theorem refl (locations : List Location) (tree : Tree) : AddsDirectories locations tree tree where
  home_eq := rfl
  same_or_new _ := Or.inl rfl

theorem mono (hsubset : locations ⊆ more) (h : AddsDirectories locations tree after) :
    AddsDirectories more tree after where
  home_eq := h.home_eq
  same_or_new place := (h.same_or_new place).imp_right (And.imp_left fun hmem => hsubset hmem)

theorem keepsDirectories (h : AddsDirectories locations tree after) :
    KeepsDirectories tree after where
  home_eq := h.home_eq
  kept place hplace := by
    rcases h.same_or_new place with hsame | ⟨-, hnone, -⟩
    · rw [hsame, hplace]
    · rw [hnone] at hplace
      cases hplace

theorem trans (h : AddsDirectories locations tree middle)
    (hafter : AddsDirectories locations middle after) : AddsDirectories locations tree after where
  home_eq := hafter.home_eq.trans h.home_eq
  same_or_new place := by
    rcases hafter.same_or_new place with hsame | ⟨hmem, hnone, hnew⟩
    · rw [hsame]
      exact h.same_or_new place
    · rcases h.same_or_new place with hsame | ⟨-, -, hdirectory⟩
      · exact Or.inr ⟨hmem, hsame ▸ hnone, hnew⟩
      · rw [hdirectory] at hnone
        cases hnone

/-- New directories stand where nothing was, so the files are what they were. -/
theorem content?_eq (h : AddsDirectories locations tree after) :
    after.content? = tree.content? := by
  funext place
  unfold content?
  rcases h.same_or_new place with hsame | ⟨-, hnone, hnew⟩
  · rw [hsame]
  · rw [hnone, hnew]

end AddsDirectories

/-! ## Creating directories -/

theorem createDirectory_eq_ok (h : tree.createDirectory path = .ok after) :
    Path.resolve tree.home path ≠ [] ∧ tree.find? (Path.resolve tree.home path) = none ∧
      after = tree.put (Path.resolve tree.home path) .directory := by
  obtain ⟨target, htarget, h⟩ := Outcome.bind_eq_ok.mp h
  rw [← location_of_target htarget]
  cases target with
  | reached location => cases h
  | child location asDirectory =>
      obtain ⟨entry, hlook, h⟩ := Outcome.bind_eq_ok.mp h
      cases entry with
      | some entry => cases h
      | none =>
          cases h
          exact ⟨(walks_of_target htarget).child_ne_nil, (look_eq_ok_iff.mp hlook).2, rfl⟩

theorem addsDirectories_of_createDirectory (h : tree.createDirectory path = .ok after) :
    AddsDirectories [Path.resolve tree.home path] tree after := by
  obtain ⟨hne, hnone, rfl⟩ := createDirectory_eq_ok h
  refine ⟨home_put _ _ _, ?_⟩
  intro place
  by_cases hplace : place = Path.resolve tree.home path
  · subst hplace
    exact Or.inr ⟨List.mem_singleton_self _, hnone, find?_put_self tree hne _⟩
  · exact Or.inl (find?_put_of_ne tree hplace _)

/-- Whatever comes of it, nothing is new but directories on the given paths. -/
theorem addsDirectories_createLineage (tree : Tree) (paths : List String) :
    AddsDirectories (paths.map (Path.resolve tree.home)) tree (tree.createLineage paths).2 := by
  have hcreate {tree after : Tree} {path : String} (paths : List String)
      (h : tree.createDirectory path = .ok after) :
      AddsDirectories ((path :: paths).map (Path.resolve tree.home)) tree after :=
    (addsDirectories_of_createDirectory h).mono (by simp)
  induction paths generalizing tree with
  | nil => exact .refl _ _
  | cons path around ih =>
      unfold createLineage
      split
      · exact .refl _ _
      · split
        next hfirst => exact hcreate around hfirst
        next =>
          have haround := (ih tree).mono (List.subset_cons_self (Path.resolve tree.home path) _)
          cases hlineage : tree.createLineage around with
          | mk result made =>
              rw [hlineage] at haround
              cases result with
              | error error => exact haround
              | ok _ =>
                  -- the second attempt starts from the tree with the directories around the path
                  simp only
                  split
                  next hlast =>
                    have hadds := hcreate around hlast
                    rw [haround.home_eq] at hadds
                    exact haround.trans hadds
                  next => exact haround
        next => exact .refl _ _

/-- The locations of a path and of the directories around it. -/
def lineage (home : Location) (path : String) : List Location :=
  (path :: Path.parents path).map (Path.resolve home)

theorem addsDirectories_createDirectories (tree : Tree) (path : String) :
    AddsDirectories (lineage tree.home path) tree (tree.createDirectories path).2 :=
  addsDirectories_createLineage tree _

/-! ## Writing -/

/-- A path at whose end a file can be, if no directory is there. -/
structure Opens (tree : Tree) (path : String) : Prop where
  target_eq : tree.target path = .ok (.child (Path.resolve tree.home path) false)
  look_eq : tree.look (Path.resolve tree.home path) =
    .ok (tree.find? (Path.resolve tree.home path))

theorem Opens.location_ne_nil (h : tree.Opens path) : Path.resolve tree.home path ≠ [] :=
  (walks_of_target h.target_eq).child_ne_nil

/-- What can be opened once can be opened as long as no directory is missing. -/
theorem Opens.of_keepsDirectories (hkeeps : KeepsDirectories tree after) (h : tree.Opens path) :
    after.Opens path where
  target_eq := by
    rw [hkeeps.home_eq]
    exact target_of_keepsDirectories hkeeps h.target_eq
  look_eq := by
    rw [hkeeps.home_eq]
    exact look_eq_ok_iff.mpr ⟨(look_eq_ok_iff.mp h.look_eq).1, rfl⟩

theorem Opens.read_eq (h : tree.Opens path)
    (hcontent : tree.content? (Path.resolve tree.home path) = some content) :
    tree.read path = .ok content := by
  have hfind : tree.find? (Path.resolve tree.home path) = some (.file content) := by
    unfold content? at hcontent
    split at hcontent
    next hfile => rw [hfile, Option.some.inj hcontent]
    next => cases hcontent
    next => cases hcontent
  rw [read, h.target_eq]
  simp only [bind, Except.bind, h.look_eq, hfind]
  rfl

theorem write_eq_ok (h : tree.write path content = .ok after) :
    tree.Opens path ∧ tree.find? (Path.resolve tree.home path) ≠ some .directory ∧
      after = tree.put (Path.resolve tree.home path) (.file content) := by
  obtain ⟨target, htarget, h⟩ := Outcome.bind_eq_ok.mp h
  have hlocation := location_of_target htarget
  cases target with
  | reached location => cases h
  | child location asDirectory =>
      cases asDirectory with
      | true => cases h
      | false =>
          change location = _ at hlocation
          subst hlocation
          obtain ⟨entry, hlook, h⟩ := Outcome.bind_eq_ok.mp h
          have hfind := (look_eq_ok_iff.mp hlook).2
          refine ⟨⟨htarget, hfind ▸ hlook⟩, ?_⟩
          rw [hfind]
          rcases entry with _ | (_ | old)
          · cases h
            exact ⟨Option.some_ne_none _ ∘ Eq.symm, rfl⟩
          · cases h
          · cases h
            exact ⟨by simp, rfl⟩

theorem keepsDirectories_of_write (h : tree.write path content = .ok after) :
    KeepsDirectories tree after := by
  obtain ⟨-, hnot, rfl⟩ := write_eq_ok h
  refine ⟨home_put _ _ _, ?_⟩
  intro place hplace
  have hne : place ≠ Path.resolve tree.home path := by
    rintro rfl
    exact hnot hplace
  rw [find?_put_of_ne tree hne, hplace]

theorem content?_of_write (h : tree.write path content = .ok after) :
    after.content? =
      Function.update tree.content? (Path.resolve tree.home path) (some content) := by
  obtain ⟨hopens, -, rfl⟩ := write_eq_ok h
  funext place
  by_cases hplace : place = Path.resolve tree.home path
  · subst hplace
    rw [Function.update_self, content?, find?_put_self tree hopens.location_ne_nil]
  · rw [Function.update_of_ne hplace, content?, find?_put_of_ne tree hplace, content?]

/-! ## Runs of requests -/

section Runs

variable {α β : Type} (tree : Tree) (path : String) (content : List UInt8)

theorem run_bind (x : StateM Tree α) (f : α → StateM Tree β) :
    (x >>= f).run tree = (f (x.run tree).1).run (x.run tree).2 := rfl

theorem run_read :
    (Access.read path : StateM Tree _).run tree = (tree.read path, tree) := rfl

theorem run_createDirectories :
    (Access.createDirectories path : StateM Tree _).run tree = tree.createDirectories path := rfl

theorem run_write :
    (Access.write path content : StateM Tree _).run tree =
      match tree.write path content with
      | .ok tree => (.ok (), tree)
      | .error error => (.error error, tree) := rfl

theorem snd_run_readText :
    ((readText path : StateM Tree _).run tree).2 = tree := by
  rw [readText, run_bind, run_read]
  cases tree.read path with
  | error error => rfl
  | ok bytes =>
      simp only
      split <;> rfl

end Runs

end SchemaInterfaces.Storage.Tree
