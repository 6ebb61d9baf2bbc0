import SchemaInterfaces.Proofs.Storage.Locations

/-!
# Walks

A request walks its path name by name and is stopped where a directory is missing. The walks that
are not stopped, as a relation with one case for each kind of name: they end where the path leads,
and more directories do not change them.
-/

namespace SchemaInterfaces.Storage

namespace Tree

/-- Where a walk has come to. -/
def Target.location : Target → Location
  | .reached location => location
  | .child location _ => location

/-- The walks that no request for a directory stops. -/
inductive Walks (tree : Tree) : Location → List String → Target → Prop where
  | done {location : Location} : Walks tree location [] (.reached location)
  | idle {location : Location} {name : String} {names : List String} {target : Target} :
      Path.isIdle name = true → Walks tree location names target →
        Walks tree location (name :: names) target
  | up {location : Location} {names : List String} {target : Target} :
      Walks tree location.dropLast names target → Walks tree location (".." :: names) target
  | last {location : Location} {name : String} {names : List String} :
      Path.isIdle name = false → name ≠ ".." → names.all (· == "") = true →
        Walks tree location (name :: names) (.child (location ++ [name]) !names.isEmpty)
  | down {location : Location} {name : String} {names : List String} {target : Target} :
      Path.isIdle name = false → name ≠ ".." → names.all (· == "") = false →
        tree.look (location ++ [name]) = .ok (some .directory) →
          Walks tree (location ++ [name]) names target → Walks tree location (name :: names) target

variable {tree middle after : Tree} {location : Location} {names : List String} {target : Target}

theorem Walks.walk_eq (h : tree.Walks location names target) :
    tree.walk location names = .ok target := by
  induction h with
  | done => rfl
  | idle hidle _ ih => rw [walk, if_pos hidle, ih]
  | up _ ih => rw [walk, if_neg (by decide), if_pos rfl, ih]
  | last hidle hname hlast =>
      rw [walk, hidle, if_neg Bool.false_ne_true, if_neg hname, if_pos hlast]
  | down hidle hname hlast hlook _ ih =>
      rw [walk, hidle, if_neg Bool.false_ne_true, if_neg hname, hlast, if_neg Bool.false_ne_true,
        hlook]
      exact ih

theorem walk_eq_ok_iff :
    tree.walk location names = .ok target ↔ tree.Walks location names target := by
  refine ⟨?_, Walks.walk_eq⟩
  intro h
  induction names generalizing location with
  | nil =>
      cases h
      exact .done
  | cons name names ih =>
      unfold walk at h
      split at h
      next hidle => exact .idle hidle (ih h)
      next hidle =>
        rw [Bool.not_eq_true] at hidle
        split at h
        next hname =>
          subst hname
          exact .up (ih h)
        next hname =>
          split at h
          next hlast =>
            cases h
            exact .last hidle hname hlast
          next hlast =>
            rw [Bool.not_eq_true] at hlast
            split at h
            next => cases h
            next => cases h
            next => cases h
            next hlook => exact .down hidle hname hlast hlook (ih h)

/-- A walk that is not stopped ends where the names lead. -/
theorem Walks.location_eq (h : tree.Walks location names target) :
    target.location = Path.follow location names := by
  induction h with
  | done => rfl
  | idle hidle _ ih => rw [Path.follow_cons, Path.advance_idle hidle, ih]
  | up _ ih => rw [Path.follow_cons, Path.advance_up, ih]
  | last hidle hname hlast =>
      rw [Path.follow_cons, Path.advance_down hidle hname, Path.follow_idle]
      · rfl
      · intro other hother
        rw [beq_iff_eq.mp (List.all_eq_true.mp hlast other hother)]
        rfl
  | down hidle hname _ _ _ ih => rw [Path.follow_cons, Path.advance_down hidle hname, ih]

/-- What is left to be looked at has a name, so it is not the root. -/
theorem Walks.child_ne_nil {place : Location} {asDirectory : Bool}
    (h : tree.Walks location names (.child place asDirectory)) : place ≠ [] := by
  generalize htarget : Target.child place asDirectory = target at h
  induction h with
  | done => cases htarget
  | idle _ _ ih => exact ih htarget
  | up _ ih => exact ih htarget
  | last =>
      cases htarget
      exact List.append_ne_nil_of_right_ne_nil _ (List.cons_ne_nil _ _)
  | down _ _ _ _ _ ih => exact ih htarget

theorem look_eq_ok_iff {entry : Option Entry} :
    tree.look location = .ok entry ↔
      (location.getLast?.any (nameLimit < ·.utf8ByteSize)) = false ∧
        tree.find? location = entry := by
  unfold look
  split
  next hlong => simp [hlong]
  next hshort => simp [hshort]

/-- A tree in which at least the same directories are. -/
structure KeepsDirectories (tree after : Tree) : Prop where
  home_eq : after.home = tree.home
  kept : ∀ place, tree.find? place = some .directory → after.find? place = some .directory

theorem KeepsDirectories.refl (tree : Tree) : KeepsDirectories tree tree where
  home_eq := rfl
  kept _ h := h

theorem KeepsDirectories.trans (h : KeepsDirectories tree middle)
    (hafter : KeepsDirectories middle after) : KeepsDirectories tree after where
  home_eq := hafter.home_eq.trans h.home_eq
  kept place hplace := hafter.kept place (h.kept place hplace)

/-- A walk only needs directories, so it goes the same way where there are more of them. -/
theorem Walks.of_keepsDirectories (hkeeps : KeepsDirectories tree after)
    (h : tree.Walks location names target) : after.Walks location names target := by
  induction h with
  | done => exact .done
  | idle hidle _ ih => exact .idle hidle ih
  | up _ ih => exact .up ih
  | last hidle hname hlast => exact .last hidle hname hlast
  | down hidle hname hlast hlook _ ih =>
      obtain ⟨hshort, hfind⟩ := look_eq_ok_iff.mp hlook
      exact .down hidle hname hlast (look_eq_ok_iff.mpr ⟨hshort, hkeeps.kept _ hfind⟩) ih

theorem walks_of_target {path : String} (h : tree.target path = .ok target) :
    tree.Walks (if Path.isAbsolute path then [] else tree.home) (Text.partsAt '/' path) target := by
  unfold Tree.target at h
  split at h
  · cases h
  · split at h
    · cases h
    · split at h
      · cases h
      · exact walk_eq_ok_iff.mp h

/-- Without links, a path that can be walked leads where its names do. -/
theorem location_of_target {path : String} (h : tree.target path = .ok target) :
    target.location = Path.resolve tree.home path :=
  (walks_of_target h).location_eq

theorem target_of_keepsDirectories {path : String} (hkeeps : KeepsDirectories tree after)
    (h : tree.target path = .ok target) : after.target path = .ok target := by
  have hwalks := (walks_of_target h).of_keepsDirectories hkeeps
  -- what stops a path before the walk begins is a matter of its text alone
  unfold Tree.target at h ⊢
  split at h
  · cases h
  next hnul =>
    split at h
    · cases h
    next hempty =>
      split at h
      · cases h
      next hlong => rw [if_neg hnul, if_neg hempty, if_neg hlong, hkeeps.home_eq, hwalks.walk_eq]

end Tree

end SchemaInterfaces.Storage
