import SchemaInterfaces.Proofs.Generator
import SchemaInterfaces.Proofs.Storage.Changes

/-!
# Writing output

Output is written file by file, each after the directories around it. A run of writing stops at the
first file that cannot be written, and what it leaves of the files of a tree is what writing the
files before that one, in their order, makes of them.
-/

namespace SchemaInterfaces

open Storage Storage.Tree

namespace Rendered

/-- The path that a file of output is written to. -/
def pathBelow (directory : String) (file : Rendered) : String :=
  Path.join directory file.name

def place (home : Location) (directory : String) (file : Rendered) : Location :=
  Path.resolve home (file.pathBelow directory)

/-- The contents of files after output is written over them, one file after the other. -/
def overwrite (home : Location) (directory : String) (contents : Location → Option (List UInt8))
    (files : List Rendered) : Location → Option (List UInt8) :=
  files.foldl
    (fun contents file =>
      Function.update contents (file.place home directory) (some (Text.toBytes file.content)))
    contents

section Overwrite

variable {home location : Location} {directory : String}
  {contents : Location → Option (List UInt8)} {files front back : List Rendered} {file : Rendered}

/-- Where no output goes, nothing changes. -/
theorem overwrite_of_forall_ne (h : ∀ file ∈ files, file.place home directory ≠ location) :
    overwrite home directory contents files location = contents location := by
  induction files generalizing contents with
  | nil => rfl
  | cons file files ih =>
      rw [overwrite, List.foldl_cons]
      refine (ih fun other hother => h other (List.mem_cons_of_mem _ hother)).trans ?_
      rw [Function.update_of_ne (h file List.mem_cons_self).symm]

/-- What is written last stays. -/
theorem overwrite_last
    (h : ∀ later ∈ back, later.place home directory ≠ file.place home directory) :
    overwrite home directory contents (front ++ file :: back) (file.place home directory) =
      some (Text.toBytes file.content) := by
  rw [overwrite, List.foldl_append, List.foldl_cons]
  refine (overwrite_of_forall_ne h).trans ?_
  rw [Function.update_self]

end Overwrite

/-- The ways in which writing a file of output ends. -/
inductive Ends (directory : String) (file : Rendered) (tree : Tree) :
    Except Failure String × Tree → Prop where
  | unprepared {parent : String} {error : Storage.Error} {locations : List Location}
      {made : Tree} : AddsDirectories locations tree made →
        Ends directory file tree (.error (.directory parent error), made)
  | refused {error : Storage.Error} {locations : List Location} {made : Tree} :
      AddsDirectories locations tree made →
        made.write (file.pathBelow directory) (Text.toBytes file.content) = .error error →
          Ends directory file tree (.error (.outputFile file.name error), made)
  | written {locations : List Location} {made after : Tree} :
      AddsDirectories locations tree made →
        made.write (file.pathBelow directory) (Text.toBytes file.content) = .ok after →
          Ends directory file tree (.ok (file.pathBelow directory), after)

/-- The directories around the file are created before it is written. -/
theorem ends_writeBelow (directory : String) (file : Rendered) (tree : Tree) :
    Ends directory file tree ((file.writeBelow (m := StateM Tree) directory).run tree) := by
  have hwrite {locations : List Location} {made : Tree}
      (hadds : AddsDirectories locations tree made)
      (next : Except Storage.Error Unit → StateM Tree (Except Failure String))
      (hrefused : ∀ error, next (.error error) = pure (.error (.outputFile file.name error)))
      (hwritten : next (.ok ()) = pure (.ok (file.pathBelow directory))) :
      Ends directory file tree
        ((Access.write (file.pathBelow directory) (Text.toBytes file.content) >>= next).run
          made) := by
    rw [run_bind, run_write]
    cases hresult : made.write (file.pathBelow directory) (Text.toBytes file.content) with
    | error error =>
        simp only [hrefused]
        exact .refused hadds hresult
    | ok after =>
        simp only [hwritten]
        exact .written hadds hresult
  unfold writeBelow
  cases hparent : Path.parent? (Path.join directory file.name) with
  | none =>
      simp only [hparent, pure_bind]
      exact hwrite (.refl [] tree) _ (fun _ => rfl) rfl
  | some parent =>
      have hadds := tree.addsDirectories_createDirectories parent
      simp only [hparent, run_bind, run_createDirectories]
      cases hmade : tree.createDirectories parent with
      | mk result made =>
          rw [hmade] at hadds
          cases result with
          | error error => exact .unprepared hadds
          | ok _ => exact hwrite hadds _ (fun _ => rfl) rfl

/-- Where a file cannot be written, directories may be new but no file has changed. -/
theorem failure_of_writeBelow {directory : String} {file : Rendered} {tree after : Tree}
    {failure : Failure}
    (h : (file.writeBelow (m := StateM Tree) directory).run tree = (.error failure, after)) :
    ((∃ parent error, failure = .directory parent error) ∨
      ∃ error, failure = .outputFile file.name error) ∧ after.content? = tree.content? := by
  have hends := ends_writeBelow directory file tree
  rw [h] at hends
  cases hends with
  | unprepared hadds => exact ⟨Or.inl ⟨_, _, rfl⟩, hadds.content?_eq⟩
  | refused hadds _ => exact ⟨Or.inr ⟨_, rfl⟩, hadds.content?_eq⟩

/-- A tree in which files of output have been written. -/
structure Wrote (directory : String) (files : List Rendered) (tree after : Tree) : Prop where
  keepsDirectories : KeepsDirectories tree after
  content?_eq : after.content? = overwrite tree.home directory tree.content? files
  opens : ∀ file ∈ files, after.Opens (file.pathBelow directory)

variable {directory : String} {tree middle made after : Tree} {file : Rendered}
  {files front back : List Rendered} {locations : List Location}

theorem Wrote.nil (directory : String) (tree : Tree) : Wrote directory [] tree tree where
  keepsDirectories := .refl tree
  content?_eq := rfl
  opens _ h := absurd h List.not_mem_nil

theorem Wrote.of_addsDirectories (hadds : AddsDirectories locations tree made)
    (h : Wrote directory files made after) : Wrote directory files tree after where
  keepsDirectories := hadds.keepsDirectories.trans h.keepsDirectories
  content?_eq := by rw [h.content?_eq, hadds.content?_eq, hadds.home_eq]
  opens := h.opens

theorem Wrote.cons
    (hwrite : tree.write (file.pathBelow directory) (Text.toBytes file.content) = .ok middle)
    (h : Wrote directory files middle after) : Wrote directory (file :: files) tree after where
  keepsDirectories := (keepsDirectories_of_write hwrite).trans h.keepsDirectories
  content?_eq := by
    rw [h.content?_eq, content?_of_write hwrite, (keepsDirectories_of_write hwrite).home_eq]
    rfl
  opens other hother := by
    rcases List.mem_cons.mp hother with rfl | hother
    · exact (write_eq_ok hwrite).1.of_keepsDirectories
        ((keepsDirectories_of_write hwrite).trans h.keepsDirectories)
    · exact h.opens other hother

/-- Reading the path of a file gives its content, unless a later file has gone to the same place. -/
theorem Wrote.read_eq (h : Wrote directory (front ++ file :: back) tree after)
    (hlast : ∀ later ∈ back, later.place tree.home directory ≠ file.place tree.home directory) :
    after.read (file.pathBelow directory) = .ok (Text.toBytes file.content) := by
  refine (h.opens file (List.mem_append_cons_self)).read_eq ?_
  rw [h.keepsDirectories.home_eq, h.content?_eq]
  exact overwrite_last hlast

/-- Where no two files go to one place, all of them are there to be read. -/
theorem Wrote.forall_read_eq (h : Wrote directory files tree after)
    (hdistinct : (files.map (place tree.home directory)).Nodup) :
    ∀ file ∈ files, after.read (file.pathBelow directory) = .ok (Text.toBytes file.content) := by
  intro file hfile
  obtain ⟨front, back, rfl⟩ := List.append_of_mem hfile
  refine h.read_eq ?_
  intro later hlater hplace
  rw [List.map_append, List.map_cons] at hdistinct
  have hback := (List.nodup_cons.mp (List.nodup_append.mp hdistinct).2.1).1
  exact hback (hplace ▸ List.mem_map_of_mem hlater)

/-- The ways in which writing files of output ends: with all of them, or with the first that cannot
be written. -/
inductive EndsAll (directory : String) (files : List Rendered) (tree : Tree) :
    Except Failure (List String) × Tree → Prop where
  | written {after : Tree} : Wrote directory files tree after →
      EndsAll directory files tree (.ok (files.map (pathBelow directory)), after)
  | stopped {front back : List Rendered} {file : Rendered} {failure : Failure}
      {middle after : Tree} : files = front ++ file :: back →
        (writeAllBelow (m := StateM Tree) directory front).run tree =
            (.ok (front.map (pathBelow directory)), middle) →
          Wrote directory front tree middle →
            (file.writeBelow (m := StateM Tree) directory).run middle = (.error failure, after) →
              EndsAll directory files tree (.error failure, after)

theorem run_writeAllBelow_cons (directory : String) (file : Rendered) (files : List Rendered)
    (tree : Tree) :
    (writeAllBelow (m := StateM Tree) directory (file :: files)).run tree =
      match (file.writeBelow (m := StateM Tree) directory).run tree with
      | (.error failure, after) => (.error failure, after)
      | (.ok path, after) =>
        (((writeAllBelow (m := StateM Tree) directory files).run after).1.map (path :: ·),
          ((writeAllBelow (m := StateM Tree) directory files).run after).2) := by
  rw [writeAllBelow, run_bind]
  cases (file.writeBelow (m := StateM Tree) directory).run tree with
  | mk result after => cases result <;> rfl

theorem endsAll_writeAllBelow (directory : String) (files : List Rendered) (tree : Tree) :
    EndsAll directory files tree
      ((writeAllBelow (m := StateM Tree) directory files).run tree) := by
  induction files generalizing tree with
  | nil => exact .written (.nil directory tree)
  | cons file files ih =>
      have hends := ends_writeBelow directory file tree
      have hcons (others : List Rendered) := run_writeAllBelow_cons directory file others tree
      generalize hrun : (file.writeBelow (m := StateM Tree) directory).run tree = result
        at hends hcons
      rw [hcons]
      cases hends with
      | unprepared => exact .stopped rfl rfl (.nil directory tree) hrun
      | refused => exact .stopped rfl rfl (.nil directory tree) hrun
      | @written _ made next hadds hwrite =>
          have hrest := ih next
          generalize hothers : (writeAllBelow (m := StateM Tree) directory files).run next = rest
            at hrest
          simp only [hothers]
          -- the first file joins what is written of the others, or the front of where they stop
          cases hrest with
          | written hwrote => exact .written (.of_addsDirectories hadds (.cons hwrite hwrote))
          | stopped hfiles hfront hwrote hfile =>
              refine .stopped (by rw [hfiles]; rfl) ?_
                (.of_addsDirectories hadds (.cons hwrite hwrote)) hfile
              rw [hcons]
              simp only [hfront]
              rfl

end Rendered

end SchemaInterfaces
