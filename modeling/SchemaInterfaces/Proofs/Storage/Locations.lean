import Mathlib.Data.List.Infix
import Mathlib.Data.Set.Finite.Basic
import SchemaInterfaces.Proofs.Text.Joining
import SchemaInterfaces.Storage.Tree

/-!
# Where paths lead

Where a path leads if its names are followed without looking anything up: a step up undoes the last
step down. A path joined of a directory and a relative name follows the name from the directory, so
the name alone decides whether the path stays inside.
-/

namespace SchemaInterfaces.Storage

/-- A place inside a directory, at any depth. -/
def IsBelow (directory place : Location) : Prop :=
  directory <+: place ∧ directory.length < place.length

instance (directory place : Location) : Decidable (IsBelow directory place) :=
  inferInstanceAs (Decidable (_ ∧ _))

namespace Path

def advance (location : Location) (name : String) : Location :=
  if isIdle name then location
  else if name = ".." then location.dropLast
  else location ++ [name]

/-- Where names lead from a location. -/
def follow (location : Location) (names : List String) : Location :=
  names.foldl advance location

/-- Where a path leads, for relative paths from `home`. -/
def resolve (home : Location) (path : String) : Location :=
  follow (if isAbsolute path then [] else home) (Text.partsAt '/' path)

theorem resolve_of_isAbsolute {path : String} (habsolute : isAbsolute path = true)
    (home : Location) : resolve home path = follow [] (Text.partsAt '/' path) := by
  rw [resolve, if_pos habsolute]

theorem resolve_of_not_isAbsolute {path : String} (hrelative : ¬ isAbsolute path = true)
    (home : Location) : resolve home path = follow home (Text.partsAt '/' path) := by
  rw [resolve, if_neg hrelative]

theorem advance_idle {name : String} (hidle : isIdle name = true) (location : Location) :
    advance location name = location :=
  if_pos hidle

theorem advance_up (location : Location) : advance location ".." = location.dropLast := rfl

theorem advance_down {name : String} (hidle : isIdle name = false) (hname : name ≠ "..")
    (location : Location) : advance location name = location ++ [name] := by
  rw [advance, hidle, if_neg Bool.false_ne_true, if_neg hname]

theorem follow_cons (location : Location) (name : String) (names : List String) :
    follow location (name :: names) = follow (advance location name) names := rfl

theorem follow_append (location : Location) (names others : List String) :
    follow location (names ++ others) = follow (follow location names) others :=
  List.foldl_append

theorem follow_idle {names : List String} (hidle : ∀ name ∈ names, isIdle name = true)
    (location : Location) : follow location names = location := by
  induction names with
  | nil => rfl
  | cons name names ih =>
      rw [follow_cons, advance_idle (hidle name List.mem_cons_self)]
      exact ih fun other hother => hidle other (List.mem_cons_of_mem _ hother)

theorem mem_follow {location : Location} {names : List String} {name : String}
    (h : name ∈ follow location names) : name ∈ location ∨ name ∈ names := by
  induction names generalizing location with
  | nil => exact Or.inl h
  | cons first names ih =>
      rcases ih h with hmem | hmem
      · unfold advance at hmem
        split at hmem
        · exact Or.inl hmem
        · split at hmem
          · exact Or.inl (List.mem_of_mem_dropLast hmem)
          · rcases List.mem_append.mp hmem with hmem | hmem
            · exact Or.inl hmem
            · rw [List.mem_singleton.mp hmem]
              exact Or.inr List.mem_cons_self
      · exact Or.inr (List.mem_cons_of_mem _ hmem)

/-! ## Joined paths -/

theorem isAbsolute_append {base : String} (hbase : base ≠ "") (rest : String) :
    isAbsolute (base ++ rest) = isAbsolute base := by
  obtain ⟨c, tail, hlist⟩ : ∃ c tail, base.toList = c :: tail :=
    List.exists_cons_of_ne_nil (mt String.toList_eq_nil_iff.mp hbase)
  rw [isAbsolute, isAbsolute, String.toList_append, hlist]
  rfl

theorem isAbsolute_append_of_notMem {rest : String} (hrest : '/' ∉ rest.toList) (base : String) :
    isAbsolute (base ++ rest) = isAbsolute base := by
  by_cases hbase : base = ""
  · subst hbase
    rw [String.empty_append]
    cases hlist : rest.toList with
    | nil => simp [isAbsolute, hlist]
    | cons c tail =>
        have hc : c ≠ '/' := by
          rintro rfl
          exact hrest (hlist ▸ List.mem_cons_self)
        simp [isAbsolute, hlist, hc]
  · exact isAbsolute_append hbase rest

theorem resolve_append_slash (home : Location) {base : String} (hbase : base ≠ "")
    (name : String) :
    resolve home (base ++ "/" ++ name) = follow (resolve home base) (Text.partsAt '/' name) := by
  have hparts : Text.partsAt '/' (base ++ "/" ++ name) = _ := Text.partsAt_append rfl base name
  rw [resolve, hparts, String.append_assoc, isAbsolute_append hbase, follow_append, resolve]

/-- A slash at the end leads nowhere else, and divides as well as one put behind it. -/
theorem resolve_append_of_slash (home : Location) {base : String}
    (hslash : base.toList.getLast? = some '/') (name : String) :
    resolve home (base ++ name) = follow (resolve home base) (Text.partsAt '/' name) := by
  obtain ⟨front, hfront⟩ := List.getLast?_eq_some_iff.mp hslash
  have hbase : base = String.ofList front ++ "/" := String.toList_injective (by simp [hfront])
  have hne : base ≠ "" := by
    rintro rfl
    cases hslash
  have hparts : Text.partsAt '/' (base ++ name) = _ :=
    hbase ▸ Text.partsAt_append rfl (String.ofList front) name
  have hown : Text.partsAt '/' base = Text.partsAt '/' (String.ofList front) ++ [""] := by
    rw [hbase, ← String.append_empty (s := _ ++ "/"), Text.partsAt_append rfl]
    rfl
  rw [resolve, resolve, hparts, hown, isAbsolute_append hne, follow_append, follow_append]
  rfl

/-- An absolute name replaces the path in front of it, and any other is followed from there. -/
theorem resolve_join (home : Location) (base name : String) :
    resolve home (join base name) =
      if isAbsolute name then resolve home name
      else follow (resolve home base) (Text.partsAt '/' name) := by
  unfold join
  by_cases habsolute : isAbsolute name = true
  · simp [habsolute]
  · by_cases hempty : base = ""
    · subst hempty
      have hstart : resolve home "" = home := rfl
      simp [habsolute, resolve_of_not_isAbsolute habsolute, hstart]
    · simp only [habsolute, hempty, String.isEmpty_iff, Bool.false_or, Bool.false_eq_true,
        if_false]
      split
      next hslash => exact resolve_append_of_slash home (by simpa using hslash) name
      next => exact resolve_append_slash home hempty name

/-! ## Names without steps up -/

/-- The names in a path that lead anywhere. -/
def components (path : String) : List String :=
  (Text.partsAt '/' path).filter fun name => !isIdle name

/-- A relative path without steps up. -/
def IsNormal (path : String) : Prop :=
  isAbsolute path = false ∧ ".." ∉ Text.partsAt '/' path

instance (path : String) : Decidable (IsNormal path) :=
  inferInstanceAs (Decidable (_ ∧ _))

theorem follow_of_notMem_up {names : List String} (hup : ".." ∉ names) (location : Location) :
    follow location names = location ++ names.filter fun name => !isIdle name := by
  induction names generalizing location with
  | nil => rw [List.filter_nil, List.append_nil, follow, List.foldl_nil]
  | cons name names ih =>
      obtain ⟨hname, hnames⟩ := not_or.mp (mt List.mem_cons.mpr hup)
      rw [follow_cons, ih hnames]
      cases hidle : isIdle name with
      | true => rw [advance_idle hidle, List.filter_cons_of_neg (by simp [hidle])]
      | false =>
          rw [advance_down hidle (Ne.symm hname), List.filter_cons_of_pos (by simp [hidle]),
            List.append_assoc, List.singleton_append]

/-- A path without steps up leads along its components. -/
theorem IsNormal.resolve_join {name : String} (h : IsNormal name) (home : Location)
    (base : String) : resolve home (join base name) = resolve home base ++ components name := by
  rw [Path.resolve_join, h.1, if_neg Bool.false_ne_true, follow_of_notMem_up h.2, components]

/-! ## Names that stay inside -/

def stepsUp (names : List String) : Nat :=
  names.count ".."

def stepsDown (names : List String) : Nat :=
  names.countP fun name => !isIdle name && name != ".."

/-- A relative path that never goes up further than it has come down, and ends further down than it
began. -/
def Descends (name : String) : Prop :=
  isAbsolute name = false ∧
    (∀ front ∈ (Text.partsAt '/' name).inits, stepsUp front ≤ stepsDown front) ∧
    stepsUp (Text.partsAt '/' name) < stepsDown (Text.partsAt '/' name)

instance (name : String) : Decidable (Descends name) :=
  inferInstanceAs (Decidable (_ ∧ _ ∧ _))

theorem steps_cons_idle {name : String} (hidle : isIdle name = true) (names : List String) :
    stepsUp (name :: names) = stepsUp names ∧ stepsDown (name :: names) = stepsDown names := by
  have hname : name ≠ ".." := by
    rintro rfl
    cases hidle
  exact ⟨List.count_cons_of_ne hname, List.countP_cons_of_neg (by simp [hidle])⟩

theorem steps_cons_up (names : List String) :
    stepsUp (".." :: names) = stepsUp names + 1 ∧ stepsDown (".." :: names) = stepsDown names :=
  ⟨List.count_cons_self, List.countP_cons_of_neg (by decide)⟩

theorem steps_cons_down {name : String} (hidle : isIdle name = false) (hname : name ≠ "..")
    (names : List String) :
    stepsUp (name :: names) = stepsUp names ∧ stepsDown (name :: names) = stepsDown names + 1 :=
  ⟨List.count_cons_of_ne hname, List.countP_cons_of_pos (by simp [hidle, hname])⟩

theorem steps_concat_down {name : String} (hidle : isIdle name = false) (hname : name ≠ "..")
    (names : List String) :
    stepsUp (names ++ [name]) = stepsUp names ∧
      stepsDown (names ++ [name]) = stepsDown names + 1 := by
  obtain ⟨hup, hdown⟩ := steps_cons_down hidle hname []
  rw [stepsUp, stepsDown, List.count_append, List.countP_append]
  exact ⟨congrArg (_ + ·) hup, congrArg (_ + ·) hdown⟩

/-- Names that go up no further than to the end of `outside` leave it as it is. -/
theorem follow_append_of_le {inside : Location} {names : List String}
    (h : ∀ front, front <+: names → stepsUp front ≤ inside.length + stepsDown front)
    (outside : Location) :
    follow (outside ++ inside) names = outside ++ follow inside names ∧
      (follow inside names).length + stepsUp names = inside.length + stepsDown names := by
  induction names generalizing inside with
  | nil => exact ⟨rfl, rfl⟩
  | cons name names ih =>
      have hnext : ∀ front, front <+: names →
          stepsUp (name :: front) ≤ inside.length + stepsDown (name :: front) :=
        fun front hfront => h _ (List.cons_prefix_cons.mpr ⟨rfl, hfront⟩)
      rw [follow_cons, follow_cons]
      cases hidle : isIdle name with
      | true =>
          simp only [steps_cons_idle hidle] at hnext ⊢
          rw [advance_idle hidle, advance_idle hidle]
          exact ih hnext
      | false =>
          by_cases hname : name = ".."
          · subst hname
            -- the bound for this one name says that there is a name inside to go up from
            simp only [steps_cons_up] at hnext ⊢
            have hne : inside ≠ [] := by
              rintro rfl
              exact absurd (hnext [] List.nil_prefix) (by decide)
            have hlength := List.length_pos_of_ne_nil hne
            have hinside : inside.dropLast.length + 1 = inside.length := by
              rw [List.length_dropLast]
              omega
            have hle : ∀ front, front <+: names →
                stepsUp front ≤ inside.dropLast.length + stepsDown front := by
              intro front hfront
              have hfirst := hnext front hfront
              omega
            obtain ⟨hfollow, hcount⟩ := ih hle
            rw [advance_up, advance_up, List.dropLast_append_of_ne_nil hne]
            exact ⟨hfollow, by omega⟩
          · simp only [steps_cons_down hidle hname] at hnext ⊢
            have hle : ∀ front, front <+: names →
                stepsUp front ≤ (inside ++ [name]).length + stepsDown front := by
              intro front hfront
              have hfirst := hnext front hfront
              rw [List.length_append, List.length_singleton]
              omega
            obtain ⟨hfollow, hcount⟩ := ih hle
            rw [List.length_append, List.length_singleton] at hcount
            rw [advance_down hidle hname, advance_down hidle hname, List.append_assoc]
            exact ⟨hfollow, by omega⟩

/-- Names that go up further than that lose the name before `inside`, and only a name among them
can bring it back. -/
theorem notMem_follow_of_lt {fresh : String} {inside : Location} {names front : List String}
    (hfront : front <+: names) (h : inside.length + stepsDown front < stepsUp front)
    (hfresh : fresh ∉ names) : fresh ∉ follow (fresh :: inside) names := by
  induction names generalizing inside front with
  | nil =>
      rw [List.prefix_nil.mp hfront] at h
      exact absurd h (Nat.not_lt_zero _)
  | cons name names ih =>
      have hrest : fresh ∉ names := fun hmem => hfresh (List.mem_cons_of_mem _ hmem)
      obtain ⟨tail, rfl, htail⟩ : ∃ tail, front = name :: tail ∧ tail <+: names := by
        rcases List.prefix_cons_iff.mp hfront with rfl | hcons
        · exact absurd h (Nat.not_lt_zero _)
        · exact hcons
      rw [follow_cons]
      cases hidle : isIdle name with
      | true =>
          simp only [steps_cons_idle hidle] at h
          rw [advance_idle hidle]
          exact ih htail h hrest
      | false =>
          by_cases hname : name = ".."
          · subst hname
            simp only [steps_cons_up] at h
            rw [advance_up]
            by_cases hne : inside = []
            · -- this is the step that takes `fresh` away
              subst hne
              intro hmem
              rcases mem_follow hmem with hmem | hmem
              · exact List.not_mem_nil hmem
              · exact hrest hmem
            · rw [List.dropLast_cons_of_ne_nil hne]
              refine ih htail ?_ hrest
              have hlength := List.length_pos_of_ne_nil hne
              rw [List.length_dropLast]
              omega
          · simp only [steps_cons_down hidle hname] at h
            rw [advance_down hidle hname, List.cons_append]
            refine ih htail ?_ hrest
            rw [List.length_append, List.length_singleton]
            omega

/-- A name that descends leads below every directory that it is joined to. -/
theorem Descends.isBelow {name : String} (h : Descends name) (home : Location) (base : String) :
    IsBelow (resolve home base) (resolve home (join base name)) := by
  obtain ⟨hrelative, hfronts, hdown⟩ := h
  rw [resolve_join, hrelative]
  obtain ⟨hfollow, hcount⟩ := @follow_append_of_le [] (Text.partsAt '/' name)
    (fun front hfront => by simpa using hfronts front ((List.mem_inits _ _).mpr hfront))
    (resolve home base)
  rw [List.append_nil] at hfollow
  rw [List.length_nil] at hcount
  rw [if_neg Bool.false_ne_true, hfollow]
  refine ⟨List.prefix_append _ _, ?_⟩
  rw [List.length_append]
  omega

theorem exists_fresh (names : List String) : ∃ n, String.ofList (List.replicate n 'x') ∉ names := by
  have hinjective : Function.Injective fun n => String.ofList (List.replicate n 'x') := by
    intro n k h
    exact List.replicate_left_injective 'x' (String.ofList_injective h)
  obtain ⟨fresh, ⟨n, rfl⟩, hfresh⟩ :=
    (Set.infinite_range_of_injective hinjective).exists_notMem_finite names.finite_toSet
  exact ⟨n, hfresh⟩

/-- The names that lead below every directory are those that descend. -/
theorem descends_iff (name : String) :
    Descends name ↔
      ∀ home base, IsBelow (resolve home base) (resolve home (join base name)) := by
  refine ⟨Descends.isBelow, ?_⟩
  intro h
  have hhere : ∀ home, resolve home "." = home := fun _ => rfl
  -- an absolute name is refuted by joining it to the directory that it leads to itself
  have hrelative : isAbsolute name = false := by
    by_contra habsolute
    have hself := h (resolve [] name) "."
    rw [Bool.not_eq_false] at habsolute
    rw [hhere, resolve_join, if_pos habsolute, resolve_of_isAbsolute habsolute,
      resolve_of_isAbsolute habsolute] at hself
    exact Nat.lt_irrefl _ hself.2
  -- any other name is tried in a directory whose own name cannot come back once it is left
  obtain ⟨n, hfresh⟩ := exists_fresh (Text.partsAt '/' name)
  obtain ⟨hinside, hlonger⟩ := h [String.ofList (List.replicate n 'x')] "."
  rw [hhere, resolve_join, hrelative, if_neg Bool.false_ne_true, hhere] at hinside hlonger
  have hfronts : ∀ front, front <+: Text.partsAt '/' name → stepsUp front ≤ stepsDown front := by
    intro front hfront
    by_contra hlt
    refine notMem_follow_of_lt hfront ?_ hfresh (hinside.subset List.mem_cons_self)
    rw [List.length_nil]
    omega
  obtain ⟨hfollow, hcount⟩ := @follow_append_of_le [] (Text.partsAt '/' name)
    (by simpa using hfronts) [String.ofList (List.replicate n 'x')]
  rw [List.append_nil] at hfollow
  rw [hfollow, List.length_append, List.length_singleton] at hlonger
  rw [List.length_nil] at hcount
  refine ⟨hrelative, ?_, by omega⟩
  intro front hfront
  exact hfronts front ((List.mem_inits _ _).mp hfront)

end Path

end SchemaInterfaces.Storage
