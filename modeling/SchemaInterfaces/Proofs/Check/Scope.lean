import SchemaInterfaces.Check.Scope
import SchemaInterfaces.Proofs.Check.Symbols
import SchemaInterfaces.Proofs.Rendering.References

/-!
# What a resolved name says

A name that resolves is either written with a dot in front of a full name, or it is what remains of
a full name behind one of the scopes around its use. In components, the scope is a beginning of the
enclosing names and the name as written is the rest.
-/

namespace SchemaInterfaces

open Descriptor Text

namespace Text

namespace Chars

theorem mem_beginningsAfter {done s beginning : List Char} :
    beginning ∈ beginningsAfter done s ↔
      ∃ front rest, s = front ++ '.' :: rest ∧ beginning = done ++ front := by
  induction s generalizing done with
  | nil => simp [beginningsAfter]
  | cons c s ih =>
      have hlater : beginning ∈ beginningsAfter (done ++ [c]) s ↔
          ∃ front rest, c :: s = (c :: front) ++ '.' :: rest ∧
            beginning = done ++ c :: front := by
        simp [ih]
      rw [beginningsAfter]
      split
      next hdot =>
        subst hdot
        rw [List.mem_cons, hlater]
        constructor
        · rintro (rfl | ⟨front, rest, hs, rfl⟩)
          · exact ⟨[], s, rfl, by simp⟩
          · exact ⟨'.' :: front, rest, hs, rfl⟩
        · rintro ⟨front, rest, hs, rfl⟩
          cases front with
          | nil => exact Or.inl (by simp)
          | cons d front =>
              obtain ⟨rfl, -⟩ := List.cons.inj hs
              exact Or.inr ⟨front, rest, hs, rfl⟩
      next hdot =>
        rw [hlater]
        constructor
        · rintro ⟨front, rest, hs, rfl⟩
          exact ⟨c :: front, rest, hs, rfl⟩
        · rintro ⟨front, rest, hs, rfl⟩
          cases front with
          | nil => exact absurd (List.cons.inj hs).1 hdot
          | cons d front =>
              obtain ⟨rfl, -⟩ := List.cons.inj hs
              exact ⟨front, rest, hs, rfl⟩

end Chars

/-- The beginnings of a text are followed by a dot in it. -/
theorem exists_rest_of_mem_beginnings {s beginning : String} (h : beginning ∈ beginnings s) :
    ∃ rest, s = beginning ++ "." ++ rest := by
  obtain ⟨front, hfront, rfl⟩ := List.mem_map.mp h
  obtain ⟨done, rest, hs, rfl⟩ := Chars.mem_beginningsAfter.mp hfront
  refine ⟨String.ofList rest, String.toList_injective ?_⟩
  simpa using hs

end Text

namespace Check

/-- The scopes around a use are the beginnings of the names around it. -/
theorem exists_prefix_of_mem_enclosingScopes {names : List String}
    (hnames : ∀ name ∈ names, IsComponent name) (hne : names ≠ []) {scope : String}
    (hscope : scope ∈ enclosingScopes (".".intercalate names)) :
    ∃ outer, outer <+: names ∧ scope = ".".intercalate outer := by
  simp only [enclosingScopes, List.mem_append, List.mem_reverse, List.mem_singleton] at hscope
  rcases hscope with (hbeginning | rfl) | rfl
  · obtain ⟨rest, hrest⟩ := exists_rest_of_mem_beginnings hbeginning
    have hparts : partsAt '.' (scope ++ "." ++ rest) = _ := partsAt_append rfl scope rest
    rw [← hrest, partsAt_intercalate_dot hne fun name hname => (hnames name hname).dot_notMem]
      at hparts
    exact ⟨partsAt '.' scope, ⟨_, hparts.symm⟩, (intercalate_partsAt_dot scope).symm⟩
  · exact ⟨names, List.prefix_rfl, rfl⟩
  · exact ⟨[], List.nil_prefix, rfl⟩

/-- A name inside a scope is the rest of the full name behind the scope. -/
theorem exists_rest_of_qualify_eq {outer names : List String}
    (houter : ∀ name ∈ outer, IsComponent name) (hnames : ∀ name ∈ names, IsComponent name)
    (hne : names ≠ []) {name : String}
    (h : qualify (".".intercalate outer) name = ".".intercalate names) :
    ∃ rest, rest ≠ [] ∧ outer ++ rest = names ∧ name = ".".intercalate rest := by
  by_cases hnil : outer = []
  · subst hnil
    exact ⟨names, hne, rfl, h⟩
  · have hscope := Naming.intercalate_ne_empty hnil houter
    rw [qualify, if_neg (by simpa using hscope)] at h
    have hparts : partsAt '.' (".".intercalate outer ++ "." ++ name) = _ :=
      partsAt_append rfl _ name
    rw [h, partsAt_intercalate_dot hne fun part hpart => (hnames part hpart).dot_notMem,
      partsAt_intercalate_dot hnil fun part hpart => (houter part hpart).dot_notMem] at hparts
    exact ⟨partsAt '.' name, partsAt_ne_nil '.' name, hparts.symm,
      (intercalate_partsAt_dot name).symm⟩

namespace View

variable {view : View} {wanted : Wanted} {name : String} {symbol : SymbolEntry}

/-- What is found under a full name is in sight and of the wanted sort. -/
theorem of_lookUp_eq_ok (h : view.lookUp wanted name = some (.ok symbol)) :
    symbol ∈ view.symbols ∧ symbol.name = name ∧ symbol.file ∈ view.visible ∧
      wanted.accepts symbol.entity = true := by
  obtain ⟨found, hfind, hfound⟩ := Option.map_eq_some_iff.mp h
  obtain ⟨hmem, hname⟩ := Symbols.mem_of_find? hfind
  split at hfound
  · cases hfound
  next hvisible =>
    split at hfound
    next haccepts =>
      cases hfound
      exact ⟨hmem, hname, by simpa using hvisible, haccepts⟩
    · cases hfound

theorem exists_scope_of_searchSimple {met : Option Violation} {scopes : List String}
    (h : view.searchSimple wanted name met scopes = .ok symbol) :
    ∃ scope ∈ scopes, view.lookUp wanted (qualify scope name) = some (.ok symbol) := by
  induction scopes generalizing met with
  | nil => cases h
  | cons scope scopes ih =>
      rw [searchSimple] at h
      split at h
      next found hfound =>
        cases h
        exact ⟨scope, List.mem_cons_self, hfound⟩
      all_goals
        obtain ⟨outer, houter, hlookUp⟩ := ih h
        exact ⟨outer, List.mem_cons_of_mem _ houter, hlookUp⟩

theorem exists_scope_of_searchDotted {first : String} {scopes : List String}
    (h : view.searchDotted wanted first name scopes = .ok symbol) :
    ∃ scope ∈ scopes, view.lookUp wanted (qualify scope name) = some (.ok symbol) := by
  induction scopes with
  | nil => cases h
  | cons scope scopes ih =>
      have hlater (hrest : view.searchDotted wanted first name scopes = .ok symbol) :
          ∃ outer ∈ scope :: scopes,
            view.lookUp wanted (qualify outer name) = some (.ok symbol) := by
        obtain ⟨outer, houter, hlookUp⟩ := ih hrest
        exact ⟨outer, List.mem_cons_of_mem _ houter, hlookUp⟩
      rw [searchDotted] at h
      split at h
      · split at h
        · split at h
          next result hresult =>
            exact ⟨scope, List.mem_cons_self, by rw [hresult, h]⟩
          · cases h
        · exact hlater h
      · exact hlater h

/-- A name resolves to what stands under its full name. The full name is the one that follows the
dot in front, or it is the name inside one of the enclosing scopes. -/
theorem exists_fullName_of_resolve {scope : String}
    (h : view.resolve wanted scope name = .ok symbol) :
    view.lookUp wanted symbol.name = some (.ok symbol) ∧
      (name = "." ++ symbol.name ∨
        ∃ outer ∈ enclosingScopes scope, symbol.name = qualify outer name) := by
  have hfull {written full : String}
      (hresolve : view.resolveFull wanted written full = .ok symbol) :
      view.lookUp wanted full = some (.ok symbol) := by
    unfold resolveFull at hresolve
    cases hlookUp : view.lookUp wanted full with
    | none => rw [hlookUp] at hresolve; cases hresolve
    | some result => rw [hlookUp] at hresolve; exact congrArg some hresolve
  unfold resolve at h
  split at h
  next full hdot =>
    have hlookUp := hfull h
    have hname := (of_lookUp_eq_ok hlookUp).2.1
    refine ⟨by rw [hname]; exact hlookUp, Or.inl ?_⟩
    apply String.toList_injective
    rw [hdot, hname]
    simp
  next =>
    have hscopes (hfound : ∃ outer ∈ enclosingScopes scope,
        view.lookUp wanted (qualify outer name) = some (.ok symbol)) :
        view.lookUp wanted symbol.name = some (.ok symbol) ∧
          (name = "." ++ symbol.name ∨
            ∃ outer ∈ enclosingScopes scope, symbol.name = qualify outer name) := by
      obtain ⟨outer, houter, hlookUp⟩ := hfound
      have hname := (of_lookUp_eq_ok hlookUp).2.1
      exact ⟨by rw [hname]; exact hlookUp, Or.inr ⟨outer, houter, hname⟩⟩
    dsimp only at h
    split at h
    · exact hscopes ⟨"", by simp [enclosingScopes], hfull h⟩
    · split at h
      · exact hscopes (exists_scope_of_searchDotted h)
      · exact hscopes (exists_scope_of_searchSimple h)

end View

end Check

end SchemaInterfaces
