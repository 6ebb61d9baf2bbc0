import SchemaInterfaces.Proofs.Json.Literal

/-!
# Values read back

A value is legible if it is read back from its text, however the text is laid out and whatever
follows it. Literals of texts are legible, and so are arrays and objects of legible values: whatever
blank characters stand between the parts are skipped, and the first character of a value tells what
it is.
-/

namespace SchemaInterfaces.Json

/-- A layout by blank characters of the grammar alone. -/
structure Spacing.IsBlank (spacing : Spacing) : Prop where
  line : ∀ level, ∀ c ∈ spacing.line level, isSpace c = true
  colon : ∀ c ∈ spacing.colon, isSpace c = true

theorem isBlank_compactSpacing : compactSpacing.IsBlank where
  line _ _ hc := absurd hc List.not_mem_nil
  colon _ hc := absurd hc List.not_mem_nil

theorem isBlank_prettySpacing : prettySpacing.IsBlank where
  line level c hc := by
    rcases List.mem_cons.mp hc with rfl | hc
    · rfl
    · rw [List.eq_of_mem_replicate hc]
      rfl
  colon c hc := by
    rw [List.mem_singleton.mp hc]
    rfl

theorem skipSpace_append {blank : List Char} (h : ∀ c ∈ blank, isSpace c = true)
    (s : List Char) : skipSpace (blank ++ s) = skipSpace s :=
  List.dropWhile_append_of_pos h

theorem skipSpace_cons {c : Char} (h : isSpace c = false) (s : List Char) :
    skipSpace (c :: s) = c :: s :=
  List.dropWhile_cons_of_neg (by simp [h])

/-! ## Steps of the reader -/

section Steps

variable {s rest more after : List Char} {value : Json} {items : List Json}
  {key : Option String} {entries : List (Option String × Json)}

/-- After an item, the array ends or goes on with the items behind a comma. -/
theorem taken_readItems (hvalue : taken (readValue s) = some (value, rest)) :
    taken (readItems s) =
      match skipSpace rest with
      | ']' :: after => some ([value], after)
      | ',' :: more => (taken (readItems (skipSpace more))).map fun r => (value :: r.1, r.2)
      | _ => none := by
  obtain ⟨shorter, hread⟩ := taken_eq_some.mp hvalue
  rw [readItems, hread]
  simp only [Option.bind_eq_bind, Option.bind_some]
  split
  next after hafter =>
    simp only [hafter]
    rfl
  next more hmore =>
    simp only [hmore]
    cases readItems (skipSpace more) <;> rfl
  next hclosed hmore =>
    split
    next after hafter => exact absurd hafter (hclosed after)
    next more hcomma => exact absurd hcomma (hmore more)
    next => rfl

/-- After an entry, the object ends or goes on with the entries behind a comma. -/
theorem taken_readEntries (hkey : taken (readString s) = some (key, rest))
    (hcolon : skipSpace rest = ':' :: more)
    (hvalue : taken (readValue (skipSpace more)) = some (value, after)) :
    taken (readEntries ('"' :: s)) =
      match skipSpace after with
      | '\x7d' :: last => some ([(key, value)], last)
      | ',' :: next =>
        (taken (readEntries (skipSpace next))).map fun r => ((key, value) :: r.1, r.2)
      | _ => none := by
  obtain ⟨_, hread⟩ := taken_eq_some.mp hkey
  obtain ⟨_, hfirst⟩ := taken_eq_some.mp hvalue
  rw [readEntries, hread]
  simp only [Option.bind_eq_bind, Option.bind_some]
  split
  next found hfound =>
    rw [hcolon] at hfound
    cases hfound
    rw [hfirst]
    simp only [Option.bind_some]
    split
    next last hlast =>
      simp only [hlast]
      rfl
    next more hmore =>
      simp only [hmore]
      cases readEntries (skipSpace more) <;> rfl
    next hclosed hmore =>
      split
      next last hlast => exact absurd hlast (hclosed last)
      next more hcomma => exact absurd hcomma (hmore more)
      next => rfl
  next hnone => exact absurd hcolon (hnone more)

theorem taken_readValue_array_nil (rest : List Char) :
    taken (readValue ('[' :: ']' :: rest)) = some (array [], rest) := by
  have hclose : skipSpace (']' :: rest) = ']' :: rest := skipSpace_cons rfl rest
  rw [readValue]
  split
  next found hfound =>
    rw [hclose] at hfound
    cases hfound
    rfl
  next hnone => exact absurd hclose (hnone rest)

theorem taken_readValue_array (hs : ∀ found, skipSpace s ≠ ']' :: found)
    (hitems : taken (readItems (skipSpace s)) = some (items, after)) :
    taken (readValue ('[' :: s)) = some (array items, after) := by
  obtain ⟨shorter, hread⟩ := taken_eq_some.mp hitems
  rw [readValue]
  split
  next found hfound => exact absurd hfound (hs found)
  next =>
    rw [hread]
    rfl

theorem taken_readValue_object (hs : ∀ found, skipSpace s ≠ '\x7d' :: found)
    (hentries : taken (readEntries (skipSpace s)) = some (entries, after)) :
    taken (readValue ('\x7b' :: s)) = some (object entries, after) := by
  obtain ⟨shorter, hread⟩ := taken_eq_some.mp hentries
  rw [readValue]
  split
  next found hfound => exact absurd hfound (hs found)
  next =>
    rw [hread]
    rfl

theorem taken_readValue_string (hs : taken (readString s) = some (key, after)) :
    taken (readValue ('"' :: s)) = some (string key, after) := by
  obtain ⟨shorter, hread⟩ := taken_eq_some.mp hs
  rw [readValue, hread]
  rfl

end Steps

/-- A value that is read back from its text. Its first character is none that may be skipped, and
ends no array. -/
structure Legible (value : Json) : Prop where
  opens : ∀ spacing level, ∃ c rest, write spacing level value = c :: rest ∧
    isSpace c = false ∧ c ≠ ']'
  reads : ∀ spacing : Spacing, spacing.IsBlank → ∀ level rest,
    taken (readValue (write spacing level value ++ rest)) = some (value, rest)

theorem Legible.skipSpace_write {value : Json} (h : value.Legible) (spacing : Spacing)
    (level : Nat) {blank : List Char} (hblank : ∀ c ∈ blank, isSpace c = true) (rest : List Char) :
    skipSpace (blank ++ (write spacing level value ++ rest)) =
      write spacing level value ++ rest := by
  obtain ⟨c, tail, hwrite, hc, -⟩ := h.opens spacing level
  rw [skipSpace_append hblank, hwrite, List.cons_append, skipSpace_cons hc]

theorem legible_ofText (s : String) : (ofText s).Legible where
  opens spacing level := by
    refine ⟨'"', s.toList.flatMap escapeChar ++ ['"'], ?_, rfl, by decide⟩
    rw [ofText, write, literal_some]
  reads spacing _ level rest := by
    rw [ofText, write, literal_some, List.cons_append, List.append_assoc]
    exact taken_readValue_string (taken_readString s rest)

theorem writeEntry_some (spacing : Spacing) (level : Nat) (text : String) (value : Json)
    (rest : List Char) :
    writeEntry spacing level (some text, value) ++ rest =
      '"' :: (text.toList.flatMap escapeChar ++
        '"' :: ':' :: (spacing.colon ++ (write spacing (level + 1) value ++ rest))) := by
  rw [writeEntry, literal_some]
  simp

theorem exists_writeEntry_eq (spacing : Spacing) (level : Nat) {entry : Option String × Json}
    (hkey : entry.1.isSome) (rest : List Char) :
    ∃ tail, writeEntry spacing level entry ++ rest = '"' :: tail := by
  obtain ⟨key, value⟩ := entry
  obtain ⟨text, rfl⟩ := Option.isSome_iff_exists.mp hkey
  exact ⟨_, writeEntry_some spacing level text value rest⟩

theorem skipSpace_writeEntry (spacing : Spacing) (level : Nat) {blank : List Char}
    (hblank : ∀ c ∈ blank, isSpace c = true) {entry : Option String × Json}
    (hkey : entry.1.isSome) (rest : List Char) :
    skipSpace (blank ++ (writeEntry spacing level entry ++ rest)) =
      writeEntry spacing level entry ++ rest := by
  obtain ⟨tail, htail⟩ := exists_writeEntry_eq spacing level hkey rest
  rw [skipSpace_append hblank, htail, skipSpace_cons rfl]

section Collections

variable {spacing : Spacing} (hblank : spacing.IsBlank) (level : Nat)

include hblank

theorem taken_readItems_write {first : Json} {others : List Json} (hfirst : first.Legible)
    (hothers : ∀ item ∈ others, item.Legible) (rest : List Char) :
    taken (readItems (write spacing (level + 1) first ++
      (writeItems spacing level others ++ rest))) = some (first :: others, rest) := by
  induction others generalizing first with
  | nil =>
      have hclose : skipSpace (writeItems spacing level [] ++ rest) = ']' :: rest := by
        rw [writeItems, List.append_assoc, skipSpace_append (hblank.line level)]
        exact skipSpace_cons rfl rest
      rw [taken_readItems (hfirst.reads spacing hblank _ _), hclose]
      rfl
  | cons item others ih =>
      rw [List.forall_mem_cons] at hothers
      rw [taken_readItems (hfirst.reads spacing hblank _ _), writeItems, List.cons_append,
        skipSpace_cons (by decide)]
      simp only [List.append_assoc]
      rw [hothers.1.skipSpace_write spacing _ (hblank.line _), ih hothers.1 hothers.2]
      rfl

/-- An entry is read up to the end of its value. -/
theorem taken_readEntries_writeEntry {entry : Option String × Json}
    (hentry : entry.1.isSome ∧ entry.2.Legible) (rest : List Char) :
    taken (readEntries (writeEntry spacing level entry ++ rest)) =
      match skipSpace rest with
      | '\x7d' :: last => some ([entry], last)
      | ',' :: next => (taken (readEntries (skipSpace next))).map fun r => (entry :: r.1, r.2)
      | _ => none := by
  obtain ⟨key, value⟩ := entry
  obtain ⟨hkey, hvalue⟩ := hentry
  obtain ⟨text, rfl⟩ := Option.isSome_iff_exists.mp hkey
  have hread := hvalue.reads spacing hblank (level + 1) rest
  rw [← hvalue.skipSpace_write spacing (level + 1) hblank.colon] at hread
  rw [writeEntry_some]
  exact taken_readEntries (taken_readString text _) (skipSpace_cons rfl _) hread

theorem taken_readEntries_write {first : Option String × Json}
    {others : List (Option String × Json)} (hfirst : first.1.isSome ∧ first.2.Legible)
    (hothers : ∀ entry ∈ others, entry.1.isSome ∧ entry.2.Legible) (rest : List Char) :
    taken (readEntries (writeEntry spacing level first ++
      (writeEntries spacing level others ++ rest))) = some (first :: others, rest) := by
  induction others generalizing first with
  | nil =>
      have hclose : skipSpace (writeEntries spacing level [] ++ rest) = '\x7d' :: rest := by
        rw [writeEntries, List.append_assoc, skipSpace_append (hblank.line level)]
        exact skipSpace_cons rfl rest
      rw [taken_readEntries_writeEntry hblank level hfirst, hclose]
      rfl
  | cons entry others ih =>
      rw [List.forall_mem_cons] at hothers
      rw [taken_readEntries_writeEntry hblank level hfirst, writeEntries, List.cons_append,
        skipSpace_cons (by decide)]
      simp only [List.append_assoc]
      rw [skipSpace_writeEntry spacing level (hblank.line _) hothers.1.1, ih hothers.1 hothers.2]
      rfl

end Collections

theorem legible_array {items : List Json} (h : ∀ item ∈ items, item.Legible) :
    (array items).Legible where
  opens spacing level := by
    cases items with
    | nil => exact ⟨'[', _, by rw [write], rfl, by decide⟩
    | cons first others => exact ⟨'[', _, by rw [write], rfl, by decide⟩
  reads spacing hblank level rest := by
    cases items with
    | nil =>
        rw [write]
        exact taken_readValue_array_nil rest
    | cons first others =>
        rw [List.forall_mem_cons] at h
        obtain ⟨c, tail, hwrite, hc, hclose⟩ := h.1.opens spacing (level + 1)
        have hskip := h.1.skipSpace_write spacing (level + 1) (hblank.line (level + 1))
          (writeItems spacing level others ++ rest)
        have hitems := taken_readItems_write hblank level h.1 h.2 rest
        rw [write, List.cons_append, List.append_assoc, List.append_assoc]
        rw [← hskip] at hitems
        refine taken_readValue_array ?_ hitems
        intro found hfound
        rw [hskip, hwrite] at hfound
        exact hclose (List.cons.inj hfound).1

theorem legible_object {first : Option String × Json} {others : List (Option String × Json)}
    (h : ∀ entry ∈ first :: others, entry.1.isSome ∧ entry.2.Legible) :
    (object (first :: others)).Legible where
  opens spacing level := ⟨'\x7b', _, by rw [write], rfl, by decide⟩
  reads spacing hblank level rest := by
    rw [List.forall_mem_cons] at h
    obtain ⟨tail, htail⟩ := exists_writeEntry_eq spacing level h.1.1
      (writeEntries spacing level others ++ rest)
    have hskip := skipSpace_writeEntry spacing level (hblank.line (level + 1)) h.1.1
      (writeEntries spacing level others ++ rest)
    have hentries := taken_readEntries_write hblank level h.1 h.2 rest
    rw [write, List.cons_append, List.append_assoc, List.append_assoc]
    rw [← hskip] at hentries
    refine taken_readValue_object ?_ hentries
    intro found hfound
    rw [hskip, htail] at hfound
    cases hfound

/-- The text of a legible value is that value, and no other, with blank characters around it or
not. -/
theorem Legible.parse?_eq {value : Json} (h : value.Legible) {spacing : Spacing}
    (hblank : spacing.IsBlank) {front back : List Char} (hfront : ∀ c ∈ front, isSpace c = true)
    (hback : ∀ c ∈ back, isSpace c = true) :
    parse? (String.ofList (front ++ (write spacing 0 value ++ back))) = some value := by
  obtain ⟨shorter, hread⟩ := taken_eq_some.mp (h.reads spacing hblank 0 back)
  have hend : skipSpace back = [] := by
    have hall := skipSpace_append hback []
    rwa [List.append_nil] at hall
  rw [parse?, String.toList_ofList, h.skipSpace_write spacing 0 hfront, hread]
  simp [hend]

end SchemaInterfaces.Json
