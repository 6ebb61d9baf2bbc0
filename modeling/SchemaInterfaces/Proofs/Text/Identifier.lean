import SchemaInterfaces.Proofs.Text.Joining
import SchemaInterfaces.Text.Basic

/-!
# Identifiers and dotted names

A component is a text that can stand between dots. Identifiers are components, and a dotted name is
one identifier or more with dots between them: what is said about its characters holds of identifier
characters and of the dot.
-/

namespace SchemaInterfaces.Text

/-- A text that can stand between the dots of a name. -/
structure IsComponent (s : String) : Prop where
  ne_empty : s ≠ ""
  dot_notMem : '.' ∉ s.toList

instance (s : String) : Decidable (IsComponent s) :=
  decidable_of_iff (s ≠ "" ∧ '.' ∉ s.toList)
    ⟨fun h => ⟨h.1, h.2⟩, fun h => ⟨h.ne_empty, h.dot_notMem⟩⟩

/-- Whether a character can be in an identifier. -/
def isIdentifierChar (c : Char) : Bool :=
  c.isAlphanum || c == '_'

/-- Whether a text is an identifier: letters, digits and underscores, without a digit in front. -/
def isIdentifier (s : String) : Bool :=
  match s.toList with
  | [] => false
  | c :: rest => (c.isAlpha || c == '_') && rest.all isIdentifierChar

/-- Whether a text is made of identifiers with dots between them. -/
def isDottedName (s : String) : Bool :=
  (partsAt '.' s).all isIdentifier

/-- Whether a text can refer to a type: it is empty, or a dotted name with or without a dot in
front. -/
def isReference (s : String) : Bool :=
  s.isEmpty || isDottedName s ||
    (s.toList.head? == some '.' && isDottedName (String.ofList s.toList.tail))

/-- Every letter and digit lies between two blocks of blank characters. -/
theorem toNat_bounds_of_isAlphanum {c : Char} (hc : c.isAlphanum = true) :
    48 ≤ c.toNat ∧ c.toNat ≤ 122 := by
  have hnat (low high : Char) (hlow : low.val ≤ c.val) (hhigh : c.val ≤ high.val) :
      low.toNat ≤ c.toNat ∧ c.toNat ≤ high.toNat :=
    ⟨UInt32.le_iff_toNat_le.mp hlow, UInt32.le_iff_toNat_le.mp hhigh⟩
  obtain halpha | hdigit := Bool.or_eq_true_iff.mp hc
  · obtain hupper | hlower := Bool.or_eq_true_iff.mp halpha
    · obtain ⟨hlow, hhigh⟩ := of_decide_eq_true hupper
      obtain ⟨hfrom, hto⟩ := hnat 'A' 'Z' hlow hhigh
      exact ⟨Nat.le_trans (by decide) hfrom, Nat.le_trans hto (by decide)⟩
    · obtain ⟨hlow, hhigh⟩ := Bool.and_eq_true_iff.mp hlower
      obtain ⟨hfrom, hto⟩ := hnat 'a' 'z' (of_decide_eq_true hlow) (of_decide_eq_true hhigh)
      exact ⟨Nat.le_trans (by decide) hfrom, Nat.le_trans hto (by decide)⟩
  · obtain ⟨hlow, hhigh⟩ := Bool.and_eq_true_iff.mp hdigit
    obtain ⟨hfrom, hto⟩ := hnat '0' '9' (of_decide_eq_true hlow) (of_decide_eq_true hhigh)
    exact ⟨Nat.le_trans (by decide) hfrom, Nat.le_trans hto (by decide)⟩

theorem toNat_bounds_of_isIdentifierChar {c : Char} (hc : isIdentifierChar c = true) :
    48 ≤ c.toNat ∧ c.toNat ≤ 122 := by
  obtain halphanum | hscore := Bool.or_eq_true_iff.mp hc
  · exact toNat_bounds_of_isAlphanum halphanum
  · rw [beq_iff_eq.mp hscore]
    decide

theorem isBlank_of_isIdentifierChar {c : Char} (hc : isIdentifierChar c = true) :
    isBlank c = false := by
  obtain ⟨hfrom, hto⟩ := toNat_bounds_of_isIdentifierChar hc
  simp [isBlank]
  omega

theorem isIdentifierChar_of_mem {s : String} (hs : isIdentifier s = true) {c : Char}
    (hc : c ∈ s.toList) : isIdentifierChar c = true := by
  unfold isIdentifier at hs
  split at hs
  next => cases hs
  next first rest hfirst =>
    rw [hfirst] at hc
    rw [Bool.and_eq_true, List.all_eq_true] at hs
    rcases List.mem_cons.mp hc with rfl | hrest
    · have halpha := hs.1
      simp only [isIdentifierChar, Char.isAlphanum, Bool.or_eq_true] at halpha ⊢
      exact halpha.imp_left Or.inl
    · exact hs.2 c hrest

/-- A character that is in no identifier at all is not in this one. -/
theorem notMem_of_isIdentifier {s : String} (hs : isIdentifier s = true) {c : Char}
    (hc : isIdentifierChar c = false) : c ∉ s.toList := by
  intro hmem
  rw [isIdentifierChar_of_mem hs hmem] at hc
  cases hc

theorem isComponent_of_isIdentifier {s : String} (hs : isIdentifier s = true) :
    IsComponent s where
  ne_empty := by
    rintro rfl
    cases hs
  dot_notMem := notMem_of_isIdentifier hs rfl

/-- A dotted name is its identifiers, joined by dots. -/
theorem exists_identifiers {s : String} (hs : isDottedName s = true) :
    ∃ names, names ≠ [] ∧ (∀ name ∈ names, isIdentifier name = true) ∧
      s = ".".intercalate names := by
  refine ⟨partsAt '.' s, ?_, ?_, (intercalate_partsAt_dot s).symm⟩
  · rw [partsAt, ne_eq, List.map_eq_nil_iff]
    exact Chars.partsAt_ne_nil '.' s.toList
  · exact List.all_eq_true.mp hs

theorem mem_of_isDottedName {s : String} (hs : isDottedName s = true) {c : Char}
    (hc : c ∈ s.toList) : isIdentifierChar c = true ∨ c = '.' := by
  obtain ⟨names, -, hnames, rfl⟩ := exists_identifiers hs
  rw [String.toList_intercalate] at hc
  obtain hdot | ⟨part, hpart, hmem⟩ := Text.mem_intercalate hc
  · exact Or.inr hdot
  · obtain ⟨name, hname, rfl⟩ := List.mem_map.mp hpart
    exact Or.inl (isIdentifierChar_of_mem (hnames name hname) hmem)

theorem notMem_of_isDottedName {s : String} (hs : isDottedName s = true) {c : Char}
    (hc : isIdentifierChar c = false) (hdot : c ≠ '.') : c ∉ s.toList := by
  intro hmem
  rcases mem_of_isDottedName hs hmem with hchar | rfl
  · rw [hc] at hchar
    cases hchar
  · exact hdot rfl

theorem notMem_of_isReference {s : String} (hs : isReference s = true) {c : Char}
    (hc : isIdentifierChar c = false) (hdot : c ≠ '.') : c ∉ s.toList := by
  rw [isReference, Bool.or_eq_true, Bool.or_eq_true, Bool.and_eq_true, beq_iff_eq] at hs
  rcases hs with (hempty | hdotted) | ⟨hhead, htail⟩
  · rw [String.isEmpty_iff.mp hempty]
    exact List.not_mem_nil
  · exact notMem_of_isDottedName hdotted hc hdot
  · intro hmem
    obtain ⟨tail, htoList⟩ := List.head?_eq_some_iff.mp hhead
    rw [htoList] at hmem htail
    rcases List.mem_cons.mp hmem with rfl | hmem
    · exact hdot rfl
    · exact notMem_of_isDottedName htail hc hdot (by simpa using hmem)

end SchemaInterfaces.Text
