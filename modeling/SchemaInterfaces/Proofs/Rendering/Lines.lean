import SchemaInterfaces.Proofs.Text.Joining
import SchemaInterfaces.Proofs.Text.Trimming
import SchemaInterfaces.Rendering.Basic

/-!
# The lines of the output

The text of a listing, line by line: a heading, then for each definition a blank line and the lines
of its interface. Every line ends with a line feed, so cutting off blank characters and adding one
line feed changes nothing, unless the last line itself ends in a blank character. That line closes
an interface or names the package or the schema file.
-/

namespace SchemaInterfaces

namespace Text

/-- Whether a text is one line: it holds no line feed. -/
def IsLine (s : String) : Prop :=
  '\n' ∉ s.toList

instance (s : String) : Decidable (IsLine s) :=
  inferInstanceAs (Decidable ('\n' ∉ s.toList))

theorem IsLine.append {s t : String} (hs : IsLine s) (ht : IsLine t) : IsLine (s ++ t) := by
  rw [IsLine, String.toList_append, List.mem_append]
  exact not_or.mpr ⟨hs, ht⟩

/-- Line feeds at the end of lines stand between the lines and one empty line after them. -/
theorem ofLines_eq_intercalate (lines : List String) :
    ofLines lines = "\n".intercalate (lines ++ [""]) := by
  induction lines with
  | nil => rfl
  | cons line rest ih =>
      rw [ofLines_cons, ih, List.cons_append, String.intercalate_cons_of_ne_nil (by simp)]

/-- Lines are read back from their text. -/
theorem partsAt_ofLines {lines : List String} (hlines : ∀ line ∈ lines, IsLine line) :
    partsAt '\n' (ofLines lines) = lines ++ [""] := by
  have hparts : ∀ part ∈ (lines ++ [""]).map String.toList, '\n' ∉ part := by
    intro part hpart
    obtain ⟨line, hline, rfl⟩ := List.mem_map.mp hpart
    rcases List.mem_append.mp hline with hline | hline
    · exact hlines line hline
    · rw [List.mem_singleton.mp hline]
      exact List.not_mem_nil
  have hfeed : "\n".toList = ['\n'] := rfl
  rw [partsAt, ofLines_eq_intercalate, String.toList_intercalate, hfeed,
    Chars.partsAt_intercalate (by simp) hparts, List.map_map]
  simp [Function.comp_def]

/-- Whether a text ends in a character that trimming leaves. -/
def endsVisibly (s : String) : Bool :=
  s.toList.getLast?.any fun c => !isBlank c

theorem endsVisibly_append {s : String} (hs : endsVisibly s = true) (front : String) :
    endsVisibly (front ++ s) = true := by
  unfold endsVisibly at hs ⊢
  cases hlast : s.toList.getLast? with
  | none => simp [hlast] at hs
  | some c =>
      rw [hlast] at hs
      rw [String.toList_append, List.getLast?_append, hlast]
      exact hs

/-- Only the last line feed is cut off if the last line ends visibly. -/
theorem trimEnd_ofLines (lines : List String) {last : String} (hlast : endsVisibly last = true) :
    trimEnd (ofLines (lines ++ [last])) ++ "\n" = ofLines (lines ++ [last]) := by
  have hsplit : ofLines (lines ++ [last]) = (ofLines lines ++ last) ++ "\n" := by
    rw [ofLines_append, ofLines_cons, ofLines_nil, String.append_empty, String.append_assoc]
  -- trimming takes the line feed and then meets the visible end of the last line
  have hkeep : Chars.trimEnd (ofLines lines ++ last).toList = (ofLines lines ++ last).toList := by
    refine Chars.trimEnd_eq_self ?_
    intro c hc
    have hvisible := endsVisibly_append hlast (ofLines lines)
    rw [endsVisibly, hc] at hvisible
    simpa using hvisible
  have hcut : Chars.trimEnd ((ofLines lines ++ last) ++ "\n").toList =
      Chars.trimEnd (ofLines lines ++ last).toList := by
    rw [String.toList_append]
    exact Chars.trimEnd_append (List.all_eq_true.mp rfl) _
  rw [hsplit, trimEnd, hcut, hkeep, String.ofList_toList]

end Text

namespace Rendering

/-- The last line closes an interface, if there is one. -/
theorem exists_lines_eq_of_ne_nil {listing : Listing} (hdefinitions : listing.definitions ≠ []) :
    ∃ init, lines listing = init ++ ["\x7d"] := by
  obtain ⟨others, definition, hdefs⟩ :=
    (List.eq_nil_or_concat listing.definitions).resolve_left hdefinitions
  rw [lines, hdefs, List.concat_eq_append, List.flatMap_append, List.flatMap_singleton,
    interfaceLines, ← List.cons_append, ← List.append_assoc, ← List.append_assoc]
  exact ⟨_, rfl⟩

/-- Where there is an interface, trimming leaves all lines as they are. -/
theorem content_eq_of_ne_nil {listing : Listing} (hdefinitions : listing.definitions ≠ []) :
    content listing = Text.ofLines (lines listing) := by
  obtain ⟨init, hlines⟩ := exists_lines_eq_of_ne_nil hdefinitions
  rw [content, hlines, Text.trimEnd_ofLines init rfl]

/-- The text of a listing holds the lines of each of its interfaces. -/
theorem exists_content_eq_of_mem {listing : Listing} {definition : Definition}
    (hdefinition : definition ∈ listing.definitions) :
    ∃ before after, content listing =
      before ++ Text.ofLines ("" :: interfaceLines listing.package definition) ++ after := by
  obtain ⟨front, back, hdefs⟩ := List.append_of_mem hdefinition
  rw [content_eq_of_ne_nil (List.ne_nil_of_mem hdefinition), lines, hdefs, List.flatMap_append,
    List.flatMap_cons, ← List.append_assoc, Text.ofLines_append, Text.ofLines_append,
    Text.ofLines_append, ← String.append_assoc]
  exact ⟨_, _, rfl⟩

/-- The last line ends visibly: it closes an interface or ends with the package or the heading. -/
theorem exists_last_line {listing : Listing}
    (hpackage : listing.package.isEmpty = true ∨ Text.endsVisibly listing.package = true) :
    ∃ init last, lines listing = init ++ [last] ∧ Text.endsVisibly last = true := by
  by_cases hnil : listing.definitions = []
  · rw [lines, hnil, List.flatMap_nil, List.append_nil]
    by_cases hempty : listing.package.isEmpty = true
    · have hheading : headingLines listing = [] ++ [sourceLine listing] := by
        rw [headingLines, if_pos hempty, List.nil_append]
      exact ⟨[], sourceLine listing, hheading, Text.endsVisibly_append rfl _⟩
    · have hheading : headingLines listing =
          [sourceLine listing] ++ ["// Package: " ++ listing.package] := by
        rw [headingLines, if_neg hempty, List.singleton_append]
      exact ⟨_, _, hheading, Text.endsVisibly_append (hpackage.resolve_left hempty) _⟩
  · obtain ⟨init, hlines⟩ := exists_lines_eq_of_ne_nil hnil
    exact ⟨init, "\x7d", hlines, rfl⟩

/-- Trimming leaves all lines as they are, if the package ends visibly. -/
theorem content_eq {listing : Listing}
    (hpackage : listing.package.isEmpty = true ∨ Text.endsVisibly listing.package = true) :
    content listing = Text.ofLines (lines listing) := by
  obtain ⟨init, last, hlines, hlast⟩ := exists_last_line hpackage
  rw [content, hlines, Text.trimEnd_ofLines init hlast]

end Rendering

end SchemaInterfaces
