import Mathlib.Data.List.Basic
import SchemaInterfaces.Proofs.Rendering.Legible

/-!
# Reading the output back

A text of output is read line by line: the heading and the interfaces are what stands between the
blank lines, and every line gives away the names in it. Reading the text of a listing gives its
outline, that is, its schema file, its package and its interfaces with their members, so listings
with different outlines are never written out as the same text.
-/

namespace SchemaInterfaces

namespace Text

/-- What stands between a front and a back of a text, if it begins and ends like that. -/
def between? (front back s : String) : Option String := do
  let rest ← s.toList.dropPrefix? front.toList
  let inside ← rest.dropSuffix? back.toList
  pure (String.ofList inside)

theorem between?_append (front back s : String) :
    between? front back (front ++ s ++ back) = some s := by
  have hfront : (front ++ s ++ back).toList.dropPrefix? front.toList =
      some (s ++ back).toList := by
    rw [List.dropPrefix?_eq_some_iff]
    exact ⟨front.toList, by simp⟩
  have hback : (s ++ back).toList.dropSuffix? back.toList = some s.toList := by
    rw [List.dropSuffix?_eq_some_iff]
    exact ⟨back.toList, by simp⟩
  rw [between?, hfront, Option.bind_eq_bind, Option.bind_some, hback]
  simp

end Text

/-- What a text of output says. -/
structure Outline where
  source : String
  package : Option String
  /-- The interfaces by name, each with the names and the types of its members. -/
  interfaces : List (String × List (String × String))
  deriving DecidableEq, Repr

/-- The interfaces of a listing as they are written out. -/
def Listing.interfaces (listing : Listing) : List (String × List (String × String)) :=
  listing.definitions.map fun definition =>
    (Naming.flatten definition.path,
      definition.members.map fun member =>
        (member.name, Naming.ofShape listing.package member.shape))

/-- What the text of a listing should say. -/
def Listing.outline (listing : Listing) : Outline where
  source := listing.source
  package := if listing.package.isEmpty then none else some listing.package
  interfaces := listing.interfaces

/-- The package is part of the outline, since the empty package is the one that is left out. -/
theorem Listing.eq_of_outline_eq {listing other : Listing} (h : listing.outline = other.outline) :
    listing.source = other.source ∧ listing.package = other.package ∧
      listing.interfaces = other.interfaces := by
  obtain ⟨hsource, hpackage, hinterfaces⟩ := Outline.mk.inj h
  refine ⟨hsource, ?_, hinterfaces⟩
  split at hpackage
  next hempty =>
    split at hpackage
    next hother => rw [String.isEmpty_iff.mp hempty, String.isEmpty_iff.mp hother]
    next => cases hpackage
  next =>
    split at hpackage
    next => cases hpackage
    next => exact Option.some.inj hpackage

namespace Outline

open Text

/-- Reads the line of a member. -/
def readMember? (line : String) : Option (String × String) := do
  let inside ← between? "  " ";" line
  -- the first colon ends the name, whatever the type holds
  let (name, rest) ← Chars.cutAt? ':' inside.toList
  let type ← rest.dropPrefix? [' ']
  pure (String.ofList name, String.ofList type)

def readOpening? (line : String) : Option String :=
  between? "export interface " " \x7b" line

/-- Reads the lines of an interface. -/
def readInterface? : List String → Option (String × List (String × String))
  | [] => none
  | opening :: rest => do
    let name ← readOpening? opening
    let members ← rest.dropLast.mapM readMember?
    if rest.getLast? = some "\x7d" then some (name, members) else none

def readSource? (line : String) : Option String :=
  between? "// Generated by protoc-gen-interfaces from " ". Do not edit." line

def readPackage? (line : String) : Option String :=
  between? "// Package: " "" line

/-- Reads the lines in front of the interfaces. -/
def readHeading? : List String → Option (String × Option String)
  | [source] => (readSource? source).map (·, none)
  | [source, package] => do
    let source ← readSource? source
    let package ← readPackage? package
    some (source, some package)
  | _ => none

/-- Reads a text: a heading and interfaces with blank lines between them, and a line feed at the
end. -/
def read? (text : String) : Option Outline :=
  match (partsAt '\n' text).splitOn "" with
  | [] => none
  | heading :: rest => do
    let (source, package) ← readHeading? heading
    let interfaces ← rest.dropLast.mapM readInterface?
    if rest.getLast? = some [] then some ⟨source, package, interfaces⟩ else none

end Outline

namespace Rendering

open Text

theorem empty_notMem_headingLines (listing : Listing) : "" ∉ headingLines listing := by
  have hlabel : "// Package: " ≠ "" := by decide
  have hback : ". Do not edit." ≠ "" := by decide
  intro hmem
  rcases List.mem_cons.mp hmem with hsource | hpackage
  · exact hback (String.append_eq_empty_iff.mp hsource.symm).2
  · split at hpackage
    · cases hpackage
    · exact hlabel (String.append_eq_empty_iff.mp (List.mem_singleton.mp hpackage).symm).1

theorem empty_notMem_interfaceLines (package : String) (definition : Definition) :
    "" ∉ interfaceLines package definition := by
  have hback : " \x7b" ≠ "" := by decide
  have hend : ";" ≠ "" := by decide
  have hclosing : "" ≠ "\x7d" := by decide
  intro hmem
  rw [interfaceLines, List.cons_append, List.mem_cons, List.mem_append, List.mem_map,
    List.mem_singleton] at hmem
  rcases hmem with hopening | ⟨member, -, hmember⟩ | hlast
  · exact hback (String.append_eq_empty_iff.mp hopening.symm).2
  · exact hend (String.append_eq_empty_iff.mp hmember).2
  · exact hclosing hlast

/-- The blocks of lines between the blank lines, and one empty block for the end of the text. -/
def blocks (listing : Listing) : List (List String) :=
  headingLines listing :: (listing.definitions.map (interfaceLines listing.package) ++ [[]])

theorem splitOn_lines (listing : Listing) :
    (lines listing ++ [""]).splitOn "" = blocks listing := by
  have hjoined : lines listing ++ [""] = [""].intercalate (blocks listing) := by
    rw [blocks, intercalate_cons, List.flatMap_append, List.flatMap_map, lines,
      List.append_assoc, List.flatMap_singleton]
  have hfree : ∀ block ∈ blocks listing, "" ∉ block := by
    intro block hblock
    rw [blocks, List.mem_cons, List.mem_append, List.mem_map, List.mem_singleton] at hblock
    rcases hblock with rfl | ⟨definition, -, rfl⟩ | rfl
    · exact empty_notMem_headingLines listing
    · exact empty_notMem_interfaceLines listing.package definition
    · exact List.not_mem_nil
  rw [hjoined]
  exact List.splitOn_intercalate "" hfree (List.cons_ne_nil _ _)

end Rendering

namespace Outline

open Text Rendering

theorem mapM_map_eq_some {α β γ : Type} {write : α → β} {read : β → Option γ} {value : α → γ}
    {items : List α} (hread : ∀ item ∈ items, read (write item) = some (value item)) :
    (items.map write).mapM read = some (items.map value) := by
  induction items with
  | nil => rfl
  | cons item rest ih =>
      have hrest := ih fun other hother => hread other (List.mem_cons_of_mem _ hother)
      rw [List.map_cons, List.mapM_cons, hread item List.mem_cons_self, hrest]
      rfl

theorem readMember?_memberLine (package : String) {member : Member}
    (hname : ':' ∉ member.name.toList) :
    readMember? (memberLine package member) =
      some (member.name, Naming.ofShape package member.shape) := by
  have hline : memberLine package member =
      "  " ++ (member.name ++ ": " ++ Naming.ofShape package member.shape) ++ ";" := by
    simp only [memberLine, memberText, String.append_assoc]
  have hinside : (member.name ++ ": " ++ Naming.ofShape package member.shape).toList =
      member.name.toList ++ ':' :: ' ' :: (Naming.ofShape package member.shape).toList := by
    simp
  rw [hline, readMember?, between?_append, Option.bind_eq_bind, Option.bind_some, hinside,
    Chars.cutAt?_append hname]
  simp [List.dropPrefix?]

theorem readOpening?_openingLine (name : String) :
    readOpening? (openingLine name) = some name :=
  between?_append _ _ _

theorem readInterface?_interfaceLines (package : String) {definition : Definition}
    (hnames : ∀ member ∈ definition.members, ':' ∉ member.name.toList) :
    readInterface? (interfaceLines package definition) =
      some (Naming.flatten definition.path, definition.members.map fun member =>
        (member.name, Naming.ofShape package member.shape)) := by
  have hmembers := mapM_map_eq_some fun member hmember =>
    readMember?_memberLine package (hnames member hmember)
  rw [interfaceLines, List.cons_append, readInterface?, readOpening?_openingLine]
  simp only [Option.bind_eq_bind, Option.bind_some, List.dropLast_concat, hmembers,
    List.getLast?_concat, if_true]

theorem readSource?_sourceLine (listing : Listing) :
    readSource? (sourceLine listing) = some listing.source :=
  between?_append _ _ _

theorem readPackage?_append (package : String) :
    readPackage? ("// Package: " ++ package) = some package := by
  have hpackage := between?_append "// Package: " "" package
  rwa [String.append_empty] at hpackage

theorem readHeading?_headingLines (listing : Listing) :
    readHeading? (headingLines listing) = some (listing.source, listing.outline.package) := by
  unfold headingLines Listing.outline
  by_cases hempty : listing.package.isEmpty = true
  · rw [if_pos hempty, readHeading?, readSource?_sourceLine]
    simp only [if_pos hempty, Option.map_some]
  · rw [if_neg hempty, readHeading?, readSource?_sourceLine, readPackage?_append]
    simp only [if_neg hempty, Option.bind_eq_bind, Option.bind_some]

/-- Reading the text of a legible listing gives its outline. -/
theorem read?_content {listing : Listing} (hlegible : listing.Legible) :
    read? (content listing) = some listing.outline := by
  have hinterfaces : (listing.definitions.map (interfaceLines listing.package)).mapM
      readInterface? = some listing.interfaces :=
    mapM_map_eq_some fun definition hdefinition =>
      readInterface?_interfaceLines listing.package fun member hmember =>
        (hlegible.name definition hdefinition member hmember).2
  -- the text divides into lines, and the lines divide into blocks
  rw [read?, content_eq hlegible.packageEnd,
    partsAt_ofLines fun line => isLine_of_mem_lines hlegible, splitOn_lines, blocks]
  simp only [readHeading?_headingLines, Option.bind_eq_bind, Option.bind_some,
    List.dropLast_concat, hinterfaces, List.getLast?_concat, if_true]
  rfl

/-- Nothing but the outline goes into the text. -/
theorem content_eq_of_outline_eq {listing other : Listing} (h : listing.outline = other.outline) :
    content listing = content other := by
  obtain ⟨hsource, hpackage, hinterfaces⟩ := Listing.eq_of_outline_eq h
  have hlines (listing : Listing) :
      (listing.definitions.flatMap fun definition =>
          "" :: interfaceLines listing.package definition) =
        listing.interfaces.flatMap fun interface =>
          "" :: openingLine interface.1 ::
            (interface.2.map fun member => memberText member.1 member.2) ++ ["\x7d"] := by
    rw [Listing.interfaces, List.flatMap_map]
    refine List.flatMap_congr fun definition _ => ?_
    rw [List.map_map]
    rfl
  have hheading : headingLines listing = headingLines other := by
    unfold headingLines sourceLine
    rw [hsource, hpackage]
  rw [content, content, lines, lines, hheading, hlines, hlines, hinterfaces]

/-- The text of a listing determines the listing as far as it is written out: reading it line by
line gives the schema file, the package if there is one, and the interfaces in order with their
members in order. So listings with the same text agree in all of these. -/
theorem read?_render (extension : String) {listing : Listing} (hnamed : listing.WellNamed) :
    read? (listing.render extension).content =
        some ⟨listing.source, if listing.package.isEmpty then none else some listing.package,
          listing.definitions.map fun definition =>
            (Naming.flatten definition.path, definition.members.map fun member =>
              (member.name, Naming.ofShape listing.package member.shape))⟩ ∧
      ∀ (extension' : String) (other : Listing), other.WellNamed →
        (other.render extension').content = (listing.render extension).content →
          other.source = listing.source ∧ other.package = listing.package ∧
            other.interfaces = listing.interfaces := by
  have hread := read?_content hnamed.legible
  refine ⟨hread, ?_⟩
  intro extension' other hother hcontent
  have hsame : some other.outline = some listing.outline := by
    rw [← read?_content hother.legible, ← hread]
    exact congrArg read? hcontent
  exact Listing.eq_of_outline_eq (Option.some.inj hsame)

/-- A listing of two interfaces, one without members and one with a sequence of a reference. -/
def cartListing (reference : String) : Listing where
  source := "shop.proto"
  package := "shop.v1"
  definitions := [
    ⟨"Cart", "Cart", [⟨"items", .sequence (.reference reference)⟩, ⟨"open", .primitive .boolean⟩]⟩,
    ⟨"Item", "Cart.Item", []⟩]

/-- A dot in front of a reference is not written out, and all the rest is read back. -/
theorem read?_render_cartListing :
    (cartListing ".shop.v1.Cart.Item").WellNamed ∧ (cartListing "shop.v1.Cart.Item").WellNamed ∧
      read? ((cartListing ".shop.v1.Cart.Item").render "ts").content =
        some ⟨"shop.proto", some "shop.v1",
          [("Cart", [("items", "Array<Cart_Item>"), ("open", "boolean")]), ("Cart_Item", [])]⟩ ∧
      (cartListing "shop.v1.Cart.Item").interfaces =
        (cartListing ".shop.v1.Cart.Item").interfaces := by
  have hnamed : (cartListing ".shop.v1.Cart.Item").WellNamed := by
    constructor <;> decide
  have hother : (cartListing "shop.v1.Cart.Item").WellNamed := by
    constructor <;> decide
  have houtline : (cartListing "shop.v1.Cart.Item").outline =
      (cartListing ".shop.v1.Cart.Item").outline := by
    decide
  obtain ⟨hread, hsame⟩ := read?_render "ts" hnamed
  refine ⟨hnamed, hother, hread.trans (by decide), ?_⟩
  exact (hsame "ts" _ hother (content_eq_of_outline_eq houtline)).2.2

end Outline

end SchemaInterfaces
