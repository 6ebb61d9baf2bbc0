import SchemaInterfaces.Rendering.Naming
import SchemaInterfaces.Text.Split

/-!
# Rendering listings

The text of the output for a listing: a header that names the schema file, a line for the package
if there is one, and one exported interface after the other with a blank line in front of each.
The text ends with exactly one line feed, whatever blank characters the names in it end with.
-/

namespace SchemaInterfaces

/-- A file of output: where it goes and what it holds. -/
structure Rendered where
  name : String
  content : String
  deriving DecidableEq, Repr

namespace Rendering

/-- The line that opens the interface of the given name. -/
def openingLine (name : String) : String :=
  "export interface " ++ name ++ " \x7b"

/-- What stands for a member of the given name and type. -/
def memberText (name type : String) : String :=
  "  " ++ name ++ ": " ++ type ++ ";"

/-- The line of a member. -/
def memberLine (package : String) (member : Member) : String :=
  memberText member.name (Naming.ofShape package member.shape)

/-- The lines of an interface. -/
def interfaceLines (package : String) (definition : Definition) : List String :=
  openingLine (Naming.flatten definition.path) :: definition.members.map (memberLine package) ++
    ["\x7d"]

/-- The line that names the schema file. -/
def sourceLine (listing : Listing) : String :=
  "// Generated by protoc-gen-interfaces from " ++ listing.source ++ ". Do not edit."

/-- The lines in front of the interfaces. -/
def headingLines (listing : Listing) : List String :=
  sourceLine listing ::
    if listing.package.isEmpty then [] else ["// Package: " ++ listing.package]

/-- All lines of a listing. -/
def lines (listing : Listing) : List String :=
  headingLines listing ++
    listing.definitions.flatMap fun definition => "" :: interfaceLines listing.package definition

/-- The text of a listing. -/
def content (listing : Listing) : String :=
  Text.trimEnd (Text.ofLines (lines listing)) ++ "\n"

end Rendering

/-- The output for a listing, under the given file name extension. -/
def Listing.render (extension : String) (listing : Listing) : Rendered where
  name := Naming.ofFile listing.source extension
  content := Rendering.content listing

end SchemaInterfaces
