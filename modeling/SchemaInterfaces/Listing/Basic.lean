/-!
# Listings

The interfaces made from one schema file, before they are written out in any language: an ordered
list of definitions, one for each message, each with its members in order.

A listing only grows at its end, so a definition that a look-up has found is found from then on.
-/

namespace SchemaInterfaces

/-- How a 64-bit integer that is no plain number is held. -/
inductive WideForm where
  | arbitraryPrecision
  | wordPair
  deriving DecidableEq, Repr

def WideForm.name : WideForm → String
  | arbitraryPrecision => "arbitrary_precision"
  | wordPair => "word_pair"

/-- A type without parts. -/
inductive Primitive where
  | numeric
  | wideInteger (form : WideForm)
  | boolean
  | text
  | bytes
  deriving DecidableEq, Repr

def Primitive.describe : Primitive → String
  | numeric => "numeric"
  | wideInteger form => "wide_integer(" ++ form.name ++ ")"
  | boolean => "boolean"
  | text => "text"
  | bytes => "bytes"

/-- The type of a member. -/
inductive Shape where
  | primitive (type : Primitive)
  | sequence (item : Shape)
  /-- A type known only by the name under which the schema refers to it. -/
  | reference (name : String)
  deriving DecidableEq, Repr

namespace Shape

def isSequence : Shape → Bool
  | sequence _ => true
  | primitive _ | reference _ => false

def describe : Shape → String
  | primitive type => type.describe
  | sequence item => "sequence<" ++ item.describe ++ ">"
  | reference name => "ref(" ++ name ++ ")"

end Shape

/-- A member of an interface. -/
structure Member where
  name : String
  shape : Shape
  deriving DecidableEq, Repr

/-- An interface: the message it stands for, and its members. -/
structure Definition where
  name : String
  /-- The names of the enclosing messages and of the message, joined by dots. -/
  path : String
  members : List Member := []
  deriving DecidableEq, Repr

namespace Definition

/-- The definition with one more member at the end. -/
def addMember (definition : Definition) (name : String) (shape : Shape) : Definition :=
  { definition with members := definition.members ++ [⟨name, shape⟩] }

/-- The first member of the given name. -/
def member? (definition : Definition) (name : String) : Option Member :=
  definition.members.find? fun member => member.name == name

end Definition

/-- The interfaces made from one schema file. -/
structure Listing where
  /-- The name of the schema file. -/
  source : String
  package : String := ""
  definitions : List Definition := []
  deriving DecidableEq, Repr

namespace Listing

/-- The listing under another package. -/
def withPackage (listing : Listing) (package : String) : Listing :=
  { listing with package := package }

/-- The listing with one more definition at the end. -/
def push (listing : Listing) (definition : Definition) : Listing :=
  { listing with definitions := listing.definitions ++ [definition] }

/-- The first definition with the given path. -/
def find? (listing : Listing) (path : String) : Option Definition :=
  listing.definitions.find? fun definition => definition.path == path

def isEmpty (listing : Listing) : Bool :=
  listing.definitions.isEmpty

@[simp] theorem source_push (listing : Listing) (definition : Definition) :
    (listing.push definition).source = listing.source := rfl

@[simp] theorem package_push (listing : Listing) (definition : Definition) :
    (listing.push definition).package = listing.package := rfl

@[simp] theorem definitions_push (listing : Listing) (definition : Definition) :
    (listing.push definition).definitions = listing.definitions ++ [definition] := rfl

@[simp] theorem definitions_withPackage (listing : Listing) (package : String) :
    (listing.withPackage package).definitions = listing.definitions := rfl

/-- A look-up sees a definition at the end only if none before it has its path. -/
theorem find?_push (listing : Listing) (definition : Definition) (path : String) :
    (listing.push definition).find? path =
      (listing.find? path).or (if definition.path == path then some definition else none) := by
  simp only [find?, definitions_push, List.find?_append]
  congr 1
  cases h : definition.path == path <;> simp [h]

@[simp] theorem find?_withPackage (listing : Listing) (package path : String) :
    (listing.withPackage package).find? path = listing.find? path := rfl

end Listing

end SchemaInterfaces
