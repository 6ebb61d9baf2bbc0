import SchemaInterfaces.CommandLine.Arguments
import SchemaInterfaces.CommandLine.Halt
import SchemaInterfaces.CommandLine.Style
import SchemaInterfaces.Generator
import SchemaInterfaces.Json.Writer
import SchemaInterfaces.Listing.Json
import SchemaInterfaces.Sources

/-!
# Sessions

The commands that work on schema sets, on any storage. A session says what it does line by line,
and what was said before it halts stays said.
-/

namespace SchemaInterfaces.CommandLine

/-- A session on the storage of `m`, with the text said so far. -/
abbrev Session (m : Type → Type) : Type → Type :=
  ExceptT Halt (StateT String m)

/-- How a session talks. -/
structure Manner where
  coloured : Bool := false
  verbose : Bool := false

namespace Session

variable {m : Type → Type} [Monad m]

def say (line : String) : Session m Unit :=
  modify fun said => said ++ line ++ "\n"

/-- Takes a step on the storage. -/
def take {α : Type} (step : Step) (action : m (Except Failure α)) : Session m α :=
  ExceptT.mk do
    let result ← StateT.lift action
    return step.outcome result

/-- The settings of a source. -/
def settingsOf [Storage.Access m] (source : Source) : Session m Settings := do
  let settings ←
    match source.settings with
    | some path => take .loadSettings (Settings.load path)
    | none => pure {}
  return if source.all then { settings with everyFile := true } else settings

/-- What is said about a schema set before its listings are shown. -/
def inspectionLines (manner : Manner) (source : Source) (set : SchemaSet) (settings : Settings) :
    List String :=
  (Style.cyan.apply manner.coloured "→" ++ " Inspecting descriptor set: " ++ source.schemaSet) ::
    if manner.verbose then
      ["  Files: " ++ toString set.files.length,
        "  Wide integers: " ++ settings.wideIntegers.name,
        "  Validate: " ++ toString settings.validate]
    else []

/-- What is said about a listing. -/
def listingLines (manner : Manner) (listing : Listing) : List String :=
  ["\n" ++ Style.bold.apply manner.coloured listing.source] ++
  (if listing.package.isEmpty then []
    else ["  Package: " ++ Style.yellow.apply manner.coloured listing.package]) ++
  ["  Types: " ++ toString listing.definitions.length] ++
  listing.definitions.flatMap fun definition =>
    ("  • " ++ Style.cyan.apply manner.coloured definition.path ++ " (" ++
      toString definition.members.length ++ " fields)") ::
    if manner.verbose then
      definition.members.map fun member =>
        "      " ++ member.name ++ ": " ++ member.shape.describe
    else []

/-- The document that shows listings. -/
def document (listings : List Listing) : String :=
  (Json.array (listings.map Listing.toJson)).pretty

/-- Shows what is made of a schema set. -/
def inspect [Storage.Access m] (manner : Manner) (source : Source) (json : Bool) :
    Session m Unit := do
  let settings ← settingsOf source
  let set ← take .loadSchemaSet (SchemaSet.load source.schemaSet)
  unless json do
    (inspectionLines manner source set settings).forM say
  let listings ← take .assemble (pure (settings.assemble set.files set.targets))
  if json then
    say (document listings)
  else
    say ("\n" ++ Style.boldGreen.apply manner.coloured "✓ Assembly successful!")
    listings.forM fun listing => (listingLines manner listing).forM say

/-- What is said before output is written. -/
def openingLine (manner : Manner) (source : Source) : String :=
  Style.cyan.apply manner.coloured "→" ++ " Rendering interfaces from: " ++ source.schemaSet

/-- What is said about the settings for writing output, if more is to be said. -/
def settingsLines (manner : Manner) (output : String) (settings : Settings) : List String :=
  if manner.verbose then
    ["  Output: " ++ output,
      "  Extension: ." ++ settings.extension,
      "  Wide integers: " ++ settings.wideIntegers.name]
  else []

def loadedLine (manner : Manner) (set : SchemaSet) : String :=
  Style.green.apply manner.coloured "✓" ++ " Loaded " ++ toString set.files.length ++ " descriptors"

/-- What is said in the end, with the paths that have been written to. -/
def closingLines (manner : Manner) (paths : List String) : List String :=
  ("\n" ++ Style.boldGreen.apply manner.coloured "✓ Generation complete!") ::
    ("\n" ++ Style.bold.apply manner.coloured "Generated files:") :: paths.map ("  📄 " ++ ·)

/-- Writes the output for a schema set below a directory. -/
def render [Storage.Access m] (manner : Manner) (source : Source) (output : String) :
    Session m Unit := do
  say (openingLine manner source)
  let settings ← settingsOf source
  (settingsLines manner output settings).forM say
  let set ← take .loadSchemaSet (SchemaSet.load source.schemaSet)
  say (loadedLine manner set)
  let generator : Generator m := Generator.ofSettings settings
  let written ← take .render (generator.generateBelow set.files set.targets output)
  (closingLines manner written).forM say

end Session

end SchemaInterfaces.CommandLine
