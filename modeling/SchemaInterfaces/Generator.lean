import SchemaInterfaces.Check.Basic
import SchemaInterfaces.Failure
import SchemaInterfaces.Listing.Assembly
import SchemaInterfaces.Rendering.Basic
import SchemaInterfaces.Storage.Path

/-!
# Generation

From schema files to output: the files are checked if the settings say so, the listings of the
chosen files are made, and a renderer turns one listing after the other into output, which may be
written below a directory.

The renderer may have effects of its own, so a run shows in which order it is called. Nothing is
written before all output is there.
-/

namespace SchemaInterfaces

/-- The listings of the files that are to give output under the settings. -/
def Settings.assemble (settings : Settings) (files : List Descriptor.File)
    (targets : List String) : Except Failure (List Listing) := do
  if settings.validate then
    (Check.checkFiles files).mapError .violation
  if settings.everyFile then
    return Listing.ofFiles settings.wideIntegers files
  else
    return Listing.ofRequested settings.wideIntegers files targets

/-- Settings, and a renderer that acts in `m`. -/
structure Generator (m : Type → Type) where
  settings : Settings
  render : Listing → m (Except Failure Rendered)

namespace Generator

variable {m : Type → Type} [Monad m]

/-- The generator of interfaces under the given settings. -/
def ofSettings (settings : Settings) : Generator m where
  settings := settings
  render listing := pure (.ok (listing.render settings.extension))

/-- Renders one listing after the other, up to the first on which the renderer fails. -/
def renderAll (generator : Generator m) : List Listing → m (Except Failure (List Rendered))
  | [] => return .ok []
  | listing :: others => do
    match ← generator.render listing with
    | .error failure => return .error failure
    | .ok rendered => return (← generator.renderAll others).map (rendered :: ·)

/-- The output for the chosen files. -/
def generate (generator : Generator m) (files : List Descriptor.File) (targets : List String) :
    m (Except Failure (List Rendered)) :=
  match generator.settings.assemble files targets with
  | .error failure => return .error failure
  | .ok listings => generator.renderAll listings

end Generator

namespace Rendered

variable {m : Type → Type} [Monad m] [Storage.Access m]

/-- Writes a file of output below a directory; the path that it was written to. -/
def writeBelow (directory : String) (rendered : Rendered) : m (Except Failure String) := do
  let path := Storage.Path.join directory rendered.name
  let prepared ←
    match Storage.Path.parent? path with
    | none => pure (.ok ())
    | some parent => do
      let created ← Storage.Access.createDirectories parent
      pure (created.mapError (Failure.directory parent))
  match prepared with
  | .error failure => return .error failure
  | .ok () =>
    match ← Storage.Access.write path (Text.toBytes rendered.content) with
    | .error error => return .error (.outputFile rendered.name error)
    | .ok () => return .ok path

/-- Writes files of output, one after the other, up to the first that cannot be written. -/
def writeAllBelow (directory : String) : List Rendered → m (Except Failure (List String))
  | [] => return .ok []
  | rendered :: others => do
    match ← rendered.writeBelow directory with
    | .error failure => return .error failure
    | .ok path => return (← writeAllBelow directory others).map (path :: ·)

end Rendered

/-- Creates a directory and writes the output for the chosen files below it; the paths that were
written to, in the order of the files. -/
def Generator.generateBelow {m : Type → Type} [Monad m] [Storage.Access m]
    (generator : Generator m) (files : List Descriptor.File) (targets : List String)
    (directory : String) : m (Except Failure (List String)) := do
  match ← Storage.Access.createDirectories directory with
  | .error error => return .error (.outputDirectory error)
  | .ok () =>
    match ← generator.generate files targets with
    | .error failure => return .error failure
    | .ok rendered => Rendered.writeAllBelow directory rendered

end SchemaInterfaces
