import SchemaInterfaces.Check.Basic
import SchemaInterfaces.Check.Literal
import SchemaInterfaces.Check.Options
import SchemaInterfaces.Check.Scope
import SchemaInterfaces.Check.Symbols
import SchemaInterfaces.Check.Violation
import SchemaInterfaces.CommandLine.Arguments
import SchemaInterfaces.CommandLine.Halt
import SchemaInterfaces.CommandLine.Run
import SchemaInterfaces.CommandLine.Session
import SchemaInterfaces.CommandLine.Style
import SchemaInterfaces.Decimal.Basic
import SchemaInterfaces.Decimal.Binary
import SchemaInterfaces.Descriptor.Basic
import SchemaInterfaces.Descriptor.Options
import SchemaInterfaces.Descriptor.Record
import SchemaInterfaces.Failure
import SchemaInterfaces.Generator
import SchemaInterfaces.Json.Basic
import SchemaInterfaces.Json.Reader
import SchemaInterfaces.Json.Writer
import SchemaInterfaces.Listing.Assembly
import SchemaInterfaces.Listing.Basic
import SchemaInterfaces.Listing.Json
import SchemaInterfaces.Main
import SchemaInterfaces.Proofs.Check.Fields
import SchemaInterfaces.Proofs.Check.Scope
import SchemaInterfaces.Proofs.Check.Symbols
import SchemaInterfaces.Proofs.CommandLine.Agreement
import SchemaInterfaces.Proofs.CommandLine.Inspection
import SchemaInterfaces.Proofs.CommandLine.Plugin
import SchemaInterfaces.Proofs.CommandLine.Refusals
import SchemaInterfaces.Proofs.CommandLine.Sessions
import SchemaInterfaces.Proofs.Descriptor.Chains
import SchemaInterfaces.Proofs.Descriptor.Places
import SchemaInterfaces.Proofs.Generator
import SchemaInterfaces.Proofs.Generator.Calls
import SchemaInterfaces.Proofs.Generator.Containment
import SchemaInterfaces.Proofs.Generator.Effects
import SchemaInterfaces.Proofs.Generator.Selection
import SchemaInterfaces.Proofs.Generator.Writing
import SchemaInterfaces.Proofs.Json.Legible
import SchemaInterfaces.Proofs.Json.Literal
import SchemaInterfaces.Proofs.Listing.Descriptions
import SchemaInterfaces.Proofs.Listing.Growth
import SchemaInterfaces.Proofs.Listing.Json
import SchemaInterfaces.Proofs.Listing.LookUp
import SchemaInterfaces.Proofs.Listing.Preorder
import SchemaInterfaces.Proofs.Listing.WideIntegers
import SchemaInterfaces.Proofs.Outcome
import SchemaInterfaces.Proofs.Reading
import SchemaInterfaces.Proofs.Rendering.InterfaceNames
import SchemaInterfaces.Proofs.Rendering.Legible
import SchemaInterfaces.Proofs.Rendering.Lines
import SchemaInterfaces.Proofs.Rendering.LocalNames
import SchemaInterfaces.Proofs.Rendering.Outline
import SchemaInterfaces.Proofs.Rendering.OutputNames
import SchemaInterfaces.Proofs.Rendering.References
import SchemaInterfaces.Proofs.Rendering.TypeTexts
import SchemaInterfaces.Proofs.Rendering.ValidatedReferences
import SchemaInterfaces.Proofs.Response
import SchemaInterfaces.Proofs.Settings.Composition
import SchemaInterfaces.Proofs.Settings.Extension
import SchemaInterfaces.Proofs.Settings.Options
import SchemaInterfaces.Proofs.Settings.Parameter
import SchemaInterfaces.Proofs.Settings.PassedExtension
import SchemaInterfaces.Proofs.Settings.Verdicts
import SchemaInterfaces.Proofs.Storage.Changes
import SchemaInterfaces.Proofs.Storage.Locations
import SchemaInterfaces.Proofs.Storage.Walks
import SchemaInterfaces.Proofs.Text.Escaping
import SchemaInterfaces.Proofs.Text.Identifier
import SchemaInterfaces.Proofs.Text.Joining
import SchemaInterfaces.Proofs.Text.Splitting
import SchemaInterfaces.Proofs.Text.Trimming
import SchemaInterfaces.Proofs.Wire.Writer
import SchemaInterfaces.Proofs.Yaml.Entry
import SchemaInterfaces.Proofs.Yaml.Quoted
import SchemaInterfaces.Reading
import SchemaInterfaces.Rendering.Basic
import SchemaInterfaces.Rendering.Naming
import SchemaInterfaces.Request
import SchemaInterfaces.Response
import SchemaInterfaces.Settings.Basic
import SchemaInterfaces.Settings.Document
import SchemaInterfaces.Settings.Json
import SchemaInterfaces.Settings.Parameter
import SchemaInterfaces.Sources
import SchemaInterfaces.Storage.Basic
import SchemaInterfaces.Storage.Path
import SchemaInterfaces.Storage.Tree
import SchemaInterfaces.Text.Basic
import SchemaInterfaces.Text.Dotted
import SchemaInterfaces.Text.Quoted
import SchemaInterfaces.Text.Split
import SchemaInterfaces.Width
import SchemaInterfaces.Wire.Fault
import SchemaInterfaces.Wire.Form
import SchemaInterfaces.Wire.Layout
import SchemaInterfaces.Wire.Record
import SchemaInterfaces.Wire.Varint
import SchemaInterfaces.Yaml.Document
import SchemaInterfaces.Yaml.Mark
import SchemaInterfaces.Yaml.Node
import SchemaInterfaces.Yaml.Scalar
import SchemaInterfaces.Yaml.Tag
import SchemaInterfaces.Yaml.Token
import SchemaInterfaces.Yaml.Value
