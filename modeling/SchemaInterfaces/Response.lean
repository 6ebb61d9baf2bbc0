import SchemaInterfaces.Descriptor.Record
import SchemaInterfaces.Rendering.Basic
import SchemaInterfaces.Wire.Record

/-!
# Responses

What a plugin hands back to the schema compiler: either the report of an error or files of output,
together with the features of schemas that it knows about. Whatever is unset is not written.
-/

namespace SchemaInterfaces

/-- A response to a request. -/
structure Response where
  error : Option String := none
  /-- The sum of the numbers of all known features. -/
  features : Option Nat := none
  files : List Rendered := []
  deriving DecidableEq, Repr

namespace Response

/-- The number of the feature that fields may be marked as optional. -/
def optionalFields : Nat :=
  1

/-- The response to a request that cannot be met. -/
def failed (report : String) : Response where
  error := some report

/-- The response that hands over files. -/
def succeeded (files : List Rendered) : Response where
  features := some optionalFields
  files := files

def fileBytes (file : Rendered) : List UInt8 :=
  Wire.Writer.text 1 file.name ++ Wire.Writer.text 15 file.content

def toBytes (response : Response) : List UInt8 :=
  (response.error.map (Wire.Writer.text 1)).getD [] ++
    (response.features.map (Wire.Writer.number 2)).getD [] ++
    response.files.flatMap fun file => Wire.Writer.blob 15 (fileBytes file)

/-- A file as it stands in a response; its name and its content may be unset. -/
structure FileView where
  name : Option String
  content : Option String
  deriving DecidableEq, Repr

/-- All that a reader finds in a response. -/
structure View where
  error : Option String
  features : Option Int
  files : List FileView
  deriving DecidableEq, Repr

def FileView.ofRecord (r : Wire.Record) : FileView where
  name := r.text? 1
  content := r.text? 15

def View.ofRecord (r : Wire.Record) : View where
  error := r.text? 1
  features := r.number? 2
  files := (r.records 15).map FileView.ofRecord

/-- What a reader finds in the bytes of a response. -/
def View.ofBytes (bytes : List UInt8) : Except Wire.Fault View :=
  (Wire.Record.ofBytes .response bytes).map View.ofRecord

end Response

end SchemaInterfaces
