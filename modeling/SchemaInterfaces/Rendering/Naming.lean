import SchemaInterfaces.Listing.Basic
import SchemaInterfaces.Text.Dotted

/-!
# Names in the output

Dotted names of the schema become identifiers by turning dots into underscores. A reference into
the package of the file is shortened to the name that the definition has there; other references
keep their package.
-/

namespace SchemaInterfaces.Naming

namespace Chars

/-- The identifier of a dotted name. -/
def flatten (s : List Char) : List Char :=
  (Text.Chars.dropDots s).map fun c => if c = '.' then '_' else c

/-- No dot is left in an identifier. -/
theorem dot_notMem_flatten (s : List Char) : '.' ∉ flatten s := by
  rw [flatten, List.mem_map]
  rintro ⟨c, -, hc⟩
  split at hc
  · simp at hc
  · contradiction

/-- The part of a name inside a package; the whole name if it is not inside. -/
def localPart (package name : List Char) : List Char :=
  if package.isEmpty then name
  else if (package ++ ['.']).isPrefixOf name then name.drop (package.length + 1)
  else name

@[simp] theorem localPart_nil (name : List Char) : localPart [] name = name := rfl

/-- A name inside a package loses the package and the dot after it. -/
theorem localPart_append {package : List Char} (h : package ≠ []) (name : List Char) :
    localPart package (package ++ '.' :: name) = name := by
  have inside : (package ++ ['.']).isPrefixOf (package ++ '.' :: name) = true := by
    rw [List.isPrefixOf_iff_prefix]
    exact ⟨name, by simp⟩
  rw [localPart, if_neg (by simpa using h), if_pos inside]
  simp [List.drop_append]

end Chars

/-- The identifier of a dotted name. -/
def flatten (name : String) : String :=
  String.ofList (Chars.flatten name.toList)

/-- What stands for a reference in a file of the given package. -/
def ofReference (package name : String) : String :=
  let target := Text.Chars.dropDots name.toList
  if target.isEmpty then "unknown"
  else String.ofList (Chars.flatten (Chars.localPart package.toList target))

/-- What stands for a primitive type. -/
def ofPrimitive : Primitive → String
  | .numeric => "number"
  | .wideInteger .arbitraryPrecision => "bigint"
  | .wideInteger .wordPair => "[number, number]"
  | .boolean => "boolean"
  | .text => "string"
  | .bytes => "Uint8Array"

/-- What stands for a shape in a file of the given package. -/
def ofShape (package : String) : Shape → String
  | .primitive type => ofPrimitive type
  | .sequence item => "Array<" ++ ofShape package item ++ ">"
  | .reference name => ofReference package name

/-- What is kept of the name of a schema file: a final `.proto` is not. -/
def stem (source : String) : String :=
  if ".proto".toList.isSuffixOf source.toList then
    String.ofList (source.toList.take (source.toList.length - 6))
  else source

/-- The name of the output for a schema file: a final `.proto` gives way to the extension, and
other names get the extension added. -/
def ofFile (source extension : String) : String :=
  stem source ++ "." ++ extension

end SchemaInterfaces.Naming
