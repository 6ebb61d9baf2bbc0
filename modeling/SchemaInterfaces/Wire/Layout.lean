/-!
# Kinds of messages

The messages that describe schemas, ask for generated files and answer with them: which fields
each kind has, under which number and of which type. Fields that are not listed may still occur
and are skipped.
-/

namespace SchemaInterfaces.Wire

/-- The kinds of messages whose fields are known. -/
inductive Kind where
  | fileSet
  | file
  | message
  | extensionRange
  | reservedRange
  | extensionRangeOptions
  | field
  | oneof
  | enumeration
  | enumReservedRange
  | enumValue
  | service
  | method
  | fileOptions
  | messageOptions
  | fieldOptions
  | oneofOptions
  | enumOptions
  | enumValueOptions
  | serviceOptions
  | methodOptions
  | uninterpretedOption
  | namePart
  | sourceInfo
  | location
  | request
  | version
  | response
  | responseFile
  deriving DecidableEq, Repr

/-- The types of fields. Repeated fields of every type but `int32List` look like single ones. -/
inductive FieldType where
  | int32
  | enumeration
  | bool
  | word64
  | double
  | text
  | blob
  | int32List
  | record (kind : Kind)
  deriving DecidableEq, Repr

/-- A known field: its number, its name in reports and its type. -/
structure FieldLayout where
  tag : Nat
  name : String
  type : FieldType
  deriving Repr

namespace Kind

def name : Kind → String
  | fileSet => "FileDescriptorSet"
  | file => "FileDescriptorProto"
  | message => "DescriptorProto"
  | extensionRange => "ExtensionRange"
  | reservedRange => "ReservedRange"
  | extensionRangeOptions => "ExtensionRangeOptions"
  | field => "FieldDescriptorProto"
  | oneof => "OneofDescriptorProto"
  | enumeration => "EnumDescriptorProto"
  | enumReservedRange => "EnumReservedRange"
  | enumValue => "EnumValueDescriptorProto"
  | service => "ServiceDescriptorProto"
  | method => "MethodDescriptorProto"
  | fileOptions => "FileOptions"
  | messageOptions => "MessageOptions"
  | fieldOptions => "FieldOptions"
  | oneofOptions => "OneofOptions"
  | enumOptions => "EnumOptions"
  | enumValueOptions => "EnumValueOptions"
  | serviceOptions => "ServiceOptions"
  | methodOptions => "MethodOptions"
  | uninterpretedOption => "UninterpretedOption"
  | namePart => "NamePart"
  | sourceInfo => "SourceCodeInfo"
  | location => "Location"
  | request => "CodeGeneratorRequest"
  | version => "Version"
  | response => "CodeGeneratorResponse"
  | responseFile => "File"

/-- The known fields of a kind; those of options in the order of their numbers. -/
def fields : Kind → List FieldLayout
  | fileSet => [⟨1, "file", .record file⟩]
  | file =>
    [⟨1, "name", .text⟩, ⟨2, "package", .text⟩, ⟨3, "dependency", .text⟩,
      ⟨10, "public_dependency", .int32List⟩, ⟨11, "weak_dependency", .int32List⟩,
      ⟨4, "message_type", .record message⟩, ⟨5, "enum_type", .record enumeration⟩,
      ⟨6, "service", .record service⟩, ⟨7, "extension", .record field⟩,
      ⟨8, "options", .record fileOptions⟩, ⟨9, "source_code_info", .record sourceInfo⟩,
      ⟨12, "syntax", .text⟩]
  | message =>
    [⟨1, "name", .text⟩, ⟨2, "field", .record field⟩, ⟨6, "extension", .record field⟩,
      ⟨3, "nested_type", .record message⟩, ⟨4, "enum_type", .record enumeration⟩,
      ⟨5, "extension_range", .record extensionRange⟩, ⟨8, "oneof_decl", .record oneof⟩,
      ⟨7, "options", .record messageOptions⟩, ⟨9, "reserved_range", .record reservedRange⟩,
      ⟨10, "reserved_name", .text⟩]
  | extensionRange =>
    [⟨1, "start", .int32⟩, ⟨2, "end", .int32⟩, ⟨3, "options", .record extensionRangeOptions⟩]
  | reservedRange => [⟨1, "start", .int32⟩, ⟨2, "end", .int32⟩]
  | extensionRangeOptions => [⟨999, "uninterpreted_option", .record uninterpretedOption⟩]
  | field =>
    [⟨1, "name", .text⟩, ⟨3, "number", .int32⟩, ⟨4, "label", .enumeration⟩,
      ⟨5, "r#type", .enumeration⟩, ⟨6, "type_name", .text⟩, ⟨2, "extendee", .text⟩,
      ⟨7, "default_value", .text⟩, ⟨9, "oneof_index", .int32⟩, ⟨10, "json_name", .text⟩,
      ⟨8, "options", .record fieldOptions⟩, ⟨17, "proto3_optional", .bool⟩]
  | oneof => [⟨1, "name", .text⟩, ⟨2, "options", .record oneofOptions⟩]
  | enumeration =>
    [⟨1, "name", .text⟩, ⟨2, "value", .record enumValue⟩, ⟨3, "options", .record enumOptions⟩,
      ⟨4, "reserved_range", .record enumReservedRange⟩, ⟨5, "reserved_name", .text⟩]
  | enumReservedRange => [⟨1, "start", .int32⟩, ⟨2, "end", .int32⟩]
  | enumValue =>
    [⟨1, "name", .text⟩, ⟨2, "number", .int32⟩, ⟨3, "options", .record enumValueOptions⟩]
  | service =>
    [⟨1, "name", .text⟩, ⟨2, "method", .record method⟩, ⟨3, "options", .record serviceOptions⟩]
  | method =>
    [⟨1, "name", .text⟩, ⟨2, "input_type", .text⟩, ⟨3, "output_type", .text⟩,
      ⟨4, "options", .record methodOptions⟩, ⟨5, "client_streaming", .bool⟩,
      ⟨6, "server_streaming", .bool⟩]
  | fileOptions =>
    [⟨1, "java_package", .text⟩, ⟨8, "java_outer_classname", .text⟩,
      ⟨9, "optimize_for", .enumeration⟩, ⟨10, "java_multiple_files", .bool⟩,
      ⟨11, "go_package", .text⟩, ⟨16, "cc_generic_services", .bool⟩,
      ⟨17, "java_generic_services", .bool⟩, ⟨18, "py_generic_services", .bool⟩,
      ⟨20, "java_generate_equals_and_hash", .bool⟩, ⟨23, "deprecated", .bool⟩,
      ⟨27, "java_string_check_utf8", .bool⟩, ⟨31, "cc_enable_arenas", .bool⟩,
      ⟨36, "objc_class_prefix", .text⟩, ⟨37, "csharp_namespace", .text⟩,
      ⟨39, "swift_prefix", .text⟩, ⟨40, "php_class_prefix", .text⟩, ⟨41, "php_namespace", .text⟩,
      ⟨42, "php_generic_services", .bool⟩, ⟨44, "php_metadata_namespace", .text⟩,
      ⟨45, "ruby_package", .text⟩, ⟨999, "uninterpreted_option", .record uninterpretedOption⟩]
  | messageOptions =>
    [⟨1, "message_set_wire_format", .bool⟩, ⟨2, "no_standard_descriptor_accessor", .bool⟩,
      ⟨3, "deprecated", .bool⟩, ⟨7, "map_entry", .bool⟩,
      ⟨999, "uninterpreted_option", .record uninterpretedOption⟩]
  | fieldOptions =>
    [⟨1, "ctype", .enumeration⟩, ⟨2, "packed", .bool⟩, ⟨3, "deprecated", .bool⟩, ⟨5, "lazy", .bool⟩,
      ⟨6, "jstype", .enumeration⟩, ⟨10, "weak", .bool⟩,
      ⟨999, "uninterpreted_option", .record uninterpretedOption⟩]
  | oneofOptions => [⟨999, "uninterpreted_option", .record uninterpretedOption⟩]
  | enumOptions =>
    [⟨2, "allow_alias", .bool⟩, ⟨3, "deprecated", .bool⟩,
      ⟨999, "uninterpreted_option", .record uninterpretedOption⟩]
  | enumValueOptions =>
    [⟨1, "deprecated", .bool⟩, ⟨999, "uninterpreted_option", .record uninterpretedOption⟩]
  | serviceOptions =>
    [⟨33, "deprecated", .bool⟩, ⟨999, "uninterpreted_option", .record uninterpretedOption⟩]
  | methodOptions =>
    [⟨33, "deprecated", .bool⟩, ⟨34, "idempotency_level", .enumeration⟩,
      ⟨999, "uninterpreted_option", .record uninterpretedOption⟩]
  | uninterpretedOption =>
    [⟨2, "name", .record namePart⟩, ⟨3, "identifier_value", .text⟩,
      ⟨4, "positive_int_value", .word64⟩, ⟨5, "negative_int_value", .word64⟩,
      ⟨6, "double_value", .double⟩, ⟨7, "string_value", .blob⟩, ⟨8, "aggregate_value", .text⟩]
  | namePart => [⟨1, "name_part", .text⟩, ⟨2, "is_extension", .bool⟩]
  | sourceInfo => [⟨1, "location", .record location⟩]
  | location =>
    [⟨1, "path", .int32List⟩, ⟨2, "span", .int32List⟩, ⟨3, "leading_comments", .text⟩,
      ⟨4, "trailing_comments", .text⟩, ⟨6, "leading_detached_comments", .text⟩]
  | request =>
    [⟨1, "file_to_generate", .text⟩, ⟨2, "parameter", .text⟩, ⟨15, "proto_file", .record file⟩,
      ⟨3, "compiler_version", .record version⟩]
  | version =>
    [⟨1, "major", .int32⟩, ⟨2, "minor", .int32⟩, ⟨3, "patch", .int32⟩, ⟨4, "suffix", .text⟩]
  | response =>
    [⟨1, "error", .text⟩, ⟨2, "supported_features", .word64⟩, ⟨15, "file", .record responseFile⟩]
  | responseFile => [⟨1, "name", .text⟩, ⟨15, "content", .text⟩]

/-- The known field of a kind with the given number. -/
def field? (kind : Kind) (tag : Nat) : Option FieldLayout :=
  kind.fields.find? fun field => field.tag == tag

end Kind

end SchemaInterfaces.Wire
