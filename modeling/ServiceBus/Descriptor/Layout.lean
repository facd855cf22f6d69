import ServiceBus.Descriptor.Basic
import ServiceBus.Wire.Layout

/-! # The wire form of descriptors

The layouts of the messages in which the schema compiler tells of schema files. Fields that do not
matter here are checked and passed over. -/

namespace ServiceBus.Descriptor

open Wire (FieldReader FieldRule Layout)

/-! ### Fields -/

variable {α : Type}

/-- A number with a sign in 32 bits. -/
def int32Of (n : Nat) : Int := Int.bmod n UInt32.size

/-- A field whose numbers are passed over. -/
def ignoredNumber (tag : Nat) (name : String) : FieldRule α :=
  ⟨tag, name, .number fun _ a => a⟩

/-- A field whose text is passed over. -/
def ignoredText (tag : Nat) (name : String) : FieldRule α :=
  ⟨tag, name, .text fun _ a => a⟩

/-- A field whose messages are passed over. -/
def ignoredMessage (tag : Nat) (name : String) (inner : Layout Unit) : FieldRule α :=
  ⟨tag, name, .nested (fun _ => inner) (fun _ => ()) fun _ a => a⟩

/-- A field that is a list of messages. -/
def messages {β : Type} (tag : Nat) (name : String) (inner : Layout β) (empty : β)
    (add : β → α → α) : FieldRule α :=
  ⟨tag, name, .nested (fun _ => inner) (fun _ => empty) add⟩

/-! ### Options -/

/-- A part of the name of an option. -/
def namePartLayout : Layout Unit where
  name := "NamePart"
  fields := [ignoredText 1 "name_part", ignoredNumber 2 "is_extension"]

/-- An option that the schema compiler does not know. -/
def uninterpretedOptionLayout : Layout Unit where
  name := "UninterpretedOption"
  fields := [
    ignoredMessage 2 "name" namePartLayout,
    ignoredText 3 "identifier_value",
    ignoredNumber 4 "positive_int_value",
    ignoredNumber 5 "negative_int_value",
    ⟨6, "double_value", .fixed64⟩,
    ⟨7, "string_value", .blob⟩,
    ignoredText 8 "aggregate_value"]

/-- The field of unknown options. -/
def uninterpretedOptions : FieldRule Unit :=
  ignoredMessage 999 "uninterpreted_option" uninterpretedOptionLayout

/-- Options that are switches and numbers, and unknown ones. -/
def optionsLayout (name : String) (numbers : List (Nat × String)) : Layout Unit where
  name := name
  fields := numbers.map (fun (tag, field) => ignoredNumber tag field) ++ [uninterpretedOptions]

/-- Options of a file. -/
def fileOptionsLayout : Layout Unit where
  name := "FileOptions"
  fields := [
    ignoredText 1 "java_package",
    ignoredText 8 "java_outer_classname",
    ignoredNumber 10 "java_multiple_files",
    ignoredNumber 20 "java_generate_equals_and_hash",
    ignoredNumber 27 "java_string_check_utf8",
    ignoredNumber 9 "optimize_for",
    ignoredText 11 "go_package",
    ignoredNumber 16 "cc_generic_services",
    ignoredNumber 17 "java_generic_services",
    ignoredNumber 18 "py_generic_services",
    ignoredNumber 42 "php_generic_services",
    ignoredNumber 23 "deprecated",
    ignoredNumber 31 "cc_enable_arenas",
    ignoredText 36 "objc_class_prefix",
    ignoredText 37 "csharp_namespace",
    ignoredText 39 "swift_prefix",
    ignoredText 40 "php_class_prefix",
    ignoredText 41 "php_namespace",
    ignoredText 44 "php_metadata_namespace",
    ignoredText 45 "ruby_package",
    uninterpretedOptions]

/-- Options of a message. -/
def messageOptionsLayout : Layout Unit :=
  optionsLayout "MessageOptions" [(1, "message_set_wire_format"),
    (2, "no_standard_descriptor_accessor"), (3, "deprecated"), (7, "map_entry")]

/-- Options of a field. -/
def fieldOptionsLayout : Layout Unit :=
  optionsLayout "FieldOptions" [(1, "ctype"), (2, "packed"), (6, "jstype"), (5, "lazy"),
    (3, "deprecated"), (10, "weak")]

/-- Options of an enumeration. -/
def enumOptionsLayout : Layout Unit :=
  optionsLayout "EnumOptions" [(2, "allow_alias"), (3, "deprecated")]

/-- Options of a method. -/
def methodOptionsLayout : Layout Unit :=
  optionsLayout "MethodOptions" [(33, "deprecated"), (34, "idempotency_level")]

/-! ### Enumerations -/

/-- A range of numbers. -/
def rangeLayout (name : String) (more : List (FieldRule Unit)) : Layout Unit where
  name := name
  fields := [ignoredNumber 1 "start", ignoredNumber 2 "end"] ++ more

/-- A value of an enumeration. -/
def enumValueLayout : Layout Unit where
  name := "EnumValueDescriptorProto"
  fields := [
    ignoredText 1 "name",
    ignoredNumber 2 "number",
    ignoredMessage 3 "options" (optionsLayout "EnumValueOptions" [(1, "deprecated")])]

/-- An enumeration, of which the name is kept. -/
def enumLayout : Layout String where
  name := "EnumDescriptorProto"
  fields := [
    ⟨1, "name", .text fun s _ => s⟩,
    ignoredMessage 2 "value" enumValueLayout,
    ignoredMessage 3 "options" enumOptionsLayout,
    ignoredMessage 4 "reserved_range" (rangeLayout "EnumReservedRange" []),
    ignoredText 5 "reserved_name"]

/-! ### Messages -/

/-- A field. -/
def fieldLayout : Layout Field where
  name := "FieldDescriptorProto"
  fields := [
    ⟨1, "name", .text fun s f => { f with name := s }⟩,
    ignoredNumber 3 "number",
    ignoredNumber 4 "label",
    ⟨5, "r#type", .number fun n f => { f with kind := .ofNumber (int32Of n) }⟩,
    ⟨6, "type_name", .text fun s f => { f with typeName := s }⟩,
    ignoredText 2 "extendee",
    ignoredText 7 "default_value",
    ignoredNumber 9 "oneof_index",
    ignoredText 10 "json_name",
    ignoredMessage 8 "options" fieldOptionsLayout,
    ignoredNumber 17 "proto3_optional"]

/-- A field that is not kept. -/
def extensionField (tag : Nat) : FieldRule α :=
  messages tag "extension" fieldLayout {} fun _ a => a

/-- A choice between fields. -/
def oneofLayout : Layout Unit where
  name := "OneofDescriptorProto"
  fields := [
    ignoredText 1 "name",
    ignoredMessage 2 "options" (optionsLayout "OneofOptions" [])]

/-- A message, given the layout of those in it. -/
def messageShape (inner : Layout Message) : Layout Message where
  name := "DescriptorProto"
  fields := [
    ⟨1, "name", .text fun s m => { m with name := s }⟩,
    messages 2 "field" fieldLayout {} fun f m => { m with fields := m.fields ++ [f] },
    extensionField 6,
    messages 3 "nested_type" inner {} fun n m => { m with nested := m.nested ++ [n] },
    messages 4 "enum_type" enumLayout "" fun e m => { m with enums := m.enums ++ [e] },
    ignoredMessage 5 "extension_range"
      (rangeLayout "ExtensionRange"
        [ignoredMessage 3 "options" (optionsLayout "ExtensionRangeOptions" [])]),
    ignoredMessage 8 "oneof_decl" oneofLayout,
    ignoredMessage 7 "options" messageOptionsLayout,
    ignoredMessage 9 "reserved_range" (rangeLayout "ReservedRange" []),
    ignoredText 10 "reserved_name"]

/-- A message where some levels are left below it; the messages in it have one level less. The limit
is reached before the layout for no levels is used. -/
def messageLayout : Nat → Layout Message
  | 0 => messageShape { name := "DescriptorProto", fields := [] }
  | depth + 1 => messageShape (messageLayout depth)

/-! ### Services -/

/-- A method. -/
def methodLayout : Layout Method where
  name := "MethodDescriptorProto"
  fields := [
    ⟨1, "name", .text fun s m => { m with name := s }⟩,
    ⟨2, "input_type", .text fun s m => { m with input := s }⟩,
    ⟨3, "output_type", .text fun s m => { m with output := s }⟩,
    ignoredMessage 4 "options" methodOptionsLayout,
    ⟨5, "client_streaming", .number fun n m => { m with clientStreaming := n != 0 }⟩,
    ⟨6, "server_streaming", .number fun n m => { m with serverStreaming := n != 0 }⟩]

/-- A service. -/
def serviceLayout : Layout Service where
  name := "ServiceDescriptorProto"
  fields := [
    ⟨1, "name", .text fun s v => { v with name := s }⟩,
    messages 2 "method" methodLayout {} fun m v => { v with methods := v.methods ++ [m] },
    ignoredMessage 3 "options" (optionsLayout "ServiceOptions" [(33, "deprecated")])]

/-! ### Files -/

/-- A place in the source. -/
def locationLayout : Layout Location where
  name := "Location"
  fields := [
    ⟨1, "path", .numbers fun n l => { l with path := l.path ++ [int32Of n] }⟩,
    ⟨2, "span", .numbers fun _ l => l⟩,
    ⟨3, "leading_comments", .text fun s l => { l with leading := s }⟩,
    ignoredText 4 "trailing_comments",
    ignoredText 6 "leading_detached_comments"]

/-- The places in a source. -/
def sourceLayout : Layout (List Location) where
  name := "SourceCodeInfo"
  fields := [messages 1 "location" locationLayout {} fun l ls => ls ++ [l]]

/-- A file. -/
def fileLayout : Layout File where
  name := "FileDescriptorProto"
  fields := [
    ⟨1, "name", .text fun s f => { f with name := s }⟩,
    ⟨2, "package", .text fun s f => { f with package := s }⟩,
    ignoredText 3 "dependency",
    ⟨10, "public_dependency", .numbers fun _ f => f⟩,
    ⟨11, "weak_dependency", .numbers fun _ f => f⟩,
    ⟨4, "message_type", .nested messageLayout (fun _ => {}) fun m f =>
      { f with messages := f.messages ++ [m] }⟩,
    messages 5 "enum_type" enumLayout "" fun e f => { f with enums := f.enums ++ [e] },
    messages 6 "service" serviceLayout {} fun v f => { f with services := f.services ++ [v] },
    extensionField 7,
    ignoredMessage 8 "options" fileOptionsLayout,
    ⟨9, "source_code_info", .nested (fun _ => sourceLayout) File.locations fun ls f =>
      { f with locations := ls }⟩,
    ignoredText 12 "syntax"]

end ServiceBus.Descriptor
