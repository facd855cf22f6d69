import ServiceBus.Schema.Basic

/-! # Descriptors

What the schema compiler tells of a schema file: the messages, enumerations and services as they are
declared, with the full names of the types that they use, and the comments of the source.

A `Descriptor.File` is turned into a `Schema.File` once all types that it uses are known. -/

namespace ServiceBus.Descriptor

/-- The kind of a field's type. -/
inductive FieldKind where
  | scalar (ty : Schema.ScalarType)
  | message
  | enumeration
deriving DecidableEq, Repr

/-- The kind that a number stands for; it is a scalar of the first kind if the number is unknown. -/
def FieldKind.ofNumber : Int → FieldKind
  | 2 => .scalar .float
  | 3 => .scalar .int64
  | 4 => .scalar .uint64
  | 5 => .scalar .int32
  | 6 => .scalar .fixed64
  | 7 => .scalar .fixed32
  | 8 => .scalar .bool
  | 9 => .scalar .string
  | 10 => .message
  | 11 => .message
  | 12 => .scalar .bytes
  | 13 => .scalar .uint32
  | 14 => .enumeration
  | 15 => .scalar .sfixed32
  | 16 => .scalar .sfixed64
  | 17 => .scalar .sint32
  | 18 => .scalar .sint64
  | _ => .scalar .double

/-- A field; `typeName` is the full name of its type if that has one. -/
structure Field where
  name : String := ""
  kind : FieldKind := .scalar .double
  typeName : String := ""
deriving DecidableEq, Repr

/-- A message with the messages and the names of the enumerations declared in it. -/
structure Message where
  name : String := ""
  fields : List Field := []
  nested : List Message := []
  enums : List String := []
deriving Repr, Inhabited

/-- A method; its types are given by their full names. -/
structure Method where
  name : String := ""
  input : String := ""
  output : String := ""
  clientStreaming : Bool := false
  serverStreaming : Bool := false
deriving DecidableEq, Repr

/-- Whether a side of the method sends more than one message. -/
def Method.isStreaming (m : Method) : Bool := m.clientStreaming || m.serverStreaming

/-- A service. -/
structure Service where
  name : String := ""
  methods : List Method := []
deriving DecidableEq, Repr

/-- A place in the source: the way to a declaration, and the comment in front of it. -/
structure Location where
  path : List Int := []
  leading : String := ""
deriving DecidableEq, Repr

/-- A schema file. -/
structure File where
  name : String := ""
  package : String := ""
  messages : List Message := []
  enums : List String := []
  services : List Service := []
  locations : List Location := []
deriving Repr, Inhabited

end ServiceBus.Descriptor
