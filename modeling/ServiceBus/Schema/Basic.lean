import ServiceBus.Name.Identifier

/-! # Schema files

The input of the adaptor generator: one schema file with the messages and services it declares. A
frontend builds these values; the generator only reads them.

* `TypeRef`: a named type and the module that declares it; `TypeRef.check` says whether its path can
  be written in generated code.
* `SchemaError`: what can be wrong with a reference.
* `Message`, `Service`, `File`: the declarations. -/

namespace ServiceBus.Schema

/-- What is wrong with a type reference or a module path. -/
inductive SchemaError where
  /-- A reference into `module` names no type. -/
  | emptyTypeName (module : String)
  /-- The module path is not a sequence of identifiers. -/
  | invalidModulePath (path : String)
  /-- The type's path is not a sequence of identifiers. -/
  | invalidTypeName (name : String)
  /-- No file of the request declares the type. -/
  | unresolvedType (name : String)
deriving DecidableEq, Repr

/-- The text of a schema error. -/
def SchemaError.message : SchemaError → String
  | .emptyTypeName m => s!"empty type name referenced from module `{m}`"
  | .invalidModulePath p => s!"invalid module path `{p}`"
  | .invalidTypeName n => s!"invalid type name `{n}`"
  | .unresolvedType n => s!"unresolved type `{n}`"

/-- A named type: `name` is its path relative to `module`. -/
structure TypeRef where
  module : String
  name : String
deriving DecidableEq, Repr

/-- Whether every segment of the path is an identifier. -/
def isPath (path : String) : Bool :=
  (Name.segments path).all Name.isIdentifier

/-- Accepts a module path such as `crate::a::b` or `::lib`. -/
def checkModulePath (path : String) : Except SchemaError Unit :=
  let inner := Name.relative path
  if inner.isEmpty || !isPath inner then .error (.invalidModulePath path) else .ok ()

/-- The path of the type from the root. -/
def TypeRef.fullPath (ty : TypeRef) : String :=
  ty.module ++ "::" ++ ty.name

/-- Accepts a reference whose full path can be written in generated code. -/
def TypeRef.check (ty : TypeRef) : Except SchemaError Unit := do
  checkModulePath ty.module
  if ty.name.isEmpty then throw (.emptyTypeName ty.module)
  if !isPath ty.name then throw (.invalidTypeName ty.name)

/-- The scalar value types of a schema. -/
inductive ScalarType where
  | double
  | float
  | int32
  | int64
  | uint32
  | uint64
  | sint32
  | sint64
  | fixed32
  | fixed64
  | sfixed32
  | sfixed64
  | bool
  | string
  | bytes
deriving DecidableEq, Repr

/-- The type of a field. -/
inductive FieldType where
  | scalar (ty : ScalarType)
  | message (ty : TypeRef)
  | enumeration (ty : TypeRef)
deriving DecidableEq, Repr

/-- The named type that the field's type refers to, if it is not a scalar. -/
def FieldType.typeRef? : FieldType → Option TypeRef
  | .scalar _ => none
  | .message ty | .enumeration ty => some ty

/-- A field of a message. -/
structure Field where
  name : String
  type : FieldType
deriving DecidableEq, Repr

/-- A message and the messages nested in it. -/
structure Message where
  name : String
  fields : List Field := []
  nested : List Message := []
deriving Repr, Inhabited

/-- A method with one request and one reply. -/
structure Method where
  name : String
  input : TypeRef
  output : TypeRef
  docs : List String := []
deriving DecidableEq, Repr

/-- A service: a named group of methods. -/
structure Service where
  name : String
  methods : List Method := []
  docs : List String := []
deriving DecidableEq, Repr

/-- One schema file. Its types live in the module `module`; what is generated from it is named after
`stem`. -/
structure File where
  name : String
  package : String
  module : String
  stem : String
  messages : List Message := []
  services : List Service := []
deriving Repr

end ServiceBus.Schema
