import Std.Data.TreeMap
import ServiceBus.Descriptor.Basic
import ServiceBus.Settings.Modules

/-! # Declared types

Every message and every enumeration of a descriptor, at any depth, is declared under a full name:
the package, the enclosing messages and its own name, each with a dot in front.

* `File.declarations`: the types that a file declares, and where they live.
* `TypeIndex.resolve`: the type of a full name. -/

namespace ServiceBus.Descriptor

/-- A type that is declared: its full name and where it lives. -/
structure Declaration where
  fullName : String
  type : Schema.TypeRef
deriving DecidableEq, Repr

/-- Where declarations stand. -/
structure Scope where
  /-- What the full names begin with. -/
  fullName : String
  /-- The module of the file. -/
  module : String
  /-- The modules of the enclosing messages, outermost first. -/
  parents : List String := []
deriving DecidableEq, Repr

namespace Scope

/-- The declaration of a name. -/
def declare (scope : Scope) (name : String) : Declaration where
  fullName := scope.fullName ++ "." ++ name
  type := {
    module := scope.module
    name := "::".intercalate (scope.parents ++ [Name.escape (Name.camel name)]) }

/-- The scope inside a message. -/
def inside (scope : Scope) (message : String) : Scope where
  fullName := scope.fullName ++ "." ++ message
  module := scope.module
  parents := scope.parents ++ [Name.escape (Name.snake message)]

end Scope

mutual

/-- The types that a message declares: itself, then those inside it. -/
def Message.declarations (scope : Scope) : Message → List Declaration
  | ⟨name, _, nested, enums⟩ =>
    scope.declare name ::
      (declarationsOf (scope.inside name) nested ++ enums.map (scope.inside name).declare)

/-- The types that messages declare. -/
def declarationsOf (scope : Scope) : List Message → List Declaration
  | [] => []
  | m :: rest => m.declarations scope ++ declarationsOf scope rest

end

/-- The scope of a file's own declarations. -/
def File.scope (modules : ModuleMap) (file : File) : Scope where
  fullName := if file.package.isEmpty then "" else "." ++ file.package
  module := modules.moduleFor file.package

/-- The types that a file declares. -/
def File.declarations (modules : ModuleMap) (file : File) : List Declaration :=
  declarationsOf (file.scope modules) file.messages ++ file.enums.map (file.scope modules).declare

/-- Where each declared type lives, by full name. -/
structure TypeIndex where
  types : Std.TreeMap String Schema.TypeRef

namespace TypeIndex

/-- The index of some declarations; the last of each name counts. -/
def ofDeclarations (ds : List Declaration) : TypeIndex :=
  ⟨ds.foldl (fun types d => types.insert d.fullName d.type) ∅⟩

/-- The types that files declare. -/
def ofFiles (modules : ModuleMap) (files : List File) : TypeIndex :=
  ofDeclarations (files.flatMap (File.declarations modules))

/-- The type of a full name. -/
def resolve (index : TypeIndex) (fullName : String) : Except Schema.SchemaError Schema.TypeRef :=
  match index.types[fullName]? with
  | some ty => .ok ty
  | none => .error (.unresolvedType fullName)

/-- The number of names. -/
def size (index : TypeIndex) : Nat := index.types.size

end TypeIndex

end ServiceBus.Descriptor
