import ServiceBus.Descriptor.Index
import ServiceBus.Log
import ServiceBus.Text.Blank

/-! # From descriptors to schema files

`File.toSchema` resolves the names of all types that a descriptor uses. It stops at the first that
nobody declares: fields come before the messages nested beside them, messages before services.
Streaming methods are left out. -/

namespace ServiceBus.Descriptor

open Schema (SchemaError)

/-! ### Comments -/

/-- A line of a comment without the blank that sets it off, and without blanks at its end. -/
def commentLine (line : String) : String :=
  Text.trimEnd (if line.startsWith " " then String.ofList line.toList.tail else line)

/-- The lines of a comment. -/
def commentLines (comment : String) : List String :=
  (Text.lines (Text.trimEnd comment)).map commentLine

/-- The lines of the comment in front of the declaration that a path leads to. -/
def docsAt (locations : List Location) (path : List Int) : List String :=
  match locations.find? (·.path == path) with
  | some location => commentLines location.leading
  | none => []

/-- The path to the service at a position of its file. -/
def servicePath (position : Nat) : List Int := [6, position]

/-- The path to the method at a position of its service. -/
def methodPath (service : List Int) (position : Nat) : List Int := service ++ [2, (position : Int)]

/-! ### Declarations -/

/-- The type of a field. -/
def Field.typeIn (index : TypeIndex) (f : Field) : Except SchemaError Schema.FieldType :=
  match f.kind with
  | .scalar ty => .ok (.scalar ty)
  | .message => (index.resolve f.typeName).map .message
  | .enumeration => (index.resolve f.typeName).map .enumeration

/-- The field with its type resolved. -/
def Field.toSchema (index : TypeIndex) (f : Field) : Except SchemaError Schema.Field := do
  return { name := f.name, type := ← f.typeIn index }

mutual

/-- The message with all types resolved. -/
def Message.toSchema (index : TypeIndex) : Message → Except SchemaError Schema.Message
  | ⟨name, fields, nested, _⟩ => do
    let fields ← fields.mapM (Field.toSchema index)
    let nested ← messagesToSchema index nested
    return { name, fields, nested }

/-- The messages with all types resolved. -/
def messagesToSchema (index : TypeIndex) : List Message → Except SchemaError (List Schema.Message)
  | [] => return []
  | m :: rest => do
    let m ← m.toSchema index
    let rest ← messagesToSchema index rest
    return m :: rest

end

/-- The method with its types resolved. -/
def Method.toSchema (index : TypeIndex) (docs : List String) (m : Method) :
    Except SchemaError Schema.Method := do
  let input ← index.resolve m.input
  let output ← index.resolve m.output
  return { name := m.name, input, output, docs }

/-- The record of a method that is left out. -/
def Method.skipRecord (service : String) (m : Method) : Log.Record where
  level := .warn
  message := "skipping streaming method"
  fields := [("service", .text service), ("method", .text m.name)]

/-- The methods of a service from a position on, without those that stream. -/
def methodsToSchema (index : TypeIndex) (locations : List Location) (service : String)
    (path : List Int) : Nat → List Method → Logged (Except SchemaError (List Schema.Method))
  | _, [] => return .ok []
  | position, m :: rest => do
    if m.isStreaming then
      Logged.report (m.skipRecord service)
      methodsToSchema index locations service path (position + 1) rest
    else
      match m.toSchema index (docsAt locations (methodPath path position)) with
      | .error e => return .error e
      | .ok m =>
        return (← methodsToSchema index locations service path (position + 1) rest).map (m :: ·)

/-- The service at a position with all types resolved. -/
def Service.toSchema (index : TypeIndex) (locations : List Location) (position : Nat)
    (s : Service) : Logged (Except SchemaError Schema.Service) := do
  let path := servicePath position
  return (← methodsToSchema index locations s.name path 0 s.methods).map fun methods =>
    { name := s.name, methods, docs := docsAt locations path }

/-- The services from a position on with all types resolved. -/
def servicesToSchema (index : TypeIndex) (locations : List Location) :
    Nat → List Service → Logged (Except SchemaError (List Schema.Service))
  | _, [] => return .ok []
  | position, s :: rest => do
    match ← s.toSchema index locations position with
    | .error e => return .error e
    | .ok s => return (← servicesToSchema index locations (position + 1) rest).map (s :: ·)

/-! ### Files -/

/-- The ending of the names of schema files. -/
def fileEnding : String := ".proto"

/-- The name of a schema file without its ending. -/
def stem (name : String) : String :=
  if name.endsWith fileEnding then
    String.ofList (name.toList.take (name.toList.length - fileEnding.length))
  else name

/-- The file with all types resolved. -/
def File.toSchema (modules : ModuleMap) (index : TypeIndex) (file : File) :
    Logged (Except SchemaError Schema.File) := do
  match messagesToSchema index file.messages with
  | .error e => return .error e
  | .ok messages =>
    return (← servicesToSchema index file.locations 0 file.services).map fun services =>
      { name := file.name, package := file.package, module := modules.moduleFor file.package,
        stem := stem file.name, messages, services }

/-- The file of a name, with all types resolved. -/
def schemaOf (modules : ModuleMap) (index : TypeIndex) (files : List File) (name : String) :
    Logged (Except SchemaError Schema.File) :=
  match files.find? (·.name == name) with
  | none => return .error (.unresolvedType name)
  | some file => file.toSchema modules index

/-- The files of several names, with all types resolved. A file that fails leaves its siblings
alone. -/
def schemasOf (modules : ModuleMap) (index : TypeIndex) (files : List File) :
    List String → Logged (List (String × Except SchemaError Schema.File))
  | [] => return []
  | name :: names => do
    let schema ← schemaOf modules index files name
    return (name, schema) :: (← schemasOf modules index files names)

/-- The index of the types that files declare. -/
def indexTypes (modules : ModuleMap) (files : List File) : Logged TypeIndex := do
  let index := TypeIndex.ofFiles modules files
  Logged.report { level := .debug, message := "indexed schema types",
                  fields := [("types", .number index.size)] }
  return index

end ServiceBus.Descriptor
