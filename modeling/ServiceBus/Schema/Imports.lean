import Std.Data.TreeMap
import ServiceBus.Log
import ServiceBus.Schema.Walk
import ServiceBus.Text.Quoted

/-! # Imports of an artifact

Every artifact starts from the same imports of runtime support and adds one for each foreign module
that its types come from. Entries are kept by module path, so the emitted block is sorted.

* `ImportSet.insertType`: records the module of a type.
* `ImportSet.resolve`: the imports that a schema file needs.
* `ImportSet.qualify`: a type's path as written below those imports. -/

namespace ServiceBus.Schema

/-- One import: a path, and the name it is bound to if that is not the path's last segment. -/
structure ImportEntry where
  path : String
  boundAs : Option String := none
deriving DecidableEq, Repr

/-- The name that the import binds. -/
def ImportEntry.binding (entry : ImportEntry) : String :=
  entry.boundAs.getD (Name.lastSegment entry.path)

/-- The import as a line of code. -/
def ImportEntry.render (entry : ImportEntry) : String :=
  match entry.boundAs with
  | some name => "use " ++ entry.path ++ " as " ++ name ++ ";"
  | none => "use " ++ entry.path ++ ";"

/-- The imports of runtime support that every artifact has. -/
def baseImports : List ImportEntry := [
  ⟨"std::sync::Arc", none⟩,
  ⟨"busbridge::async_trait::async_trait", none⟩,
  ⟨"busbridge::client", none⟩,
  ⟨"busbridge::codec", none⟩,
  ⟨"busbridge::context", none⟩,
  ⟨"busbridge::service", none⟩,
  ⟨"busbridge::status", none⟩,
  ⟨"busbridge::transport", none⟩,
  ⟨"busbridge::tracing", none⟩,
  ⟨"busbridge::tracing::Instrument", some "_"⟩]

/-- What is put at the end of an alias until it is free. -/
def aliasSuffix : String := "_pb"

/-- The alias that a module path asks for: its segments after the leading `crate`, `super` and
`self`, joined by underscores without their raw marks. A single segment stays as it is. -/
def defaultAlias (module : String) : String :=
  let isLeading (segment : String) : Bool :=
    segment == "crate" || segment == "super" || segment == "self"
  match (Name.segments (Name.relative module)).dropWhile isLeading with
  | [] => "crate_root"
  | [single] => single
  | parts => "_".intercalate (parts.map fun part => String.ofList (Name.rawBody part.toList))

/-- The first of `candidate`, `candidate_pb`, `candidate_pb_pb`, … that is not taken. A taken
candidate is left out from then on: the later ones are longer. -/
def freshAlias (taken : List String) (candidate : String) : String :=
  if candidate ∈ taken then freshAlias (taken.erase candidate) (candidate ++ aliasSuffix)
  else candidate
termination_by taken.length
decreasing_by
  rename_i h
  have := List.length_pos_of_mem h
  rw [List.length_erase_of_mem h]
  omega

/-- The imports of an artifact that lives in `module`, by path. -/
structure ImportSet where
  module : String
  entries : Std.TreeMap String ImportEntry

/-- What became of a type whose module was to be imported. -/
inductive Insertion where
  /-- The type lives in the artifact's own module. -/
  | sameModule
  /-- Its module was imported before. -/
  | present
  /-- Its module is imported now. -/
  | added (set : ImportSet) (entry : ImportEntry)

namespace ImportSet

/-- The base imports, for an artifact in `module`. -/
def base (module : String) : ImportSet where
  module := module
  entries := baseImports.foldl (fun entries entry => entries.insert entry.path entry) ∅

/-- The entries in the order in which they are written. -/
def toList (set : ImportSet) : List ImportEntry :=
  set.entries.values

/-- The number of entries. -/
def size (set : ImportSet) : Nat :=
  set.entries.size

/-- The entry of a path. -/
def get? (set : ImportSet) (path : String) : Option ImportEntry :=
  set.entries[path]?

/-- Whether the path is imported. -/
def contains (set : ImportSet) (path : String) : Bool :=
  set.entries.contains path

/-- The names that are bound by some entry. -/
def bindings (set : ImportSet) : List String :=
  set.toList.map ImportEntry.binding

/-- The alias under which `module` is imported: the one it asks for, made free. There is none if
that is the module's last segment. -/
def aliasFor (set : ImportSet) (module : String) : Option String :=
  let name := freshAlias set.bindings (defaultAlias module)
  if name = Name.lastSegment module then none else some name

/-- Records the module of a type. -/
def insertType (set : ImportSet) (ty : TypeRef) : Except SchemaError Insertion := do
  ty.check
  if ty.module = set.module then return .sameModule
  if set.contains ty.module then return .present
  let entry := ⟨ty.module, set.aliasFor ty.module⟩
  return .added { set with entries := set.entries.insert ty.module entry } entry

/-- The set after an insertion into `set`. -/
def after (set : ImportSet) : Insertion → ImportSet
  | .added set' _ => set'
  | _ => set

/-- The record made of an insertion of `ty`. -/
def insertionLog (ty : TypeRef) : Insertion → List Log.Record
  | .sameModule =>
    [{ level := .trace, message := "same module, no import"
       fields := [("ty", .text ty.name), ("module", .text ty.module)] }]
  | .present => []
  | .added _ entry =>
    [{ level := .debug, message := "importing module"
       fields := [("module", .text ty.module), ("alias", .text (Text.quotedOption entry.boundAs))] }]

/-- Records the modules of several types, up to the first one that is refused. -/
def insertTypes (set : ImportSet) : List TypeRef → Logged (Except SchemaError ImportSet)
  | [] => pure (.ok set)
  | ty :: rest =>
    match set.insertType ty with
    | .error e => pure (.error e)
    | .ok insertion =>
      let later := (set.after insertion).insertTypes rest
      { value := later.value, log := insertionLog ty insertion ++ later.log }

/-- The imports that the file needs: the base imports and the modules of all types it refers to. -/
def resolve (file : File) : Logged (Except SchemaError ImportSet) :=
  match checkModulePath file.module with
  | .error e => pure (.error e)
  | .ok () => (base file.module).insertTypes file.typeRefs

/-- The path of a type as written in the artifact. -/
def qualify (set : ImportSet) (ty : TypeRef) : String :=
  if ty.module = set.module then ty.name
  else
    match set.get? ty.module with
    | some entry => entry.binding ++ "::" ++ ty.name
    | none => ty.fullPath

/-- The block of imports. Not every artifact uses every one of them. -/
def render (set : ImportSet) : String :=
  String.join (set.toList.map fun entry => "#[allow(unused_imports)]\n" ++ entry.render ++ "\n")

end ImportSet

end ServiceBus.Schema
