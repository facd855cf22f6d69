import ServiceBus.Adaptor.Artifact
import ServiceBus.Settings.Toml
import ServiceBus.Text.Dictionary

/-! # Settings

What a run of the generator is told. Settings come from a file and from a parameter; what comes later
wins.

* `Settings.check`: says what is wrong with settings.
* `Settings.ofToml`: reads the text of a file.
* `Settings.applyParameter`: applies a parameter, a list of `key=value`.
* `Settings.load`: finds and reads the file. -/

namespace ServiceBus

/-- What a run of the generator is told. -/
structure Settings where
  /-- Whether the log tells details. -/
  debug : Bool := false
  /-- What the names of artifacts end with. -/
  suffix : String := ({} : Adaptor.Options).suffix
  /-- The module below which those of packages are. -/
  moduleRoot : String := "crate"
  /-- Packages, each with a dot in front, whose types are in modules of their own. -/
  externPaths : Text.Dictionary := []
  /-- The folder of template overrides. -/
  templates? : Option String := none
deriving DecidableEq, Repr

/-- Why settings cannot be used. -/
inductive SettingsError where
  | emptySuffix
  | badModuleRoot (module : String) (cause : Schema.SchemaError)
  | packageWithoutDot (package : String)
  | badExternModule (package : String) (cause : Schema.SchemaError)
  | notKeyValue (part : String)
  | notFlag (value : String)
  | notExternPath (value : String)
  | unknownParameter (key : String)
  /-- The text is not that of a settings file. -/
  | unparsable
  | unreadable (path : String) (cause : File.IoError)
  /-- Something is wrong with the file at `path`. -/
  | inFile (path : String) (cause : SettingsError)
deriving DecidableEq, Repr

namespace SettingsError

/-- What is told of an error, from the general to the particular. -/
def messages : SettingsError → List String
  | emptySuffix => ["suffix cannot be empty"]
  | badModuleRoot module cause => ["Invalid module_root `" ++ module ++ "`", cause.message]
  | packageWithoutDot package => ["extern_path package `" ++ package ++ "` must start with '.'"]
  | badExternModule package cause =>
    ["Invalid extern_path module for `" ++ package ++ "`", cause.message]
  | notKeyValue part => ["Parameter `" ++ part ++ "` is not key=value"]
  | notFlag value =>
    ["Parameter `debug` expects true or false, got `" ++ value ++ "`",
      "provided string was not `true` or `false`"]
  | notExternPath value =>
    ["Parameter `extern_path` expects .package=module, got `" ++ value ++ "`"]
  | unknownParameter key => ["Unknown parameter `" ++ key ++ "`"]
  | unparsable => ["Failed to parse config", "<toml error>"]
  | unreadable path cause => ["Failed to read config: " ++ Text.quoted path, cause.message]
  | inFile path cause => ("Invalid config: " ++ Text.quoted path) :: cause.messages

/-- The wording of an error. -/
def message (e : SettingsError) : String := ": ".intercalate e.messages

end SettingsError

namespace Settings

/-! ### Checking -/

/-- Says what is wrong with packages and their modules. -/
def checkExternPaths : List (String × String) → Except SettingsError Unit
  | [] => .ok ()
  | (package, module) :: rest =>
    if !package.startsWith "." then .error (.packageWithoutDot package)
    else match Schema.checkModulePath module with
      | .error e => .error (.badExternModule package e)
      | .ok () => checkExternPaths rest

/-- Says what is wrong with settings. -/
def check (s : Settings) : Except SettingsError Unit :=
  if s.suffix.isEmpty then .error .emptySuffix
  else match Schema.checkModulePath s.moduleRoot with
    | .error e => .error (.badModuleRoot s.moduleRoot e)
    | .ok () => checkExternPaths s.externPaths

/-! ### Files -/

/-- Settings while a file is read, and what it has told of packages. -/
structure Draft where
  settings : Settings := {}
  /-- The keys that have a value. -/
  assigned : List String := []
  /-- The packages that have a module. -/
  packages : List String := []
  /-- Whether the assignments are those of packages. -/
  inPackages : Bool := false

/-- The name under which packages are told. -/
def packagesKey : String := "extern_paths"

namespace Draft

/-- Tells the module of a package. -/
def setPackage (d : Draft) (package : String) (module : String) : Option Draft :=
  if package ∈ d.packages then none
  else some { d with
    packages := package :: d.packages,
    settings.externPaths := d.settings.externPaths.insert package module }

/-- Sets a setting. -/
def setScalar (d : Draft) (key : String) (value : Toml.Scalar) : Option Draft :=
  let set (settings : Settings) : Option Draft :=
    if key ∈ d.assigned then none
    else some { d with assigned := key :: d.assigned, settings }
  match key, value with
  | "debug", .flag b => set { d.settings with debug := b }
  | "suffix", .text s => set { d.settings with suffix := s }
  | "module_root", .text s => set { d.settings with moduleRoot := s }
  | "templates", .text s => set { d.settings with templates? := some s }
  | _, _ => none

/-- The name under which a table that is written as a moment has it. -/
def momentKey : String := "$__toml_private_datetime"

/-- Tells the modules of packages that are given as a table. -/
def setPackages (d : Draft) (entries : List (Toml.Key × Toml.Scalar)) : Option Draft :=
  entries.foldlM (fun d entry =>
    match entry with
    | ([package], .text module) => d.setPackage package module
    | _ => none) d

/-- Takes a statement. The packages are told in one of three ways: by a table, under a header, or
one by one. A moment in place of the table counts as one that holds it. -/
def take (d : Draft) : Toml.Statement → Option Draft
  | .header key =>
    if key = [packagesKey] && packagesKey ∉ d.assigned && d.packages.isEmpty then
      some { d with assigned := packagesKey :: d.assigned, inPackages := true }
    else none
  | .assign key value =>
    match d.inPackages, key, value with
    | true, [package], .scalar (.text module) => d.setPackage package module
    | false, [key], .scalar v => d.setScalar key v
    | false, [key], .table entries =>
      if key = packagesKey && packagesKey ∉ d.assigned && d.packages.isEmpty then
        ({ d with assigned := packagesKey :: d.assigned }).setPackages entries
      else none
    | false, [key], .moment text =>
      if key = packagesKey && packagesKey ∉ d.assigned && d.packages.isEmpty then
        ({ d with assigned := packagesKey :: d.assigned }).setPackage momentKey text
      else none
    | false, [key, package], .scalar (.text module) =>
      if key = packagesKey && packagesKey ∉ d.assigned then d.setPackage package module else none
    | _, _, _ => none

end Draft

/-- The settings that a text tells, without a check. -/
def parseToml? (source : String) : Option Settings := do
  let statements ← Toml.statements? source
  return (← statements.foldlM Draft.take {}).settings

/-- Reads the text of a settings file. -/
def ofToml (source : String) : Except SettingsError Settings := do
  match parseToml? source with
  | none => throw .unparsable
  | some s => s.check; return s

/-- Reads a settings file. -/
def ofFile (tree : File.Tree) (path : String) : Except SettingsError Settings :=
  match tree.readText (.ofText path) with
  | .error e => .error (.unreadable path e)
  | .ok source => (ofToml source).mapError (.inFile path)

/-- The name of the settings file in a home folder. -/
def fileName : String := ".busbridge.toml"

/-- Reads the given settings file, or that of the home folder if there is one. -/
def load (tree : File.Tree) (path? home? : Option String) : Except SettingsError Settings :=
  match path?, home? with
  | some path, _ => ofFile tree path
  | none, none => .ok {}
  | none, some home =>
    let path := File.join home fileName
    if tree.isFile (.ofText path) then ofFile tree path else .ok {}

/-! ### Parameters -/

/-- Applies one part of a parameter. -/
def applyPart (s : Settings) (part : String) : Except SettingsError Settings :=
  match Text.cutAt? '=' part with
  | none => .error (.notKeyValue part)
  | some (key, value) =>
    match Text.trim key with
    | "suffix" => .ok { s with suffix := value }
    | "module_root" => .ok { s with moduleRoot := value }
    | "templates" => .ok { s with templates? := some value }
    | "debug" =>
      match value with
      | "true" => .ok { s with debug := true }
      | "false" => .ok { s with debug := false }
      | _ => .error (.notFlag value)
    | "extern_path" =>
      match Text.cutAt? '=' value with
      | none => .error (.notExternPath value)
      | some (package, module) =>
        .ok { s with externPaths := s.externPaths.insert package module }
    | key => .error (.unknownParameter key)

/-- Applies parts in order, up to the first that is bad, and checks what has come of them. -/
def applyParts : List String → Settings → Settings × Except SettingsError Unit
  | [], s => (s, s.check)
  | part :: parts, s =>
    match s.applyPart part with
    | .ok s => applyParts parts s
    | .error e => (s, .error e)

/-- The parts of a parameter: the texts between commas without the blanks around them. -/
def parameterParts (parameter : String) : List String :=
  ((Text.splitAt ',' parameter).map Text.trim).filter (· != "")

/-- Applies a parameter. -/
def applyParameter (s : Settings) (parameter : String) : Settings × Except SettingsError Unit :=
  applyParts (parameterParts parameter) s

/-! ### Use -/

/-- The packages whose types are elsewhere unless settings say otherwise. -/
def defaultExternPaths : Text.Dictionary := [(".google.protobuf", "::prost_types")]

/-- The packages whose types are elsewhere. -/
def resolvedExternPaths (s : Settings) : Text.Dictionary :=
  Text.Dictionary.extend defaultExternPaths s.externPaths

/-- The name that artifacts give of their maker. -/
def generatorName : String := "protoc-gen-busbridge 0.3.0"

/-- What artifacts are made with. -/
def options (s : Settings) : Adaptor.Options :=
  { suffix := s.suffix, generatorName }

end Settings

end ServiceBus
