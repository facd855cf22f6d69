import ServiceBus.Adaptor.Report
import ServiceBus.Descriptor.Conversion
import ServiceBus.Log.Filter

/-! # The plugin

The schema compiler hands over a `Request`: descriptors of schema files, and the names of those for
which artifacts are wanted. `process` answers with a `Response`.

A request whose settings cannot be used has no artifacts at all. After that each file stands alone:
it has an artifact, or a failure, or neither if it has no services. -/

namespace ServiceBus.Plugin

open Adaptor (Artifact Failure Report TemplateError TemplateSet)

/-- What is asked of the plugin. -/
structure Request where
  /-- The names of the files that artifacts are wanted for. -/
  names : List String := []
  /-- Settings for this request. -/
  parameter : String := ""
  /-- The descriptors of these files and of all that they use. -/
  files : List Descriptor.File := []
deriving Repr, Inhabited

/-- What the plugin answers. -/
structure Response where
  error? : Option String := none
  /-- The features that are supported, a bit each: optional fields. -/
  features : Nat := 1
  artifacts : List Artifact := []
deriving DecidableEq, Repr

/-- Why a request could not be started on. -/
inductive SetupError where
  | settings (cause : SettingsError)
  | templates (folder : String) (cause : TemplateError)
deriving DecidableEq, Repr

/-- The wording of an error. -/
def SetupError.message : SetupError → String
  | .settings cause => cause.message
  | .templates folder cause =>
    ": ".intercalate (("Failed to load templates from " ++ Text.quoted folder) :: cause.messages)

/-! ### Setup -/

/-- The templates that settings ask for. -/
def templatesFor (tree : File.Tree) (settings : Settings) :
    Logged (Except SetupError TemplateSet) :=
  match settings.templates? with
  | none => return .ok .embedded
  | some folder => return (← TemplateSet.ofFolder tree folder).mapError (.templates folder)

/-- Tells details from now on if settings ask for that. It does not matter if the log is gone. -/
def adjustLog (settings : Settings) (control : Log.Control) : Logged Log.Control := do
  if !settings.debug then return control
  let (control, result) ← control.enableDebug
  match result with
  | .ok () => return control
  | .error e =>
    Logged.report { level := .warn, message := "debug logging unavailable",
                    fields := [("reason", .text (": ".intercalate e.messages))] }
    return control

/-! ### Generation -/

/-- The schema files that there are. -/
def convertedFiles (results : List (String × Except Schema.SchemaError Schema.File)) :
    List Schema.File :=
  results.filterMap fun (_, result) => result.toOption

/-- The failures of files that could not be converted. -/
def conversionFailures (results : List (String × Except Schema.SchemaError Schema.File)) :
    List Failure :=
  results.filterMap fun (name, result) =>
    match result with
    | .ok _ => none
    | .error e => some { file := name, cause := .schema e }

/-- The record of a file that could not be converted. -/
def conversionRecord (f : Failure) : Log.Record where
  level := .error
  message := "schema conversion failed"
  fields := [("file", .text f.file), ("reason", .text f.cause.message)]

/-- Makes the artifacts that a request asks for. -/
def generateAll (settings : Settings) (templates : TemplateSet) (request : Request) :
    Logged Report := do
  Logged.report { level := .info, message := "generating adaptors",
                  fields := [("files", .number request.names.length)] }
  let modules := settings.modules
  let index ← Descriptor.indexTypes modules request.files
  let results ← Descriptor.schemasOf modules index request.files request.names
  let failures := conversionFailures results
  Logged.reportAll (failures.map conversionRecord)
  let generated ← Adaptor.generate templates settings.options (convertedFiles results)
  let report := Report.append { failures } generated
  Logged.report { level := .info, message := "generation finished",
                  fields := [("written", .number report.artifacts.length),
                             ("failed", .number report.failures.length)] }
  return report

/-! ### Answers -/

/-- The answer that tells a report. -/
def Response.ofReport (report : Report) : Response where
  error? :=
    if report.isSuccess then none
    else some ("\n".intercalate (report.failures.map Failure.message))
  artifacts := report.artifacts

/-- The answer that tells why there was no start. -/
def Response.ofSetupError (e : SetupError) : Response where
  error? := some e.message

/-- Reports why there was no start, and tells it. -/
def refuse (e : SetupError) : Logged Response := do
  Logged.report { level := .error, message := "plugin setup failed",
                  fields := [("reason", .text e.message)] }
  return .ofSetupError e

/-- Answers a request with settings that hold until the request says otherwise. -/
def process (tree : File.Tree) (settings : Settings) (control : Log.Control) (request : Request) :
    Logged (Log.Control × Response) := do
  match settings.applyParameter request.parameter with
  | (_, .error e) => return (control, ← refuse (.settings e))
  | (settings, .ok ()) =>
    let control ← adjustLog settings control
    match ← templatesFor tree settings with
    | .error e => return (control, ← refuse e)
    | .ok templates => return (control, .ofReport (← generateAll settings templates request))

end ServiceBus.Plugin
