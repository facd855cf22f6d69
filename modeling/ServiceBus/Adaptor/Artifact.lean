import ServiceBus.Adaptor.Template
import ServiceBus.Name.Words
import ServiceBus.Schema.Imports
import ServiceBus.Subject

/-! # Artifacts

An `Artifact` holds the code for the services of one schema file: for each service its server
interface, its registration, its handlers and its client. `synthesize` renders it from templates;
files without services have none. -/

namespace ServiceBus.Adaptor

open Schema (ImportSet Method Service)

/-- Work that makes records and may fail with a template error. -/
abbrev Synthesis := ExceptT TemplateError Logged

namespace Synthesis

variable {α : Type}

/-- Takes over a result. -/
def ofExcept (r : Except TemplateError α) : Synthesis α := ExceptT.mk (pure r)

/-- Makes a record. -/
def report (r : Log.Record) : Synthesis Unit := ExceptT.mk (.ok <$> Logged.report r)

end Synthesis

/-- What artifacts are made with. -/
structure Options where
  /-- What the names of artifacts end with. -/
  suffix : String := "bus-adaptor.rs"
  /-- Who is named as the generator in artifacts. -/
  generatorName : String := "busbridge-codegen 0.3.0"
deriving DecidableEq, Repr

/-- Code for the services of a schema file. -/
structure Artifact where
  /-- Where the artifact belongs, below the root of the output. -/
  name : String
  content : String
deriving DecidableEq, Repr

/-! ### Documentation -/

/-- A line of documentation. -/
def docLine (indent line : String) : String :=
  let line := Text.trimEnd line
  if line.isEmpty then indent ++ "///\n" else indent ++ "/// " ++ line ++ "\n"

/-- Lines of documentation. -/
def docLines (docs : List String) (indent : String) : String :=
  String.join (docs.map (docLine indent))

/-- The instance in the subjects that documentation tells. -/
def instanceInDocs : String := "\x7binstance\x7d"

/-- The documentation of a method that is served on a subject. -/
def methodDocs (docs : List String) (subject : String) : String :=
  docLines docs "    " ++ (if docs.isEmpty then "" else "    ///\n") ++
    "    /// Served on `" ++ subject ++ "`.\n"

/-- The description of an endpoint as a literal: the lines of the documentation joined by blanks. -/
def description (docs : List String) : String :=
  Text.quoted (Text.trim (" ".intercalate docs))

/-- What follows the heading of a service's documentation. -/
def serviceDocs (docs : List String) : String :=
  if docs.isEmpty then "" else "///\n" ++ docLines docs ""

/-! ### Methods -/

/-- Functions that every client has, which no method may take the name of. -/
def clientFunctions : List String := ["new", "with_parent_span"]

/-- The function that stands for a method. -/
def functionName (methodSnake : String) : String :=
  if methodSnake ∈ clientFunctions then methodSnake ++ "_" else Name.escape methodSnake

/-- The name of a service as a type. -/
def serviceType (service : Service) : String := Name.camel service.name

/-- The name of a method as a type. -/
def methodType (method : Method) : String := Name.camel method.name

/-- The type that handles a method. -/
def handlerType (service : Service) (method : Method) : String :=
  serviceType service ++ methodType method ++ "Handler"

/-- The subject that a method is served on by an instance. -/
def servedOn (service : Service) (method : Method) (inst : String) : String :=
  subject (serviceType service) (methodType method) (some inst)

/-- What the placeholders of the method templates are bound to. -/
def methodBindings (imports : ImportSet) (service : Service) (method : Method) : Bindings := [
  ("service", serviceType service),
  ("method", methodType method),
  ("method_fn", functionName (Name.snake method.name)),
  ("method_snake", Name.snake method.name),
  ("handler", handlerType service method),
  ("input", imports.qualify method.input),
  ("output", imports.qualify method.output),
  ("docs", methodDocs method.docs (servedOn service method instanceInDocs)),
  ("description", description method.docs)]

/-- The record of a method that is rendered. -/
def methodRecord (imports : ImportSet) (service : Service) (method : Method) : Log.Record :=
  { level := .debug, message := "method types",
    fields := [("service", .text service.name), ("method", .text method.name),
      ("input", .text (imports.qualify method.input)),
      ("output", .text (imports.qualify method.output)),
      ("subject", .text (servedOn service method instanceInDocs))] }

/-- The code for methods, by where it belongs. -/
structure MethodCode where
  server : String := ""
  endpoints : String := ""
  handlers : String := ""
  client : String := ""
deriving DecidableEq, Repr

/-- The code for methods and further ones. -/
def MethodCode.append (a b : MethodCode) : MethodCode where
  server := a.server ++ b.server
  endpoints := a.endpoints ++ b.endpoints
  handlers := a.handlers ++ b.handlers
  client := a.client ++ b.client

/-- The code for a method. -/
def renderMethod (templates : ParsedTemplates) (bindings : Bindings) :
    Except TemplateError MethodCode := do
  let server ← templates.render .serverMethod bindings
  let endpoints ← templates.render .endpoint bindings
  let handlers ← templates.render .handler bindings
  let client ← templates.render .clientMethod bindings
  return { server, endpoints, handlers, client }

/-- The code for the methods of a service. -/
def renderMethods (templates : ParsedTemplates) (imports : ImportSet) (service : Service) :
    List Method → Synthesis MethodCode
  | [] => return {}
  | method :: methods => do
    Synthesis.report (methodRecord imports service method)
    let code ← .ofExcept (renderMethod templates (methodBindings imports service method))
    return code.append (← renderMethods templates imports service methods)

/-! ### Services -/

/-- What the placeholders of the service template are bound to. -/
def serviceBindings (service : Service) (code : MethodCode) : Bindings := [
  ("service", serviceType service),
  ("service_snake", Name.snake service.name),
  ("service_lower", Text.lowercase (serviceType service)),
  ("service_docs", serviceDocs service.docs),
  ("server_methods", code.server),
  ("endpoints", code.endpoints),
  ("handlers", code.handlers),
  ("client_methods", code.client)]

/-- The code for a service. -/
def renderService (templates : ParsedTemplates) (imports : ImportSet) (service : Service) :
    Synthesis String := do
  let code ← renderMethods templates imports service service.methods
  .ofExcept (templates.render .service (serviceBindings service code))

/-- The code for services. -/
def renderServices (templates : ParsedTemplates) (imports : ImportSet) :
    List Service → Synthesis String
  | [] => return ""
  | service :: services => do
    let code ← renderService templates imports service
    return code ++ (← renderServices templates imports services)

/-! ### Files -/

/-- What the placeholders of the file template are bound to. -/
def fileBindings (options : Options) (file : Schema.File) (imports : ImportSet)
    (services : String) : Bindings := [
  ("generator", options.generatorName),
  ("source", file.name),
  ("imports", imports.render),
  ("services", services)]

/-- The record of a file without services. -/
def skipRecord (level : Log.Level) (file : Schema.File) : Log.Record :=
  { level, message := "no services, skipping", fields := [("file", .text file.name)] }

/-- The name of the artifact of a file. -/
def artifactName (options : Options) (file : Schema.File) : String :=
  file.stem ++ "-" ++ options.suffix

/-- Renders the artifact of a file, if it has services. -/
def synthesize (templates : TemplateSet) (options : Options) (file : Schema.File)
    (imports : ImportSet) : Synthesis (Option Artifact) :=
  if !file.hasServices then do
    Synthesis.report (skipRecord .debug file)
    return none
  else do
    let templates ← .ofExcept templates.parse
    let services ← renderServices templates imports file.services
    let content ← .ofExcept (templates.render .file (fileBindings options file imports services))
    return some { name := artifactName options file, content }

end ServiceBus.Adaptor
