import ServiceBus.Bus.Message

/-! # Descriptions of services

`ServiceConfig` is what a caller asks for, `ServiceInfo` what is told of a running service. -/

namespace ServiceBus.Bus

/-- What a caller says of a service. -/
structure ServiceConfig where
  /-- The name, with which the subjects of all endpoints begin. -/
  name : String := ""
  version : String := ""
  queueGroup? : Option String := none
  description? : Option String := none
  metadata : Headers := []
deriving DecidableEq, Repr

namespace ServiceConfig

/-- Characters that may stand in the name of a service. -/
def isNameChar (c : Char) : Bool := c.isAlphanum || c == '_' || c == '-'

/-- Says what is wrong with a configuration. -/
def check (config : ServiceConfig) : Except TransportError Unit := do
  if config.name.isEmpty then throw (.invalidConfig "service name must not be empty")
  if let some c := config.name.toList.find? (!isNameChar ·) then
    throw (.invalidConfig ("service name " ++ Text.quoted config.name ++
      " contains invalid character " ++ Text.quotedChar c))
  if config.version.isEmpty then throw (.invalidConfig "service version must not be empty")
  if config.queueGroup? = some "" then
    throw (.invalidConfig "queue group must not be empty when set")

/-- The configuration with a queue group. -/
def withQueueGroup (config : ServiceConfig) (group : String) : ServiceConfig :=
  { config with queueGroup? := some group }

/-- The configuration with a description. -/
def withDescription (config : ServiceConfig) (description : String) : ServiceConfig :=
  { config with description? := some description }

/-- The configuration with a further entry of metadata. -/
def withMetadata (config : ServiceConfig) (key value : String) : ServiceConfig :=
  { config with metadata := config.metadata.insert key value }

end ServiceConfig

/-- What a caller says of an endpoint. -/
structure EndpointConfig where
  name : String
  subject : String
  metadata : Headers := []
deriving DecidableEq, Repr

/-- The endpoint with a description, unless that is empty. -/
def EndpointConfig.withDescription (config : EndpointConfig) (description : String) :
    EndpointConfig :=
  if description.isEmpty then config
  else { config with metadata := config.metadata.insert "description" description }

/-- Says what is wrong with an endpoint. -/
def EndpointConfig.check (config : EndpointConfig) : Except TransportError Unit :=
  if config.name.isEmpty || config.subject.isEmpty then
    throw (.invalidConfig "endpoint name and subject must not be empty")
  else pure ()

/-- What is told of an endpoint. -/
structure EndpointInfo where
  name : String
  subject : String
  queueGroup? : Option String
  metadata : Headers
deriving DecidableEq, Repr

/-- What is told of a service. -/
structure ServiceInfo where
  name : String
  version : String
  description? : Option String
  queueGroup? : Option String
  metadata : Headers
  endpoints : List EndpointInfo := []
deriving DecidableEq, Repr

/-- A service as configured, without endpoints. -/
def ServiceInfo.ofConfig (config : ServiceConfig) : ServiceInfo where
  name := config.name
  version := config.version
  description? := config.description?
  queueGroup? := config.queueGroup?
  metadata := config.metadata

/-- The service with a further endpoint. -/
def ServiceInfo.withEndpoint (info : ServiceInfo) (config : EndpointConfig) : ServiceInfo :=
  let endpoint : EndpointInfo :=
    { name := config.name, subject := config.subject, queueGroup? := info.queueGroup?,
      metadata := config.metadata }
  { info with endpoints := info.endpoints ++ [endpoint] }

end ServiceBus.Bus
