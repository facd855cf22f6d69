import ServiceBus.Bus.Message

/-! # Failed replies

A failed request is answered with an empty payload and two headers: `errorHeader` tells the reason
and `errorCodeHeader` the reserved `errorCode`. `serviceError?` reads the failure back from a reply;
either header marks a reply as failed. -/

namespace ServiceBus.Bus

/-- The header that tells why a request failed. -/
def errorHeader : String := "Nats-Service-Error"

/-- The header that tells the code of a failure. -/
def errorCodeHeader : String := "Nats-Service-Error-Code"

/-- The code of every failure. -/
def errorCode : String := "500"

/-- The reason of a failure that tells none. -/
def unspecifiedReason : String := "unspecified service error"

/-- Failures to turn values into bytes or back. -/
inductive CodecError where
  | encode (reason : String)
  | decode (reason : String)
deriving DecidableEq, Repr

/-- The wording of a codec error. -/
def CodecError.message : CodecError → String
  | .encode reason => "encode error: " ++ reason
  | .decode reason => "decode error: " ++ reason

/-- Failures of the handling of a request. -/
inductive HandlerError where
  | decode (cause : CodecError)
  /-- The service itself failed, for this reason. -/
  | invoke (reason : String)
  | encode (cause : CodecError)
  | reply (cause : TransportError)
  | poolClosed
deriving DecidableEq, Repr

/-- The wording of a handler error; the reason of a service is told as it is. -/
def HandlerError.message : HandlerError → String
  | .decode cause => "decoding request: " ++ cause.message
  | .invoke reason => reason
  | .encode cause => "encoding response: " ++ cause.message
  | .reply cause => "sending response: " ++ cause.message
  | .poolClosed => "worker pool closed"

/-- The headers of a failed reply. -/
def errorHeaders (reason : String) : Headers :=
  Text.Dictionary.ofList [(errorHeader, reason), (errorCodeHeader, errorCode)]

/-- The reason that is told of a handler error. -/
def HandlerError.reason (e : HandlerError) : String :=
  if e.message.isEmpty then unspecifiedReason else e.message

/-- A failure that a service reported. -/
structure ServiceError where
  code : String
  reason : String
deriving DecidableEq, Repr

/-- A text that is there and not empty, or another. -/
def nonemptyOr (default : String) (s : Option String) : String :=
  (s.filter (! ·.isEmpty)).getD default

/-- The failure that the headers of a reply report. -/
def serviceError? (headers : Headers) : Option ServiceError :=
  let reason := headers.get? errorHeader
  let code := headers.get? errorCodeHeader
  if reason.isNone && code.isNone then none
  else some { code := nonemptyOr errorCode code, reason := nonemptyOr unspecifiedReason reason }

/-- Failures of a client's call. -/
inductive ClientError where
  | service (cause : ServiceError)
  | transport (cause : TransportError)
  | codec (cause : CodecError)
deriving DecidableEq, Repr

/-- The wording of a client error; the reason of a service is told as it is. -/
def ClientError.message : ClientError → String
  | .service cause => cause.reason
  | .transport cause => cause.message
  | .codec cause => cause.message

end ServiceBus.Bus
