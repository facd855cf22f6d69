import ServiceBus.Bus.Script

/-! # Served methods

`Method.script` is what the endpoint of a method does with a request: decode, invoke, encode and
reply, or tell the caller which of these failed. `Client.outcome` is what the caller makes of the
reply. -/

namespace ServiceBus.Bus

/-- A method as it is served. -/
structure Method (In Out : Type) where
  subject : String
  /-- The spans that the handler runs in, outermost first. -/
  spans : List String
  decode : Bytes → Except CodecError In
  encode : Out → Except CodecError Bytes
  serve : In → Work Out

namespace Method

variable {In Out : Type}

/-- Reports that something failed. -/
def failure (m : Method In Out) (message reason : String) : Log.Record :=
  { level := .error, message, spans := m.spans,
    fields := [("subject", .text m.subject), ("reason", .text reason)] }

/-- Reports a failure and tells the caller. -/
def fail (m : Method In Out) (request : Request) (message reason : String) (e : HandlerError) :
    Script :=
  .report (m.failure message reason) (.signalError m.spans request.subject e .stop)

/-- Replies with the output; a failure to send it is told the caller too. -/
def respond (m : Method In Out) (request : Request) (payload : Bytes) : Script :=
  .reply [] payload fun
    | .ok () => .stop
    | .error e => m.fail request "sending response" e.message (.reply e)

/-- Makes an output or a failure of the service into a reply. -/
def conclude (m : Method In Out) (request : Request) : Except String Out → Script
  | .error reason => m.fail request "service error" reason (.invoke reason)
  | .ok output =>
    match m.encode output with
    | .error e => m.fail request "encoding response" e.message (.encode e)
    | .ok payload => m.respond request payload

/-- What the endpoint does with a request. -/
def script (m : Method In Out) (request : Request) : Script :=
  match m.decode request.payload with
  | .error e => m.fail request "decoding request" e.message (.decode e)
  | .ok input => (m.serve input).toScript m.spans (m.conclude request)

end Method

namespace Client

variable {β : Type}

/-- What a caller makes of the reply to a call on `subject`: the two error headers are looked for
before anything is decoded. -/
def outcome (decode : Bytes → Except CodecError β) (spans : List String) (subject : String) :
    Except TransportError Message → Logged (Except ClientError β)
  | .error e => return .error (.transport e)
  | .ok reply =>
    match serviceError? reply.headers with
    | some e => do
      Logged.report { level := .debug, message := "service returned an error", spans,
                      fields := [("subject", .text subject), ("reason", .text e.reason)] }
      return .error (.service e)
    | none => return (decode reply.payload).mapError .codec

end Client

end ServiceBus.Bus
