import ServiceBus.Bus.Script

/-! # Probes

Handlers for trying out a bus. A probe notes that it started with a request, does one simple thing
with it, and notes how that ended. -/

namespace ServiceBus.Bus

/-- What a probe does. -/
inductive Probe where
  /-- Replies with the payload. -/
  | echo
  /-- Replies with the payload and the headers. -/
  | echoHeaders
  | constant (payload : Bytes)
  | fail (reason : String)
  | drop
  | panic
  /-- Waits for the gate of the payload before it replies. -/
  | gate
  /-- Replies twice and tells of the second reply. -/
  | twice
  /-- Replies, fails afterwards and tells of the reply. -/
  | lateError (reason : String)
  /-- Replies with the state of the context. -/
  | context
  /-- Waits for the end of the context and replies with its text. -/
  | untilDone
  | sleep (ms : Time)

namespace Probe

/-- Notes how the probe ended. -/
def ended (label : String) (request : Request) (result : Except TransportError Unit) : Script :=
  .note (.ended label request.payload (.replied result)) .stop

/-- Replies and notes how that ended. -/
def answer (label : String) (request : Request) (payload : Bytes) (headers : Headers := []) :
    Script :=
  .reply headers payload (ended label request)

/-- What the probe does once it started. -/
def action (label : String) (request : Request) : Probe → Script
  | echo => answer label request request.payload
  | echoHeaders => answer label request request.payload request.headers
  | constant payload => answer label request payload
  | fail reason => .signalError [] request.subject (.invoke reason) (ended label request (.ok ()))
  | drop => ended label request (.ok ())
  | panic => .crash
  | gate => .pass request.payload (answer label request request.payload)
  | twice => .reply [] request.payload fun _ => answer label request request.payload
  | lateError reason => .reply [] request.payload fun result =>
      .signalError [] request.subject (.invoke reason) (ended label request result)
  | context => .inspect fun e? =>
      answer label request (Text.utf8 ((e?.map ContextError.message).getD "live"))
  | untilDone => .awaitEnd fun e => answer label request (Text.utf8 e.message)
  | sleep ms => .pause ms (answer label request request.payload)

/-- What the probe does with a request. -/
def script (p : Probe) (label : String) (request : Request) : Script :=
  .note (.started label request.payload) (p.action label request)

end Probe

end ServiceBus.Bus
