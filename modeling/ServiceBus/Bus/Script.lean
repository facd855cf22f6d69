import ServiceBus.Log
import ServiceBus.Bus.Status

/-! # Scripts

What a handler does with its request is a `Script`: a tree of effects that ends in `stop` or in a
`crash`. What a service implementation does with its input is `Work`, a script that ends in a result
and that cannot reply, because it never sees the request. -/

namespace ServiceBus.Bus

/-- How a handler ended, as it tells itself. -/
inductive Ending where
  | replied (result : Except TransportError Unit)
  /-- It passed its gate, and this was wrong with its context. -/
  | passed (error? : Option ContextError)

/-- What a handler puts into the journal. -/
inductive Note where
  | started (label : String) (payload : Bytes)
  | ended (label : String) (payload : Bytes) (ending : Ending)

/-- Where a handler keeps what is to outlive the request, by number. -/
abbrev StoreId := Nat

/-- What a handler does with its request. -/
inductive Script where
  | stop
  | crash
  | note (n : Note) (next : Script)
  | report (r : Log.Record) (next : Script)
  /-- Replies to the request. -/
  | reply (headers : Headers) (payload : Bytes) (next : Except TransportError Unit → Script)
  /-- Waits for a permit of a gate. -/
  | pass (gate : Bytes) (next : Script)
  | pause (ms : Time) (next : Script)
  /-- Waits for the end of the context. -/
  | awaitEnd (next : ContextError → Script)
  /-- Looks at the context. -/
  | inspect (next : Option ContextError → Script)
  | keep (store : StoreId) (key value : String) (next : Script)

/-- What a service implementation does with its input. -/
inductive Work (β : Type) where
  | finish (result : Except String β)
  | crash
  | note (n : Note) (next : Work β)
  | report (r : Log.Record) (next : Work β)
  | pass (gate : Bytes) (next : Work β)
  | inspect (next : Option ContextError → Work β)
  | keep (store : StoreId) (key value : String) (next : Work β)

namespace Work

variable {β : Type}

/-- Work as part of a script, inside `spans`; `next` gets its result. -/
def toScript (spans : List String) (next : Except String β → Script) : Work β → Script
  | finish result => next result
  | crash => .crash
  | note n w => .note n (w.toScript spans next)
  | report r w => .report (r.within spans) (w.toScript spans next)
  | pass gate w => .pass gate (w.toScript spans next)
  | inspect w => .inspect fun e? => (w e?).toScript spans next
  | keep store key value w => .keep store key value (w.toScript spans next)

/-- Ends well. -/
def ok (b : β) : Work β := .finish (.ok b)

/-- Ends with a reason for failure. -/
def fail (reason : String) : Work β := .finish (.error reason)

end Work

/-- The record of an error that could not be told the caller. -/
def HandlerError.unsent (e : HandlerError) (spans : List String) (subject : String)
    (sendError : TransportError) : Log.Record :=
  { level := .error, message := "error sending response error", spans,
    fields := [("subject", .text subject), ("reason", .text e.reason),
      ("send_reason", .text sendError.message)] }

namespace Script

/-- Answers the request on `subject` with a failure. If that cannot be sent it is reported. -/
def signalError (spans : List String) (subject : String) (e : HandlerError) (next : Script) :
    Script :=
  .reply (errorHeaders e.reason) [] fun
    | .ok () => next
    | .error sendError => .report (e.unsent spans subject sendError) next

/-- Answers a request that a closed pool did not take. -/
def reject (subject : String) : Script :=
  .report { level := .warn, message := "rejecting request, worker pool closed",
            fields := [("subject", .text subject)] }
    (signalError [] subject .poolClosed .stop)

end Script

end ServiceBus.Bus
