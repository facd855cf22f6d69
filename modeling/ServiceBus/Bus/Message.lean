import ServiceBus.Text.Dictionary
import ServiceBus.Text.Quoted
import ServiceBus.Text.Utf8
import ServiceBus.Bus.Context

/-! # Messages on the bus

A `Request` is a message on its way to a handler together with
the address for its reply; the address is given away with the first reply. -/

namespace ServiceBus.Bus

/-- The fields of a message beside its payload, by name. -/
abbrev Headers := Text.Dictionary

/-- What is shown of headers. -/
def Headers.describe (headers : Headers) : String :=
  "\x7b" ++ ", ".intercalate (headers.map fun (name, value) =>
    Text.quoted name ++ ": " ++ Text.quoted value) ++ "\x7d"

/-- Failures of the bus and of services on it. -/
inductive TransportError where
  | invalidConfig (reason : String)
  | noResponders (subject : String)
  | connectionClosed
  | alreadyResponded
  | cancelled
  | deadlineExceeded
  | other (reason : String)
deriving DecidableEq, Repr

namespace TransportError

/-- The wording of a bus error. -/
def message : TransportError → String
  | .invalidConfig reason => "invalid service config: " ++ reason
  | .noResponders subject => "no responders available for request on " ++ subject
  | .connectionClosed => "connection closed"
  | .alreadyResponded => "request already responded to"
  | .cancelled => "request cancelled"
  | .deadlineExceeded => "request deadline exceeded"
  | .other reason => "transport error: " ++ reason

/-- The failure of a request whose context is over. -/
def ofContext : ContextError → TransportError
  | .cancelled => .cancelled
  | .deadlineExceeded => .deadlineExceeded

/-- A reply came too late. -/
def noLongerWaiting : TransportError := .other "requester is no longer waiting"

/-- A request was given up by those who had it. -/
def droppedWithoutReply (subject : String) : TransportError :=
  .other ("request on " ++ subject ++ " dropped without a reply")

end TransportError

/-- A message on the bus. -/
structure Message where
  subject : String
  headers : Headers := []
  payload : Bytes := []
deriving DecidableEq, Repr

/-- A request that waits for its reply, by number. -/
abbrev CallId := Nat

/-- Where a reply goes. -/
inductive ReplyAddress where
  /-- To a waiting call. -/
  | call (id : CallId)
  /-- Into the journal, under a label. -/
  | journal (label : String)
  /-- Nowhere: the connection is gone. -/
  | broken
deriving DecidableEq, Repr

/-- A message on its way to a handler. -/
structure Request where
  subject : String
  headers : Headers := []
  payload : Bytes := []
  /-- Where the reply goes, until one was attempted. -/
  replyTo? : Option ReplyAddress := none
deriving DecidableEq, Repr

namespace Request

/-- Whether a reply was attempted. -/
def hasResponded (r : Request) : Bool := r.replyTo?.isNone

/-- The reply to a request is sent under its subject. -/
def reply (r : Request) (headers : Headers) (payload : Bytes) : Message :=
  { subject := r.subject, headers, payload }

/-- What is shown of a request. -/
def describe (r : Request) : String :=
  "Request \x7b subject: " ++ Text.quoted r.subject ++ ", headers: " ++ r.headers.describe ++
    ", payload_len: " ++ toString r.payload.length ++ ", responded: " ++ toString r.hasResponded ++
    " \x7d"

end Request

end ServiceBus.Bus
