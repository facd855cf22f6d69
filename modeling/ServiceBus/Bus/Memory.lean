import ServiceBus.Bus.Message

/-! # The bus

A `MemoryBus` carries requests from calls to inboxes and replies back. Every inbox of a subject that
accepts is one of a group: a request goes to exactly one of them, in rotation.

An inbox holds `inboxCapacity` requests. Calls that find it full stand in its line; the first of the
line may store as soon as there is room. A `Call` goes through the stages of `Call.Stage`, one
`MemoryBus.step` at a time, and `MemoryBus.poll` takes it as far as it gets. -/

namespace ServiceBus.Bus

/-- An inbox, by number. -/
abbrev InboxId := Nat

/-- How many requests an inbox holds. -/
def inboxCapacity : Nat := 64

/-- The requests that were sent to one subscriber. -/
structure Inbox where
  subject : String
  /-- Whether the subscriber takes new requests. -/
  accepting : Bool := true
  /-- Whether the bus sends requests here. -/
  registered : Bool := true
  /-- The requests that have come in, oldest first. -/
  buffer : List Request := []
  /-- The calls that wait for room. -/
  line : List CallId := []
deriving DecidableEq, Repr

/-- Whether there is room for a call that stands in the line: as many may store as there are places,
the first first. -/
def Inbox.hasRoomFor (inbox : Inbox) (id : CallId) : Bool :=
  inbox.line.idxOf id < inboxCapacity - inbox.buffer.length

/-- How far a call has come. -/
inductive Call.Stage where
  | asking
  /-- The inbox was picked. -/
  | picked (inbox : InboxId)
  /-- The call stands in the line of the inbox. -/
  | inLine (inbox : InboxId)
  /-- The request was stored and the reply is awaited. -/
  | waiting (inbox : InboxId)
  | answered (inbox : InboxId) (reply : Message)
  /-- The request was given up by those who had it. -/
  | lost (inbox : InboxId)
  | over
deriving DecidableEq, Repr

/-- The inbox that a call may still send to. -/
def Call.Stage.inbox? : Call.Stage → Option InboxId
  | .asking | .over => none
  | .picked i | .inLine i | .waiting i | .answered i _ | .lost i => some i

/-- A request on its way, as its sender sees it. -/
structure Call where
  subject : String
  headers : Headers := []
  payload : Bytes := []
  stage : Call.Stage := .asking
deriving DecidableEq, Repr

/-- The request as it arrives. -/
def Call.request (c : Call) (id : CallId) : Request :=
  { subject := c.subject, headers := c.headers, payload := c.payload, replyTo? := some (.call id) }

/-- All inboxes and calls there have been, and whose turn it is. -/
structure MemoryBus where
  closed : Bool := false
  /-- How many requests were routed, as a counter that wraps around; it says whose turn it is. -/
  cursor : UInt64 := 0
  inboxes : List Inbox := []
  calls : List Call := []
deriving DecidableEq, Repr

namespace MemoryBus

/-! ### Inboxes -/

/-- Changes an inbox. -/
def modifyInbox (b : MemoryBus) (i : InboxId) (f : Inbox → Inbox) : MemoryBus :=
  { b with inboxes := b.inboxes.modify i f }

/-- The inboxes that requests on a subject go to, oldest first. -/
def route (b : MemoryBus) (subject : String) : List InboxId :=
  (List.range b.inboxes.length).filter fun i => (b.inboxes[i]?).any fun inbox =>
    inbox.registered && inbox.accepting && inbox.subject == subject

/-- Opens an inbox for a subject; its number is that of the inboxes before it. -/
def subscribe (b : MemoryBus) (subject : String) : Except TransportError MemoryBus :=
  if b.closed then .error .connectionClosed
  else .ok { b with inboxes := b.inboxes ++ [{ subject }] }

/-- Ends the bus; what was stored can still be taken. -/
def close (b : MemoryBus) : MemoryBus :=
  { b with closed := true, inboxes := b.inboxes.map ({ · with registered := false }) }

/-- No further requests come into an inbox; those that have can still be taken. -/
def closeInbox (b : MemoryBus) (i : InboxId) : MemoryBus :=
  b.modifyInbox i ({ · with accepting := false })

/-- Takes the oldest request out of an inbox. -/
def take? (b : MemoryBus) (i : InboxId) : Option (Request × MemoryBus) := do
  let inbox ← b.inboxes[i]?
  match inbox.buffer with
  | [] => none
  | request :: rest => some (request, b.modifyInbox i ({ · with buffer := rest }))

/-- Whether a request can still come into an inbox. -/
def hasSender (b : MemoryBus) (i : InboxId) : Bool :=
  (b.inboxes[i]?).any (·.registered) || b.calls.any (·.stage.inbox? == some i)

/-- Whether an inbox is empty for good. -/
def hasEnded (b : MemoryBus) (i : InboxId) : Bool :=
  (b.inboxes[i]?).all fun inbox =>
    inbox.buffer.isEmpty && (!inbox.accepting || !b.hasSender i)

/-! ### Calls -/

/-- Puts a call into a stage. -/
def setStage (b : MemoryBus) (id : CallId) (stage : Call.Stage) : MemoryBus :=
  { b with calls := b.calls.modify id ({ · with stage }) }

/-- Adds a call; its number is that of the calls before it. -/
def ask (b : MemoryBus) (call : Call) : MemoryBus :=
  { b with calls := b.calls ++ [call] }

/-- Picks the inbox for a request on a subject, in rotation. -/
def pick? (b : MemoryBus) (subject : String) : Option (InboxId × MemoryBus) :=
  let route := b.route subject
  (route[b.cursor.toNat % route.length]?).map fun i => (i, { b with cursor := b.cursor + 1 })

/-- Takes a call out of the line of an inbox. -/
def leaveLine (b : MemoryBus) (i : InboxId) (id : CallId) : MemoryBus :=
  b.modifyInbox i fun inbox => { inbox with line := inbox.line.filter (· != id) }

/-- The result of a call, and the bus without it. -/
def conclude (b : MemoryBus) (id : CallId) (result : Except TransportError Message) :
    Option (MemoryBus × Option (Except TransportError Message)) :=
  some (b.setStage id .over, some result)

/-- One step of a call, or `none` while it waits. -/
def step (b : MemoryBus) (id : CallId) :
    Option (MemoryBus × Option (Except TransportError Message)) := do
  let call ← b.calls[id]?
  match call.stage with
  | .asking =>
    if b.closed then b.conclude id (.error .connectionClosed)
    else match b.pick? call.subject with
      | none => b.conclude id (.error (.noResponders call.subject))
      | some (i, b) => some (b.setStage id (.picked i), none)
  | .picked i =>
    let inbox ← b.inboxes[i]?
    if inbox.accepting then
      some ((b.modifyInbox i ({ · with line := inbox.line ++ [id] })).setStage id (.inLine i), none)
    else b.conclude id (.error (.noResponders call.subject))
  | .inLine i =>
    let inbox ← b.inboxes[i]?
    if !inbox.accepting then
      (b.leaveLine i id).conclude id (.error (.noResponders call.subject))
    else if inbox.hasRoomFor id then
      some (((b.leaveLine i id).modifyInbox i
        ({ · with buffer := inbox.buffer ++ [call.request id] })).setStage id (.waiting i), none)
    else none
  | .waiting _ => none
  | .answered _ reply => b.conclude id (.ok reply)
  | .lost _ => b.conclude id (.error (.droppedWithoutReply call.subject))
  | .over => none

/-- Takes at most `n` steps of a call, up to its result. -/
def steps : Nat → MemoryBus → CallId → MemoryBus × Option (Except TransportError Message)
  | 0, b, _ => (b, none)
  | n + 1, b, id =>
    match b.step id with
    | none => (b, none)
    | some (b, some result) => (b, some result)
    | some (b, none) => steps n b id

/-- Takes a call as far as it gets: before it waits it is routed, queued and stored, and afterwards
there is the result. -/
def poll (b : MemoryBus) (id : CallId) : MemoryBus × Option (Except TransportError Message) :=
  b.steps 4 id

/-- Gives a call up. If its request was stored, it stays where it is. -/
def abandon (b : MemoryBus) (id : CallId) : MemoryBus :=
  match b.calls[id]? with
  | some { stage := .inLine i, .. } => (b.leaveLine i id).setStage id .over
  | _ => b.setStage id .over

/-- Whether a call awaits its reply, and from which inbox. -/
def waiting? (b : MemoryBus) (id : CallId) : Option InboxId :=
  match b.calls[id]? with
  | some { stage := .waiting i, .. } => some i
  | _ => none

/-- Hands a reply to a call. -/
def answer (b : MemoryBus) (id : CallId) (reply : Message) : MemoryBus × Except TransportError Unit :=
  match b.waiting? id with
  | some i => (b.setStage id (.answered i reply), .ok ())
  | none => (b, .error .noLongerWaiting)

/-- The request of a call was given up by those who had it. -/
def lose (b : MemoryBus) (id : CallId) : MemoryBus :=
  match b.waiting? id with
  | some i => b.setStage id (.lost i)
  | none => b

/-- Gives a request up. -/
def drop (b : MemoryBus) (request : Request) : MemoryBus :=
  match request.replyTo? with
  | some (.call id) => b.lose id
  | _ => b

/-- Gives an inbox up with all that is in it. -/
def discardInbox (b : MemoryBus) (i : InboxId) : MemoryBus :=
  match b.inboxes[i]? with
  | none => b
  | some inbox =>
    inbox.buffer.foldl drop (b.modifyInbox i ({ · with accepting := false, buffer := [] }))

end MemoryBus

end ServiceBus.Bus
