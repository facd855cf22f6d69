import ServiceBus.Bus.Turn
import ServiceBus.Bus.Codec

/-! # The desk

What one does with a world from outside: objects are made, used and dropped by name. An operation on
a name that nothing has gives `none`. A name that is used again passes to the new object. -/

namespace ServiceBus.Bus

open Greeter (EchoMessage)

namespace World

/-! ### Contexts -/

/-- The context of a name, or a fresh one that nobody can cancel. -/
def contextOf (w : World) (name? : Option String) : World × Context :=
  match name?.bind (w.desk.contexts[·]?) with
  | some context => (w, context)
  | none => ({ w with scopes := w.scopes.fresh }, { scope := w.scopes.next })

/-- Puts a context under a name. A right to cancel that the name has stays as it is. -/
def nameContext (w : World) (name : String) (context : Context) : World :=
  { w with desk.contexts := w.desk.contexts.insert name context }

/-- Makes a context without bounds. -/
def background (w : World) (name : String) : World :=
  let (w, context) := w.contextOf none
  w.nameContext name context

/-- Derives a context that can be cancelled by its name. -/
def withCancel (w : World) (name : String) (parent? : Option String) : World :=
  let (w, parent) := w.contextOf parent?
  let scope := w.scopes.next
  { w with scopes := w.scopes.derive parent.scope,
           desk.handles := w.desk.handles.insert name scope }.nameContext name { parent with scope }

/-- Derives a context with a deadline. -/
def withDeadline (w : World) (name : String) (parent? : Option String) (deadline : Time) : World :=
  let (w, parent) := w.contextOf parent?
  w.nameContext name (parent.withDeadline deadline)

/-- Derives a context that is over after `ms`. -/
def withTimeout (w : World) (name : String) (parent? : Option String) (ms : Time) : World :=
  w.withDeadline name parent? (w.now + ms)

/-- What is told of a context. -/
structure ContextView where
  cancelled : Bool
  error? : Option ContextError
  deadline? : Option Time
  /-- What is shown of it, unless it has a deadline. -/
  shown? : Option String

/-- What is told of the context of a name. -/
def contextView? (w : World) (name : String) : Option ContextView := do
  let context ← w.desk.contexts[name]?
  let cancelled := w.scopes.isCancelled context.scope
  return { cancelled, error? := w.contextError? context, deadline? := context.deadline?,
           shown? := if context.deadline?.isSome then none
             else some (Context.describe cancelled) }

/-- Cancels what may be cancelled by a name; tells whether it is cancelled afterwards. -/
def cancel? (w : World) (name : String) : Option (World × Bool) := do
  let scope ← w.desk.handles[name]?
  let w := w.cancelScope scope
  return (w, w.scopes.isCancelled scope)

/-- Drops a context and the right to cancel; tells whether there was a context. -/
def dropContext (w : World) (name : String) : World × Bool :=
  ({ w with desk.contexts := w.desk.contexts.erase name,
            desk.handles := w.desk.handles.erase name }, w.desk.contexts.contains name)

/-- Puts a copy of a context under a further name. -/
def copyContext? (w : World) (name source : String) : Option World := do
  return w.nameContext name (← w.desk.contexts[source]?)

/-- Puts a copy of the right to cancel under a further name. -/
def copyHandle? (w : World) (name source : String) : Option World := do
  return { w with desk.handles := w.desk.handles.insert name (← w.desk.handles[source]?) }

/-- Gives up the context of a name, and keeps the right to cancel. -/
def forgetContext (w : World) (name : String) : World :=
  { w with desk.contexts := w.desk.contexts.erase name }

/-- Gives up the right to cancel of a name, and keeps the context. -/
def forgetHandle (w : World) (name : String) : World :=
  { w with desk.handles := w.desk.handles.erase name }

/-! ### Tasks -/

/-- Starts a task under a name. -/
def start (w : World) (task : String) (program : Program) : World :=
  { w.spawn program (some task) with
    desk.tasks := w.desk.tasks.insert task w.tasks.length }

/-- Starts to wait for a cancellation. -/
def startAwaitCancelled (w : World) (task : String) (context? : Option String) : World :=
  let (w, context) := w.contextOf context?
  w.start task (.awaitCancelled context)

/-- Starts to wait for the end of a context. -/
def startAwaitEnd (w : World) (task : String) (context? : Option String) : World :=
  let (w, context) := w.contextOf context?
  w.start task (.awaitEnd context)

/-- Starts to sleep, bound to a context. -/
def startSleep (w : World) (task : String) (context? : Option String) (ms : Time) : World :=
  let (w, context) := w.contextOf context?
  w.start task (.sleep context false (w.now + ms))

/-- Aborts a task. -/
def abort? (w : World) (task : String) : Option World :=
  w.desk.tasks[task]?.map w.abort

/-- Adds permits to the gate of a payload. -/
def release (w : World) (payload : Bytes) (count : Nat) : World :=
  let g := w.gate payload
  w.setGate payload { g with permits := g.permits + count }

/-! ### Requests -/

/-- Makes a subscription; the record of it is made by the bus. -/
def openInbox (w : World) (subject : String) : Except TransportError (World × InboxId) := do
  let bus ← w.bus.subscribe subject
  return ((w.withBus bus).report { level := .debug, message := "subscribed",
                                   fields := [("subject", .text subject)] },
    w.bus.inboxes.length)

/-- Subscribes to a subject. -/
def subscribe (w : World) (name subject : String) : Except TransportError World := do
  let (w, inbox) ← w.openInbox subject
  return w.nameSubscription name inbox

/-- Starts to wait for the next request of a subscription, which is away meanwhile. -/
def startReceive? (w : World) (task name request : String) : Option World := do
  let inbox ← w.desk.subscriptions[name]?
  return { w with desk.subscriptions := w.desk.subscriptions.erase name }.start task
    (.receive name inbox request)

/-- Closes a subscription. -/
def closeSubscription? (w : World) (name : String) : Option World := do
  let inbox ← w.desk.subscriptions[name]?
  return w.withBus (w.bus.closeInbox inbox)

/-- Drops a subscription; tells whether there was one. -/
def dropSubscription (w : World) (name : String) : World × Bool :=
  match w.desk.subscriptions[name]? with
  | some inbox =>
    ({ w with bus := w.bus.discardInbox inbox,
              desk.subscriptions := w.desk.subscriptions.erase name }, true)
  | none => (w, false)

/-- Starts a request; `bound` says whether it is bound to a context, which may have a name. -/
def startRequest (w : World) (task : String) (call : Call) (bound : Bool)
    (context? : Option String) : World :=
  let (w, context) := w.contextOf context?
  (w.withBus (w.bus.ask call)).start task
    (.exchange w.bus.calls.length (if bound then some context else none) false none
      fun result => return .replied result)

/-- What is told of a request that is held by name. -/
structure RequestView where
  responded : Bool
  shown : String

/-- What is told of a request. -/
def RequestView.of (r : Request) : RequestView :=
  { responded := r.hasResponded, shown := r.describe }

/-- Replies to the request of a name. -/
def respond? (w : World) (name : String) (headers : Headers) (payload : Bytes) :
    Option (World × Except TransportError Unit × RequestView) := do
  let request ← w.desk.requests[name]?
  let (w, request, result) := w.reply request headers payload
  return ({ w with desk.requests := w.desk.requests.insert name request }, result, .of request)

/-- Answers the request of a name with a failure. -/
def signalError? (w : World) (name : String) (e : HandlerError) : Option (World × RequestView) := do
  let request ← w.desk.requests[name]?
  let (w, result, view) ← w.respond? name (errorHeaders e.reason) []
  match result with
  | .ok () => return (w, view)
  | .error sendError => return (w.report (e.unsent [] request.subject sendError), view)

/-- What is told of the request of a name. -/
def requestView? (w : World) (name : String) : Option RequestView :=
  w.desk.requests[name]?.map .of

/-- Drops a request; tells whether there was one. -/
def dropNamedRequest (w : World) (name : String) : World × Bool :=
  match w.desk.requests[name]? with
  | some request =>
    ({ w.dropRequest request with desk.requests := w.desk.requests.erase name }, true)
  | none => (w, false)

/-! ### Pools -/

/-- Makes a pool and starts its executors. -/
def openPool (w : World) (requested : Nat) : World :=
  let pool := w.pools.length
  let p : WorkerPool Job := .new requested
  let w := if requested = 0 then
      w.report { level := .warn, message := "worker pool needs at least one executor",
                 fields := [("requested", .number requested), ("using", .number p.capacity)] }
    else w
  let w := { w with pools := w.pools ++ [p] }.report
    { level := .debug, message := "worker pool started",
      fields := [("workers", .number p.capacity)] }
  (List.range p.capacity).foldl (fun w i => w.spawn (.execute pool i none)) w

/-- Makes a pool under a name. -/
def newPool (w : World) (name : String) (requested : Nat) : World :=
  { w.openPool requested with desk.pools := w.desk.pools.insert name w.pools.length }

/-- What is told of the pool of a name. -/
def poolView? (w : World) (name : String) : Option PoolState :=
  w.desk.pools[name]?.map w.poolState

/-- Closes the pool of a name. -/
def closePool? (w : World) (name : String) : Option World := do
  let pool ← w.desk.pools[name]?
  return w.setPool pool (← w.pools[pool]?).close

/-- Starts to shut a pool down. -/
def startShutdown? (w : World) (task name : String) : Option World := do
  let pool ← w.desk.pools[name]?
  return w.start task (.shutdown pool .closing)

/-- Starts to submit a job. -/
def startSubmit? (w : World) (task name : String) (context? : Option String)
    (script : Request → Script) (request : Request) : Option World := do
  let pool ← w.desk.pools[name]?
  let (w, context) := w.contextOf context?
  return w.start task (.submit pool (.offered { context, request, script := script request }))

/-- Starts to handle a request, on the pool of a name if there is such a one. -/
def startHandle (w : World) (task : String) (pool? context? : Option String)
    (script : Request → Script) (request : Request) : World :=
  let (w, context) := w.contextOf context?
  let handler : Handler := { pool? := pool?.bind (w.desk.pools[·]?), script }
  w.start task (.handle (handler.begin context request))

/-! ### Services -/

/-- Registers a service. -/
def openService (w : World) (config : ServiceConfig) : Except TransportError World := do
  config.check
  let service : Service := { info := .ofConfig config, stop := w.scopes.next }
  return { w with scopes := w.scopes.fresh, services := w.services ++ [service] }.report
    { level := .debug, message := "service registered",
      fields := [("service", .text config.name), ("version", .text config.version)] }

/-- Registers a service under a name. -/
def newService (w : World) (name : String) (config : ServiceConfig) :
    Except TransportError World := do
  return { ← w.openService config with desk.services := w.desk.services.insert name w.services.length }

/-- The fields that tell which service a record is about. -/
def serviceFields (info : ServiceInfo) : List (String × Log.Value) :=
  [("service", .text info.name), ("version", .text info.version),
    ("queue_group", .text (Text.quotedOption info.queueGroup?))]

/-- Subscribes an endpoint and starts to deliver its requests to a handler. -/
def openEndpoint (w : World) (s : ServiceId) (service : Service) (context : Context)
    (config : EndpointConfig) (handler : Handler) : Except TransportError World := do
  if w.isStopped service then throw .connectionClosed
  config.check
  let (w, inbox) ← w.openInbox config.subject
  let w := w.report
    { level := .info, message := "registered endpoint",
      fields := serviceFields service.info ++
        [("endpoint", .text config.name), ("subject", .text config.subject)] }
  let update (service : Service) : Service :=
    { service with info := service.info.withEndpoint config,
                   deliveries := service.deliveries ++ [w.tasks.length] }
  return { w with services := w.services.modify s update }.spawn
    (.deliver { inbox, context, stop := service.stop, handler })

/-- The service of a name, if it has no pool yet. -/
def plainService? (w : World) (name : String) : Option (ServiceId × Service) := do
  let s ← w.desk.services[name]?
  let service ← w.services[s]?
  guard service.pool?.isNone
  return (s, service)

/-- Adds an endpoint to the service of a name. -/
def addEndpoint? (w : World) (name : String) (context? : Option String) (config : EndpointConfig)
    (handler : Handler) : Option (Except TransportError World) := do
  let (s, service) ← w.plainService? name
  let (w, context) := w.contextOf context?
  return w.openEndpoint s service context config handler

/-- Pairs a service with a pool. -/
def pairService (w : World) (s : ServiceId) (pool : PoolId) : World :=
  match w.services[s]? with
  | none => w
  | some service =>
    { w with services := w.services.modify s ({ · with pool? := some pool }) }.report
      { level := .info, message := "service started",
        fields := serviceFields service.info ++
          [("workers", Log.Value.number (w.poolState pool).capacity)] }

/-- Drops a service; tells whether there was one. -/
def dropService (w : World) (name : String) : World × Bool :=
  ({ w with desk.services := w.desk.services.erase name }, w.desk.services.contains name)

/-- Pairs the service of a name with the pool of a name; tells how many workers it has. A service
that has a pool already is lost by the attempt. -/
def pairNamed (w : World) (name pool : String) : World × Option Nat :=
  match w.desk.pools[pool]? with
  | none => (w, none)
  | some p =>
    match w.plainService? name with
    | some (s, _) => (w.pairService s p, some (w.poolState p).capacity)
    | none => ((w.dropService name).1, none)

/-- What is told of a service. -/
structure ServiceView where
  info : ServiceInfo
  stopped : Bool
  pool? : Option PoolState

/-- What is told of the service of a name. -/
def serviceView? (w : World) (name : String) : Option ServiceView := do
  let service ← w.services[← w.desk.services[name]?]?
  return { info := service.info, stopped := w.isStopped service,
           pool? := service.pool?.map w.poolState }

/-- Starts to stop the service of a name. -/
def startStop? (w : World) (task name : String) : Option World := do
  let s ← w.desk.services[name]?
  return w.start task (.stop s .signalling)

/-! ### Clients -/

/-- Makes a client of an instance. -/
def newClient (w : World) (name inst : String) (hasParentSpan : Bool) : World × Client :=
  let client : Client := { id := w.clientCount, inst, hasParentSpan }
  ({ w with clientCount := w.clientCount + 1,
            desk.clients := w.desk.clients.insert name client }, client)

/-- How often the connection of a client is held: by itself and by every call under way. -/
def connections (w : World) (c : Client) : Nat :=
  1 + w.programs.countP fun
    | .exchange _ _ _ client? _ => client? == some c.id
    | _ => false

/-- Starts a call with a value for a value. -/
def startCall {In Out : Type} [Wire.WireMessage In] [Wire.WireMessage Out] (w : World)
    (task : String) (client? : Option ClientId) (context? : Option String) (spans : List String)
    (subject : String) (input : In) (outcome : Except ClientError Out → Outcome) : World :=
  let (w, context) := w.contextOf context?
  (w.withBus (w.bus.ask { subject, payload := Wire.WireMessage.encode input })).start task
    (.exchange w.bus.calls.length (some context) false client? fun result =>
      return outcome (← Client.outcome decode spans subject result))

/-- Starts a call of the client of a name. -/
def startClientCall? (w : World) (task name : String) (context? : Option String)
    (subject : String) (input : EchoMessage) : Option World := do
  let client ← w.desk.clients[name]?
  return w.startCall task (some client.id) context? [] subject input .echoed

end World

end ServiceBus.Bus
