import Std.Data.TreeMap
import ServiceBus.Bus.Memory
import ServiceBus.Bus.Method
import ServiceBus.Bus.Pool
import ServiceBus.Bus.Service
import ServiceBus.Greeter.Message
import ServiceBus.Subject

/-! # The world of a bus

A `World` is a bus with its services, pools and contexts, the tasks that are under way, and a clock
that stands still until it is moved. What happens goes into a journal.

A `Program` is what a task has left to do. Services and pools live as long as somebody holds them;
who does is read off the world (`holdsScope`, `holdsService`, `holdsPool`). -/

namespace ServiceBus.Bus

open Greeter (HelloReply EchoMessage Metadata)

/-- A task, by number. -/
abbrev TaskId := Nat

/-- A pool, by number. -/
abbrev PoolId := Nat

/-- A service, by number. -/
abbrev ServiceId := Nat

/-- A client, by number. -/
abbrev ClientId := Nat

/-! ### Journal -/

/-- What a task came to. -/
inductive Outcome where
  | cancelled
  | ended (e : ContextError)
  | slept (result : Except ContextError Unit)
  | received (request? : Option Message)
  | replied (result : Except TransportError Message)
  | queued
  /-- The pool was closed; what is shown of the job, if anything. -/
  | handedBack (job? : Option String)
  | shut (pool : PoolState)
  | handled
  | stopped (isStopped : Bool)
  | greeted (result : Except ClientError HelloReply)
  | echoed (result : Except ClientError EchoMessage)

/-- What happened. -/
inductive Event where
  | noted (n : Note)
  | replied (label : String) (reply : Message)
  | finished (task : String) (outcome : Outcome)

/-! ### Work -/

/-- One piece of work for a pool. -/
structure Job where
  context : Context
  request : Request
  script : Script

/-- What is shown of a job in a live world, unless its context has a deadline. -/
def Job.describe? (job : Job) (isCancelled : Bool) : Option String :=
  match job.context.deadline? with
  | some _ => none
  | none => some ("Job \x7b ctx: " ++ Context.describe isCancelled ++ ", request: " ++
      job.request.describe ++ ", .. \x7d")

/-- What handles requests: a script, which runs on a pool if there is one. -/
structure Handler where
  pool? : Option PoolId := none
  script : Request → Script

/-- A script that is being executed. -/
structure Run where
  context : Context
  request : Request
  script : Script
  /-- The end of the present pause. -/
  wake? : Option Time := none

/-- The run of a job. -/
def Job.run (job : Job) : Run :=
  { context := job.context, request := job.request, script := job.script }

/-- How far a job is on its way into a pool. -/
inductive Submission where
  | offered (job : Job)
  | placed (ticket : Ticket)

/-- How far the handling of a request is. -/
inductive Handling where
  | submitting (pool : PoolId) (submission : Submission)
  | running (run : Run)

/-- A handler begins with a request. -/
def Handler.begin (h : Handler) (context : Context) (request : Request) : Handling :=
  let job : Job := { context, request, script := h.script request }
  match h.pool? with
  | none => .running job.run
  | some pool => .submitting pool (.offered job)

/-- How far the stop of a service is. -/
inductive Stopping where
  | signalling
  /-- These deliveries are still to be waited for. -/
  | joining (deliveries : List TaskId)
  | shutting (stage : Shutdown)

/-- A delivery: the loop that hands the requests of an inbox to a handler. -/
structure Delivery where
  inbox : InboxId
  context : Context
  /-- The scope whose cancellation stops the delivery. -/
  stop : ScopeId
  handler : Handler
  /-- Whether the inbox was closed and what it holds is handed on. -/
  draining : Bool := false
  handling? : Option Handling := none

/-- What a task has left to do. -/
inductive Program where
  | awaitCancelled (context : Context)
  | awaitEnd (context : Context)
  /-- Sleeps up to an instant, bound to a context. -/
  | sleep (context : Context) (begun : Bool) (wake : Time)
  /-- Takes a request out of the inbox of a subscription and gives it a name. -/
  | receive (subscription : String) (inbox : InboxId) (request : String)
  /-- Sees a call through, bound to a context if there is one. -/
  | exchange (call : CallId) (context? : Option Context) (begun : Bool) (client? : Option ClientId)
      (conclude : Except TransportError Message → Logged Outcome)
  | submit (pool : PoolId) (submission : Submission)
  | shutdown (pool : PoolId) (stage : Shutdown)
  | handle (handling : Handling)
  | stop (service : ServiceId) (stage : Stopping)
  | deliver (delivery : Delivery)
  /-- Runs the jobs of a pool, as one of its executors. -/
  | execute (pool : PoolId) (executor : Nat) (run? : Option Run)

/-- A task; its end is noted if it has a name. -/
structure Task where
  name? : Option String := none
  /-- What is left to do, if anything. -/
  program? : Option Program
  /-- Whether it ended in a crash. -/
  crashed : Bool := false

/-! ### The world -/

/-- A registered service. -/
structure Service where
  info : ServiceInfo
  /-- The scope whose cancellation stops the deliveries. -/
  stop : ScopeId
  /-- The deliveries that nobody waits for yet. -/
  deliveries : List TaskId := []
  /-- The pool that its endpoints share and that is stopped with it. -/
  pool? : Option PoolId := none

/-- Permits for those who stand in a line. -/
structure Gate where
  permits : Nat := 0
  line : List TaskId := []

/-- A client of one instance. -/
structure Client where
  id : ClientId
  inst : String
  hasParentSpan : Bool := false

/-- The subject that the client calls a method of a service on. -/
def Client.subject (c : Client) (service method : String) : String :=
  ServiceBus.subject service method (some c.inst)

/-- What is shown of a client whose connection is held `connections` times. -/
def Client.describe (c : Client) (connections : Nat) : String :=
  "Client \x7b instance: " ++ Text.quoted c.inst ++ ", connections: " ++ toString connections ++
    " \x7d"

/-- Values by name. -/
abbrev Names (α : Type) := Std.TreeMap String α

/-- What is held by name. -/
structure Desk where
  contexts : Names Context := {}
  /-- The scopes that may be cancelled. A name keeps its own when another context takes the name. -/
  handles : Names ScopeId := {}
  subscriptions : Names InboxId := {}
  requests : Names Request := {}
  pools : Names PoolId := {}
  services : Names ServiceId := {}
  clients : Names Client := {}
  stores : Names StoreId := {}
  tasks : Names TaskId := {}

/-- A bus with all that goes on around it. -/
structure World where
  now : Time := 0
  scopes : ScopeTree := {}
  bus : MemoryBus := {}
  pools : List (WorkerPool Job) := []
  services : List Service := []
  stores : List (List Metadata) := []
  gates : List (Bytes × Gate) := []
  tasks : List Task := []
  clientCount : Nat := 0
  desk : Desk := {}
  events : List Event := []
  log : List Log.Record := []
  /-- What is noticed of a context that was cancelled and whose deadline has passed. -/
  noticed : ContextError := .cancelled

namespace World

/-! ### Journal -/

/-- Adds an event. -/
def record (w : World) (e : Event) : World := { w with events := w.events ++ [e] }

/-- Adds a record to the log. -/
def report (w : World) (r : Log.Record) : World := { w with log := w.log ++ [r] }

/-- Adds the records of a value to the log. -/
def absorb {α : Type} (w : World) (x : Logged α) : World := { w with log := w.log ++ x.log }

/-! ### Parts -/

/-- Changes a pool. -/
def setPool (w : World) (i : PoolId) (p : WorkerPool Job) : World :=
  { w with pools := w.pools.set i p }

/-- Changes the part of the world that is the bus. -/
def withBus (w : World) (bus : MemoryBus) : World := { w with bus }

/-- Starts a task; its number is that of the tasks before it. -/
def spawn (w : World) (program : Program) (name? : Option String := none) : World :=
  { w with tasks := w.tasks ++ [{ name?, program? := some program }] }

/-- Changes what a task has left to do. -/
def setProgram (w : World) (id : TaskId) (program : Program) : World :=
  { w with tasks := w.tasks.modify id ({ · with program? := some program }) }

/-- Ends a task. -/
def endTask (w : World) (id : TaskId) (crashed : Bool := false) : World :=
  { w with tasks := w.tasks.modify id ({ · with program? := none, crashed }) }

/-- Ends a task with an outcome, which is noted if the task has a name. -/
def finish (w : World) (id : TaskId) (outcome : Outcome) : World :=
  match (w.tasks[id]?).bind (·.name?) with
  | some name => (w.endTask id).record (.finished name outcome)
  | none => w.endTask id

/-- What a task has left to do. -/
def program? (w : World) (id : TaskId) : Option Program :=
  (w.tasks[id]?).bind (·.program?)

/-- Why a context is over. -/
def contextError? (w : World) (c : Context) : Option ContextError :=
  c.error? w.scopes w.now

/-- Why a context is over, for those who wait for its end. -/
def contextEnd? (w : World) (c : Context) : Option ContextError :=
  c.ending? w.noticed w.scopes w.now

/-! ### Holding -/

/-- The jobs that a pool holds: those that wait for a permit, are admitted or queued. -/
def poolJobs (p : WorkerPool Job) : List Job :=
  (p.line ++ p.admitted ++ p.queue).map (·.2)

/-- The contexts that handling a request holds. -/
def handlingContexts : Handling → List Context
  | .submitting _ (.offered job) => [job.context]
  | .submitting _ (.placed _) => []
  | .running run => [run.context]

/-- The contexts that a program holds. -/
def programContexts : Program → List Context
  | .awaitCancelled c | .awaitEnd c | .sleep c _ _ => [c]
  | .exchange _ c? _ _ _ => c?.toList
  | .submit _ (.offered job) => [job.context]
  | .handle h => handlingContexts h
  | .deliver d => d.context :: d.handling?.elim [] handlingContexts
  | .execute _ _ run? => run?.elim [] fun run => [run.context]
  | .submit _ (.placed _) | .receive .. | .shutdown .. | .stop .. => []

/-- All programs of tasks that are under way. -/
def programs (w : World) : List Program := w.tasks.filterMap (·.program?)

/-- Whether somebody holds a scope: a context of it, or the right to cancel it. -/
def holdsScope (w : World) (s : ScopeId) : Bool :=
  w.desk.contexts.toList.any (fun (_, c) => c.scope == s) ||
  w.desk.handles.toList.any (fun (_, scope) => scope == s) ||
  w.programs.any (fun p => (programContexts p).any (·.scope == s)) ||
  w.pools.any fun p => (poolJobs p).any (·.context.scope == s)

/-- Whether somebody holds a service. -/
def holdsService (w : World) (s : ServiceId) : Bool :=
  w.desk.services.toList.any (·.2 == s) ||
  w.programs.any fun
    | .stop service _ => service == s
    | _ => false

/-- The pools that a program holds on its own account. -/
def programPools : Program → List PoolId
  | .submit pool _ | .shutdown pool _ | .handle (.submitting pool _) => [pool]
  | .deliver d => d.handler.pool?.toList
  | _ => []

/-- Whether somebody holds a pool. -/
def holdsPool (w : World) (p : PoolId) : Bool :=
  w.desk.pools.toList.any (·.2 == p) ||
  w.programs.any (fun program => (programPools program).contains p) ||
  (List.range w.services.length).any fun s =>
    ((w.services[s]?).bind (·.pool?)) == some p && w.holdsService s

/-- Cancels a scope and all that hear of it. -/
def cancelScope (w : World) (s : ScopeId) : World :=
  { w with scopes := w.scopes.cancel w.holdsScope s }

/-- Gives up a service that nobody holds: its deliveries are stopped. -/
def reapService (w : World) (s : ServiceId) : World :=
  match w.services[s]? with
  | some service =>
    if w.scopes.isCancelled service.stop || w.holdsService s then w
    else w.cancelScope service.stop
  | none => w

/-- Gives up a pool that nobody holds: its executors finish what is queued. -/
def reapPool (w : World) (p : PoolId) : World :=
  match w.pools[p]? with
  | some pool => if pool.queueShut || w.holdsPool p then w else w.setPool p pool.shutQueue
  | none => w

/-- Gives up all that nobody holds. -/
def reap (w : World) : World :=
  let w := (List.range w.services.length).foldl reapService w
  (List.range w.pools.length).foldl reapPool w

end World

end ServiceBus.Bus
