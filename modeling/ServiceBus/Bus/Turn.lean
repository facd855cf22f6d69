import ServiceBus.Bus.World

/-! # Turns

`World.turn` lets one task go on until it next yields, or says that it waits. Any task may be given
the next turn at any time. `World.settle` gives turns to all tasks in rotation until all wait. -/

namespace ServiceBus.Bus

namespace World

/-! ### Scripts -/

/-- What becomes of something that had a turn. -/
inductive Progress (α : Type) where
  | going (a : α)
  | over
  | crashed

/-- Gives a request up. -/
def dropRequest (w : World) (request : Request) : World :=
  w.withBus (w.bus.drop request)

/-- Sends a reply to an address. -/
def send (w : World) (address : ReplyAddress) (reply : Message) :
    World × Except TransportError Unit :=
  match address with
  | .call id => let (bus, result) := w.bus.answer id reply; (w.withBus bus, result)
  | .journal label => (w.record (.replied label reply), .ok ())
  | .broken => (w, .error .connectionClosed)

/-- Replies to a request; whatever comes of it, the request has then been responded to. -/
def reply (w : World) (request : Request) (headers : Headers) (payload : Bytes) :
    World × Request × Except TransportError Unit :=
  match request.replyTo? with
  | none => (w, request, .error .alreadyResponded)
  | some address =>
    let (w, result) := w.send address (request.reply headers payload)
    (w, { request with replyTo? := none }, result)

/-- The gate of a payload. -/
def gate (w : World) (payload : Bytes) : Gate := (w.gates.lookup payload).getD {}

/-- Changes the gate of a payload. -/
def setGate (w : World) (payload : Bytes) (g : Gate) : World :=
  { w with gates := (payload, g) :: w.gates.filter (·.1 != payload) }

/-- Takes a task through a gate: it joins the line, and passes as soon as there are as many permits
as it has places in the line up to its own. -/
def pass? (w : World) (id : TaskId) (payload : Bytes) : Option (World × Bool) :=
  let g := w.gate payload
  if !g.line.contains id then some (w.setGate payload { g with line := g.line ++ [id] }, false)
  else if g.line.idxOf id < g.permits then
    some (w.setGate payload { permits := g.permits - 1, line := g.line.filter (· != id) }, true)
  else none

/-- Stores metadata. -/
def store (w : World) (s : StoreId) (key value : String) : World :=
  { w with stores := w.stores.modify s (· ++ [{ key, value }]) }

/-- One step of a script that task `id` executes. -/
def turnRun (w : World) (id : TaskId) (run : Run) : Option (World × Progress Run) :=
  match run.script with
  | .stop => some (w.dropRequest run.request, .over)
  | .crash => some (w.dropRequest run.request, .crashed)
  | .note n next => some (w.record (.noted n), .going { run with script := next })
  | .report r next => some (w.report r, .going { run with script := next })
  | .reply headers payload next =>
    let (w, request, result) := w.reply run.request headers payload
    some (w, .going { run with request, script := next result })
  | .pass payload next => do
    let (w, passed) ← w.pass? id payload
    return (w, .going (if passed then { run with script := next } else run))
  | .pause ms next =>
    match run.wake? with
    | none => some (w, .going { run with wake? := some (w.now + ms) })
    | some wake =>
      if wake ≤ w.now then some (w, .going { run with script := next, wake? := none }) else none
  | .awaitEnd next => do
    let e ← w.contextEnd? run.context
    return (w, .going { run with script := next e })
  | .inspect next =>
    some (w, .going { run with script := next (w.contextError? run.context) })
  | .keep s key value next => some (w.store s key value, .going { run with script := next })

/-! ### Submissions and handling -/

/-- What becomes of a submission that had a turn. -/
inductive Placement where
  | onward (submission : Submission)
  | queued
  | handedBack (job : Job)

/-- One step of a job on its way into a pool. -/
def turnSubmission (w : World) (pool : PoolId) (s : Submission) : Option (World × Placement) := do
  let p ← w.pools[pool]?
  let (ticket, p, verdict) ← match s with
    | .offered job => let (p', verdict) := p.submit job; some (p.issued, p', verdict)
    | .placed ticket => (p.advance? ticket).map fun (p', verdict) => (ticket, p', verdict)
  return (w.setPool pool p, match verdict with
    | .onward => .onward (.placed ticket)
    | .queued => .queued
    | .handedBack job => .handedBack job)

/-- One step of the handling of a request. -/
def turnHandling (w : World) (id : TaskId) : Handling → Option (World × Progress Handling)
  | .running run => do
    let (w, progress) ← w.turnRun id run
    return (w, match progress with
      | .going run => .going (.running run)
      | .over => .over
      | .crashed => .crashed)
  | .submitting pool s => do
    let (w, placement) ← w.turnSubmission pool s
    return (w, match placement with
      | .onward s => .going (.submitting pool s)
      | .queued => .over
      | .handedBack job =>
        .going (.running { job.run with script := .reject job.request.subject }))

/-! ### Deliveries and executors -/

/-- One step of a delivery. Before it takes the next request it looks whether it is stopped. -/
def turnDelivery (w : World) (id : TaskId) (d : Delivery) : Option (World × Progress Delivery) :=
  match d.handling? with
  | some h => do
    let (w, progress) ← w.turnHandling id h
    match progress with
    | .going h => some (w, .going { d with handling? := some h })
    | .over => some (w, .going { d with handling? := none })
    | .crashed => some (w, .crashed)
  | none =>
    if !d.draining && w.scopes.isCancelled d.stop then
      some (w.withBus (w.bus.closeInbox d.inbox), .going { d with draining := true })
    else match w.bus.take? d.inbox with
      | some (request, bus) =>
        some (w.withBus bus, .going { d with handling? := some (d.handler.begin d.context request) })
      | none => if w.bus.hasEnded d.inbox then some (w, .over) else none

/-- The record of the end of a delivery that was stopped. -/
def endpointStopped (w : World) (d : Delivery) : List Log.Record :=
  if d.draining then
    [{ level := .debug, message := "endpoint stopped",
       fields := [("subject", .text ((w.bus.inboxes[d.inbox]?).elim "" (·.subject)))] }]
  else []

/-- A turn of a task that delivers. -/
def turnDeliver (w : World) (id : TaskId) (d : Delivery) : Option World := do
  let (w, progress) ← w.turnDelivery id d
  match progress with
  | .going d => return w.setProgram id (.deliver d)
  | .over =>
    return ((w.endpointStopped d).foldl report w).withBus (w.bus.discardInbox d.inbox) |>.endTask id
  | .crashed => return (w.withBus (w.bus.discardInbox d.inbox)).endTask id true

/-- A turn of a task that runs the jobs of a pool. A crash ends the job but not the executor. -/
def turnExecute (w : World) (id : TaskId) (pool : PoolId) (executor : Nat) :
    Option Run → Option World
  | none => do
    let p ← w.pools[pool]?
    guard (p.isNext executor)
    let (p, found) ← p.take? executor
    let w := w.setPool pool p
    match found with
    | .job job => return w.setProgram id (.execute pool executor (some job.run))
    | .ended =>
      return (w.report { level := .trace, message := "executor exiting",
                         fields := [("worker", .number executor)] }).endTask id
  | some run => do
    let p ← w.pools[pool]?
    let (w, progress) ← w.turnRun id run
    let rest := w.setProgram id (.execute pool executor none)
    match progress with
    | .going run => return w.setProgram id (.execute pool executor (some run))
    | .over => return rest.setPool pool (p.finish executor)
    | .crashed =>
      return (rest.setPool pool (p.finish executor)).report
        { level := .error, message := "job panicked",
          fields := [("subject", .text run.request.subject)] }

/-! ### Shutdown and stop -/

/-- One step of the shutdown of a pool; there is no next stage when it is done. -/
def turnShutdown (w : World) (pool : PoolId) (stage : Shutdown) :
    Option (World × Option Shutdown) := do
  let p ← w.pools[pool]?
  let (p, next?) ← p.shutdown? stage
  let w := w.setPool pool p
  match next? with
  | some stage => return (w, some stage)
  | none =>
    return (w.report { level := .debug, message := "worker pool stopped",
                       fields := [("workers", .number p.capacity)] }, none)

/-- What is told of a pool. -/
def poolState (w : World) (pool : PoolId) : PoolState :=
  (w.pools[pool]?).elim ⟨0, 0, true⟩ (·.state)

/-- Whether a service was stopped. -/
def isStopped (w : World) (service : Service) : Bool := w.scopes.isCancelled service.stop

/-- Whether a task has ended. -/
def hasEnded (w : World) (id : TaskId) : Bool := (w.program? id).isNone

/-- A delivery that was waited for may have crashed. -/
def reportCrash (w : World) (id : TaskId) : World :=
  if (w.tasks[id]?).any (·.crashed) then
    w.report { level := .error, message := "endpoint delivery task failed",
               fields := [("reason", .text "task panicked")] }
  else w

/-- A turn of a task that stops a service: first its deliveries end, then its pool is shut down. -/
def turnStop (w : World) (id : TaskId) (s : ServiceId) (stage : Stopping) : Option World := do
  let service ← w.services[s]?
  match stage with
  | .signalling =>
    let w := w.cancelScope service.stop
    let w := { w with services := w.services.modify s ({ · with deliveries := [] }) }
    return w.setProgram id (.stop s (.joining service.deliveries))
  | .joining (t :: rest) =>
    if w.hasEnded t then return (w.reportCrash t).setProgram id (.stop s (.joining rest)) else none
  | .joining [] =>
    match service.pool? with
    | none => return w.finish id (.stopped (w.isStopped service))
    | some _ => return w.setProgram id (.stop s (.shutting .closing))
  | .shutting stage =>
    let pool ← service.pool?
    let (w, next?) ← w.turnShutdown pool stage
    match next? with
    | some stage => return w.setProgram id (.stop s (.shutting stage))
    | none =>
      return (w.report { level := .info, message := "service stopped",
                         fields := [("service", .text service.info.name)] }).finish id
        (.stopped (w.isStopped service))

/-! ### Tasks of callers -/

/-- Why a context that a task may be bound to is over. Once it has begun, the task waits for the end. -/
def boundError? (begun : Bool) (context? : Option Context) (w : World) : Option ContextError :=
  context?.bind fun c => if begun then w.contextEnd? c else w.contextError? c

/-- A turn of a task that sees a call through. -/
def turnExchange (w : World) (id : TaskId) (call : CallId) (context? : Option Context)
    (begun : Bool) (client? : Option ClientId)
    (conclude : Except TransportError Message → Logged Outcome) : Option World :=
  let poll (w : World) : World × Option (Except TransportError Message) :=
    let (bus, result) := w.bus.poll call
    (w.withBus bus, result)
  let finish (w : World) (result : Except TransportError Message) : World :=
    (w.absorb (conclude result)).finish id (conclude result).value
  match Context.run (boundError? begun context?) poll begun w with
  | (w, .over (.ok result)) => some (finish w result)
  | (w, .over (.error e)) =>
    some (finish (w.withBus (w.bus.abandon call)) (.error (.ofContext e)))
  | (w', .pending) =>
    if begun && (w.bus.step call).isNone then none
    else some (w'.setProgram id (.exchange call context? true client? conclude))

/-- A turn of a task that sleeps, bound to a context. -/
def turnSleep (w : World) (id : TaskId) (context : Context) (begun : Bool) (wake : Time) :
    Option World :=
  let poll (w : World) : World × Option Unit := (w, if wake ≤ w.now then some () else none)
  match Context.run (boundError? begun (some context)) poll begun w with
  | (w, .over result) => some (w.finish id (.slept result))
  | (w, .pending) => if begun then none else some (w.setProgram id (.sleep context true wake))

/-- Puts a subscription under a name; one that had the name is given up. -/
def nameSubscription (w : World) (name : String) (inbox : InboxId) : World :=
  let w := match w.desk.subscriptions[name]? with
    | some old => w.withBus (w.bus.discardInbox old)
    | none => w
  { w with desk.subscriptions := w.desk.subscriptions.insert name inbox }

/-- Puts a request under a name; one that had the name is given up. -/
def nameRequest (w : World) (name : String) (request : Request) : World :=
  let w := match w.desk.requests[name]? with
    | some old => w.dropRequest old
    | none => w
  { w with desk.requests := w.desk.requests.insert name request }

/-- A turn of a task that takes a request. -/
def turnReceive (w : World) (id : TaskId) (subscription : String) (inbox : InboxId)
    (request : String) : Option World :=
  match w.bus.take? inbox with
  | some (r, bus) =>
    let w := ((w.withBus bus).nameRequest request r).nameSubscription subscription inbox
    some (w.finish id (.received (some (r.reply r.headers r.payload))))
  | none =>
    if w.bus.hasEnded inbox then
      some ((w.nameSubscription subscription inbox).finish id (.received none))
    else none

/-- A turn of a task that submits a job. -/
def turnSubmit (w : World) (id : TaskId) (pool : PoolId) (s : Submission) : Option World := do
  let (w, placement) ← w.turnSubmission pool s
  match placement with
  | .onward s => return w.setProgram id (.submit pool s)
  | .queued => return w.finish id .queued
  | .handedBack job =>
    return (w.dropRequest job.request).finish id
      (.handedBack (job.describe? (w.scopes.isCancelled job.context.scope)))

/-- A turn of a task that handles a request. -/
def turnHandle (w : World) (id : TaskId) (h : Handling) : Option World := do
  let (w, progress) ← w.turnHandling id h
  match progress with
  | .going h => return w.setProgram id (.handle h)
  | .over => return w.finish id .handled
  | .crashed => return w.endTask id true

/-! ### All tasks -/

/-- Lets a task go on until it next yields, or says that it waits or has ended. -/
def turn (w : World) (id : TaskId) : Option World := do
  match ← w.program? id with
  | .awaitCancelled c => if w.scopes.isCancelled c.scope then w.finish id .cancelled else none
  | .awaitEnd c => return w.finish id (.ended (← w.contextEnd? c))
  | .sleep c begun wake => w.turnSleep id c begun wake
  | .receive subscription inbox request => w.turnReceive id subscription inbox request
  | .exchange call c? begun client? conclude => w.turnExchange id call c? begun client? conclude
  | .submit pool s => w.turnSubmit id pool s
  | .shutdown pool stage => do
    let (w, next?) ← w.turnShutdown pool stage
    match next? with
    | some stage => return w.setProgram id (.shutdown pool stage)
    | none => return w.finish id (.shut (w.poolState pool))
  | .handle h => w.turnHandle id h
  | .stop service stage => w.turnStop id service stage
  | .deliver d => w.turnDeliver id d
  | .execute pool executor run? => w.turnExecute id pool executor run?

/-- Gives every task a turn, and tells whether any went on. -/
def round (w : World) : World × Bool :=
  (List.range w.tasks.length).foldl (fun (w, moved) id =>
    match w.turn id with
    | some w => (w, true)
    | none => (w, moved)) (w, false)

/-- At most `n` rounds, up to one in which no task goes on and nothing is given up. -/
def rounds : Nat → World → World
  | 0, w => w
  | n + 1, w =>
    match w.round with
    | (w, true) => rounds n w.reap
    | (w, false) =>
      let w := w.reap
      match w.round with
      | (w, true) => rounds n w.reap
      | (w, false) => w

/-- More rounds than any world needs. -/
def roundLimit : Nat := UInt32.size

/-- Gives turns in rotation until every task waits. -/
def settle (w : World) : World := rounds roundLimit w

/-! ### Time -/

/-- The instants that a script waits for. -/
def runTimers (run : Run) : List Time :=
  match run.script with
  | .awaitEnd _ => run.context.deadline?.toList
  | _ => run.wake?.toList

/-- The instants that handling a request waits for. -/
def handlingTimers : Handling → List Time
  | .submitting .. => []
  | .running run => runTimers run

/-- The instants that a task waits for. -/
def programTimers : Program → List Time
  | .awaitEnd c => c.deadline?.toList
  | .sleep c _ wake => wake :: c.deadline?.toList
  | .exchange _ c? _ _ _ => (c?.bind (·.deadline?)).toList
  | .handle h => handlingTimers h
  | .deliver d => d.handling?.elim [] handlingTimers
  | .execute _ _ run? => run?.elim [] runTimers
  | .awaitCancelled _ | .receive .. | .submit .. | .shutdown .. | .stop .. => []

/-- The first instant after now that some task waits for. -/
def nextTimer? (w : World) : Option Time :=
  ((w.programs.flatMap programTimers).filter (w.now < ·)).min?

/-- Moves the clock to `target`, stopping at most `n` times on the way for the tasks that wait for
an instant. -/
def advanceTo (target : Time) : Nat → World → World
  | 0, w => { w with now := target }.settle
  | n + 1, w =>
    match w.nextTimer? with
    | some t => if t < target then advanceTo target n { w with now := t }.settle
      else { w with now := target }.settle
    | none => { w with now := target }.settle

/-- Moves the clock. Every stop on the way is at a later instant, so there are at most `ms`. -/
def advance (w : World) (ms : Time) : World := advanceTo (w.now + ms) ms w

/-! ### Abort -/

/-- Gives a job on its way into a pool up. -/
def dropSubmission (w : World) (pool : PoolId) : Submission → World
  | .offered job => w.dropRequest job.request
  | .placed ticket =>
    match w.pools[pool]? with
    | none => w
    | some p =>
      let jobs := (p.line ++ p.admitted).lookup ticket
      jobs.elim id (fun job w => w.dropRequest job.request) (w.setPool pool (p.abandon ticket))

/-- Takes a task out of the lines of all gates. -/
def leaveGates (w : World) (id : TaskId) : World :=
  { w with gates := w.gates.map fun (payload, g) =>
      (payload, { g with line := g.line.filter (· != id) }) }

/-- Gives up what a task has left to do. -/
def dropProgram (w : World) (id : TaskId) : Program → World
  | .receive _ inbox _ => w.withBus (w.bus.discardInbox inbox)
  | .exchange call .. => w.withBus (w.bus.abandon call)
  | .submit pool s | .handle (.submitting pool s) => w.dropSubmission pool s
  | .handle (.running run) => (w.leaveGates id).dropRequest run.request
  | .awaitCancelled _ | .awaitEnd _ | .sleep .. | .shutdown .. | .stop .. | .deliver _
  | .execute .. => w

/-- Ends a task in the middle of what it does. -/
def abort (w : World) (id : TaskId) : World :=
  match w.program? id with
  | some program => (w.endTask id).dropProgram id program
  | none => w

end World

end ServiceBus.Bus
