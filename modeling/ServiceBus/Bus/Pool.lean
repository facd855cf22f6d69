/-! # Worker pools

A `WorkerPool` of capacity `n` has `n` executors that take jobs from one queue, and `n` permits. A
submission takes a permit before its job is queued and the permit comes back when the job is over,
so at most `n` jobs are queued or running.

A submission has a `Ticket`. It is offered (`submit`), stands in the line for a permit, is admitted
(`admit?`) and queued (`enqueue?`); or its job is handed back. A pool is closed in three parts: it is
announced, then admission is shut and with it the line, then the queue is shut, which executors
empty before they exit. -/

namespace ServiceBus.Bus

/-- How many executors a pool has that was given none. -/
def defaultConcurrentJobs : Nat := 1

/-- A submission to a pool, by number. -/
abbrev Ticket := Nat

/-- Executors that share a queue of jobs. -/
structure WorkerPool (α : Type) where
  capacity : Nat
  /-- How many submissions may still be admitted. -/
  permits : Nat
  /-- How many permits are held. -/
  inFlight : Nat := 0
  /-- The pool was closed. -/
  announced : Bool := false
  /-- No permit is given any more. -/
  admissionShut : Bool := false
  /-- No job is queued any more. -/
  queueShut : Bool := false
  /-- How many submissions there have been. -/
  issued : Ticket := 0
  /-- The submissions that wait for a permit. -/
  line : List (Ticket × α) := []
  /-- The submissions that have a permit and are not queued yet. -/
  admitted : List (Ticket × α) := []
  /-- The jobs that wait for an executor. -/
  queue : List (Ticket × α) := []
  /-- The executors without a job, the one that has waited longest first. -/
  idle : List Nat
  /-- The executors with a job, and the submission that it came from. -/
  busy : List (Nat × Ticket) := []
  /-- Whether nobody has waited for the executors yet. -/
  unjoined : Bool := true

/-- How far the shutdown of a pool is. -/
inductive Shutdown where
  | closing
  /-- These executors are still to be waited for. -/
  | joining (executors : List Nat)
deriving DecidableEq, Repr

/-- What is told of a pool. -/
structure PoolState where
  capacity : Nat
  inFlight : Nat
  closed : Bool
deriving DecidableEq, Repr

/-- What is shown of a pool. -/
def PoolState.describe (s : PoolState) : String :=
  "WorkerPool \x7b capacity: " ++ toString s.capacity ++ ", in_flight: " ++ toString s.inFlight ++
    ", closed: " ++ toString s.closed ++ " \x7d"

namespace WorkerPool

variable {α : Type}

/-- The capacity of a pool that is asked to have `requested` executors. -/
def capacityFor (requested : Nat) : Nat :=
  if requested = 0 then defaultConcurrentJobs else requested

/-- A pool with all executors idle. -/
def new (requested : Nat) : WorkerPool α :=
  let capacity := capacityFor requested
  { capacity, permits := capacity, idle := List.range capacity }

/-- What is told of the pool. -/
def state (p : WorkerPool α) : PoolState :=
  { capacity := p.capacity, inFlight := p.inFlight, closed := p.announced }

/-- Gives a permit to a submission. -/
def takePermit (p : WorkerPool α) : WorkerPool α :=
  { p with permits := p.permits - 1, inFlight := p.inFlight + 1 }

/-- Takes a permit back. -/
def returnPermit (p : WorkerPool α) : WorkerPool α :=
  { p with permits := p.permits + 1, inFlight := p.inFlight - 1 }

/-! ### Submissions -/

/-- What becomes of a submission. -/
inductive Verdict (α : Type) where
  /-- It goes on. -/
  | onward
  | queued
  /-- The pool is closed, and the job is given back. -/
  | handedBack (job : α)
deriving DecidableEq, Repr

/-- Offers a job: it gets the number of the submissions before it, or is handed back. -/
def submit (p : WorkerPool α) (job : α) : WorkerPool α × Verdict α :=
  let ticket := p.issued
  let p := { p with issued := ticket + 1 }
  if p.announced then (p, .handedBack job)
  else ({ p with line := p.line ++ [(ticket, job)] }, .onward)

/-- The place of a submission in the line. -/
def position (p : WorkerPool α) (ticket : Ticket) : Nat :=
  p.line.findIdx (·.1 == ticket)

/-- Takes a submission out of the line. -/
def leaveLine (p : WorkerPool α) (ticket : Ticket) : WorkerPool α :=
  { p with line := p.line.filter (·.1 != ticket) }

/-- Takes a submission out of the admitted ones. -/
def leaveAdmitted (p : WorkerPool α) (ticket : Ticket) : WorkerPool α :=
  { p with admitted := p.admitted.filter (·.1 != ticket) }

/-- Gives a permit to a submission in the line if it is its turn: as many may have one as there are,
the first first. -/
def admit? (p : WorkerPool α) (ticket : Ticket) : Option (WorkerPool α × Verdict α) := do
  let job ← p.line.lookup ticket
  if p.admissionShut then some (p.leaveLine ticket, .handedBack job)
  else if p.position ticket < p.permits then
    let p := (p.leaveLine ticket).takePermit
    some ({ p with admitted := p.admitted ++ [(ticket, job)] }, .onward)
  else none

/-- Queues the job of a submission that was admitted. -/
def enqueue? (p : WorkerPool α) (ticket : Ticket) : Option (WorkerPool α × Verdict α) := do
  let job ← p.admitted.lookup ticket
  if p.queueShut then some ((p.leaveAdmitted ticket).returnPermit, .handedBack job)
  else if p.queue.length < p.capacity then
    some ({ p.leaveAdmitted ticket with queue := p.queue ++ [(ticket, job)] }, .queued)
  else none

/-- The next step of a submission, or `none` while it waits. -/
def advance? (p : WorkerPool α) (ticket : Ticket) : Option (WorkerPool α × Verdict α) :=
  (p.admit? ticket).or (p.enqueue? ticket)

/-- Gives a submission up. -/
def abandon (p : WorkerPool α) (ticket : Ticket) : WorkerPool α :=
  match p.admitted.lookup ticket with
  | some _ => (p.leaveAdmitted ticket).returnPermit
  | none => p.leaveLine ticket

/-! ### Executors -/

/-- What an idle executor finds. -/
inductive Find (α : Type) where
  | job (job : α)
  /-- The queue is empty for good. -/
  | ended

/-- The idle executors after the one at place `k` was woken and found no job: it goes to the end. -/
def wakeInVain (k : Nat) (idle : List Nat) : List Nat :=
  idle.eraseIdx k ++ idle[k]?.toList

/-- An idle executor takes the first job of the queue, or exits if none can come. Whoever takes a job
wakes one executor more than there are jobs left. -/
def take? (p : WorkerPool α) (i : Nat) : Option (WorkerPool α × Find α) :=
  if p.idle.contains i then
    match p.queue with
    | (ticket, job) :: rest =>
      some ({ p with queue := rest, idle := wakeInVain rest.length (p.idle.filter (· != i)),
                     busy := p.busy ++ [(i, ticket)] }, .job job)
    | [] => if p.queueShut then some ({ p with idle := p.idle.filter (· != i) }, .ended) else none
  else none

/-- Whether it is the turn of an idle executor: those who waited longest take the jobs there are. -/
def isNext (p : WorkerPool α) (i : Nat) : Bool :=
  p.queue.isEmpty || p.idle.idxOf i < p.queue.length

/-- The job of an executor is over, whatever became of it. -/
def finish (p : WorkerPool α) (i : Nat) : WorkerPool α :=
  match p.busy.lookup i with
  | some _ =>
    { p with idle := p.idle ++ [i], busy := p.busy.filter (·.1 != i) }.returnPermit
  | none => p

/-- Whether an executor has exited. -/
def hasExited (p : WorkerPool α) (i : Nat) : Bool :=
  !p.idle.contains i && (p.busy.lookup i).isNone

/-! ### Closing -/

/-- Declares the pool closed. -/
def announce (p : WorkerPool α) : WorkerPool α := { p with announced := true }

/-- Gives no more permits. -/
def shutAdmission (p : WorkerPool α) : WorkerPool α := { p with admissionShut := true }

/-- Takes no more jobs into the queue. -/
def shutQueue (p : WorkerPool α) : WorkerPool α := { p with queueShut := true }

/-- Closes the pool; whoever comes second does nothing. -/
def close (p : WorkerPool α) : WorkerPool α :=
  if p.announced then p else p.announce.shutAdmission.shutQueue

/-- Lets one caller wait for the executors: the numbers of those it has to wait for. -/
def join (p : WorkerPool α) : WorkerPool α × List Nat :=
  ({ p with unjoined := false }, if p.unjoined then List.range p.capacity else [])

/-- One step of a shutdown, or `none` while it waits; there is no next stage when it is done. -/
def shutdown? (p : WorkerPool α) : Shutdown → Option (WorkerPool α × Option Shutdown)
  | .closing => let (p, executors) := p.close.join; some (p, some (.joining executors))
  | .joining [] => some (p, none)
  | .joining (i :: rest) => if p.hasExited i then some (p, some (.joining rest)) else none

end WorkerPool

end ServiceBus.Bus
