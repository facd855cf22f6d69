import ServiceBus.Proofs.Bus.Requests
import ServiceBus.Proofs.World.Closing

/-! # What a turn does with requests

What tasks have in hand is looked at apart from what kind of tasks they are.

* `Program.handling?`, `World.hand?`: the request that a task has in hand, and how far it is with it.
* `Program.role`: what a task is for; it does not change as long as the task goes on (`role_of_turn`).
* `World.Deed`: all that a turn can do with requests, calls and pools.
* `World.ComesTo`: how a task comes to what it has in hand after its turn. -/

namespace ServiceBus.Bus

/-! ### Hands and roles -/

/-- The request that a task has in hand, if any, and how far it is with it. -/
def Program.handling? : Program → Option Handling
  | .submit pool s => some (.submitting pool s)
  | .handle h => some h
  | .deliver d => d.handling?
  | .execute _ _ run? => run?.map .running
  | .awaitCancelled _ | .awaitEnd _ | .sleep .. | .receive .. | .exchange .. | .shutdown .. |
    .stop .. => none

/-- A pool that is another but for its marks. -/
def WorkerPool.Marks {α : Type} (p p' : WorkerPool α) : Prop :=
  ∃ announced admissionShut queueShut unjoined,
    p' = { p with announced, admissionShut, queueShut, unjoined }

/-- A pool that is closed is marked. -/
theorem WorkerPool.marks_close {α : Type} (p : WorkerPool α) : p.Marks p.close := by
  rcases close_cases p with ⟨-, hp⟩ | ⟨-, hp⟩
  · exact ⟨_, _, _, _, hp⟩
  · exact ⟨true, true, true, _, hp⟩

namespace World

variable {w w' v : World} {id : Nat}

/-- The request that a task has in hand, if any, and how far it is with it. -/
def hand? (w : World) (id : TaskId) : Option Handling := (w.program? id).bind (·.handling?)

/-- What a task is for, as long as it goes on. -/
def role? (w : World) (id : TaskId) : Option Role := (w.program? id).map (·.role)

/-- What a task has in hand. -/
theorem hand?_eq {program : Program} (h : w.program? id = some program) :
    w.hand? id = program.handling? := by
  rw [hand?, h]
  rfl

/-- A task that has ended has nothing in hand. -/
theorem hand?_eq_none (h : w.program? id = none) : w.hand? id = none := by
  rw [hand?, h]
  rfl

/-- What a task is for. -/
theorem role?_eq {program : Program} (h : w.program? id = some program) :
    w.role? id = some program.role := by
  rw [role?, h]
  rfl

/-- What a step of a submission leaves of it, or what comes of its job. -/
inductive Submitted (w : World) (id pool : Nat) (w' : World) : Placement → Prop
  | onward (next : Submission) (hand : w'.hand? id = some (.submitting pool next))
      (bus : w'.bus = w.bus) : Submitted w id pool w' (.onward next)
  | queued (hand : w'.hand? id = none) (bus : w'.bus = w.bus) : Submitted w id pool w' .queued
  | refused (job : Job) (bus : w'.bus = w.bus)
      (hand : w'.hand? id = some (.running { job.run with script := .reject job.request.subject })) :
      Submitted w id pool w' (.handedBack job)
  | returned (job : Job) (hand : w'.hand? id = none) (bus : w'.bus = w.bus.drop job.request) :
      Submitted w id pool w' (.handedBack job)

/-- **All that a turn can do** with requests, calls and pools. -/
inductive Deed (w : World) (id : TaskId) (w' : World) : Prop
  /-- Nothing: the pools may be marked. -/
  | quiet (role : w.role? id = some .other) (hand : w.hand? id = none) (hand' : w'.hand? id = none)
      (bus : w'.bus = w.bus) (desk : w'.desk = w.desk)
      (pools : w'.pools = w.pools ∨ ∃ pool p p', Puts pool p p' w w' ∧ p.Marks p')
  | exchange (call : CallId) (context? : Option Context) (begun : Bool) (client? : Option ClientId)
      (conclude : Except TransportError Message → Logged Outcome)
      (program : w.program? id = some (.exchange call context? begun client? conclude))
      (turn : w.turnExchange id call context? begun client? conclude = some w')
      (hand' : w'.hand? id = none) (desk : w'.desk = w.desk) (pools : w'.pools = w.pools)
  | receive (subscription request : String) (inbox : InboxId)
      (program : w.program? id = some (.receive subscription inbox request))
      (turn : w.turnReceive id subscription inbox request = some w')
      (hand' : w'.hand? id = none) (pools : w'.pools = w.pools)
  /-- A delivery was told to stop. -/
  | drain (d : Delivery) (program : w.program? id = some (.deliver d)) (hand : w.hand? id = none)
      (hand' : w'.hand? id = none)
      (bus : w'.bus = w.bus.closeInbox d.inbox) (desk : w'.desk = w.desk)
      (pools : w'.pools = w.pools)
  /-- A delivery ends. -/
  | leave (d : Delivery) (program : w.program? id = some (.deliver d)) (hand : w.hand? id = none)
      (empty : w.bus.take? d.inbox = none) (end' : w'.program? id = none)
      (bus : w'.bus = w.bus.discardInbox d.inbox) (desk : w'.desk = w.desk)
      (pools : w'.pools = w.pools)
  /-- A delivery takes a request. -/
  | take (d : Delivery) (request : Request) (program : w.program? id = some (.deliver d))
      (hand : w.hand? id = none) (taken : w.bus.take? d.inbox = some (request, w'.bus))
      (hand' : w'.hand? id = some (d.handler.begin d.context request)) (desk : w'.desk = w.desk)
      (pools : w'.pools = w.pools)
  /-- A job goes on on its way into a pool. -/
  | submit (v : World) (pool : PoolId) (s : Submission) (placement : Placement)
      (hand : w.hand? id = some (.submitting pool s))
      (turn : w.turnSubmission pool s = some (v, placement)) (pools : w'.pools = v.pools)
      (desk : w'.desk = w.desk) (next : Submitted w id pool w' placement)
  /-- A script goes on. -/
  | run (v : World) (run next : Run) (hand : w.hand? id = some (.running run))
      (turn : w.turnRun id run = some (v, .going next)) (hand' : w'.hand? id = some (.running next))
      (bus : w'.bus = v.bus) (pools : w'.pools = w.pools) (desk : w'.desk = w.desk)
  /-- A script is over. -/
  | finish (v : World) (run : Run) (progress : Progress Run) (hand : w.hand? id = some (.running run))
      (turn : w.turnRun id run = some (v, progress)) (over' : ∀ next, progress ≠ .going next)
      (hand' : w'.hand? id = none) (desk : w'.desk = w.desk)
      (bus : w'.bus = v.bus ∨ ∃ d, w.program? id = some (.deliver d) ∧ w'.program? id = none ∧
        w'.bus = v.bus.discardInbox d.inbox)
      (pools : (∀ pool i, w.role? id ≠ some (.execute pool i)) ∧ w'.pools = w.pools ∨
        ∃ pool i p, w.program? id = some (.execute pool i (some run)) ∧
          w'.program? id = some (.execute pool i none) ∧ Puts pool p (p.finish i) w w')
  /-- An executor takes a job. -/
  | pick (pool : PoolId) (i : Nat) (p p' : WorkerPool Job) (job : Job)
      (program : w.program? id = some (.execute pool i none))
      (taken : p.take? i = some (p', .job job)) (puts : Puts pool p p' w w')
      (program' : w'.program? id = some (.execute pool i (some job.run)))
      (bus : w'.bus = w.bus) (desk : w'.desk = w.desk)
  /-- An executor exits. -/
  | exit (pool : PoolId) (i : Nat) (p p' : WorkerPool Job)
      (program : w.program? id = some (.execute pool i none))
      (taken : p.take? i = some (p', .ended)) (puts : Puts pool p p' w w')
      (end' : w'.program? id = none) (bus : w'.bus = w.bus) (desk : w'.desk = w.desk)

/-! ### Turns are deeds -/

section Turns

variable {program next : Program}

/-- The hand of a task that goes on. -/
theorem hand?_setProgram (h : id < v.tasks.length) (next : Program) :
    (v.setProgram id next).hand? id = next.handling? :=
  hand?_eq (program?_setProgram_self h next)

/-- The hand of a task that finishes. -/
theorem hand?_finish (w : World) (id : Nat) (outcome : Outcome) :
    (w.finish id outcome).hand? id = none :=
  hand?_eq_none (program?_finish_self w id outcome)

/-- What a submission leaves of the rest of the world. -/
theorem turnSubmission_frame {pool : PoolId} {s : Submission} {placement : Placement}
    (h : w.turnSubmission pool s = some (v, placement)) :
    ∃ p p', Puts pool p p' w v ∧ v = w.setPool pool p' := by
  obtain ⟨p, hp, ⟨job, -, rfl, -⟩ | ⟨t, p', verdict, -, -, rfl, -⟩⟩ := turnSubmission_cases h
  · exact ⟨p, _, ⟨hp, rfl⟩, rfl⟩
  · exact ⟨p, p', ⟨hp, rfl⟩, rfl⟩

/-- **What a submission does with its pool**: the pool takes the job or not, or the submission goes on. -/
theorem puts_of_submission {pool : PoolId} {s : Submission} {placement : Placement}
    (h : w.turnSubmission pool s = some (v, placement)) (pools : w'.pools = v.pools) :
    ∃ p, (∃ job, s = .offered job ∧ Puts pool p (p.submit job).1 w w' ∧
        placement = .ofVerdict p.issued (p.submit job).2) ∨
      ∃ ticket p' verdict, s = .placed ticket ∧ p.advance? ticket = some (p', verdict) ∧
        Puts pool p p' w w' ∧ placement = .ofVerdict ticket verdict := by
  obtain ⟨p, hp, ⟨job, rfl, rfl, rfl⟩ | ⟨ticket, p', verdict, rfl, ha, rfl, rfl⟩⟩ :=
    turnSubmission_cases h
  · exact ⟨p, Or.inl ⟨job, rfl, ⟨hp, pools⟩, rfl⟩⟩
  · exact ⟨p, Or.inr ⟨ticket, p', verdict, rfl, ha, ⟨hp, pools⟩, rfl⟩⟩

/-- What a script leaves of the rest of the world. -/
theorem turnRun_frame {run : Run} {progress : Progress Run}
    (h : w.turnRun id run = some (v, progress)) :
    v.tasks = w.tasks ∧ v.pools = w.pools ∧ v.desk = w.desk := by
  obtain ⟨_, _, _, _, _, rfl⟩ := beside_turnRun h
  exact ⟨rfl, rfl, rfl⟩

/-- The tasks while a request is handled. -/
theorem tasks_turnHandling {handling : Handling} {progress : Progress Handling}
    (h : w.turnHandling id handling = some (v, progress)) : v.tasks = w.tasks :=
  (tends_turnHandling h).tasks

/-- Who is not an executor handles a request. -/
theorem deed_handling {handling : Handling} {progress : Progress Handling}
    (hhand : w.hand? id = some handling) (hrole : ∀ pool i, w.role? id ≠ some (.execute pool i))
    (hv : w.turnHandling id handling = some (v, progress)) (hpools : w'.pools = v.pools)
    (hdesk : w'.desk = v.desk) (hhand' : w'.hand? id = progress.next?)
    (hbus : w'.bus = v.bus ∨ progress = .crashed ∧ ∃ d, w.program? id = some (.deliver d) ∧
      w'.program? id = none ∧ w'.bus = v.bus.discardInbox d.inbox) : Deed w id w' := by
  obtain ⟨run, p, rfl, hr, rfl⟩ | ⟨pool, s, placement, rfl, hs, rfl⟩ := turnHandling_cases hv
  · obtain ⟨-, hp, hd⟩ := turnRun_frame hr
    rw [hp] at hpools
    rw [hd] at hdesk
    cases p with
    | going next =>
      have hbus := hbus.resolve_right fun h => nomatch h.1
      exact .run v run next hhand hr hhand' hbus hpools hdesk
    | «over» =>
      have hbus := hbus.resolve_right fun h => nomatch h.1
      exact .finish v run .over hhand hr (by simp) hhand' hdesk (Or.inl hbus)
        (Or.inl ⟨hrole, hpools⟩)
    | crashed =>
      exact .finish v run .crashed hhand hr (by simp) hhand' hdesk (hbus.imp_right And.right)
        (Or.inl ⟨hrole, hpools⟩)
  · obtain ⟨q, q', -, rfl⟩ := turnSubmission_frame hs
    have hsame : w'.bus = w.bus := hbus.resolve_right fun h => by
      cases placement <;> cases h.1
    refine .submit _ pool s placement hhand hs hpools hdesk ?_
    cases placement with
    | onward next => exact .onward next hhand' hsame
    | queued => exact .queued hhand' hsame
    | handedBack job => exact .refused job hsame hhand'

/-- A delivery in its turn. -/
theorem deed_deliver {d : Delivery} (hp : w.program? id = some (.deliver d))
    (h : w.turnDeliver id d = some w') : Deed w id w' := by
  have hlt := lt_of_program? hp
  obtain ⟨handling, v, progress, hh, hv, hcase⟩ | ⟨hh, -, -, rfl⟩ | ⟨hh, -, hcase⟩ :=
    turnDeliver_cases h
  · have hhand : w.hand? id = some handling := (hand?_eq hp).trans hh
    have hrole : ∀ pool i, w.role? id ≠ some (.execute pool i) := fun pool i => by
      rw [role?_eq hp]
      simp [Program.role]
    have hlt' : id < v.tasks.length := by rw [tasks_turnHandling hv]; exact hlt
    rcases hcase with ⟨next, rfl, rfl⟩ | ⟨rfl, rfl⟩ | ⟨rfl, rfl⟩
    · exact deed_handling hhand hrole hv rfl rfl (hand?_setProgram hlt' _) (Or.inl rfl)
    · exact deed_handling hhand hrole hv rfl rfl (hand?_setProgram hlt' _) (Or.inl rfl)
    · have hend := program?_endTask_self (v.withBus (v.bus.discardInbox d.inbox)) id true
      exact deed_handling hhand hrole hv rfl rfl (hand?_eq_none hend)
        (Or.inr ⟨rfl, d, hp, hend, rfl⟩)
  · exact .drain d hp ((hand?_eq hp).trans hh) ((hand?_setProgram hlt _).trans hh) rfl rfl rfl
  · rcases hcase with ⟨request, bus, htake, rfl⟩ | ⟨htake, -, v, ⟨log, rfl⟩, rfl⟩
    · exact .take d request hp ((hand?_eq hp).trans hh) htake (hand?_setProgram hlt _) rfl rfl
    · exact .leave d hp ((hand?_eq hp).trans hh) htake (program?_endTask_self _ _ _) rfl rfl rfl

/-- A task that handles a request, in its turn. -/
theorem deed_handle {handling : Handling} (hp : w.program? id = some (.handle handling))
    (h : w.turnHandle id handling = some w') : Deed w id w' := by
  obtain ⟨⟨v, progress⟩, hv, h⟩ := Option.bind_eq_some_iff.mp h
  have hlt : id < v.tasks.length := by rw [tasks_turnHandling hv]; exact lt_of_program? hp
  have hrole : ∀ pool i, w.role? id ≠ some (.execute pool i) := fun pool i => by
    rw [role?_eq hp]
    simp [Program.role]
  cases progress with
  | going next =>
    cases h
    exact deed_handling (hand?_eq hp) hrole hv rfl rfl (hand?_setProgram hlt _) (Or.inl rfl)
  | «over» =>
    cases h
    have ha := alone_finish v id .handled
    exact deed_handling (hand?_eq hp) hrole hv ha.pools ha.desk (hand?_finish _ _ _)
      (Or.inl ha.bus)
  | crashed =>
    cases h
    exact deed_handling (hand?_eq hp) hrole hv rfl rfl
      (hand?_eq_none (program?_endTask_self _ _ _)) (Or.inl rfl)

/-- A task that submits a job, in its turn. -/
theorem deed_submit {pool : PoolId} {s : Submission} (hp : w.program? id = some (.submit pool s))
    (h : w.turnSubmit id pool s = some w') : Deed w id w' := by
  obtain ⟨⟨v, placement⟩, hv, h⟩ := Option.bind_eq_some_iff.mp h
  obtain ⟨q, q', -, rfl⟩ := turnSubmission_frame hv
  cases placement with
  | onward next =>
    cases h
    exact .submit _ pool s _ (hand?_eq hp) hv rfl rfl
      (.onward next (hand?_setProgram (lt_of_program? hp) _) rfl)
  | queued =>
    cases h
    have ha := alone_finish (w.setPool pool q') id .queued
    exact .submit _ pool s _ (hand?_eq hp) hv ha.pools ha.desk (.queued (hand?_finish _ _ _) ha.bus)
  | handedBack job =>
    have hw := Option.some.inj h
    have ha := alone_finish ((w.setPool pool q').dropRequest job.request) id
      (.handedBack (job.describe? ((w.setPool pool q').scopes.isCancelled job.context.scope)))
    have hnone := hand?_finish ((w.setPool pool q').dropRequest job.request) id
      (.handedBack (job.describe? ((w.setPool pool q').scopes.isCancelled job.context.scope)))
    rw [show World.finish _ id _ = w' from hw] at ha hnone
    exact .submit _ pool s _ (hand?_eq hp) hv ha.pools ha.desk (.returned job hnone ha.bus)

/-- An executor in its turn. -/
theorem deed_execute {pool : PoolId} {i : Nat} {run? : Option Run}
    (hp : w.program? id = some (.execute pool i run?))
    (h : w.turnExecute id pool i run? = some w') : Deed w id w' := by
  have hlt := lt_of_program? hp
  obtain ⟨rfl, p, p', found, hpool, -, htake, hcase⟩ | ⟨run, p, v, progress, rfl, hpool, hr, hcase⟩ :=
    turnExecute_cases h
  · rcases hcase with ⟨job, rfl, rfl⟩ | ⟨rfl, v, ⟨log, rfl⟩, rfl⟩
    · exact .pick pool i p p' job hp htake ⟨hpool, rfl⟩ (program?_setProgram_self hlt _) rfl rfl
    · exact .exit pool i p p' hp htake ⟨hpool, rfl⟩ (program?_endTask_self _ _ _) rfl rfl
  · obtain ⟨htasks, hpools, hdesk⟩ := turnRun_frame hr
    have hlt' : id < v.tasks.length := by rw [htasks]; exact hlt
    rcases hcase with ⟨next, rfl, rfl⟩ | ⟨hprogress, log, rfl⟩
    · exact .run v run next (hand?_eq hp) hr (hand?_setProgram hlt' _) rfl hpools hdesk
    · have hself := program?_setProgram_self hlt' (.execute pool i none)
      refine .finish v run progress (hand?_eq hp) hr ?_ (hand?_eq hself) hdesk (Or.inl rfl)
        (Or.inr ⟨pool, i, p, hp, hself, hpool, ?_⟩)
      · rintro next rfl
        rcases hprogress with h | h
        · cases h
        · cases h
      · show v.pools.set pool (p.finish i) = _
        rw [hpools]

/-- A task that has nothing to do with requests and does not use the pools, in its turn. -/
theorem deed_quiet (hp : w.program? id = some program) (hrole : program.role = .other)
    (hhand : program.handling? = none) (ha : Alone id v w') (hnext : w'.hand? id = none)
    (hbus : v.bus = w.bus) (hdesk : v.desk = w.desk) (hpools : v.pools = w.pools) : Deed w id w' :=
  .quiet ((role?_eq hp).trans (congrArg some hrole)) ((hand?_eq hp).trans hhand) hnext
    (ha.bus.trans hbus) (ha.desk.trans hdesk) (Or.inl (ha.pools.trans hpools))

/-- A step of a shutdown marks the pool. -/
theorem turnShutdown_marks {pool : PoolId} {stage : Shutdown} {next? : Option Shutdown}
    (h : w.turnShutdown pool stage = some (v, next?)) : v.tasks = w.tasks ∧ v.bus = w.bus ∧
      v.desk = w.desk ∧ ∃ p p', Puts pool p p' w v ∧ p.Marks p' := by
  obtain ⟨p, p', hp, hs, log, rfl⟩ := turnShutdown_cases h
  refine ⟨rfl, rfl, rfl, p, p', ⟨hp, rfl⟩, ?_⟩
  rcases WorkerPool.shutdown?_cases hs with ⟨-, rfl, -⟩ | ⟨-, rfl, -⟩ | ⟨i, rest, -, -, rfl, -⟩
  · obtain ⟨_, _, _, _, hclose⟩ := p.marks_close
    exact ⟨_, _, _, false, by rw [WorkerPool.join, hclose]⟩
  · exact ⟨_, _, _, _, rfl⟩
  · exact ⟨_, _, _, _, rfl⟩

/-- A task that shuts a pool down, for itself or for a service, in its turn. -/
theorem deed_shutdown {pool : PoolId} {stage : Shutdown} {next? : Option Shutdown}
    (hp : w.program? id = some program) (hrole : program.role = .other)
    (hhand : program.handling? = none) (hv : w.turnShutdown pool stage = some (v, next?))
    {u : World} (hlogs : v.Logs u) (ha : Alone id u w') (hnext : w'.hand? id = none) :
    Deed w id w' := by
  obtain ⟨htasks, hbus, hdesk, p, p', hputs, hmarks⟩ := turnShutdown_marks hv
  obtain ⟨log, rfl⟩ := hlogs
  exact .quiet ((role?_eq hp).trans (congrArg some hrole)) ((hand?_eq hp).trans hhand) hnext
    (ha.bus.trans hbus) (ha.desk.trans hdesk)
    (Or.inr ⟨pool, p, p', ⟨hputs.before, ha.pools.trans hputs.pools⟩, hmarks⟩)

/-- A task that stops a service, in its turn. -/
theorem deed_stop {service : ServiceId} {stage : Stopping}
    (hp : w.program? id = some (.stop service stage))
    (h : w.turnStop id service stage = some w') : Deed w id w' := by
  have hlt := lt_of_program? hp
  obtain ⟨s, hs, hcase⟩ := turnStop_cases h
  rcases hcase with ⟨rfl, rfl⟩ | ⟨t, rest, rfl, -, rfl⟩ | ⟨rfl, -, rfl⟩ | ⟨pool, rfl, -, rfl⟩ |
    ⟨pool, part, v, next?, rfl, -, hv, hnext⟩
  · exact deed_quiet hp rfl rfl (alone_setProgram _ _ _) (hand?_setProgram hlt _) rfl rfl rfl
  · obtain ⟨log, hlog⟩ := w.logs_reportCrash t
    rw [hlog]
    exact deed_quiet hp rfl rfl (alone_setProgram _ _ _) (hand?_setProgram hlt _) rfl rfl rfl
  · exact deed_quiet hp rfl rfl (alone_finish _ _ _) (hand?_finish _ _ _) rfl rfl rfl
  · exact deed_quiet hp rfl rfl (alone_setProgram _ _ _) (hand?_setProgram hlt _) rfl rfl rfl
  · have htasks := (turnShutdown_marks hv).1
    rcases hnext with ⟨next, rfl, rfl⟩ | ⟨rfl, u, outcome, hu, rfl⟩
    · exact deed_shutdown hp rfl rfl hv (.refl v) (alone_setProgram _ _ _)
        (hand?_setProgram (by rw [htasks]; exact hlt) _)
    · exact deed_shutdown hp rfl rfl hv hu (alone_finish _ _ _) (hand?_finish _ _ _)

/-- A task that sleeps, in its turn. -/
theorem deed_sleep {context : Context} {begun : Bool} {wake : Time}
    (hp : w.program? id = some (.sleep context begun wake))
    (h : w.turnSleep id context begun wake = some w') : Deed w id w' := by
  obtain ⟨result, rfl⟩ | ⟨-, rfl⟩ := turnSleep_cases h
  · exact deed_quiet hp rfl rfl (alone_finish _ _ _) (hand?_finish _ _ _) rfl rfl rfl
  · exact deed_quiet hp rfl rfl (alone_setProgram _ _ _)
      (hand?_setProgram (lt_of_program? hp) _) rfl rfl rfl

/-- A call in its turn. -/
theorem deed_exchange {call : CallId} {context? : Option Context} {begun : Bool}
    {client? : Option ClientId} {conclude : Except TransportError Message → Logged Outcome}
    (hp : w.program? id = some (.exchange call context? begun client? conclude))
    (h : w.turnExchange id call context? begun client? conclude = some w') : Deed w id w' := by
  have hturn := h
  obtain ⟨v, result, rfl, hcase⟩ | ⟨-, -, rfl⟩ := turnExchange_cases h
  · have hv : w.Beside v ∧ v.desk = w.desk := by
      rcases hcase with ⟨e, -, -, rfl, -⟩ | ⟨rfl, -⟩ | ⟨e, -, -, rfl, -⟩
      · exact ⟨beside_withBus w _, rfl⟩
      · exact ⟨beside_withBus w _, rfl⟩
      · exact ⟨(beside_withBus w _).trans (beside_withBus _ _), rfl⟩
    have ha := alone_finish (v.absorb (conclude result)) id (conclude result).value
    exact .exchange _ _ _ _ _ hp hturn (hand?_finish _ _ _) (ha.desk.trans hv.2)
      (ha.pools.trans hv.1.pools)
  · exact .exchange _ _ _ _ _ hp hturn (hand?_setProgram (lt_of_program? hp) _) rfl rfl

/-- A task that waits for a request, in its turn. -/
theorem deed_receive {subscription request : String} {inbox : InboxId}
    (hp : w.program? id = some (.receive subscription inbox request))
    (h : w.turnReceive id subscription inbox request = some w') : Deed w id w' := by
  obtain ⟨r, bus, -, hw⟩ | hw := turnReceive_cases h
  · refine .receive _ _ _ hp h (hw ▸ hand?_finish _ _ _) (hw ▸ (alone_finish _ _ _).pools.trans ?_)
    obtain ⟨bus₁, hnamed, -⟩ := (w.withBus bus).nameRequest_cases request r
    obtain ⟨bus₂, hback, -⟩ :=
      ((w.withBus bus).nameRequest request r).nameSubscription_cases subscription inbox
    rw [hback, hnamed]
    rfl
  · refine .receive _ _ _ hp h (hw ▸ hand?_finish _ _ _) (hw ▸ (alone_finish _ _ _).pools.trans ?_)
    obtain ⟨bus, hback, -⟩ := w.nameSubscription_cases subscription inbox
    rw [hback]

/-- **Every turn is a deed.** -/
theorem deed_of_turn (h : w.turn id = some w') : Deed w id w' := by
  obtain ⟨program, hp⟩ := exists_program_of_turn h
  have hlt := lt_of_program? hp
  have hturn := h
  rw [turn, hp, Option.bind_eq_bind, Option.bind_some] at hturn
  cases program with
  | awaitCancelled c =>
    rw [turn_awaitCancelled hp h]
    exact deed_quiet hp rfl rfl (alone_finish _ _ _) (hand?_finish _ _ _) rfl rfl rfl
  | awaitEnd c =>
    obtain ⟨e, rfl⟩ := turn_awaitEnd hp h
    exact deed_quiet hp rfl rfl (alone_finish _ _ _) (hand?_finish _ _ _) rfl rfl rfl
  | sleep c begun wake => exact deed_sleep hp hturn
  | receive subscription inbox request => exact deed_receive hp hturn
  | exchange call c? begun client? conclude => exact deed_exchange hp hturn
  | submit pool s => exact deed_submit hp hturn
  | shutdown pool stage =>
    obtain ⟨v, next?, hv, hcase⟩ := turnShutdown_of_turn hp h
    have htasks := (turnShutdown_marks hv).1
    rcases hcase with ⟨next, rfl, rfl⟩ | ⟨rfl, outcome, rfl⟩
    · exact deed_shutdown hp rfl rfl hv (.refl v) (alone_setProgram _ _ _)
        (hand?_setProgram (by rw [htasks]; exact hlt) _)
    · exact deed_shutdown hp rfl rfl hv (.refl v) (alone_finish _ _ _) (hand?_finish _ _ _)
  | handle handling => exact deed_handle hp hturn
  | stop service stage => exact deed_stop hp hturn
  | deliver d => exact deed_deliver hp hturn
  | execute pool i run? => exact deed_execute hp hturn

/-- The turn of a task that takes a job to a pool. -/
theorem turn_submitting {pool : PoolId} {s : Submission} (h : w.turn id = some w')
    (hand : w.hand? id = some (.submitting pool s)) : ∃ v placement,
      w.turnSubmission pool s = some (v, placement) ∧ w'.pools = v.pools ∧
      Submitted w id pool w' placement := by
  cases deed_of_turn h with
  | submit v pool' s' placement hand' turn pools _ next =>
    cases hand.symm.trans hand'
    exact ⟨v, placement, turn, pools, next⟩
  | quiet _ hand' | drain _ _ hand' | leave _ _ hand' | take _ _ _ hand' =>
    cases hand.symm.trans hand'
  | run _ _ _ hand' | finish _ _ _ hand' => cases hand.symm.trans hand'
  | exchange _ _ _ _ _ program | receive _ _ _ program | pick _ _ _ _ _ program
  | exit _ _ _ _ program => cases hand.symm.trans (hand?_eq program)

/-- The turn of a task that runs a script. A loop that ends with it gives its inbox up. -/
theorem turn_running {run : Run} (h : w.turn id = some w')
    (hand : w.hand? id = some (.running run)) : ∃ v progress,
      w.turnRun id run = some (v, progress) ∧
      ((∃ next, progress = .going next ∧ w'.hand? id = some (.running next) ∧ w'.bus = v.bus) ∨
        (∀ next, progress ≠ .going next) ∧ w'.hand? id = none ∧
          (w'.bus = v.bus ∨ ∃ i, w'.bus = v.bus.discardInbox i)) := by
  cases deed_of_turn h with
  | run v run' next hand' turn going bus =>
    cases hand.symm.trans hand'
    exact ⟨v, _, turn, Or.inl ⟨next, rfl, going, bus⟩⟩
  | finish v run' progress hand' turn over' none' _ bus =>
    cases hand.symm.trans hand'
    exact ⟨v, progress, turn, Or.inr ⟨over', none', bus.imp_right fun ⟨d, _, _, bus⟩ => ⟨_, bus⟩⟩⟩
  | submit _ _ _ _ hand' => cases hand.symm.trans hand'
  | quiet _ hand' | drain _ _ hand' | leave _ _ hand' | take _ _ _ hand' =>
    cases hand.symm.trans hand'
  | exchange _ _ _ _ _ program | receive _ _ _ program | pick _ _ _ _ _ program
  | exit _ _ _ _ program => cases hand.symm.trans (hand?_eq program)

/-! ### What a task has in hand after its turn -/

/-- **How a task comes to what it has in hand** after its turn. -/
inductive ComesTo (w : World) (id : TaskId) (w' : World) : Handling → Prop
  /-- It takes a request, and its handler is bound to a pool. -/
  | offers (d : Delivery) (request : Request) (pool : PoolId)
      (program : w.program? id = some (.deliver d)) (hand : w.hand? id = none)
      (taken : w.bus.take? d.inbox = some (request, w'.bus)) (bound : d.handler.pool? = some pool) :
      ComesTo w id w' (.submitting pool (.offered
        { context := d.context, request, script := d.handler.script request }))
  /-- It takes a request and begins to handle it. -/
  | begins (d : Delivery) (request : Request) (program : w.program? id = some (.deliver d))
      (hand : w.hand? id = none) (taken : w.bus.take? d.inbox = some (request, w'.bus))
      (unbound : d.handler.pool? = none) :
      ComesTo w id w' (.running { context := d.context, request, script := d.handler.script request })
  | places (v : World) (pool : PoolId) (s : Submission) (ticket : Ticket)
      (hand : w.hand? id = some (.submitting pool s))
      (turn : w.turnSubmission pool s = some (v, .onward (.placed ticket))) :
      ComesTo w id w' (.submitting pool (.placed ticket))
  | refuses (v : World) (pool : PoolId) (s : Submission) (job : Job)
      (hand : w.hand? id = some (.submitting pool s))
      (turn : w.turnSubmission pool s = some (v, .handedBack job)) :
      ComesTo w id w' (.running { job.run with script := .reject job.request.subject })
  | goesOn (v : World) (run next : Run) (hand : w.hand? id = some (.running run))
      (turn : w.turnRun id run = some (v, .going next)) : ComesTo w id w' (.running next)
  /-- It is an executor that takes a job. -/
  | picks (pool : PoolId) (i : Nat) (p p' : WorkerPool Job) (job : Job)
      (program : w.program? id = some (.execute pool i none))
      (taken : p.take? i = some (p', .job job)) (puts : Puts pool p p' w w') :
      ComesTo w id w' (.running job.run)

/-- **What a task has in hand after its turn** it has come to in one of these ways. -/
theorem comesTo_of_turn {handling : Handling} (h : w.turn id = some w')
    (hand' : w'.hand? id = some handling) : w.ComesTo id w' handling := by
  have hnone : w'.hand? id ≠ none := by simp [hand']
  cases deed_of_turn h with
  | quiet _ _ after => exact absurd after hnone
  | exchange _ _ _ _ _ _ _ after => exact absurd after hnone
  | receive _ _ _ _ _ after => exact absurd after hnone
  | drain _ _ _ after => exact absurd after hnone
  | leave _ _ _ _ end' => exact absurd (hand?_eq_none end') hnone
  | take d request program hand taken after =>
    cases hand'.symm.trans after
    cases hpool : d.handler.pool? with
    | none =>
      rw [Handler.begin, hpool]
      exact .begins d request program hand taken hpool
    | some pool =>
      rw [Handler.begin, hpool]
      exact .offers d request pool program hand taken hpool
  | submit v pool s placement hand turn _ _ next =>
    cases next with
    | onward next after =>
      obtain ⟨ticket, rfl⟩ := placed_of_onward turn
      cases hand'.symm.trans after
      exact .places v pool s ticket hand turn
    | queued after => exact absurd after hnone
    | refused job _ after =>
      cases hand'.symm.trans after
      exact .refuses v pool s job hand turn
    | returned job after => exact absurd after hnone
  | run v run next hand turn after =>
    cases hand'.symm.trans after
    exact .goesOn v run next hand turn
  | finish _ _ _ _ _ _ after => exact absurd after hnone
  | pick pool i p p' job program taken puts program' =>
    cases hand'.symm.trans (hand?_eq program')
    exact .picks pool i p p' job program taken puts
  | exit _ _ _ _ _ _ _ end' => exact absurd (hand?_eq_none end') hnone

/-! ### What a turn leaves alone -/

/-- Nobody but a task that waits for a request changes what has names in its turn. -/
theorem desk_of_turn (h : w.turn id = some w') : w'.desk = w.desk ∨
    ∃ (subscription request : String) (inbox : InboxId),
      w.program? id = some (.receive subscription inbox request) ∧
        w.turnReceive id subscription inbox request = some w' := by
  cases deed_of_turn h with
  | receive subscription request inbox program turn =>
    exact Or.inr ⟨subscription, request, inbox, program, turn⟩
  | quiet _ _ _ _ desk => exact Or.inl desk
  | exchange _ _ _ _ _ _ _ _ desk => exact Or.inl desk
  | drain _ _ _ _ _ desk => exact Or.inl desk
  | leave _ _ _ _ _ _ desk => exact Or.inl desk
  | take _ _ _ _ _ _ desk => exact Or.inl desk
  | submit _ _ _ _ _ _ _ desk => exact Or.inl desk
  | run _ _ _ _ _ _ _ _ desk => exact Or.inl desk
  | finish _ _ _ _ _ _ _ desk => exact Or.inl desk
  | pick _ _ _ _ _ _ _ _ _ _ desk => exact Or.inl desk
  | exit _ _ _ _ _ _ _ _ _ desk => exact Or.inl desk

/-- A turn leaves the other tasks alone. -/
theorem others_of_turn (h : w.turn id = some w') : w'.tasks.length = w.tasks.length ∧
    ∀ j : Nat, j ≠ id → w'.program? j = w.program? j := by
  obtain ⟨program, hp⟩ := exists_program_of_turn h
  by_cases hs : program.Stops
  · have hm := (closes_turn hp hs h).proceeds
    exact ⟨hm.length, hm.others⟩
  · have hm := (goes_turn hp hs h).1
    exact ⟨hm.length, hm.others⟩

/-- **What a task is for does not change** as long as it goes on. -/
theorem role_of_turn {j : Nat} {role : Role} (h : w.turn id = some w')
    (hrole : w'.role? j = some role) : w.role? j = some role := by
  by_cases hj : j = id
  · obtain ⟨program, hp⟩ := exists_program_of_turn h
    obtain ⟨next, hnext, rfl⟩ := Option.map_eq_some_iff.mp hrole
    rw [hj] at hnext ⊢
    rw [role?_eq hp]
    by_cases hs : program.Stops
    · exact congrArg some ((closes_turn hp hs h).role hp hnext).symm
    · exact congrArg some ((goes_turn hp hs h).2 next hnext).role.symm
  · rw [role?, (others_of_turn h).2 j hj] at hrole
    exact hrole

end Turns

end World

end ServiceBus.Bus
