import Mathlib.Logic.Relation
import ServiceBus.Bus.Desk
import ServiceBus.Proofs.World.Turn

/-! # Runs of a world

`World.Step` is one thing that happens to a world: a task has its turn, or somebody outside does
something. Steps come in any order; what `World.settle` does is one of the orders.

* `World.Step`: all that can happen. Tasks are seen through, none is aborted.
* `World.Minds`: the turn of a task that closes nothing. It concerns the task itself and at most one
  pool, which it uses. -/

namespace ServiceBus.Bus

/-! ### Beginnings -/

/-- Whether a request is that of a call on the bus. -/
def Request.IsCall (r : Request) : Prop := ∃ c, r.replyTo? = some (.call c)

/-- Whether somebody outside may start a task with this to do, apart from calls and from waiting for
the requests of a subscription. -/
def Program.Begins : Program → Prop
  | .awaitCancelled _ | .awaitEnd _ => True
  | .sleep _ begun _ => begun = false
  | .submit _ (.offered job) | .handle (.submitting _ (.offered job)) => ¬ job.request.IsCall
  | .handle (.running run) => ¬ run.request.IsCall
  | .shutdown _ stage => stage = .closing
  | .stop _ stage => stage = .signalling
  | .submit _ (.placed _) | .handle (.submitting _ (.placed _)) | .receive .. | .exchange ..
  | .deliver _ | .execute .. => False

/-- Whether a program is a call that shuts a pool down or stops a service. -/
def Program.Stops : Program → Prop
  | .shutdown .. | .stop .. => True
  | _ => False

/-! ### Roles -/

/-- What a task is for. -/
inductive Role where
  | deliver (inbox : InboxId) (context : Context) (stop : ScopeId) (handler : Handler)
  | execute (pool : PoolId) (executor : Nat)
  | exchange (call : CallId) (context? : Option Context)
      (conclude : Except TransportError Message → Logged Outcome)
  | receive (subscription : String) (inbox : InboxId) (request : String)
  | other

/-- What a task with this program is for. -/
def Program.role : Program → Role
  | .deliver d => .deliver d.inbox d.context d.stop d.handler
  | .execute pool i _ => .execute pool i
  | .exchange call context? _ _ conclude => .exchange call context? conclude
  | .receive subscription inbox request => .receive subscription inbox request
  | .awaitCancelled _ | .awaitEnd _ | .sleep .. | .submit .. | .shutdown .. | .handle _ |
    .stop .. => .other

/-- What is for delivering delivers. -/
theorem Program.deliver_of_role {program : Program} {d : Delivery}
    (h : program.role = (Program.deliver d).role) : ∃ d', program = .deliver d' ∧
      d'.inbox = d.inbox ∧ d'.stop = d.stop ∧ d'.handler = d.handler := by
  cases program with
  | deliver d' =>
    obtain ⟨hinbox, -, hstop, hhandler⟩ := Role.deliver.inj h
    exact ⟨d', rfl, hinbox, hstop, hhandler⟩
  | _ => cases h

namespace World

variable {w w' v : World} {id : Nat}

/-! ### Steps -/

/-- **One thing that happens to a world.** -/
inductive Step (w : World) : World → Prop where
  /-- A task has its turn. -/
  | turn (id : TaskId) {w' : World} (h : w.turn id = some w') : Step w w'
  | clock (now : Time) : Step w { w with now }
  | aside (gates : List (Bytes × Gate)) (stores : List (List Greeter.Metadata)) (clientCount : Nat)
      (log : List Log.Record) (noticed : ContextError) :
      Step w { w with gates, stores, clientCount, log, noticed }
  /-- Things are named, apart from subscriptions and requests. -/
  | names (desk : Desk) (subscriptions : desk.subscriptions = w.desk.subscriptions)
      (requests : desk.requests = w.desk.requests) : Step w { w with desk }
  /-- Scopes are made and cancelled. -/
  | scopes (scopes : ScopeTree) (next : w.scopes.next ≤ scopes.next)
      (keeps : ∀ s : Nat, w.scopes.isCancelled s = true → scopes.isCancelled s = true) :
      Step w { w with scopes }
  | start (program : Program) (name? : Option String) (h : program.Begins) :
      Step w (w.spawn program name?)
  /-- A call begins. -/
  | ask (call : Call) (asking : call.stage = .asking) (context? : Option Context)
      (client? : Option ClientId) (conclude : Except TransportError Message → Logged Outcome)
      (name? : Option String) :
      Step w ((w.withBus (w.bus.ask call)).spawn
        (.exchange w.bus.calls.length context? false client? conclude) name?)
  /-- Somebody waits for the next request of a subscription, which is away meanwhile. -/
  | receive (name request : String) (inbox : InboxId) (name? : Option String)
      (h : w.desk.subscriptions[name]? = some inbox) :
      Step w ({ w with desk.subscriptions := w.desk.subscriptions.erase name }.spawn
        (.receive name inbox request) name?)
  | subscribe (name subject : String) {bus : MemoryBus} (h : w.bus.subscribe subject = .ok bus) :
      Step w ((w.withBus bus).nameSubscription name w.bus.inboxes.length)
  | closeSubscription (name : String) (inbox : InboxId)
      (h : w.desk.subscriptions[name]? = some inbox) :
      Step w (w.withBus (w.bus.closeInbox inbox))
  | dropSubscription (name : String) (inbox : InboxId)
      (h : w.desk.subscriptions[name]? = some inbox) :
      Step w { w with bus := w.bus.discardInbox inbox,
                      desk.subscriptions := w.desk.subscriptions.erase name }
  | closeBus : Step w (w.withBus w.bus.close)
  /-- The request of a name is replied to. -/
  | respond (name : String) (request : Request) (headers : Headers) (payload : Bytes)
      (h : w.desk.requests[name]? = some request) :
      Step w { (w.reply request headers payload).1 with
        desk.requests := w.desk.requests.insert name (w.reply request headers payload).2.1 }
  | dropRequest (name : String) (request : Request) (h : w.desk.requests[name]? = some request) :
      Step w { w.dropRequest request with desk.requests := w.desk.requests.erase name }
  | openPool (requested : Nat) : Step w (w.openPool requested)
  | closePool (pool : PoolId) {p : WorkerPool Job} (h : w.pools[pool]? = some p) :
      Step w (w.setPool pool p.close)
  | reapPool (pool : PoolId) : Step w (w.reapPool pool)
  | openService (config : ServiceConfig) {w' : World} (h : w.openService config = .ok w') : Step w w'
  | openEndpoint (s : ServiceId) (context : Context) (config : EndpointConfig) (handler : Handler)
      {service : Service} {w' : World} (hs : w.services[s]? = some service)
      (h : w.openEndpoint s service context config handler = .ok w') : Step w w'
  /-- A service that has no pool gets one. -/
  | pair (s : ServiceId) (pool : PoolId) {service : Service} (hs : w.services[s]? = some service)
      (h : service.pool? = none) : Step w (w.pairService s pool)

/-- Some steps, one after another. -/
def Steps : World → World → Prop := Relation.ReflTransGen Step

/-! ### A new pool -/

/-- Some new tasks. -/
theorem foldl_spawn (program : Nat → Program) (l : List Nat) (w : World) :
    l.foldl (fun w i => w.spawn (program i)) w =
      { w with tasks := w.tasks ++ l.map fun i => { program? := some (program i) } } := by
  induction l generalizing w with
  | nil => simp
  | cons i l ih =>
    rw [List.foldl_cons, ih, List.map_cons]
    simp [spawn]

/-- A new pool comes with its executors. -/
theorem openPool_eq (w : World) (requested : Nat) : ∃ log, w.openPool requested =
    { w with
      log
      pools := w.pools ++ [.new requested]
      tasks := w.tasks ++ (List.range (WorkerPool.capacityFor requested)).map fun i =>
        { program? := some (.execute w.pools.length i none) } } := by
  rw [openPool, foldl_spawn]
  by_cases h : requested = 0
  · rw [if_pos h]
    exact ⟨_, rfl⟩
  · rw [if_neg h]
    exact ⟨_, rfl⟩

/-- The programs of a world with a new pool. -/
theorem program?_openPool {w : World} {requested j : Nat} {program : Program} :
    (w.openPool requested).program? j = some program ↔ w.program? j = some program ∨
      ∃ i, i < WorkerPool.capacityFor requested ∧ j = w.tasks.length + i ∧
        program = .execute w.pools.length i none := by
  obtain ⟨log, hw⟩ := w.openPool_eq requested
  rw [hw]
  show (_ ++ _ : List Task)[j]?.bind (·.program?) = _ ↔ _
  rw [List.getElem?_append]
  split
  · rename_i hj
    exact ⟨Or.inl, fun h => h.resolve_right fun ⟨_, _, hi, _⟩ => by omega⟩
  · rename_i hj
    rw [program?_eq_none hj, List.getElem?_map]
    constructor
    · intro h
      obtain ⟨task, ht, h⟩ := Option.bind_eq_some_iff.mp h
      obtain ⟨i, hi, rfl⟩ := Option.map_eq_some_iff.mp ht
      obtain ⟨hlt, hi⟩ := List.getElem?_eq_some_iff.mp hi
      rw [List.getElem_range] at hi
      rw [List.length_range] at hlt
      exact Or.inr ⟨i, by omega, by omega, (Option.some.inj h).symm⟩
    · rintro (h | ⟨i, hi, rfl, rfl⟩)
      · cases h
      · rw [Nat.add_sub_cancel_left, List.getElem?_range hi]
        rfl

/-! ### What steps from outside come to -/

/-- A pool that nobody holds takes no more jobs. -/
theorem reapPool_eq (w : World) (pool : PoolId) : w.reapPool pool = w ∨
    ∃ p, w.pools[pool]? = some p ∧ w.reapPool pool = w.setPool pool p.shutQueue := by
  rw [World.reapPool]
  cases hp : w.pools[pool]? with
  | none => exact Or.inl rfl
  | some p =>
    dsimp only
    split
    · exact Or.inl rfl
    · exact Or.inr ⟨p, rfl, rfl⟩

/-- What the start of a service comes to: one service more, with the next scope for its own. -/
theorem openService_eq {config : ServiceConfig} (h : w.openService config = .ok w') :
    ∃ log, w' = { w with
      log
      scopes := w.scopes.fresh
      services := w.services ++ [{ info := .ofConfig config, stop := w.scopes.next }] } := by
  rw [openService] at h
  cases hcheck : config.check with
  | error e =>
    rw [hcheck] at h
    cases h
  | ok u =>
    rw [hcheck] at h
    cases h
    exact ⟨_, rfl⟩

/-- What the start of an endpoint comes to: the service was not stopped, and has one loop more. -/
theorem openEndpoint_cases {s : Nat} {service : Service} {context : Context} {config : EndpointConfig}
    {handler : Handler} (h : w.openEndpoint s service context config handler = .ok w') :
    w.isStopped service = false ∧ ∃ bus log inbox, w.bus.subscribe config.subject = .ok bus ∧
      inbox = w.bus.inboxes.length ∧
      w' = { w with
        bus, log
        services := w.services.modify s fun service =>
          { service with info := service.info.withEndpoint config
                         deliveries := service.deliveries ++ [w.tasks.length] } }.spawn
        (.deliver { inbox, context, stop := service.stop, handler }) := by
  rw [openEndpoint] at h
  cases hstopped : w.isStopped service with
  | true =>
    rw [hstopped] at h
    cases h
  | false =>
    refine ⟨rfl, ?_⟩
    rw [hstopped] at h
    cases hcheck : config.check with
    | error e =>
      rw [hcheck] at h
      cases h
    | ok u =>
      cases hbus : w.bus.subscribe config.subject with
      | error e =>
        rw [hcheck, openInbox, hbus] at h
        cases h
      | ok bus =>
        rw [hcheck, openInbox, hbus] at h
        cases h
        exact ⟨bus, _, _, rfl, rfl, rfl⟩

/-- A service that gets a pool. -/
theorem pairService_eq {s : Nat} {service : Service} (hs : w.services[s]? = some service) (pool : Nat) :
    ∃ log, w.pairService s pool = { w with
      log
      services := w.services.modify s ({ · with pool? := some pool }) } := by
  rw [pairService, hs]
  exact ⟨_, rfl⟩

/-! ### Pools that change -/

/-- Whether one pool is put in the place of another. -/
structure Puts (pool : PoolId) (p p' : WorkerPool Job) (w w' : World) : Prop where
  before : w.pools[pool]? = some p
  pools : w'.pools = w.pools.set pool p'

/-- The pools after one is put in the place of another. -/
theorem Puts.pools_iff {pool Q : Nat} {p p' q : WorkerPool Job} (hp : Puts pool p p' w w') :
    w'.pools[Q]? = some q ↔ Q = pool ∧ q = p' ∨ Q ≠ pool ∧ w.pools[Q]? = some q := by
  have hlt := (List.getElem?_eq_some_iff.mp hp.before).1
  rw [hp.pools]
  by_cases hQ : Q = pool
  · rw [hQ, List.getElem?_set_self hlt]
    simp [eq_comm]
  · rw [List.getElem?_set_ne (Ne.symm hQ)]
    simp [hQ]

/-- The pool that is put in the place of another is there. -/
theorem Puts.after {pool : Nat} {p p' : WorkerPool Job} (hp : Puts pool p p' w w') :
    w'.pools[pool]? = some p' := hp.pools_iff.mpr (Or.inl ⟨rfl, rfl⟩)

/-- What becomes of a pool after one is put in the place of another. -/
theorem Puts.forth {pool Q : Nat} {p p' q : WorkerPool Job} (hp : Puts pool p p' w w')
    (hq : w.pools[Q]? = some q) : Q = pool ∧ q = p ∧ w'.pools[Q]? = some p' ∨
      Q ≠ pool ∧ w'.pools[Q]? = some q := by
  by_cases hQ : Q = pool
  · have hbefore := hp.before
    rw [← hQ, hq] at hbefore
    exact Or.inl ⟨hQ, Option.some.inj hbefore, hp.pools_iff.mpr (Or.inl ⟨hQ, rfl⟩)⟩
  · exact Or.inr ⟨hQ, hp.pools_iff.mpr (Or.inr ⟨hQ, hq⟩)⟩

/-! ### Turns that close nothing -/

/-- How a turn may change the pools: one of them is used. -/
def UsesPool (w w' : World) : Prop :=
  ∃ pool p p', w.pools[pool]? = some p ∧ p.Works p' ∧ w'.pools = w.pools.set pool p'

/-- A change that leaves tasks, services and scopes alone and uses one pool at most. -/
structure Tends (w w' : World) : Prop where
  tasks : w'.tasks = w.tasks
  services : w'.services = w.services
  scopes : w'.scopes = w.scopes
  pools : w'.pools = w.pools ∨ w.UsesPool w'

/-- The turn of a task that closes nothing. -/
structure Minds (id : TaskId) (w w' : World) : Prop where
  length : w'.tasks.length = w.tasks.length
  others : ∀ j : Nat, j ≠ id → w'.program? j = w.program? j
  services : w'.services = w.services
  scopes : w'.scopes = w.scopes
  pools : w'.pools = w.pools ∨ w.UsesPool w'

/-- What is beside the tasks uses no pool. -/
theorem Beside.tends (h : w.Beside v) : w.Tends v := by
  obtain ⟨_, _, _, _, _, rfl⟩ := h
  exact ⟨rfl, rfl, rfl, Or.inl rfl⟩

/-- The use of one pool. -/
theorem tends_setPool {pool : PoolId} {p p' : WorkerPool Job} (hp : w.pools[pool]? = some p)
    (h : p.Works p') : w.Tends (w.setPool pool p') :=
  ⟨rfl, rfl, rfl, Or.inr ⟨pool, p, p', hp, h, rfl⟩⟩

/-- A change beside the tasks, afterwards. -/
theorem Tends.beside (h : w.Tends v) (hb : v.Beside w') : w.Tends w' := by
  obtain ⟨_, _, _, _, _, rfl⟩ := hb
  exact ⟨h.tasks, h.services, h.scopes, h.pools⟩

/-- A change beside the tasks, before. -/
theorem Beside.then_tends (hb : w.Beside v) (h : v.Tends w') : w.Tends w' := by
  obtain ⟨_, _, _, _, _, rfl⟩ := hb
  exact ⟨h.tasks, h.services, h.scopes, h.pools⟩

/-- The programs after a change that leaves the tasks alone. -/
theorem Tends.program? (h : w.Tends v) (j : Nat) : v.program? j = w.program? j := by
  rw [World.program?, World.program?, h.tasks]

/-- A task that goes on or ends after such a change. -/
theorem Tends.alone (h : w.Tends v) (ha : Alone id v w') : Minds id w w' where
  length := ha.length.trans (congrArg List.length h.tasks)
  others j hj := (ha.others j hj).trans (h.program? j)
  services := ha.services.trans h.services
  scopes := ha.scopes.trans h.scopes
  pools := by
    have hpools := h.pools
    simpa only [UsesPool, ha.pools] using hpools

/-- What the program of a task may become in a turn that closes nothing. -/
structure Follows (program next : Program) : Prop where
  role : next.role = program.role
  stops : ¬ next.Stops

/-- What holds of the turn of a task that closes nothing. -/
def Goes (w : World) (id : TaskId) (program : Program) (w' : World) : Prop :=
  Minds id w w' ∧ ∀ next, w'.program? id = some next → Follows program next

section Turns

variable {program next : Program}

/-- The task goes on. -/
theorem Tends.goes (h : w.Tends v) (hp : w.program? id = some program)
    (hf : Follows program next) : w.Goes id program (v.setProgram id next) := by
  refine ⟨h.alone (alone_setProgram v id next), fun q hq => ?_⟩
  have hlt : id < v.tasks.length := by rw [h.tasks]; exact lt_of_program? hp
  rw [program?_setProgram_self hlt] at hq
  rw [← Option.some.inj hq]
  exact hf

/-- The task ends. -/
theorem Tends.ends (h : w.Tends v) (crashed : Bool) :
    w.Goes id program (v.endTask id crashed) := by
  refine ⟨h.alone (alone_endTask v id crashed), fun q hq => ?_⟩
  rw [program?_endTask_self] at hq
  cases hq

/-- The task finishes. -/
theorem Tends.finishes (h : w.Tends v) (outcome : Outcome) :
    w.Goes id program (v.finish id outcome) := by
  refine ⟨h.alone (alone_finish v id outcome), fun q hq => ?_⟩
  rw [program?_finish_self] at hq
  cases hq

/-- A change beside the tasks, after the turn. -/
theorem Goes.beside (h : w.Goes id program v) (hb : v.Beside w') : w.Goes id program w' := by
  obtain ⟨_, _, _, _, _, rfl⟩ := hb
  exact ⟨⟨h.1.length, h.1.others, h.1.services, h.1.scopes, h.1.pools⟩, h.2⟩

/-- A submission uses its pool. -/
theorem tends_turnSubmission {pool : PoolId} {s : Submission} {placement : Placement}
    (h : w.turnSubmission pool s = some (v, placement)) : w.Tends v := by
  obtain ⟨p, hp, ⟨job, -, rfl, -⟩ | ⟨t, p', verdict, -, ha, rfl, -⟩⟩ := turnSubmission_cases h
  · exact tends_setPool hp (.submit job)
  · exact tends_setPool hp (.advance ha)

/-- Handling a request uses one pool at most. -/
theorem tends_turnHandling {handling : Handling} {progress : Progress Handling}
    (h : w.turnHandling id handling = some (v, progress)) : w.Tends v := by
  obtain ⟨run, p, -, hr, -⟩ | ⟨pool, s, placement, -, hs, -⟩ := turnHandling_cases h
  · exact (beside_turnRun hr).tends
  · exact tends_turnSubmission hs

/-- Naming a request uses no pool. -/
theorem tends_nameRequest (w : World) (name : String) (request : Request) :
    w.Tends (w.nameRequest name request) := by
  obtain ⟨bus, hw, -⟩ := w.nameRequest_cases name request
  rw [hw]
  exact ⟨rfl, rfl, rfl, Or.inl rfl⟩

/-- Naming a subscription uses no pool. -/
theorem tends_nameSubscription (w : World) (name : String) (inbox : InboxId) :
    w.Tends (w.nameSubscription name inbox) := by
  obtain ⟨bus, hw, -⟩ := w.nameSubscription_cases name inbox
  rw [hw]
  exact ⟨rfl, rfl, rfl, Or.inl rfl⟩

/-- A change that uses no pool and one that uses one at most. -/
theorem Tends.trans_tends (h : w.Tends v) (hp : v.pools = w.pools) (h' : v.Tends w') :
    w.Tends w' where
  tasks := h'.tasks.trans h.tasks
  services := h'.services.trans h.services
  scopes := h'.scopes.trans h.scopes
  pools := by
    have hpools := h'.pools
    simpa only [UsesPool, hp] using hpools

/-- The turn of a delivery. -/
theorem goes_deliver {d : Delivery} (hp : w.program? id = some (.deliver d))
    (h : w.turnDeliver id d = some w') : w.Goes id (.deliver d) w' := by
  obtain ⟨handling, v, progress, -, hv, hcase⟩ | ⟨-, -, -, rfl⟩ | ⟨-, -, hcase⟩ :=
    turnDeliver_cases h
  · have ht := tends_turnHandling hv
    rcases hcase with ⟨next, -, rfl⟩ | ⟨-, rfl⟩ | ⟨-, rfl⟩
    · exact ht.goes hp ⟨rfl, fun h => h⟩
    · exact ht.goes hp ⟨rfl, fun h => h⟩
    · exact (ht.beside (beside_withBus v _)).ends true
  · exact (beside_withBus w _).tends.goes hp ⟨rfl, fun h => h⟩
  · rcases hcase with ⟨request, bus, -, rfl⟩ | ⟨-, -, v, hv, rfl⟩
    · exact (beside_withBus w _).tends.goes hp ⟨rfl, fun h => h⟩
    · exact (hv.beside.trans (beside_withBus v _)).tends.ends false

/-- The turn of an executor. -/
theorem goes_execute {pool : PoolId} {i : Nat} {run? : Option Run}
    (hp : w.program? id = some (.execute pool i run?))
    (h : w.turnExecute id pool i run? = some w') : w.Goes id (.execute pool i run?) w' := by
  obtain ⟨-, p, p', found, hpool, -, htake, hcase⟩ | ⟨run, p, v, progress, -, hpool, hr, hcase⟩ :=
    turnExecute_cases h
  · have ht := tends_setPool hpool (.take htake)
    rcases hcase with ⟨job, -, rfl⟩ | ⟨-, v, hv, rfl⟩
    · exact ht.goes hp ⟨rfl, fun h => h⟩
    · exact (ht.beside hv.beside).ends false
  · have hb := beside_turnRun hr
    rcases hcase with ⟨next, -, rfl⟩ | ⟨-, hw⟩
    · exact hb.tends.goes hp ⟨rfl, fun h => h⟩
    · have hpool' : v.pools[pool]? = some p := by
        obtain ⟨_, _, _, _, _, rfl⟩ := hb
        exact hpool
      have ht := hb.then_tends (tends_setPool hpool' (.finish i))
      have hg : w.Goes id _ ((v.setPool pool (p.finish i)).setProgram id (.execute pool i none)) :=
        ht.goes hp ⟨rfl, fun h => h⟩
      exact hg.beside hw.beside

/-- The turn of a call. -/
theorem goes_exchange {call : CallId} {context? : Option Context} {begun : Bool}
    {client? : Option ClientId} {conclude : Except TransportError Message → Logged Outcome}
    (hp : w.program? id = some (.exchange call context? begun client? conclude))
    (h : w.turnExchange id call context? begun client? conclude = some w') :
    w.Goes id (.exchange call context? begun client? conclude) w' := by
  obtain ⟨v, result, rfl, hcase⟩ | ⟨-, -, rfl⟩ := turnExchange_cases h
  · have hv : w.Beside v := by
      rcases hcase with ⟨e, -, -, rfl, -⟩ | ⟨rfl, -⟩ | ⟨e, -, -, rfl, -⟩
      · exact beside_withBus w _
      · exact beside_withBus w _
      · exact (beside_withBus w _).trans (beside_withBus _ _)
    have hb : v.Beside (v.absorb (conclude result)) := ⟨_, _, _, _, _, rfl⟩
    exact (hv.trans hb).tends.finishes _
  · exact (beside_withBus w _).tends.goes hp ⟨rfl, fun h => h⟩

/-- The turn of a task that waits for a request. -/
theorem goes_receive {subscription request : String} {inbox : InboxId}
    (h : w.turnReceive id subscription inbox request = some w') :
    w.Goes id (.receive subscription inbox request) w' := by
  obtain ⟨r, bus, -, rfl⟩ | rfl := turnReceive_cases h
  · obtain ⟨bus', hnamed, -⟩ := (w.withBus bus).nameRequest_cases request r
    have h₁ : w.Tends ((w.withBus bus).nameRequest request r) :=
      (beside_withBus w bus).then_tends (tends_nameRequest _ _ _)
    have h₂ := tends_nameSubscription ((w.withBus bus).nameRequest request r) subscription inbox
    exact (h₁.trans_tends (by rw [hnamed]; rfl) h₂).finishes _
  · exact (tends_nameSubscription w subscription inbox).finishes _

/-- The turn of a task that sleeps. -/
theorem goes_sleep {context : Context} {begun : Bool} {wake : Time}
    (hp : w.program? id = some (.sleep context begun wake))
    (h : w.turnSleep id context begun wake = some w') :
    w.Goes id (.sleep context begun wake) w' := by
  obtain ⟨result, rfl⟩ | ⟨-, rfl⟩ := turnSleep_cases h
  · exact (Beside.refl w).tends.finishes _
  · exact (Beside.refl w).tends.goes hp ⟨rfl, fun h => h⟩

/-- The turn of a task that submits a job. -/
theorem goes_submit {pool : PoolId} {s : Submission}
    (hp : w.program? id = some (.submit pool s)) (h : w.turnSubmit id pool s = some w') :
    w.Goes id (.submit pool s) w' := by
  obtain ⟨⟨v, placement⟩, hv, h⟩ := Option.bind_eq_some_iff.mp h
  have ht := tends_turnSubmission hv
  cases placement with
  | onward next =>
    cases h
    exact ht.goes hp ⟨rfl, fun h => h⟩
  | queued =>
    cases h
    exact ht.finishes _
  | handedBack job =>
    cases h
    exact (ht.beside (beside_withBus v _)).finishes _

/-- The turn of a task that handles a request. -/
theorem goes_handle {handling : Handling} (hp : w.program? id = some (.handle handling))
    (h : w.turnHandle id handling = some w') : w.Goes id (.handle handling) w' := by
  obtain ⟨⟨v, progress⟩, hv, h⟩ := Option.bind_eq_some_iff.mp h
  have ht := tends_turnHandling hv
  cases progress with
  | going next =>
    cases h
    exact ht.goes hp ⟨rfl, fun h => h⟩
  | «over» =>
    cases h
    exact ht.finishes _
  | crashed =>
    cases h
    exact ht.ends true

/-- **The turn of a task that closes nothing** concerns the task and at most one pool. -/
theorem goes_turn (hp : w.program? id = some program) (hs : ¬ program.Stops)
    (h : w.turn id = some w') : w.Goes id program w' := by
  have hturn := h
  rw [turn, hp, Option.bind_eq_bind, Option.bind_some] at hturn
  cases program with
  | awaitCancelled c =>
    rw [turn_awaitCancelled hp h]
    exact (Beside.refl w).tends.finishes _
  | awaitEnd c =>
    obtain ⟨e, rfl⟩ := turn_awaitEnd hp h
    exact (Beside.refl w).tends.finishes _
  | sleep c begun wake => exact goes_sleep hp hturn
  | receive subscription inbox request => exact goes_receive hturn
  | exchange call c? begun client? conclude => exact goes_exchange hp hturn
  | submit pool s => exact goes_submit hp hturn
  | shutdown pool stage => exact absurd trivial hs
  | handle handling => exact goes_handle hp hturn
  | stop service stage => exact absurd trivial hs
  | deliver d => exact goes_deliver hp hturn
  | execute pool executor run? => exact goes_execute hp hturn

/-- A task that has its turn has something to do. -/
theorem exists_program_of_turn (h : w.turn id = some w') :
    ∃ program, w.program? id = some program := by
  rw [turn] at h
  cases hp : w.program? id with
  | none =>
    rw [hp] at h
    cases h
  | some program => exact ⟨program, rfl⟩

/-- The turn of a task that stops a service. -/
theorem turnStop_of_turn {s : ServiceId} {stage : Stopping}
    (hp : w.program? id = some (.stop s stage)) (h : w.turn id = some w') :
    w.turnStop id s stage = some w' := by
  rw [turn, hp] at h
  exact h

/-- The turn of a task that shuts a pool down. -/
theorem turnShutdown_of_turn {pool : PoolId} {stage : Shutdown}
    (hp : w.program? id = some (.shutdown pool stage)) (h : w.turn id = some w') :
    ∃ v next?, w.turnShutdown pool stage = some (v, next?) ∧
      ((∃ stage', next? = some stage' ∧ w' = v.setProgram id (.shutdown pool stage')) ∨
        next? = none ∧ ∃ outcome, w' = v.finish id outcome) := by
  rw [turn, hp, Option.bind_eq_bind, Option.bind_some] at h
  obtain ⟨⟨v, next?⟩, hv, h⟩ := Option.bind_eq_some_iff.mp h
  refine ⟨v, next?, hv, ?_⟩
  cases next? with
  | some stage' =>
    cases h
    exact Or.inl ⟨stage', rfl, rfl⟩
  | none =>
    cases h
    exact Or.inr ⟨rfl, _, rfl⟩

end Turns

/-! ### Turns in a given order -/

/-- The turns of some tasks, one after another. -/
def turns (w : World) (ids : List TaskId) : Option World := ids.foldlM turn w

/-- Turns are steps. -/
theorem steps_turns (ids : List TaskId) (h : w.turns ids = some w') : Steps w w' := by
  induction ids generalizing w with
  | nil =>
    rw [turns, List.foldlM_nil] at h
    cases h
    exact .refl
  | cons id ids ih =>
    rw [turns, List.foldlM_cons] at h
    obtain ⟨v, hv, h⟩ := Option.bind_eq_some_iff.mp h
    exact .head (.turn id hv) (ih h)

end World

end ServiceBus.Bus
