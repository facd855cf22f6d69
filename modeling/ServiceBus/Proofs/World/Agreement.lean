import ServiceBus.Greeter.Service
import ServiceBus.Proofs.World.Idle
import ServiceBus.Proofs.World.Labels
import ServiceBus.Proofs.World.Serving

/-! # What a call to a running server comes to

A call of a method that a running server serves, in a context that is live throughout, comes to what the
work of the method comes to: its output, its failure with the reason that it tells, or the loss of the
request if it crashes.

* `Server.Steady`: a run through which a server runs and a context is live.
* `World.Calls`: what is known of a call to the server and of the task that makes it.
* `World.Calls.returned`: what the task comes to when it ends.
* `World.Calls.ended_of_atRest`: it has ended when nobody can go on, if its work does not wait and some
  executor has no job.
* `World.call_agrees`: both, for the methods of services and their codec. -/

namespace ServiceBus.Bus

/-! ### Steady runs -/

/-- **A run of a server that nothing hinders**, through which a context is live. -/
inductive Server.Steady (server : Server) (context : Context) (u : World) : World → Prop
  | refl (runs : server.Runs u) (live : u.contextError? context = none) :
      Steady server context u u
  | tail {v w : World} (h : Steady server context u v) (step : v.Step w)
      (unhindered : server.Unhindered w) (live : w.contextError? context = none) :
      Steady server context u w

namespace Server.Steady

variable {server : Server} {context : Context} {u w : World}

/-- It is a run. -/
theorem steps (h : server.Steady context u w) : World.Steps u w := by
  induction h with
  | refl => exact .refl
  | tail _ hs _ _ ih => exact ih.tail hs

/-- The server runs at its end. -/
theorem runs (h : server.Steady context u w) (hrun : World.Steps {} u) : server.Runs w := by
  induction h with
  | refl runs => exact runs
  | tail h hs unhindered _ ih =>
    have hmanned := World.Manned.of_steps (hrun.trans h.steps)
    exact ih.step hmanned.bound hs unhindered

/-- The context is live at its end. -/
theorem live (h : server.Steady context u w) : w.contextError? context = none := by
  cases h with
  | refl _ live => exact live
  | tail _ _ _ live => exact live

end Server.Steady

/-- The turns of some tasks, if nothing hinders the server and the context is live after each. -/
def Server.steadyTurns (server : Server) (context : Context) (w : World) (ids : List TaskId) :
    Option World :=
  ids.foldlM (fun w id => (w.turn id).filter fun v =>
    decide (server.Unhindered v ∧ v.contextError? context = none)) w

/-- Such turns are a steady run. -/
theorem Server.Steady.turns {server : Server} {context : Context} {u v w : World}
    {ids : List TaskId} (h : server.Steady context u v)
    (hturns : server.steadyTurns context v ids = some w) : server.Steady context u w := by
  induction ids generalizing v with
  | nil =>
    rw [steadyTurns, List.foldlM_nil] at hturns
    cases hturns
    exact h
  | cons id ids ih =>
    rw [steadyTurns, List.foldlM_cons] at hturns
    obtain ⟨next, hnext, hturns⟩ := Option.bind_eq_some_iff.mp hturns
    obtain ⟨hturn, hsteady⟩ := Option.filter_eq_some_iff.mp hnext
    obtain ⟨hunhindered, hlive⟩ := of_decide_eq_true hsteady
    exact ih (h.tail (.turn id hturn) hunhindered hlive) hturns

/-- A task that makes a call. -/
structure Caller where
  id : TaskId
  name : String
  call : CallId
  context : Context
  request : Request
  conclude : Except TransportError Message → Logged Outcome

namespace World

variable {u w w' v : World} {server : Server} {caller : Caller} {waits : Prop} {answer : Answer}

/-! ### A call in a run -/

/-- **What is known of a call to a server** and of the task that makes it. -/
structure Calls (caller : Caller) (server : Server) (waits : Prop) (answer : Answer) (w : World) :
    Prop where
  entrusted : w.Entrusted server caller.call caller.request waits answer
  role : ∀ program, w.program? caller.id = some program →
    program.role = .exchange caller.call (some caller.context) caller.conclude
  only : ∀ j : Nat, w.Exchanges j caller.call → j = caller.id
  label : w.labels[caller.id]? = some (some caller.name)

/-- The task of a call is there. -/
theorem Calls.lt (h : w.Calls caller server waits answer) : caller.id < w.tasks.length := by
  obtain ⟨hlt, -⟩ := List.getElem?_eq_some_iff.mp h.label
  rwa [labels, List.length_map] at hlt

/-- The program of the task of a call. -/
theorem Calls.program (h : w.Calls caller server waits answer) {program : Program}
    (hp : w.program? caller.id = some program) : ∃ begun client?,
      w.program? caller.id =
        some (.exchange caller.call (some caller.context) begun client? caller.conclude) := by
  have hrole := h.role program hp
  cases program with
  | exchange call context? begun client? conclude =>
    obtain ⟨rfl, rfl, rfl⟩ := Role.exchange.inj hrole
    exact ⟨begun, client?, hp⟩
  | _ => cases hrole

/-- Who sees the call through does so in the context of the caller. -/
theorem Calls.live (h : w.Calls caller server waits answer)
    (hlive : w.contextError? caller.context = none) : w.CallLive caller.call := by
  intro j context? conclude hrole
  obtain rfl := h.only j ⟨context?, conclude, hrole⟩
  obtain ⟨program, hp, heq⟩ := Option.map_eq_some_iff.mp hrole
  rw [h.role program hp] at heq
  obtain ⟨-, rfl, -⟩ := Role.exchange.inj heq
  exact hlive

/-- A step while the server runs and the context is live. -/
theorem Calls.step (h : w.Calls caller server waits answer) (hrun : Steps {} w) (hs : w.Step w')
    (hruns : server.Runs w) (hruns' : server.Runs w')
    (hlive : w.contextError? caller.context = none)
    (hsubject : caller.request.subject = server.subject)
    (hscript : (server.script caller.request).Answers waits answer) :
    w'.Calls caller server waits answer := by
  have hattended := Attended.of_steps hrun
  refine ⟨?_, fun program hp => ?_, fun j hj => ?_, ?_⟩
  · exact h.entrusted.step hruns (.of_steps hrun) hs hattended hruns' hsubject (h.live hlive) hscript
  · cases hbefore : w.program? caller.id with
    | none =>
      rw [(hs.ended h.lt).2 hbefore] at hp
      cases hp
    | some before =>
      have hrole : w.role? caller.id = some before.role := role?_eq hbefore
      rw [hs.role_eq hrole hp]
      exact h.role before hbefore
  · obtain ⟨call, hcall, -⟩ := h.entrusted.bus.letter
    exact h.only j (hs.exchanges_back (List.getElem?_eq_some_iff.mp hcall).1 hj)
  · obtain ⟨added, hadded⟩ := hs.labels
    have hlt := (List.getElem?_eq_some_iff.mp h.label).1
    rw [← hadded, List.getElem?_append_left hlt]
    exact h.label

/-- A run while the server runs and the context is live. -/
theorem Calls.steady (h : u.Calls caller server waits answer) (hrun : Steps {} u)
    (hs : server.Steady caller.context u w)
    (hsubject : caller.request.subject = server.subject)
    (hscript : (server.script caller.request).Answers waits answer) :
    w.Calls caller server waits answer := by
  induction hs with
  | refl => exact h
  | tail hs step unhindered live ih =>
    have hruns := hs.runs hrun
    have hruns' := (hs.tail step unhindered live).runs hrun
    exact ih.step (hrun.trans hs.steps) step hruns hruns' hs.live hsubject hscript

/-- **When the task of a call ends** it comes to what the server answers. -/
theorem Calls.returned (h : w.Calls caller server waits answer) (hruns : server.Runs w)
    (hlive : w.contextError? caller.context = none)
    (hsubject : caller.request.subject = server.subject)
    (hturn : w.turn caller.id = some w') (hend : w'.program? caller.id = none) :
    w'.events = w.events ++
      [.finished caller.name (caller.conclude (answer.delivered server.subject)).value] := by
  obtain ⟨program, hp⟩ := exists_program_of_turn hturn
  obtain ⟨begun, client?, hp⟩ := h.program hp
  have hserves : w.bus.Serves server.inbox caller.request.subject := hsubject ▸ hruns.bus
  rcases exchange_of_live hp hlive hturn with ⟨result, hresult, rfl⟩ | rfl
  · obtain rfl := (h.entrusted.bus.poll hserves).2 result hresult
    rw [hsubject]
    -- the task has the name that it was started under
    have hname : (w.tasks[caller.id]?).bind (·.name?) = some caller.name := by
      have hlabel := h.label
      rw [labels_getElem?] at hlabel
      obtain ⟨task, htask, hname⟩ := Option.map_eq_some_iff.mp hlabel
      rw [htask, Option.bind_some, hname]
    rw [finish]
    rw [show (((w.withBus (w.bus.poll caller.call).1).absorb _).tasks[caller.id]?).bind
      (fun task => task.name?) = some caller.name from hname]
    rfl
  · have hlt : caller.id < (w.withBus (w.bus.poll caller.call).1).tasks.length :=
      lt_of_program? hp
    rw [program?_setProgram_self hlt] at hend
    cases hend

/-! ### Calls at rest -/

/-- A call that goes on by itself has its turn. -/
theorem turn_of_step {j c : Nat} (hj : w.Exchanges j c) (hstep : w.bus.step c ≠ none) :
    ∃ w', w.turn j = some w' := by
  obtain ⟨context?, begun, client?, conclude, hp⟩ := hj.program
  rw [turn, hp, Option.bind_eq_bind, Option.bind_some]
  dsimp only
  rw [turnExchange]
  dsimp only
  split
  · exact ⟨_, rfl⟩
  · exact ⟨_, rfl⟩
  · split
    · rename_i hwait
      rw [Bool.and_eq_true, Option.isNone_iff_eq_none] at hwait
      exact absurd hwait.2 hstep
    · exact ⟨_, rfl⟩

/-- A call goes no further by itself in a world at rest. -/
theorem AtRest.step_eq_none (h : w.AtRest) {j c : Nat} (hj : w.Exchanges j c) :
    w.bus.step c = none := by
  by_contra hstep
  exact h.not_turn (turn_of_step hj hstep)

/-- An executor at rest that has a job is held up by its script. -/
theorem AtRest.stuck (h : w.AtRest) {j i P : Nat} {run : Run} {p : WorkerPool Job}
    (hj : w.program? j = some (.execute P i (some run))) (hp : w.pools[P]? = some p) :
    w.turnRun j run = none := by
  rcases hrun : w.turnRun j run with _ | ⟨v, progress⟩
  · rfl
  · have hturn := h j
    rw [turn, hj, Option.bind_eq_bind, Option.bind_some] at hturn
    dsimp only at hturn
    rw [turnExecute, hp, Option.bind_eq_bind, Option.bind_some, hrun, Option.bind_eq_bind,
      Option.bind_some] at hturn
    cases progress <;> cases hturn

/-- The inbox of a server at rest is empty if its pool spares an executor. -/
theorem AtRest.serving (h : w.AtRest) (hrun : Steps {} w) (hruns : server.Runs w)
    (hspare : w.Spares server.pool) : w.bus.buffer server.inbox = [] := by
  obtain ⟨d, hd, hinbox, -, hhandler⟩ := hruns.loop
  obtain ⟨p, hp, hopen⟩ := hruns.pool
  have hsound := (Attended.of_steps hrun).pools server.pool p hp
  have hbound : d.handler.pool? = some server.pool := by rw [hhandler]
  have hand := h.handling?_eq_none (.of_steps hrun) hsound hp hspare hd hbound hopen
  obtain ⟨-, htake, -⟩ := h.loop hd hand
  rw [hinbox] at htake
  exact MemoryBus.buffer_of_take_none htake

/-- Nobody stands in the line of an empty inbox at rest. -/
theorem AtRest.line (h : w.AtRest) (hcalls : w.Accounted) {i : InboxId} {inbox : Inbox}
    (hinbox : w.bus.inboxes[i]? = some inbox) (hempty : inbox.buffer = []) : inbox.line = [] := by
  cases hline : inbox.line with
  | nil => rfl
  | cons c rest =>
    have hstage : w.bus.stage? c = some (.inLine i) :=
      hcalls.lined i c ⟨inbox, hinbox, hline ▸ List.mem_cons_self⟩
    obtain ⟨j, hj⟩ := hcalls.attended c _ hstage (by simp)
    -- the first of the line has room
    have hroom : inbox.hasRoomFor c = true := by
      rw [Inbox.hasRoomFor, hline, hempty, List.idxOf_cons_self]
      rfl
    rcases MemoryBus.step_eq_none hstage (h.step_eq_none hj) with ⟨k, hk⟩ | hk | ⟨k, hk, -⟩ |
      ⟨k, hk, hfull⟩
    · cases hk
    · cases hk
    · cases hk
    · cases hk
      rw [hfull inbox hinbox] at hroom
      cases hroom

/-- Whether an executor of a pool has the job of a call. -/
def WorksOn (w : World) (P : PoolId) (c : CallId) : Prop :=
  ∃ (j : TaskId) (i : Nat) (run : Run), w.program? j = some (.execute P i (some run)) ∧
    run.request.IsOf c

/-- If the pool spares an executor, only an executor that may wait has the request of a call at rest. -/
theorem Calls.held_up (h : w.Calls caller server waits answer) (hrun : Steps {} w)
    (hruns : server.Runs w) (hrest : w.AtRest) (hspare : w.Spares server.pool)
    (hheld : w.Held caller.call) : waits ∧ w.WorksOn server.pool caller.call := by
  obtain ⟨p, hpool, -⟩ := hruns.pool
  have hsound := (Attended.of_steps hrun).pools server.pool p hpool
  have hmanned := Manned.of_steps hrun
  cases hheld with
  | stored k r hr of =>
    obtain ⟨rfl, -⟩ := h.entrusted.bus.stored k r hr of
    rw [MemoryBus.stores_iff, hrest.serving hrun hruns hspare] at hr
    cases hr
  | named name r hr of => exact absurd of (h.entrusted.named name r hr)
  | offered j P job hand of =>
    obtain ⟨rfl, -, -⟩ := h.entrusted.offered j P job hand of
    exact absurd hand (hrest.not_submitting hmanned hsound hpool hspare)
  | pooled P q job hq mem of =>
    obtain ⟨rfl, -, -⟩ := h.entrusted.pooled P q job hq mem of
    rw [hpool] at hq
    obtain rfl := Option.some.inj hq
    obtain ⟨hwaiting, hqueue⟩ := hrest.cleared hmanned hsound hpool hspare
    rw [WorkerPool.jobs, hwaiting, hqueue] at mem
    cases mem
  | running j run hand of =>
    obtain ⟨⟨k, hrole⟩, -, hanswers⟩ := h.entrusted.running j run hand of
    obtain ⟨program, hprogram, heq⟩ := Option.map_eq_some_iff.mp hrole
    obtain ⟨run?, rfl⟩ := execute_of_role heq
    rw [hand?_eq hprogram] at hand
    obtain ⟨found, rfl, hfound⟩ := Option.map_eq_some_iff.mp hand
    cases hfound
    exact ⟨hanswers.of_stuck (hrest.stuck hprogram hpool), j, k, run, hprogram, of⟩

/-- **At rest the task of a call has ended** if the pool spares an executor, unless the work of the call
waits. -/
theorem Calls.ended_of_atRest (h : w.Calls caller server waits answer) (hrun : Steps {} w)
    (hruns : server.Runs w) (hrest : w.AtRest) (hspare : w.Spares server.pool) :
    w.program? caller.id = none ∨ waits ∧ w.WorksOn server.pool caller.call := by
  cases hprogram : w.program? caller.id with
  | none => exact Or.inl rfl
  | some program =>
    obtain ⟨begun, client?, hp⟩ := h.program hprogram
    have hcalls := Accounted.of_steps hrun
    have hex : w.Exchanges caller.id caller.call := exchanges_of_program hp
    obtain ⟨s, hstage⟩ := exists_stage (hcalls.exchanges_lt caller.id caller.call hex)
    have hheads := h.entrusted.bus.stage s hstage
    obtain ⟨inbox, hinbox, -⟩ := hruns.bus.inbox
    have hbuffer : inbox.buffer = [] := by
      rw [← MemoryBus.buffer_eq hinbox]
      exact hrest.serving hrun hruns hspare
    rcases MemoryBus.step_eq_none hstage (hrest.step_eq_none hex) with ⟨i, rfl⟩ | rfl |
      ⟨i, rfl, hnone⟩ | ⟨i, rfl, hfull⟩
    · -- somebody has the request of a call that waits
      exact Or.inr (h.held_up hrun hruns hrest hspare (hcalls.held caller.call ⟨i, hstage⟩))
    · exact absurd hstage (hcalls.going caller.id caller.call hex)
    · obtain rfl : i = server.inbox := hheads
      rw [hinbox] at hnone
      cases hnone
    · -- there is room, because nobody stands in the line
      obtain rfl : i = server.inbox := hheads
      have hroom : inbox.hasRoomFor caller.call = true := by
        rw [Inbox.hasRoomFor, hrest.line hcalls hinbox hbuffer, hbuffer]
        rfl
      rw [hfull inbox hinbox] at hroom
      cases hroom

/-! ### Calls of methods -/

/-- The context of a name is at hand, or a new one is made. -/
theorem steps_contextOf (w : World) (name? : Option String) : Steps w (w.contextOf name?).1 := by
  rw [contextOf]
  split
  · exact .refl
  · refine .tail .refl (.scopes _ ?_ fun s hs => ?_)
    · rw [ScopeTree.next_fresh]
      exact Nat.le_succ _
    · rwa [ScopeTree.isCancelled_fresh]

/-- Tasks and the bus are left alone by it. -/
theorem contextOf_frame (w : World) (name? : Option String) :
    (w.contextOf name?).1.tasks = w.tasks ∧ (w.contextOf name?).1.bus = w.bus := by
  rw [contextOf]
  split <;> exact ⟨rfl, rfl⟩

section Start

variable {call : Call} {task : String} {context : Context} {client? : Option ClientId}
  {conclude : Except TransportError Message → Logged Outcome}

/-- A call begins under a name. -/
theorem steps_start (hasking : call.stage = .asking) :
    Steps w ((w.withBus (w.bus.ask call)).start task
      (.exchange w.bus.calls.length (some context) false client? conclude)) := by
  have hask : Steps w _ := .tail .refl
    (.ask call hasking (some context) client? conclude (some task))
  exact hask.tail (.names _ rfl rfl)

/-- Nobody but the server and the caller knows of a call that begins. -/
theorem calls_start (hrun : Steps {} w) (hasking : call.stage = .asking) :
    ((w.withBus (w.bus.ask call)).start task
      (.exchange w.bus.calls.length (some context) false client? conclude)).Calls
      { id := w.tasks.length, name := task, call := w.bus.calls.length, context,
        request := call.request w.bus.calls.length, conclude } server waits answer := by
  have hcalls := Accounted.of_steps hrun
  -- the new task makes the call, all others are for what they were for
  have hself := role?_spawn (w.withBus (w.bus.ask call))
    (.exchange w.bus.calls.length (some context) false client? conclude) (some task) w.tasks.length
  rw [show (w.withBus (w.bus.ask call)).tasks = w.tasks from rfl, if_pos rfl] at hself
  refine ⟨?_, fun program hp => ?_, fun j hj => ?_, ?_⟩
  · exact .ask hcalls hasking rfl rfl rfl hand?_exchange
  · exact Option.some.inj ((role?_eq hp).symm.trans hself)
  · by_contra hother
    replace hother : ¬ j = (w.withBus (w.bus.ask call)).tasks.length := hother
    obtain ⟨context?, conclude', hrole⟩ := hj
    have hbefore := role?_spawn (w.withBus (w.bus.ask call))
      (.exchange w.bus.calls.length (some context) false client? conclude) (some task) j
    rw [if_neg hother] at hbefore
    -- a call that has not begun has no number
    have hex : w.Exchanges j w.bus.calls.length := ⟨context?, conclude', hbefore.symm.trans hrole⟩
    exact Nat.lt_irrefl _ (hcalls.exchanges_lt j _ hex)
  · have hlabels := labels_spawn (w.withBus (w.bus.ask call))
      (.exchange w.bus.calls.length (some context) false client? conclude) (some task)
    have hlast : (w.labels ++ [some task])[w.labels.length]? = some (some task) :=
      List.getElem?_concat_length
    rw [labels, List.length_map] at hlast
    exact (congrArg (·[w.tasks.length]?) hlabels).trans hlast

end Start

section Method

variable {In Out : Type} [Wire.WireMessage In] [Wire.WireMessage Out]

/-- The task that a call with a value is made by. -/
def callerOf (w : World) (task : String) (context? : Option String) (spans : List String)
    (subject : String) (input : In) (outcome : Except ClientError Out → Outcome) : Caller :=
  let call : Call := { subject, payload := Wire.WireMessage.encode input }
  { id := w.tasks.length
    name := task
    call := w.bus.calls.length
    context := (w.contextOf context?).2
    request := call.request w.bus.calls.length
    conclude := fun reply => return outcome (← Client.outcome decode spans subject reply) }

/-- A call with a value begins. -/
theorem steps_startCall (w : World) (task : String) (client? : Option ClientId)
    (context? : Option String) (spans : List String) (subject : String) (input : In)
    (outcome : Except ClientError Out → Outcome) :
    Steps w (w.startCall task client? context? spans subject input outcome) :=
  (w.steps_contextOf context?).trans (steps_start rfl)

/-- What is known of a call with a value when it begins. -/
theorem calls_startCall (hrun : Steps {} w) (task : String) (client? : Option ClientId)
    (context? : Option String) (spans : List String) (subject : String) (input : In)
    (outcome : Except ClientError Out → Outcome) :
    (w.startCall task client? context? spans subject input outcome).Calls
      (w.callerOf task context? spans subject input outcome) server waits answer := by
  obtain ⟨htasks, hbus⟩ := w.contextOf_frame context?
  rw [callerOf, ← htasks, ← hbus]
  exact calls_start (hrun.trans (w.steps_contextOf context?)) rfl

/-- **A call of a method that a server serves comes to what the work of the method comes to**, through
a run in which nothing hinders the server and the context of the call is live. Whenever the call ends,
its outcome is that of the work. When no task can go on and some executor of the pool has no job it has
ended, unless the work may wait and another executor has its job. Turns alone come to an end
(`wellFounded_turn`). -/
theorem call_agrees {w₀ : World} (hrun : Steps {} w₀) {handlerSpans : List String}
    {serve : In → Work Out}
    (hserver : server.script = (Greeter.method handlerSpans server.subject serve).script)
    {input : In} {waits : Prop} {result : Option (Except String Out)}
    (hserve : (serve input).ComesTo waits result)
    (hin : decode (Wire.WireMessage.encode input) = .ok input)
    (hout : ∀ output, result = some (.ok output) →
      decode (Wire.WireMessage.encode output) = .ok output)
    (task : String) (client? : Option ClientId) (context? : Option String) (spans : List String)
    (outcome : Except ClientError Out → Outcome)
    (hsteady : server.Steady (w₀.contextOf context?).2
      (w₀.startCall task client? context? spans server.subject input outcome) w) :
    (∀ w', w.turn w₀.tasks.length = some w' → w'.program? w₀.tasks.length = none →
      w'.events = w.events ++ [.finished task (outcome (Client.told server.subject result))]) ∧
    (w.AtRest → w.Spares server.pool → w.program? w₀.tasks.length = none ∨
      waits ∧ w.WorksOn server.pool w₀.bus.calls.length) := by
  let m : Method In Out := Greeter.method handlerSpans server.subject serve
  let caller : Caller := w₀.callerOf task context? spans server.subject input outcome
  have hbegun := hrun.trans
    (w₀.steps_startCall task client? context? spans server.subject input outcome)
  have hanswers : (server.script caller.request).Answers waits (m.answer result) := by
    rw [hserver]
    exact m.answers_script hin hserve
  have hcalls : w.Calls caller server waits (m.answer result) :=
    (calls_startCall hrun task client? context? spans server.subject input outcome).steady hbegun
      hsteady rfl hanswers
  have hruns := hsteady.runs hbegun
  refine ⟨fun w' hturn hend => ?_, fun hrest hspare => ?_⟩
  · -- what the caller makes of the answer is what it is told
    have htold : (Client.outcome decode spans server.subject
        ((m.answer result).delivered server.subject)).value = Client.told server.subject result :=
      Client.outcome_answer spans server.subject fun output houtput => ⟨_, rfl, hout output houtput⟩
    rw [← htold]
    exact hcalls.returned hruns hsteady.live rfl hturn hend
  · exact hcalls.ended_of_atRest (hbegun.trans hsteady.steps) hruns hrest hspare

end Method

/-! ### A greeting -/

/-- Greets whoever is named. -/
def hello (request : Greeter.HelloRequest) : Work Greeter.HelloReply :=
  .ok { message := "Hello, " ++ request.name ++ "!" }

/-- The server of the greeting. -/
def helloServer : Server where
  loop := 1
  inbox := 0
  stop := 1
  pool := 0
  subject := "greet"
  script := (Greeter.method [] "greet" hello).script

/-- A pool of one executor and a service with one endpoint, which greets. -/
def greeting : World :=
  let world : World := { ({} : World) with scopes := ScopeTree.fresh {} }.openPool 1
  let world := (world.openService { name := "greeter", version := "1" }).toOption.getD {}
  (world.openEndpoint 0 { info := .ofConfig { name := "greeter", version := "1" }, stop := 1 }
    { scope := 0 } { name := "Greet", subject := "greet" }
    { pool? := some 0, script := helloServer.script }).toOption.getD {}

/-- There is a run to the service. -/
theorem steps_greeting : Steps {} greeting := by
  have h : Steps {} { ({} : World) with scopes := ScopeTree.fresh {} } :=
    .tail .refl (.scopes _ (by decide) fun s hs => by cases hs)
  have h := h.tail (.openPool 1)
  have h := h.tail (.openService { name := "greeter", version := "1" } rfl)
  exact h.tail (.openEndpoint 0 { scope := 0 } { name := "Greet", subject := "greet" }
    { pool? := some 0, script := helloServer.script } rfl rfl)

/-- Somebody wants Ada to be greeted. -/
def asked : World :=
  greeting.startCall "call" none none [] "greet" ({ name := "Ada" } : Greeter.HelloRequest) .greeted

/-- The executor has replied. -/
def answered : World :=
  (helloServer.steadyTurns { scope := 2 } asked [2, 1, 1, 1, 1, 0, 0, 0]).get (by decide +kernel)

/-- The caller has the reply. -/
def greeted : World := (answered.turn 2).get (by decide +kernel)

/-- The messages of the call are read as they were written. -/
theorem decode_hello :
    decode (Wire.WireMessage.encode ({ name := "Ada" } : Greeter.HelloRequest)) =
      .ok ({ name := "Ada" } : Greeter.HelloRequest) ∧
    decode (Wire.WireMessage.encode ({ message := "Hello, Ada!" } : Greeter.HelloReply)) =
      .ok ({ message := "Hello, Ada!" } : Greeter.HelloReply) := by
  decide +kernel

/-- Nothing hinders the server until the executor has replied. -/
theorem steady_answered : helloServer.Steady { scope := 2 } asked answered := by
  have h : helloServer.Steady { scope := 2 } asked asked :=
    .refl ⟨by decide, _, rfl, rfl, rfl, rfl⟩ rfl
  exact h.turns (Option.some_get (by decide +kernel)).symm

/-- In the end no task can go on, and the executor has no job. -/
theorem atRest_greeted : greeted.AtRest ∧ greeted.Spares helloServer.pool := by
  have hall : greeted.tasks.length = 3 ∧
      ∀ j < 3, (greeted.turn j).isNone ∧ (greeted.hand? j).isNone := by
    decide +kernel
  have hpool : ∃ p ∈ greeted.pools[helloServer.pool]?, 0 < p.capacity := by decide +kernel
  obtain ⟨p, hp, hpos⟩ := hpool
  refine ⟨fun id => ?_, p, 0, hp, hpos, fun j run hj => ?_⟩
  · cases hturn : greeted.turn id with
    | none => rfl
    | some w' =>
      obtain ⟨program, hid⟩ := exists_program_of_turn hturn
      have hnone := (hall.2 id (hall.1 ▸ lt_of_program? hid)).1
      rw [hturn] at hnone
      cases hnone
  · have hnone := (hall.2 j (hall.1 ▸ lt_of_program? hj)).2
    rw [hand?_eq hj] at hnone
    cases hnone

/-- Ada is greeted. -/
theorem call_agrees_greeting :
    answered.turn 2 = some greeted ∧ greeted.AtRest ∧ greeted.Spares helloServer.pool ∧
    greeted.program? 2 = none ∧ greeted.events = answered.events ++
      [.finished "call" (.greeted (.ok { message := "Hello, Ada!" }))] := by
  have hserve : (hello { name := "Ada" }).ComesTo False (some (.ok { message := "Hello, Ada!" })) := by
    rw [hello, show "Hello, " ++ "Ada" ++ "!" = "Hello, Ada!" by decide]
    rfl
  have hout : ∀ output : Greeter.HelloReply,
      (some (.ok { message := "Hello, Ada!" }) : Option (Except String _)) = some (.ok output) →
        decode (Wire.WireMessage.encode output) = .ok output := by
    intro output h
    cases h
    exact decode_hello.2
  have hturn : answered.turn 2 = some greeted := (Option.some_get _).symm
  have hsteady : helloServer.Steady { scope := 2 } asked greeted :=
    steady_answered.tail (.turn 2 hturn) (by decide +kernel) (by decide +kernel)
  obtain ⟨hrest, hspare⟩ := atRest_greeted
  have hend : greeted.program? 2 = none :=
    ((call_agrees steps_greeting rfl hserve decode_hello.1 hout "call" none none [] .greeted
      hsteady).2 hrest hspare).resolve_right And.left
  have hevents := (call_agrees steps_greeting rfl hserve decode_hello.1 hout "call" none none []
    .greeted steady_answered).1 greeted hturn hend
  exact ⟨hturn, hrest, hspare, hend, hevents⟩

end World

end ServiceBus.Bus
