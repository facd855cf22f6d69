import ServiceBus.Proofs.Bus.Served
import ServiceBus.Proofs.World.Way

/-! # A running server and the request of a call

A server is a loop that delivers the requests on a subject to a pool, on which a script is run on each.
While it runs, the request of a call on the subject goes from its inbox through the loop to the pool,
and whatever comes of it is what the script answers.

* `Server.Runs`: what it takes for a server to run.
* `World.Entrusted`: where the request of a call is, and with what it is handled.
* `World.Entrusted.step`: a step leaves it with the server. -/

namespace ServiceBus.Bus

/-! ### Scripts that answer -/

section Answers

variable {w v : World} {id c : Nat} {run next : Run} {waits : Prop} {answer : Answer}

/-- A script that has not replied answers as before. -/
theorem Script.Answers.going (h : run.script.Answers waits answer)
    (hturn : w.turnRun id run = some (v, .going next)) (hc : next.request.IsOf c) :
    next.request = run.request ∧ next.script.Answers waits answer := by
  cases World.runStep_of_turnRun hturn with
  | note n after script | report r after script | keep _ _ _ after script =>
    rw [script] at h
    exact ⟨rfl, h⟩
  | reply headers payload after script replied =>
    -- whoever has replied has the request of no call any more
    obtain ⟨hnone, -⟩ := w.reply_bus run.request headers payload
    rw [replied] at hnone
    cases hnone.symm.trans hc
  | @pass payload after _ passed script =>
    cases passed with
    | true =>
      rw [script] at h
      exact ⟨rfl, h.2⟩
    | false => exact ⟨rfl, h⟩
  | pauses => exact ⟨rfl, h⟩
  | wakes ms after script =>
    rw [script] at h
    exact ⟨rfl, h.2⟩
  | awaitEnd after e script =>
    rw [script] at h
    exact ⟨rfl, h.2 e⟩
  | inspect after script =>
    rw [script] at h
    exact ⟨rfl, h _⟩

/-- Only a script that may wait does not go on. -/
theorem Script.Answers.of_stuck (h : run.script.Answers waits answer)
    (hturn : w.turnRun id run = none) : waits := by
  rw [World.turnRun] at hturn
  split at hturn
  case h_6 hscript =>
    rw [hscript] at h
    exact h.1
  case h_7 hscript =>
    rw [hscript] at h
    exact h.1
  case h_8 hscript =>
    rw [hscript] at h
    exact h.1
  all_goals cases hturn

end Answers

/-! ### Servers -/

/-- A loop that delivers the requests on a subject to a pool, on which a script is run on each. -/
structure Server where
  loop : TaskId
  inbox : InboxId
  /-- The scope whose cancellation stops the loop. -/
  stop : ScopeId
  pool : PoolId
  subject : String
  script : Request → Script

namespace Server

/-- Whether nothing keeps a server from its work: the bus is open and sends the requests on the subject
to its inbox only, it was not told to stop, and its pool is open. -/
structure Unhindered (server : Server) (w : World) : Prop where
  bus : w.bus.Serves server.inbox server.subject
  stop : w.scopes.isCancelled server.stop = false
  pool : ∃ p, w.pools[server.pool]? = some p ∧ p.isShut = false

/-- **Whether a server runs**: nothing keeps it from its work, and its loop is there. -/
structure Runs (server : Server) (w : World) : Prop extends server.Unhindered w where
  loop : ∃ d, w.program? server.loop = some (.deliver d) ∧ d.inbox = server.inbox ∧
    d.stop = server.stop ∧ d.handler = { pool? := some server.pool, script := server.script }

/-- Whether the server makes a job of a request for a pool. -/
structure Makes (server : Server) (request : Request) (P : PoolId) (job : Job) : Prop where
  pool_eq : P = server.pool
  request_eq : job.request = request
  script_eq : job.script = server.script request

variable {server : Server} {w w' : World} {id P : Nat}

instance : Decidable (server.Unhindered w) :=
  decidable_of_iff (w.bus.Serves server.inbox server.subject ∧
      w.scopes.isCancelled server.stop = false ∧
      ∃ p ∈ w.pools[server.pool]?, p.isShut = false)
    ⟨fun ⟨bus, stop, pool⟩ => ⟨bus, stop, pool⟩, fun h => ⟨h.bus, h.stop, h.pool⟩⟩

/-- The pool of a server that nothing hinders is not closed. -/
theorem Unhindered.not_shut (h : server.Unhindered w) : ¬ w.PoolShut server.pool := by
  rintro ⟨p, hp, hshut⟩
  obtain ⟨q, hq, hopen⟩ := h.pool
  rw [hp] at hq
  rw [Option.some.inj hq, hopen] at hshut
  cases hshut

/-- The loop of a running server is the one reader of its inbox. -/
theorem Runs.reader (h : server.Runs w) (hread : w.ReadOnce) {x : Reader}
    (hx : w.Reads x server.inbox) : x = .task server.loop := by
  obtain ⟨d, hd, hinbox, -⟩ := h.loop
  exact hread.unique x _ server.inbox hx (hinbox ▸ World.reads_deliver hd)

/-- Who delivers what comes into the inbox of a running server is its loop. -/
theorem Runs.deliver (h : server.Runs w) (hread : w.ReadOnce) {d : Delivery}
    (hd : w.program? id = some (.deliver d)) (hinbox : d.inbox = server.inbox) :
    id = server.loop ∧ d.handler = { pool? := some server.pool, script := server.script } := by
  have hreads : w.Reads (.task id) server.inbox := hinbox ▸ World.reads_deliver hd
  obtain rfl : id = server.loop := by
    have heq := h.reader hread hreads
    cases heq
    rfl
  obtain ⟨d', hd', -, -, hhandler⟩ := h.loop
  rw [hd] at hd'
  cases hd'
  exact ⟨rfl, hhandler⟩

/-- **A server goes on** as long as nothing keeps it from its work. -/
theorem Runs.step (h : server.Runs w) (hb : w.Bound) (hs : w.Step w')
    (hafter : server.Unhindered w') : server.Runs w' := by
  obtain ⟨d, hd, hinbox, hstop, hhandler⟩ := h.loop
  rcases hs.turn_or_program server.loop with hturn | hsame
  · rw [World.turn, hd, Option.bind_eq_bind, Option.bind_some] at hturn
    -- the loop goes on with the same inbox and the same handler
    have hgoes : ∀ {v : World} {d' : Delivery}, v.tasks.length = w.tasks.length →
        w' = v.setProgram server.loop (.deliver d') → d'.inbox = d.inbox → d'.stop = d.stop →
        d'.handler = d.handler → server.Runs w' := by
      rintro v d' hlength rfl hinbox' hstop' hhandler'
      refine ⟨hafter, d', ?_, hinbox'.trans hinbox, hstop'.trans hstop, hhandler'.trans hhandler⟩
      exact World.program?_setProgram_self (hlength ▸ World.lt_of_program? hd) _
    obtain ⟨handling, v, progress, hh, hv, hcase⟩ | ⟨-, -, hcancelled, -⟩ | ⟨-, -, hcase⟩ :=
      World.turnDeliver_cases hturn
    · have hlength := congrArg List.length (World.tasks_turnHandling hv)
      rcases hcase with ⟨next, -, hw⟩ | ⟨-, hw⟩ | ⟨hcrashed, -⟩
      · exact hgoes hlength hw rfl rfl rfl
      · exact hgoes hlength hw rfl rfl rfl
      · -- it runs nothing itself that could crash
        have hsuits := hb server.loop d handling hd hh
        rw [hhandler] at hsuits
        obtain ⟨run, _, rfl, -⟩ | ⟨P, sub, placement, rfl, -, hplacement⟩ :=
          World.turnHandling_cases hv
        · rcases hsuits with hnone | ⟨P, p, hP, hp, hshut⟩
          · cases hnone
          · cases hP
            exact absurd ⟨p, hp, hshut⟩ h.not_shut
        · rw [hcrashed] at hplacement
          cases placement <;> cases hplacement
    · rw [hstop, h.stop] at hcancelled
      cases hcancelled
    · rcases hcase with ⟨request, bus, -, hw⟩ | ⟨-, hended, -⟩
      · exact hgoes (v := w.withBus bus) rfl hw rfl rfl rfl
      · rw [hinbox, h.bus.hasEnded] at hended
        cases hended
  · exact ⟨hafter, d, hsame _ hd, hinbox, hstop, hhandler⟩

end Server

namespace World

variable {w w' v : World} {id j c i P : Nat} {r request : Request} {waits : Prop} {answer : Answer}
  {server : Server}

/-! ### Calls in steps -/

/-- What calls send stays as it is. -/
theorem Step.letters (hs : w.Step w') (hp : ∀ (P : Nat) p, w.pools[P]? = some p → p.Sound)
    (hc : c < w.bus.calls.length) : w'.bus.letters[c]? = w.bus.letters[c]? := by
  obtain ⟨id, hturn⟩ | ⟨call, context?, client?, conclude, name?, -, rfl⟩ | hout :=
    hs.cases_outside
  · rw [(tells_of_turn hp hturn).letters]
  · show (w.bus.ask call).letters[c]? = _
    rw [MemoryBus.letters, MemoryBus.ask, List.map_append]
    exact List.getElem?_append_left (by rwa [List.length_map])
  · rw [hout.tells.letters]

/-- Who sees a call through saw it through before. -/
theorem Step.exchanges_back (hs : w.Step w') (hc : c < w.bus.calls.length)
    (hj : w'.Exchanges j c) : w.Exchanges j c := by
  obtain ⟨id, hturn⟩ | ⟨call, context?, client?, conclude, name?, -, rfl⟩ | hout :=
    hs.cases_outside
  · obtain ⟨context?, conclude, hrole⟩ := hj
    exact ⟨context?, conclude, role_of_turn hturn hrole⟩
  · obtain ⟨context?, conclude, hrole⟩ := hj
    rw [role?_spawn] at hrole
    split at hrole
    · cases hrole
      exact absurd hc (Nat.lt_irrefl _)
    · exact ⟨context?, conclude, hrole⟩
  · exact hout.exchanges j c hj

/-- What a task is for does not change in a step as long as it goes on. -/
theorem Step.role_eq (hs : w.Step w') {role : Role} (h : w.role? id = some role)
    {program : Program} (hp : w'.program? id = some program) : program.role = role := by
  rcases hs.turn_or_program id with hturn | hsame
  · have hback := role_of_turn hturn (role?_eq hp)
    rw [h] at hback
    exact (Option.some.inj hback).symm
  · obtain ⟨before, hbefore, rfl⟩ := Option.map_eq_some_iff.mp h
    have hafter := hsame before hbefore
    rw [hp] at hafter
    rw [Option.some.inj hafter]

/-- A call whose context is live goes on or comes to its result in its turn. -/
theorem exchange_of_live {context? : Option Context} {begun : Bool} {client? : Option ClientId}
    {conclude : Except TransportError Message → Logged Outcome}
    (hp : w.program? id = some (.exchange c context? begun client? conclude))
    (hlive : context?.bind w.contextError? = none) (hturn : w.turn id = some w') :
    (∃ result, (w.bus.poll c).2 = some result ∧
      w' = ((w.withBus (w.bus.poll c).1).absorb (conclude result)).finish id
        (conclude result).value) ∨
    w' = (w.withBus (w.bus.poll c).1).setProgram id
      (.exchange c context? true client? conclude) := by
  rw [turn, hp, Option.bind_eq_bind, Option.bind_some] at hturn
  obtain ⟨v, result, rfl, hcase⟩ | ⟨-, -, hw⟩ := turnExchange_cases hturn
  · have hbound : boundError? begun context? w = none := boundError?_eq_none.mpr hlive
    rcases hcase with ⟨e, he, -⟩ | ⟨rfl, hresult⟩ | ⟨e, he, -⟩
    · cases hbound.symm.trans he
    · exact Or.inl ⟨result, hresult, rfl⟩
    · cases hbound.symm.trans he
  · exact Or.inr hw

/-! ### The request of a call -/

/-- **Where the request of a call is that a server is to answer.** -/
structure Entrusted (server : Server) (c : CallId) (request : Request) (waits : Prop)
    (answer : Answer) (w : World) : Prop where
  bus : w.bus.Leads c server.inbox request answer
  named : ∀ (name : String) (r : Request), w.desk.requests[name]? = some r → ¬ r.IsOf c
  offered : ∀ (id P : Nat) (job : Job), w.hand? id = some (.submitting P (.offered job)) →
    job.request.IsOf c → server.Makes request P job
  pooled : ∀ (P : Nat) (p : WorkerPool Job) (job : Job), w.pools[P]? = some p → job ∈ p.jobs →
    job.request.IsOf c → server.Makes request P job
  running : ∀ (id : Nat) (run : Run), w.hand? id = some (.running run) → run.request.IsOf c →
    (∃ i, w.role? id = some (.execute server.pool i)) ∧ run.request = request ∧
      run.script.Answers waits answer

/-- Whether the context of everybody who sees a call through is live. -/
def CallLive (w : World) (c : CallId) : Prop :=
  ∀ (id : Nat) context? conclude, w.role? id = some (.exchange c context? conclude) →
    context?.bind w.contextError? = none

section Entrusted

variable (h : w.Entrusted server c request waits answer) (hruns : server.Runs w)
  (hread : w.ReadOnce)

include h

/-- The reply to the call is the one that the server is to give. -/
theorem Entrusted.replies {reply : Message} (hreplies : w.Replies c reply) :
    answer.delivered request.subject = .ok reply := by
  cases hreplies with
  | script id run hand of headers payload next script eq =>
    obtain ⟨-, hrequest, hanswers⟩ := h.running id run hand of
    rw [script] at hanswers
    rw [show answer = some (headers, payload) from hanswers, eq, hrequest]
    rfl
  | named name r hr of => exact absurd of (h.named name r hr)

include hruns hread

/-- The request is given up only by a script that answers nothing. -/
theorem Entrusted.loses (hruns' : server.Runs w') (hloses : w.Loses w' c) : answer = none := by
  cases hloses with
  | script id run hand of ends =>
    obtain ⟨-, -, hanswers⟩ := h.running id run hand of
    rcases ends with hscript | hscript
    · rw [hscript] at hanswers
      exact hanswers
    · rw [hscript] at hanswers
      exact hanswers
  | delivery id d r program ends stored of =>
    -- the loop of the server goes on
    obtain ⟨hinbox, -⟩ := h.bus.stored d.inbox r stored of
    obtain ⟨rfl, -⟩ := hruns.deliver hread program hinbox
    obtain ⟨d', hd', -⟩ := hruns'.loop
    rw [ends] at hd'
    cases hd'
  | subscription name k r subscription stored of =>
    obtain ⟨hinbox, -⟩ := h.bus.stored k r stored of
    have hreads : w.Reads (.name name) server.inbox := hinbox ▸ subscription
    cases hruns.reader hread hreads
  | named name r hr of => exact absurd of (h.named name r hr)
  | shut P p job hp closed had of =>
    have hmakes : server.Makes request P job := by
      rcases had with hmem | ⟨id, hand⟩
      · exact h.pooled P p job hp hmem of
      · exact h.offered id P job hand of
    exact absurd ⟨p, hmakes.pool_eq ▸ hp, closed⟩ hruns.not_shut

/-- **What a running server does with a request** that it runs, after one step more. -/
theorem Entrusted.resumes (hscript : (server.script request).Answers waits answer) {run : Run}
    (hresumes : w.Resumes id run) (hc : run.request.IsOf c) :
    (∃ i, w.role? id = some (.execute server.pool i)) ∧ run.request = request ∧
      run.script.Answers waits answer := by
  cases hresumes with
  | taken d hd pool stored =>
    obtain ⟨hinbox, -⟩ := h.bus.stored d.inbox _ stored hc
    obtain ⟨-, hhandler⟩ := hruns.deliver hread hd hinbox
    rw [hhandler] at pool
    cases pool
  | refused P p job hp shut request' had =>
    rw [request'] at hc
    have hmakes : server.Makes request P job := by
      rcases had with hmem | hand
      · exact h.pooled P p job hp hmem hc
      · exact h.offered id P job hand hc
    exact absurd ⟨p, hmakes.pool_eq ▸ hp, shut⟩ hruns.not_shut
  | picked P i p job hp role mem run_eq =>
    subst run_eq
    obtain ⟨rfl, hrequest, hjob⟩ := h.pooled P p job hp mem hc
    refine ⟨⟨i, role⟩, hrequest, ?_⟩
    show job.script.Answers waits answer
    rw [hjob]
    exact hscript
  | went before v hand turn =>
    have hof : before.request.IsOf c := by
      rcases turnRun_bus turn with ⟨-, -, hnone⟩ | ⟨_, _, _, next, -, hnext, hnone, -⟩ |
        ⟨-, -, next, hnext, hrequest⟩
      · exact absurd rfl (hnone run)
      · cases hnext
        rw [Request.IsOf, hnone] at hc
        cases hc
      · cases hnext
        rwa [hrequest] at hc
    obtain ⟨hrole, hrequest, hanswers⟩ := h.running id before hand hof
    obtain ⟨hsame, hnext⟩ := hanswers.going turn hc
    exact ⟨hrole, hsame.trans hrequest, hnext⟩

/-- The call and its stored request after a step. -/
theorem Entrusted.leads (hs : w.Step w') (ha : w.Attended) (hruns' : server.Runs w')
    (hsubject : request.subject = server.subject) (hlive : w.CallLive c) :
    w'.bus.Leads c server.inbox request answer := by
  have hserves : w.bus.Serves server.inbox request.subject := hsubject ▸ hruns.bus
  by_cases hex : ∃ id, w.Exchanges id c ∧ w.turn id = some w'
  · -- the call has its turn
    obtain ⟨id, hex, hturn⟩ := hex
    obtain ⟨context?, begun, client?, conclude, hp⟩ := hex.program
    have hpoll := (h.bus.poll hserves).1
    rcases exchange_of_live hp (hlive id context? conclude (role?_eq hp)) hturn with
      ⟨result, -, rfl⟩ | rfl
    · rw [(alone_finish _ id (conclude result).value).bus]
      exact hpoll
    · exact hpoll
  · have hcustody := hs.custody ha.pools
    obtain ⟨call, hcall, hrequest⟩ := h.bus.letter
    have hlt : c < w.bus.calls.length := (List.getElem?_eq_some_iff.mp hcall).1
    refine ⟨MemoryBus.exists_request (hs.letters ha.pools hlt) ⟨call, hcall, hrequest⟩,
      fun s hstage => ?_, fun k r hr hc => ?_⟩
    · rcases hcustody.stages c with ⟨hnone, -⟩ | hsame | hturn | ⟨k, -, reply, hreply, hreplies⟩ |
        ⟨k, -, hlost, hloses⟩
      · rw [MemoryBus.stage?, hcall] at hnone
        cases hnone
      · exact h.bus.stage s (hsame ▸ hstage)
      · exact absurd hturn hex
      · rw [hstage] at hreply
        rw [Option.some.inj hreply]
        exact h.replies hreplies
      · rw [hstage] at hlost
        rw [Option.some.inj hlost]
        exact h.loses hruns hread hruns' hloses
    · rw [MemoryBus.stores_iff] at hr
      cases hs.stocks with
      | thins touched hthins =>
        exact h.bus.stored k r (MemoryBus.stores_iff.mpr ((hthins.sublist k).subset hr)) hc
      | enters id d k' exchanges turn henters =>
        -- a call that stores its request is another one
        by_cases hk : k = k'
        · obtain ⟨other, -, -, hbuffer⟩ := henters.call
          rw [hk, hbuffer, List.mem_append, List.mem_singleton] at hr
          rcases hr with hr | rfl
          · exact h.bus.stored k r (MemoryBus.stores_iff.mpr (hk ▸ hr)) hc
          · have hd := hc.eq (other.isOf_request d)
            exact absurd ⟨id, hd ▸ exchanges, turn⟩ hex
        · exact h.bus.stored k r (MemoryBus.stores_iff.mpr (henters.others k hk ▸ hr)) hc

/-- **A step leaves the request of a call with a running server.** -/
theorem Entrusted.step (hs : w.Step w') (ha : w.Attended) (hruns' : server.Runs w')
    (hsubject : request.subject = server.subject) (hlive : w.CallLive c)
    (hscript : (server.script request).Answers waits answer) :
    w'.Entrusted server c request waits answer := by
  have hcustody := hs.custody ha.pools
  refine ⟨h.leads hruns hread hs ha hruns' hsubject hlive, fun name r hr hc => ?_,
    fun id P job hand hc => ?_, fun P p' job hp' hmem hc => ?_, fun id run hand hc => ?_⟩
  · rcases hcustody.named c name r hc hr with hr | ⟨id, subscription, k, hp, hstored⟩
    · exact h.named name r hr hc
    · obtain ⟨hinbox, -⟩ := h.bus.stored k r hstored hc
      have hreads : w.Reads (.task id) server.inbox := hinbox ▸ reads_receive hp
      have heq := hruns.reader hread hreads
      cases heq
      obtain ⟨d, hd, -⟩ := hruns.loop
      rw [hp] at hd
      cases hd
  · rcases hcustody.offered c id P job hc hand with hand | ⟨d, hd, hpool, hstored, hjob⟩
    · exact h.offered id P job hand hc
    · obtain ⟨hinbox, hrequest⟩ := h.bus.stored d.inbox _ hstored hc
      obtain ⟨-, hhandler⟩ := hruns.deliver hread hd hinbox
      rw [hhandler] at hpool hjob
      exact ⟨(Option.some.inj hpool).symm, hrequest, hrequest ▸ hjob⟩
  · rcases hcustody.pooled c P p' job hc hp' hmem with ⟨p, hp, hmem⟩ | ⟨id, hand⟩
    · exact h.pooled P p job hp hmem hc
    · exact h.offered id P job hand hc
  · obtain ⟨⟨i, hrole⟩, hrest⟩ : (∃ i, w.role? id = some (.execute server.pool i)) ∧
        run.request = request ∧ run.script.Answers waits answer := by
      rcases hcustody.running c id run hc hand with hbefore | hresumes
      · exact h.running id run hbefore hc
      · exact h.resumes hruns hread hscript hresumes hc
    obtain ⟨program, hp, -⟩ := Option.bind_eq_some_iff.mp hand
    refine ⟨⟨i, ?_⟩, hrest⟩
    rw [role?_eq hp, hs.role_eq hrole hp]

end Entrusted

/-- **A call that nobody knows of** is entrusted to the server when it begins. -/
theorem Entrusted.ask (hcalls : w.Accounted) {call : Call} (hasking : call.stage = .asking)
    (hbus : w'.bus = w.bus.ask call) (hpools : w'.pools = w.pools)
    (hrequests : w'.desk.requests = w.desk.requests) (hhands : ∀ j : Nat, w'.hand? j = w.hand? j) :
    w'.Entrusted server w.bus.calls.length (call.request w.bus.calls.length) waits answer := by
  have hnew : ¬ w.Held w.bus.calls.length := fun hheld =>
    Nat.lt_irrefl _ (hcalls.held_lt _ hheld)
  refine ⟨⟨⟨call, ?_, rfl⟩, fun s hs => ?_, fun k r hr hc => ?_⟩, fun name r hr hc => ?_,
    fun id P job hand hc => ?_, fun P p job hp hmem hc => ?_, fun id run hand hc => ?_⟩
  · rw [hbus, MemoryBus.ask]
    exact List.getElem?_concat_length
  · rw [hbus, stage?_ask, if_pos rfl, hasking] at hs
    cases hs
    trivial
  · rw [hbus] at hr
    exact absurd (.stored k r hr hc) hnew
  · rw [hrequests] at hr
    exact hnew (.named name r hr hc)
  · rw [hhands] at hand
    exact absurd (.offered id P job hand hc) hnew
  · rw [hpools] at hp
    exact absurd (.pooled P p job hp hmem hc) hnew
  · rw [hhands] at hand
    exact absurd (.running id run hand hc) hnew

end World

end ServiceBus.Bus
