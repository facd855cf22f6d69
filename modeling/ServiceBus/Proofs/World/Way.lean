import ServiceBus.Proofs.World.Course

/-! # The way of a request through a loop

A loop whose handler is bound to a pool takes the requests of its inbox one by one and submits them.
As long as the pool is open no request is lost on the way from the inbox to an executor.

* `World.LoopTurn`: all that the turn of such a loop can do.
* `World.OnWay`: where on its way a request is; `OnWay.step`: it stays on its way until its job begins.
* `Course.onWay`: so it is in a run in which one stop comes after another. -/

namespace ServiceBus.Bus

/-- The job that a delivery makes of a request. -/
def Delivery.job (d : Delivery) (r : Request) : Job :=
  { context := d.context, request := r, script := d.handler.script r }

namespace World

variable {w w' v : World} {id s t P : Nat} {d : Delivery} {r : Request}
  {jobs before : List (PoolId × Job)}

/-! ### Loops -/

/-- Whether a task is a loop that delivers as `d` does, however far it is. -/
def Loops (w : World) (t : TaskId) (d : Delivery) : Prop := w.role? t = some (Program.deliver d).role

/-- What the program of a loop looks like. -/
theorem Loops.program (h : w.Loops t d) : ∃ d', w.program? t = some (.deliver d') ∧
    d'.inbox = d.inbox ∧ d'.context = d.context ∧ d'.stop = d.stop ∧ d'.handler = d.handler := by
  obtain ⟨program, hp, hrole⟩ := Option.map_eq_some_iff.mp h
  obtain ⟨d', rfl, -⟩ := Program.deliver_of_role hrole
  obtain ⟨hinbox, hcontext, hstop, hhandler⟩ := Role.deliver.inj hrole
  exact ⟨d', hp, hinbox, hcontext, hstop, hhandler⟩

/-- A task that delivers is a loop. -/
theorem loops_of_program (h : w.program? t = some (.deliver d)) : w.Loops t d := role?_eq h

/-- A loop that is somewhere else in its work is the same loop. -/
theorem Loops.of_alike {d' : Delivery} (h : w.program? t = some (.deliver d'))
    (hinbox : d'.inbox = d.inbox) (hcontext : d'.context = d.context) (hstop : d'.stop = d.stop)
    (hhandler : d'.handler = d.handler) : w.Loops t d := by
  rw [Loops, role?_eq h, Program.role, Program.role, hinbox, hcontext, hstop, hhandler]

/-- A loop reads its inbox. -/
theorem Loops.reads (h : w.Loops t d) : w.Reads (.task t) d.inbox := by
  rw [Reads, h]
  rfl

/-- There are no fewer tasks after a step, and who has ended has ended. -/
theorem Step.ended (hs : w.Step w') (ht : t < w.tasks.length) :
    t < w'.tasks.length ∧ (w.program? t = none → w'.program? t = none) := by
  rcases hs.kinds with hb | hr | ⟨id, program, hid, hstops, hw⟩
  · refine ⟨ht.trans_le hb.length, fun hnone => ?_⟩
    rw [Option.eq_none_iff_forall_ne_some]
    intro q hq
    obtain ⟨q', hq', -⟩ := hb.tasks t ht q hq
    rw [hnone] at hq'
    cases hq'
  · exact ⟨ht.trans_le hr.length, fun hnone => (hr.tasks t ht).trans hnone⟩
  · have hm := (closes_turn hid hstops hw).proceeds
    refine ⟨hm.length.symm ▸ ht, fun hnone => ?_⟩
    have hne : t ≠ id := by
      rintro rfl
      rw [hid] at hnone
      cases hnone
    rw [hm.others t hne, hnone]

/-- A loop stays the same loop or ends. -/
theorem Loops.step (h : w.Loops t d) (hs : w.Step w') : w'.Loops t d ∨ w'.program? t = none := by
  obtain ⟨d', hp, hinbox, hcontext, hstop, hhandler⟩ := h.program
  rcases hs.turn_or_program t with hturn | hsame
  · cases hnext : w'.program? t with
    | none => exact Or.inr rfl
    | some next =>
      refine Or.inl ?_
      have hrole := role_of_turn hturn (role?_eq hnext)
      rw [Loops, role?_eq hnext]
      exact hrole.symm.trans h
  · exact Or.inl (.of_alike (hsame _ hp) hinbox hcontext hstop hhandler)

/-- A loop stays the same loop or ends in a run. -/
theorem Loops.steps (h : v.Loops t d) (hs : Steps v w) : w.Loops t d ∨ w.program? t = none := by
  have hlt : t < v.tasks.length := by
    obtain ⟨d', hp, -⟩ := h.program
    exact lt_of_program? hp
  suffices t < w.tasks.length ∧ (w.Loops t d ∨ w.program? t = none) from this.2
  induction hs with
  | refl => exact ⟨hlt, Or.inl h⟩
  | tail _ hs ih =>
    obtain ⟨hlt, hcase⟩ := ih
    obtain ⟨hlt', hended⟩ := hs.ended hlt
    exact ⟨hlt', hcase.elim (fun h => h.step hs) fun h => Or.inr (hended h)⟩

/-! ### The turn of a loop -/

/-- **All that the turn of a loop can do** whose handler is bound to an open pool. -/
inductive LoopTurn (w : World) (t : TaskId) (d : Delivery) (P : PoolId) (w' : World) : Prop
  /-- It closes its inbox. -/
  | drain (hand : d.handling? = none) (bus : w'.bus = w.bus.closeInbox d.inbox)
      (program' : w'.program? t = some (.deliver { d with draining := true }))
      (pools : w'.pools = w.pools)
  /-- It takes a request. -/
  | take (request : Request) (hand : d.handling? = none)
      (taken : w.bus.take? d.inbox = some (request, w'.bus))
      (program' : w'.program? t = some (.deliver
        { d with handling? := some (.submitting P (.offered (d.job request))) }))
      (pools : w'.pools = w.pools)
  /-- It ends. -/
  | leave (hand : d.handling? = none) (empty : w.bus.buffer d.inbox = [])
      (end' : w'.program? t = none)
  /-- It offers its job. -/
  | offer (job : Job) (p : WorkerPool Job) (hand : d.handling? = some (.submitting P (.offered job)))
      (puts : Puts P p (p.submit job).1 w w') (mem : (p.issued, job) ∈ (p.submit job).1.waiting)
      (program' : w'.program? t = some (.deliver
        { d with handling? := some (.submitting P (.placed p.issued)) }))
      (bus : w'.bus = w.bus)
  /-- Its submission gets a permit. -/
  | permit (ticket : Ticket) (p p' : WorkerPool Job)
      (hand : d.handling? = some (.submitting P (.placed ticket)))
      (advance : p.advance? ticket = some (p', .onward)) (puts : Puts P p p' w w')
      (program' : w'.program? t = some (.deliver
        { d with handling? := some (.submitting P (.placed ticket)) }))
      (bus : w'.bus = w.bus)
  /-- Its job is queued. -/
  | enqueue (ticket : Ticket) (p p' : WorkerPool Job)
      (hand : d.handling? = some (.submitting P (.placed ticket)))
      (advance : p.advance? ticket = some (p', .queued)) (puts : Puts P p p' w w')
      (program' : w'.program? t = some (.deliver { d with handling? := none }))
      (bus : w'.bus = w.bus)

/-- An open pool hands nothing back. -/
theorem not_handedBack {sub : Submission} {job : Job}
    (hs : ∀ (P : Nat) p, w.pools[P]? = some p → p.Sound) (hopen : ¬ w.PoolShut P) :
    w.turnSubmission P sub ≠ some (v, .handedBack job) := by
  intro h
  obtain ⟨p, hp, hshut, -⟩ := turnSubmission_handedBack hs h
  exact hopen ⟨p, hp, hshut⟩

/-- A loop that submits to an open pool, in its turn. -/
theorem loopTurn_submit {sub : Submission} {placement : Placement}
    (hs : ∀ (P : Nat) p, w.pools[P]? = some p → p.Sound) (hp : w.program? t = some (.deliver d))
    (hand : d.handling? = some (.submitting P sub)) (hopen : ¬ w.PoolShut P)
    (hv : w.turnSubmission P sub = some (v, placement)) (hw' : w' = v.setProgram t
      (.deliver { d with handling? := (placement.handling P).next? })) :
    w.LoopTurn t d P w' := by
  have hlt := lt_of_program? hp
  obtain ⟨p, hpool, ⟨job, rfl, rfl, rfl⟩ | ⟨ticket, p', verdict, rfl, ha, rfl, rfl⟩⟩ :=
    turnSubmission_cases hv
  · rcases p.submit_cases job with ⟨hn, -⟩ | ⟨-, hsubmit⟩
    · exact absurd ⟨p, hpool, by rw [WorkerPool.isShut, hn]; rfl⟩ hopen
    · have hmem : (p.issued, job) ∈ (p.submit job).1.waiting := by
        rw [hsubmit]
        exact List.mem_append_left _ (List.mem_append_right _ (List.mem_singleton_self _))
      rw [hsubmit] at hw'
      refine .offer job p hand ⟨hpool, ?_⟩ hmem ?_ ?_
      · rw [hw', hsubmit]
        rfl
      · rw [hw']
        exact program?_setProgram_self hlt _
      · rw [hw']
        rfl
  · subst hw'
    cases verdict with
    | onward => exact .permit ticket p p' hand ha ⟨hpool, rfl⟩ (program?_setProgram_self hlt _) rfl
    | queued => exact .enqueue ticket p p' hand ha ⟨hpool, rfl⟩ (program?_setProgram_self hlt _) rfl
    | handedBack job => exact absurd hv (not_handedBack hs hopen)

/-- **The turn of a loop** whose handler is bound to an open pool. -/
theorem loopTurn_of_turn (hs : ∀ (P : Nat) p, w.pools[P]? = some p → p.Sound) (hb : w.Bound)
    (hp : w.program? t = some (.deliver d)) (hpool : d.handler.pool? = some P)
    (hopen : ¬ w.PoolShut P) (h : w.turn t = some w') : w.LoopTurn t d P w' := by
  have hlt := lt_of_program? hp
  rw [turn, hp, Option.bind_eq_bind, Option.bind_some] at h
  obtain ⟨handling, v, progress, hh, hv, hcase⟩ | ⟨hh, -, -, rfl⟩ | ⟨hh, -, hcase⟩ :=
    turnDeliver_cases h
  · have hsuits := hb t d handling hp hh
    obtain ⟨run, _, rfl, -⟩ | ⟨pool, sub, placement, rfl, hsub, rfl⟩ := turnHandling_cases hv
    · -- a loop that is bound to an open pool runs nothing itself
      rcases hsuits with hnone | ⟨pool, p, hpool', hp', hshut⟩
      · rw [hpool] at hnone
        cases hnone
      · rw [hpool] at hpool'
        cases hpool'
        exact absurd ⟨p, hp', hshut⟩ hopen
    · obtain rfl : P = pool := Option.some.inj (hpool.symm.trans hsuits)
      refine loopTurn_submit hs hp hh hopen hsub ?_
      rcases hcase with ⟨next, hnext, hw⟩ | ⟨hover, hw⟩ | ⟨hcrashed, -⟩
      · rw [hw, hnext]
        rfl
      · rw [hw, hover]
        rfl
      · cases placement <;> cases hcrashed
  · exact .drain hh rfl (program?_setProgram_self hlt _) rfl
  · rcases hcase with ⟨request, bus, htake, rfl⟩ | ⟨htake, -, v, ⟨log, rfl⟩, rfl⟩
    · refine .take request hh htake ?_ rfl
      rw [program?_setProgram_self (show t < (w.withBus bus).tasks.length from hlt), Handler.begin,
        hpool]
      rfl
    · exact .leave hh (MemoryBus.buffer_of_take_none htake) (program?_endTask_self _ _ _)

/-! ### The way of a request -/

/-- **Where on its way to an executor a request is** that was stored in the inbox of a loop. -/
inductive OnWay (w : World) (t : TaskId) (d : Delivery) (P : PoolId) (r : Request) : Prop
  | stored (loop : w.Loops t d) (h : r ∈ w.bus.buffer d.inbox)
  | offered (loop : w.Loops t d) (h : w.hand? t = some (.submitting P (.offered (d.job r))))
  | waiting (loop : w.Loops t d) (ticket : Ticket) (p : WorkerPool Job) (hp : w.pools[P]? = some p)
      (h : (ticket, d.job r) ∈ p.waiting) (hand : w.hand? t = some (.submitting P (.placed ticket)))
  | queued (ticket : Ticket) (p : WorkerPool Job) (hp : w.pools[P]? = some p)
      (h : (ticket, d.job r) ∈ p.queue)

/-- A request on its way is at one of the places. -/
theorem OnWay.at {c : Nat} (h : w.OnWay t d P r) (hc : r.IsOf c) : ∃ x, w.At c x := by
  cases h with
  | stored loop h => exact ⟨.stored d.inbox, r, h, hc⟩
  | offered loop h => exact ⟨.offered t, P, d.job r, h, hc⟩
  | waiting loop ticket p hp h => exact ⟨.waiting P ticket, p, d.job r, hp, h, hc⟩
  | queued ticket p hp h => exact ⟨.queued P ticket, p, d.job r, hp, h, hc⟩

/-- A request that is stored in the inbox of a loop stays there unless the loop has its turn. -/
theorem stored_of_step (hs : w.Step w') (hread : w.ReadOnce) (hloop : w.Loops t d)
    (hturn : w.turn t ≠ some w') (h : r ∈ w.bus.buffer d.inbox) : r ∈ w'.bus.buffer d.inbox := by
  cases hs.stocks with
  | thins touched hthin readers =>
    have huntouched : ¬ touched d.inbox := by
      intro htouched
      obtain ⟨x, hx, hacts⟩ := readers d.inbox htouched
      exact hturn (hacts t (hread.unique x (.task t) d.inbox hx hloop.reads))
    rw [hthin.buffer d.inbox huntouched]
    exact h
  | enters id c k exchanges turn henters =>
    by_cases hk : d.inbox = k
    · obtain ⟨call, -, -, hbuffer⟩ := henters.call
      rw [hk, hbuffer]
      exact List.mem_append_left _ (hk ▸ h)
    · rw [henters.others d.inbox hk]
      exact h

/-- A loop that goes on with the same inbox, context, scope and handler is the same loop. -/
theorem Loops.next {d' d'' : Delivery} (h : w.Loops t d) (hp : w.program? t = some (.deliver d'))
    (hp' : w'.program? t = some (.deliver d'')) (hinbox : d''.inbox = d'.inbox)
    (hcontext : d''.context = d'.context) (hstop : d''.stop = d'.stop)
    (hhandler : d''.handler = d'.handler) : w'.Loops t d := by
  obtain ⟨old, hold, h₁, h₂, h₃, h₄⟩ := h.program
  obtain rfl := Program.deliver.inj (Option.some.inj (hold.symm.trans hp))
  exact .of_alike hp' (hinbox.trans h₁) (hcontext.trans h₂) (hstop.trans h₃) (hhandler.trans h₄)

/-- A request that is stored in the inbox of a loop, in the turn of the loop. -/
theorem onWay_of_stored {d' : Delivery} (hloop : w.Loops t d)
    (hp : w.program? t = some (.deliver d')) (hinbox : d'.inbox = d.inbox)
    (hjob : ∀ request, d'.job request = d.job request) (hstep : w.LoopTurn t d' P w')
    (h : r ∈ w.bus.buffer d.inbox) : w'.OnWay t d P r := by
  cases hstep with
  | drain _ bus program' =>
    have hthin : MemoryBus.Thins (fun _ => False) w.bus (w.bus.closeInbox d'.inbox) :=
      w.bus.thins_closeInbox d'.inbox
    refine .stored (hloop.next hp program' rfl rfl rfl rfl) ?_
    rw [bus, hthin.buffer _ fun h => h]
    exact h
  | take request _ taken program' =>
    have hl := hloop.next hp program' rfl rfl rfl rfl
    rw [hinbox] at taken
    rw [(MemoryBus.buffer_take taken).1] at h
    rcases List.mem_cons.mp h with rfl | h
    · refine .offered hl ?_
      rw [hand?_eq program']
      show some _ = _
      rw [hjob]
    · exact .stored hl h
  | leave _ empty =>
    rw [← hinbox, empty] at h
    cases h
  | offer job p _ _ _ program' bus =>
    exact .stored (hloop.next hp program' rfl rfl rfl rfl) (bus ▸ h)
  | permit ticket p p' _ _ _ program' bus =>
    exact .stored (hloop.next hp program' rfl rfl rfl rfl) (bus ▸ h)
  | enqueue ticket p p' _ _ _ program' bus =>
    exact .stored (hloop.next hp program' rfl rfl rfl rfl) (bus ▸ h)

/-- A request whose job a loop offers to the pool, in the turn of the loop. -/
theorem onWay_of_offered {d' : Delivery} (hloop : w.Loops t d)
    (hp : w.program? t = some (.deliver d')) (hstep : w.LoopTurn t d' P w')
    (h : w.hand? t = some (.submitting P (.offered (d.job r)))) : w'.OnWay t d P r := by
  rw [hand?_eq hp] at h
  cases hstep with
  | offer job p hand puts mem program' =>
    cases hand.symm.trans h
    exact .waiting (hloop.next hp program' rfl rfl rfl rfl) p.issued _ puts.after mem
      (hand?_eq program')
  | drain hand | take _ hand | leave hand | permit _ _ _ hand | enqueue _ _ _ hand =>
    cases hand.symm.trans h

/-- A request whose job waits for the pool, in the turn of the loop. -/
theorem onWay_of_waiting {d' : Delivery} {ticket : Ticket} {p : WorkerPool Job}
    (hs : p.Sound) (hloop : w.Loops t d) (hp : w.program? t = some (.deliver d'))
    (hstep : w.LoopTurn t d' P w') (hpool : w.pools[P]? = some p)
    (hmem : (ticket, d.job r) ∈ p.waiting)
    (h : w.hand? t = some (.submitting P (.placed ticket))) : w'.OnWay t d P r := by
  rw [hand?_eq hp] at h
  cases hstep with
  | permit ticket' q q' hand advance puts program' =>
    cases hand.symm.trans h
    obtain rfl := Option.some.inj (hpool.symm.trans puts.before)
    obtain ⟨job, ⟨-, -, hperm, -⟩ | ⟨hv, -⟩ | ⟨hv, -⟩⟩ := hs.advance?_cases advance
    · exact .waiting (hloop.next hp program' rfl rfl rfl rfl) ticket q' puts.after
        (hperm.mem_iff.mpr hmem) (hand?_eq program')
    · cases hv
    · cases hv
  | enqueue ticket' q q' hand advance puts program' =>
    cases hand.symm.trans h
    obtain rfl := Option.some.inj (hpool.symm.trans puts.before)
    obtain ⟨job, ⟨hv, -⟩ | ⟨-, -, hperm, hqueue⟩ | ⟨hv, -⟩⟩ := hs.advance?_cases advance
    · cases hv
    · refine .queued ticket q' puts.after ?_
      rw [hqueue, hs.job_of_perm hperm hmem]
      exact List.mem_append_right _ (List.mem_singleton_self _)
    · cases hv
  | drain hand | take _ hand | leave hand | offer _ _ hand => cases hand.symm.trans h

/-- A request on its way goes on in the turn of the loop. -/
theorem OnWay.turn (h : w.OnWay t d P r) (hs : ∀ (P : Nat) p, w.pools[P]? = some p → p.Sound)
    (hm : w.Manned) (hpool : d.handler.pool? = some P) (hloop : w.Loops t d)
    (hopen : ¬ w.PoolShut P) (hturn : w.turn t = some w') :
    w'.OnWay t d P r ∨ w.begun w' = [(P, d.job r)] := by
  obtain ⟨d', hp, hinbox, hcontext, hstop, hhandler⟩ := hloop.program
  have hstep := loopTurn_of_turn hs hm.bound hp (hhandler ▸ hpool) hopen hturn
  have hjob : ∀ request, d'.job request = d.job request := fun request => by
    rw [Delivery.job, Delivery.job, hcontext, hhandler]
  cases h with
  | stored _ h => exact Or.inl (onWay_of_stored hloop hp hinbox hjob hstep h)
  | offered _ h => exact Or.inl (onWay_of_offered hloop hp hstep h)
  | waiting _ ticket p hp' hmem h =>
    exact Or.inl (onWay_of_waiting (hs P p hp') hloop hp hstep hp' hmem h)
  | queued ticket p hp' h =>
    obtain ⟨p', hp'', -, hqueue⟩ := Step.pool_forth (.turn t hturn) hs hp'
    exact (hqueue _ h).imp_left fun h => .queued ticket p' hp'' h

/-- **A request stays on its way** through a loop to an open pool until its job begins. -/
theorem OnWay.step (h : w.OnWay t d P r) (hs : w.Step w')
    (hp : ∀ (P : Nat) p, w.pools[P]? = some p → p.Sound) (hm : w.Manned) (hread : w.ReadOnce)
    (hpool : d.handler.pool? = some P) (hopen : w.Loops t d → ¬ w.PoolShut P) :
    w'.OnWay t d P r ∨ w.begun w' = [(P, d.job r)] := by
  by_cases hturn : w.turn t = some w' ∧ w.Loops t d
  · exact h.turn hp hm hpool hturn.2 (hopen hturn.2) hturn.1
  · -- the loop goes on with what it does
    have hloops : w.Loops t d → w.turn t ≠ some w' := fun hloop heq => hturn ⟨heq, hloop⟩
    have hprogram : w.Loops t d → ∀ program, w.program? t = some program →
        w'.program? t = some program := fun hloop =>
      (hs.turn_or_program t).resolve_left (hloops hloop)
    have hloop' : w.Loops t d → w'.Loops t d := fun hloop => by
      obtain ⟨d', hd', hinbox, hcontext, hstop, hhandler⟩ := hloop.program
      exact .of_alike (hprogram hloop _ hd') hinbox hcontext hstop hhandler
    have hhand : w.Loops t d → w'.hand? t = w.hand? t := fun hloop => by
      obtain ⟨d', hd', -⟩ := hloop.program
      rw [hand?_eq hd', hand?_eq (hprogram hloop _ hd')]
    cases h with
    | stored loop h =>
      exact Or.inl (.stored (hloop' loop) (stored_of_step hs hread loop (hloops loop) h))
    | offered loop h => exact Or.inl (.offered (hloop' loop) ((hhand loop).trans h))
    | waiting loop ticket p hp' hmem hand =>
      obtain ⟨p', hp'', hwaiting, -⟩ := hs.pool_forth hp hp'
      rcases hwaiting _ hmem with hmem' | ⟨id, hid, hplaces⟩
      · exact Or.inl (.waiting (hloop' loop) ticket p' hp'' hmem' ((hhand loop).trans hand))
      · rw [hm.placed.unique id t P ticket hplaces hand] at hid
        exact absurd hid (hloops loop)
    | queued ticket p hp' h =>
      obtain ⟨p', hp'', -, hqueue⟩ := hs.pool_forth hp hp'
      exact (hqueue _ h).imp_left fun h => .queued ticket p' hp'' h

/-! ### In a run -/

/-- The service of a loop keeps its scope. -/
theorem service_of_steps {service : Service} (hs : Steps v w)
    (h : v.services[s]? = some service) :
    ∃ service' : Service, w.services[s]? = some service' ∧ service'.stop = service.stop := by
  induction hs with
  | refl => exact ⟨service, h, rfl⟩
  | tail _ hs ih =>
    obtain ⟨old, hold, hstop⟩ := ih
    obtain ⟨service', hservice', hstop'⟩ := hs.hardens.services s old hold
    exact ⟨service', hservice', hstop'.trans hstop⟩

/-- As long as a loop of the service is there the pool of the service is open. -/
theorem Course.open_of_loops (hv : Course s P {} v before) (h : Course s P v w jobs)
    {service : Service} (hservice : v.services[s]? = some service) (hstop : d.stop = service.stop)
    (hloop : w.Loops t d) : ¬ w.PoolShut P := by
  obtain ⟨service', hservice', hstop'⟩ := service_of_steps h.steps hservice
  obtain ⟨d', hd', -, -, hd'stop, -⟩ := hloop.program
  exact (hv.trans h).open hservice' hd' (hd'stop.trans (hstop.trans hstop'.symm))

/-- **A request that is stored in the inbox of a loop of the service** stays on its way until its job
begins. -/
theorem Course.onWay (hv : Course s P {} v before) (h : Course s P v w jobs) {service : Service}
    (hservice : v.services[s]? = some service) (hstop : d.stop = service.stop)
    (hpool : d.handler.pool? = some P) (hloop : v.Loops t d) (hr : r ∈ v.bus.buffer d.inbox) :
    w.OnWay t d P r ∨ (P, d.job r) ∈ jobs := by
  induction h with
  | refl => exact Or.inl (.stored hloop hr)
  | @tail x w jobs h hs _ ih =>
    have hrun := (hv.trans h).steps
    rcases ih with hway | hmem
    · rcases hway.step hs.1 (Attended.of_steps hrun).pools (.of_steps hrun) (.of_steps hrun) hpool
        (hv.open_of_loops h hservice hstop) with hway | hbegun
      · exact Or.inl hway
      · refine Or.inr (List.mem_append_right _ ?_)
        rw [hbegun]
        exact List.mem_singleton_self _
    · exact Or.inr (List.mem_append_left _ hmem)

/-- **No request is turned away** by a loop of the service. -/
theorem Course.not_turnsAway (hv : Course s P {} v before) (h : Course s P v w jobs)
    {service : Service} (hservice : v.services[s]? = some service) (hstop : d.stop = service.stop)
    (hpool : d.handler.pool? = some P) (hloop : v.Loops t d) : ¬ w.TurnsAway t := by
  rintro ⟨d', run, subject, hd', hrun, -⟩
  rcases hloop.steps h.steps with hloop | hnone
  · obtain ⟨d'', hd'', -, -, -, hhandler⟩ := hloop.program
    rw [hd'] at hd''
    cases hd''
    rcases (Manned.of_steps (hv.trans h).steps).bound t d' _ hd' hrun with hnone | ⟨Q, p, hQ, hp,
      hshut⟩
    · rw [hhandler, hpool] at hnone
      cases hnone
    · rw [hhandler, hpool] at hQ
      cases hQ
      exact hv.open_of_loops h hservice hstop hloop ⟨p, hp, hshut⟩
  · rw [hd'] at hnone
    cases hnone

/-! ### Closed inboxes -/

/-- A closed inbox stays closed, and nothing comes into it. -/
theorem Step.shut_inbox {i : Nat} (hs : w.Step w') (hlt : i < w.bus.inboxes.length)
    (h : ¬ w.bus.Accepts i) : i < w'.bus.inboxes.length ∧ ¬ w'.bus.Accepts i ∧
      (w'.bus.buffer i).Sublist (w.bus.buffer i) := by
  cases hs.stocks with
  | thins touched hthin =>
    refine ⟨hlt.trans_le hthin.length, fun hacc => ?_, hthin.sublist i⟩
    rcases hthin.accepts i hacc with hacc | hge
    · exact h hacc
    · omega
  | enters id c k exchanges turn henters =>
    refine ⟨henters.length.symm ▸ hlt, fun hacc => h (henters.accepts' i hacc), ?_⟩
    have hne : i ≠ k := by
      rintro rfl
      exact h henters.accepts
    rw [henters.others i hne]

/-- A loop has in hand only what was stored in its inbox before, or what it had in hand. -/
theorem Step.offered_back (hs : w.Step w') (hloop : w.Loops t d) {Q : PoolId} {job : Job}
    (h : w'.hand? t = some (.submitting Q (.offered job))) :
    w.hand? t = some (.submitting Q (.offered job)) ∨ job.request ∈ w.bus.buffer d.inbox := by
  obtain ⟨d', hd', hinbox, -⟩ := hloop.program
  rcases hs.turn_or_program t with hturn | hsame
  · rcases offered_of_turn hturn h with h | ⟨d'', hd'', -, hstored, -⟩
    · exact Or.inl h
    · rw [hd'] at hd''
      cases hd''
      exact Or.inr (MemoryBus.stores_iff.mp (hinbox ▸ hstored))
  · rw [hand?_eq (hsame _ hd')] at h
    exact Or.inl ((hand?_eq hd').trans h)

/-- **After its inbox was closed a loop handles only what it had accepted**: what it has in hand later
was stored in the inbox, or in hand, when the inbox was closed. -/
theorem handles_accepted (hread : v.ReadOnce) (hs : Steps v w) (hloop : v.Loops t d)
    (hshut : ¬ v.bus.Accepts d.inbox) :
    (∀ r ∈ w.bus.buffer d.inbox, r ∈ v.bus.buffer d.inbox) ∧
      ∀ Q job, w.hand? t = some (.submitting Q (.offered job)) →
        v.hand? t = some (.submitting Q (.offered job)) ∨ job.request ∈ v.bus.buffer d.inbox := by
  suffices d.inbox < w.bus.inboxes.length ∧ ¬ w.bus.Accepts d.inbox ∧
      (∀ r ∈ w.bus.buffer d.inbox, r ∈ v.bus.buffer d.inbox) ∧
        ∀ Q job, w.hand? t = some (.submitting Q (.offered job)) →
          v.hand? t = some (.submitting Q (.offered job)) ∨ job.request ∈ v.bus.buffer d.inbox from
    this.2.2
  induction hs with
  | refl => exact ⟨hread.lt _ _ hloop.reads, hshut, fun r hr => hr, fun Q job h => Or.inl h⟩
  | @tail x w hx hs ih =>
    obtain ⟨hlt, hshut', hbuffer, hhand⟩ := ih
    obtain ⟨hlt', hshut'', hsub⟩ := hs.shut_inbox hlt hshut'
    refine ⟨hlt', hshut'', fun r hr => hbuffer r (hsub.subset hr), fun Q job h => ?_⟩
    rcases hloop.steps hx with hloop' | hnone
    · rcases hs.offered_back hloop' h with h | h
      · exact hhand Q job h
      · exact Or.inr (hbuffer _ h)
    · -- a loop that has ended has nothing in hand
      have hlt : t < x.tasks.length := by
        obtain ⟨d', hd', -⟩ := hloop.program
        have hmono : ∀ {y : World}, Steps v y → t < y.tasks.length := by
          intro y hy
          induction hy with
          | refl => exact lt_of_program? hd'
          | tail _ hs ih => exact (hs.ended ih).1
        exact hmono hx
      rw [hand?_eq_none ((hs.ended hlt).2 hnone)] at h
      cases h

end World

end ServiceBus.Bus
