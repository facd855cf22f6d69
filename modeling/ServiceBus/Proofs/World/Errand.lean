import ServiceBus.Proofs.Bus.Acts
import ServiceBus.Proofs.World.Traffic
import ServiceBus.Proofs.World.Way

/-! # What is done for one request

From the moment on at which a task begins to handle a request, it is followed how far the handling
is and what is done for the request, be it by this task or by an executor of a pool.

* `World.actsOf`: what a task does in its turn. It is part of what its script may do
  (`does_of_turnRun`).
* `Errand`, `World.Furthers`: how far the handling of a request is, and how it goes on in a step.
* `World.Pursues`: a run and what is done in it for the request.
* `World.Fits`: the invariant. In every run the request can be followed in one way only, and what is
  done for it is the beginning of what its script may do (`Pursues.fits`, `exists_pursues`). -/

namespace ServiceBus.Bus

/-- How far the handling of a request is. -/
inductive Errand where
  /-- A task takes it to a pool. -/
  | submitting (id : TaskId)
  | queued (pool : PoolId) (ticket : Ticket)
  /-- A task runs a script on it: that of the handler, or the refusal of a pool that has not admitted
  it. -/
  | running (id : TaskId) (admitted : Bool)
  | done (admitted : Bool)

namespace Handler

/-- The job that a handler makes of a request. -/
def job (handler : Handler) (context : Context) (request : Request) : Job :=
  { context, request, script := handler.script request }

/-- The script that is run on a request, which a pool may have refused. -/
def scriptIf (handler : Handler) (admitted : Bool) (request : Request) : Script :=
  if admitted then handler.script request else .reject request.subject

/-- How far a task is that begins to handle a request. -/
def errand (handler : Handler) (id : TaskId) : Errand :=
  match handler.pool? with
  | none => .running id true
  | some _ => .submitting id

end Handler

namespace World

variable {w w' v u : World} {id P : Nat} {handler : Handler} {context : Context} {request : Request}
  {e e' e'' : Errand} {acts more more' : List Act}

/-! ### What tasks do in their turns -/

/-- **What a task does in its turn** that executes a script. To join a line or to begin a pause is not
anything yet. -/
def actsOf (w : World) (id : TaskId) (run : Run) : List Act :=
  match run.script with
  | .stop | .crash => []
  | .note n _ => [.noted n]
  | .report r _ => [.reported r]
  | .reply headers payload _ =>
    let reply := run.request.reply headers payload
    (run.request.replyTo?.map fun address => .sent reply (w.send address reply).2).toList
  | .pass gate _ => if (w.pass? id gate).any (·.2) then [.passed gate] else []
  | .pause ms _ => if run.wake?.isSome then [.paused ms] else []
  | .awaitEnd _ => (w.contextEnd? run.context).toList.map fun e => .saw (some e)
  | .inspect _ => [.saw (w.contextError? run.context)]
  | .keep store key value _ => [.kept store key value]

/-- **What a task does in its turn its script may do** before all that what is left of it may do. -/
theorem does_of_turnRun {run next : Run} {rest : List Act} {crashed : Bool}
    (hturn : w.turnRun id run = some (v, .going next))
    (h : next.script.Does next.request rest crashed) :
    run.script.Does run.request (w.actsOf id run ++ rest) crashed := by
  obtain ⟨context, request, script, wake?⟩ := run
  cases script with
  | stop | crash => cases hturn
  | note n after =>
    cases hturn
    exact .note h
  | report r after =>
    cases hturn
    exact .report h
  | reply headers payload after =>
    cases hturn
    simp only [World.actsOf] at h ⊢
    cases hreply : request.replyTo? with
    | none =>
      rw [hreply] at h
      exact .again hreply h
    | some address =>
      rw [hreply] at h
      exact .reply address hreply _ h
  | pass gate after =>
    obtain ⟨⟨u, passed⟩, hpass, hturn⟩ := Option.bind_eq_some_iff.mp hturn
    simp only [World.actsOf, hpass]
    cases passed with
    | true =>
      cases hturn
      exact .pass h
    | false =>
      cases hturn
      exact h
  | pause ms after =>
    simp only [turnRun] at hturn
    cases wake? with
    | none =>
      cases hturn
      exact h
    | some wake =>
      -- the pause is over, or there is no turn
      dsimp only at hturn
      split at hturn
      · cases hturn
        exact .pause h
      · cases hturn
  | awaitEnd after =>
    obtain ⟨e, hcontext, hturn⟩ := Option.bind_eq_some_iff.mp hturn
    simp only [World.actsOf, hcontext]
    cases hturn
    exact .awaitEnd e h
  | inspect after =>
    cases hturn
    exact .inspect _ h
  | keep store key value after =>
    cases hturn
    exact .keep h

/-- A script that is over does nothing more. -/
theorem does_of_over {run : Run} {progress : Progress Run}
    (hturn : w.turnRun id run = some (v, progress)) (hover : ∀ next, progress ≠ .going next) :
    ∃ crashed, run.script.Does run.request [] crashed := by
  cases runStep_of_turnRun hturn with
  | stop script => exact ⟨false, script ▸ .stop run.request⟩
  | crash script => exact ⟨true, script ▸ .crash run.request⟩
  | _ => exact absurd rfl (hover _)

/-- The turn of a task that runs a script. -/
theorem turnRun_of_turn {run : Run} (hand : w.hand? id = some (.running run))
    (h : w.turn id = some w') : ∃ v progress, w.turnRun id run = some (v, progress) ∧
      ((∃ next, progress = .going next ∧ w'.hand? id = some (.running next)) ∨
        (∀ next, progress ≠ .going next) ∧ w'.hand? id = none) := by
  obtain ⟨v, progress, turn, hcase⟩ := turn_running h hand
  refine ⟨v, progress, turn, hcase.imp ?_ ?_⟩
  · exact fun ⟨next, hnext, hand', _⟩ => ⟨next, hnext, hand'⟩
  · exact fun ⟨hover, hand', _⟩ => ⟨hover, hand'⟩

/-- Whether a task handles a request, for itself or as a loop, and how far it is with it. -/
def Handles (w : World) (id : TaskId) (h : Handling) : Prop :=
  w.program? id = some (.handle h) ∨ ∃ d, w.program? id = some (.deliver d) ∧ d.handling? = some h

/-- Who handles a request has it in hand. -/
theorem Handles.hand {h : Handling} (hh : w.Handles id h) : w.hand? id = some h := by
  rcases hh with hp | ⟨d, hp, hd⟩
  · exact hand?_eq hp
  · exact (hand?_eq hp).trans hd

/-- Who does not have its turn goes on handling the request. -/
theorem Handles.still {h : Handling} (hh : w.Handles id h) (hs : w.Step w')
    (hturn : w.turn id ≠ some w') : w'.Handles id h := by
  have hprogram := (hs.turn_or_program id).resolve_left hturn
  exact hh.imp (hprogram _) fun ⟨d, hp, hd⟩ => ⟨d, hprogram _ hp, hd⟩

/-- How far a task is after its turn that takes a request to a pool. -/
def Takes (w : World) (id : TaskId) (P : PoolId) (placement : Placement) : Prop :=
  (∃ next, placement.handling P = .going next ∧ w.Handles id next) ∨
    placement = .queued ∧ w.hand? id = none

/-- A submission that does not go on is queued. -/
theorem queued_of_over {placement : Placement} (h : placement.handling P = .over) :
    placement = .queued := by
  cases placement with
  | queued => rfl
  | onward | handedBack => cases h

/-- The turn of a task that takes a request to a pool. -/
theorem Handles.takes {s : Submission} (hh : w.Handles id (.submitting P s))
    (h : w.turn id = some w') : ∃ v placement, w.turnSubmission P s = some (v, placement) ∧
      w'.pools = v.pools ∧ w'.Takes id P placement := by
  have hsubmitting : ∀ {v progress}, w.turnHandling id (.submitting P s) = some (v, progress) →
      v.tasks = w.tasks ∧ ∃ placement, w.turnSubmission P s = some (v, placement) ∧
        progress = placement.handling P := by
    intro v progress hv
    refine ⟨tasks_turnHandling hv, ?_⟩
    obtain ⟨_, _, heq, -⟩ | ⟨_, _, placement, heq, hs, rfl⟩ := turnHandling_cases hv
    · cases heq
    · cases heq
      exact ⟨placement, hs, rfl⟩
  rcases hh with hp | ⟨d, hp, hd⟩
  · rw [turn, hp, Option.bind_eq_bind, Option.bind_some] at h
    obtain ⟨⟨v, progress⟩, hv, h⟩ := Option.bind_eq_some_iff.mp h
    obtain ⟨htasks, placement, hs, hprogress⟩ := hsubmitting hv
    have hlt : id < v.tasks.length := htasks ▸ lt_of_program? hp
    refine ⟨v, placement, hs, ?_⟩
    cases progress with
    | going next =>
      cases h
      exact ⟨rfl, Or.inl ⟨next, hprogress.symm, Or.inl (program?_setProgram_self hlt _)⟩⟩
    | «over» =>
      cases h
      exact ⟨(alone_finish v id .handled).pools,
        Or.inr ⟨queued_of_over hprogress.symm, hand?_finish v id .handled⟩⟩
    | crashed => cases placement <;> cases hprogress
  · rw [turn, hp, Option.bind_eq_bind, Option.bind_some] at h
    obtain ⟨handling, v, progress, hh, hv, hcase⟩ | ⟨hnone, -⟩ | ⟨hnone, -⟩ := turnDeliver_cases h
    · cases hd.symm.trans hh
      obtain ⟨htasks, placement, hs, hprogress⟩ := hsubmitting hv
      have hlt : id < v.tasks.length := htasks ▸ lt_of_program? hp
      refine ⟨v, placement, hs, ?_⟩
      rcases hcase with ⟨next, rfl, rfl⟩ | ⟨rfl, rfl⟩ | ⟨rfl, -⟩
      · exact ⟨rfl, Or.inl ⟨next, hprogress.symm,
          Or.inr ⟨_, program?_setProgram_self hlt _, rfl⟩⟩⟩
      · exact ⟨rfl, Or.inr ⟨queued_of_over hprogress.symm, hand?_setProgram hlt _⟩⟩
      · cases placement <;> cases hprogress
    · cases hd.symm.trans hnone
    · cases hd.symm.trans hnone

/-- Who goes on with a submission has placed it. -/
theorem Takes.onward {ticket : Ticket} (h : w'.Takes id P (.onward (.placed ticket))) :
    w'.Handles id (.submitting P (.placed ticket)) := by
  obtain ⟨next, hnext, hand'⟩ | ⟨hqueued, -⟩ := h
  · cases hnext
    exact hand'
  · cases hqueued

/-- Who has had a job queued is done with it. -/
theorem Takes.queued (h : w'.Takes id P .queued) : w'.hand? id = none := by
  obtain ⟨next, hnext, -⟩ | ⟨-, hand'⟩ := h
  · cases hnext
  · exact hand'

/-- Who gets a job back refuses it. -/
theorem Takes.handedBack {job : Job} (h : w'.Takes id P (.handedBack job)) :
    w'.hand? id = some (.running { job.run with script := .reject job.request.subject }) := by
  obtain ⟨next, hnext, hand'⟩ | ⟨hqueued, -⟩ := h
  · cases hnext
    exact hand'.hand
  · cases hqueued

/-! ### Following a request -/

/-- **How the handling of a request goes on in a step**, and what is done for the request. -/
inductive Furthers (w w' : World) : Errand → List Act → Errand → Prop
  /-- The task that takes it to a pool does not have its turn. -/
  | waits (id : TaskId) (still : w.turn id ≠ some w') :
      Furthers w w' (.submitting id) [] (.submitting id)
  | submits (id : TaskId) (turn : w.turn id = some w') (pool : PoolId) (s : Submission)
      (hand' : w'.hand? id = some (.submitting pool s)) :
      Furthers w w' (.submitting id) [] (.submitting id)
  | queues (id : TaskId) (turn : w.turn id = some w') (pool : PoolId) (ticket : Ticket)
      (hand : w.Places id pool ticket) (hand' : w'.hand? id = none) :
      Furthers w w' (.submitting id) [] (.queued pool ticket)
  | refused (id : TaskId) (turn : w.turn id = some w') (run : Run)
      (hand' : w'.hand? id = some (.running run)) :
      Furthers w w' (.submitting id) [] (.running id false)
  | stays (pool : PoolId) (ticket : Ticket) (mem : ticket ∈ (w'.queued pool).map Prod.fst) :
      Furthers w w' (.queued pool ticket) [] (.queued pool ticket)
  /-- An executor takes the job. -/
  | starts (id : TaskId) (turn : w.turn id = some w') (pool : PoolId) (ticket : Ticket)
      (executor : Nat) (run : Run) (program : w.program? id = some (.execute pool executor none))
      (program' : w'.program? id = some (.execute pool executor (some run)))
      (left : ticket ∉ (w'.queued pool).map Prod.fst) :
      Furthers w w' (.queued pool ticket) [] (.running id true)
  /-- The task that runs the script does not have its turn. -/
  | rests (id : TaskId) (admitted : Bool) (still : w.turn id ≠ some w') :
      Furthers w w' (.running id admitted) [] (.running id admitted)
  | acts (id : TaskId) (admitted : Bool) (turn : w.turn id = some w') (run next : Run)
      (hand : w.hand? id = some (.running run)) (hand' : w'.hand? id = some (.running next)) :
      Furthers w w' (.running id admitted) (w.actsOf id run) (.running id admitted)
  | ends (id : TaskId) (admitted : Bool) (turn : w.turn id = some w') (hand' : w'.hand? id = none) :
      Furthers w w' (.running id admitted) [] (.done admitted)
  | past (admitted : Bool) : Furthers w w' (.done admitted) [] (.done admitted)

/-- **The handling goes on in one way.** -/
theorem Furthers.unique (h : w.Furthers w' e more e') (h' : w.Furthers w' e more' e'') :
    more = more' ∧ e' = e'' := by
  cases h with
  | waits id still =>
    cases h' with
    | waits => exact ⟨rfl, rfl⟩
    | submits _ turn | queues _ turn | refused _ turn => exact absurd turn still
  | submits id turn pool s hand' =>
    cases h' with
    | waits _ still => exact absurd turn still
    | submits => exact ⟨rfl, rfl⟩
    | queues _ _ _ _ _ hand'' | refused _ _ _ hand'' => cases hand'.symm.trans hand''
  | queues id turn pool ticket hand hand' =>
    cases h' with
    | waits _ still => exact absurd turn still
    | submits _ _ _ _ hand'' | refused _ _ _ hand'' => cases hand'.symm.trans hand''
    | queues _ _ _ _ hand₁ =>
      cases hand.symm.trans hand₁
      exact ⟨rfl, rfl⟩
  | refused id turn run hand' =>
    cases h' with
    | waits _ still => exact absurd turn still
    | submits _ _ _ _ hand'' | queues _ _ _ _ _ hand'' => cases hand'.symm.trans hand''
    | refused => exact ⟨rfl, rfl⟩
  | stays pool ticket mem =>
    cases h' with
    | stays => exact ⟨rfl, rfl⟩
    | starts _ _ _ _ _ _ _ _ left => exact absurd mem left
  | starts id turn pool ticket executor run program program' left =>
    cases h' with
    | stays _ _ mem => exact absurd mem left
    | starts id₁ _ _ _ _ _ program₁ program₁' =>
      -- in a turn no other executor takes a job
      have hid : id₁ = id := by
        by_contra hne
        rw [(others_of_turn turn).2 id₁ hne, program₁] at program₁'
        cases program₁'
      exact ⟨rfl, by rw [hid]⟩
  | rests id admitted still =>
    cases h' with
    | rests => exact ⟨rfl, rfl⟩
    | acts _ _ turn | ends _ _ turn => exact absurd turn still
  | acts id admitted turn run next hand hand' =>
    cases h' with
    | rests _ _ still => exact absurd turn still
    | acts _ _ _ _ _ hand₁ =>
      cases hand.symm.trans hand₁
      exact ⟨rfl, rfl⟩
    | ends _ _ _ hand'' => cases hand'.symm.trans hand''
  | ends id admitted turn hand' =>
    cases h' with
    | rests _ _ still => exact absurd turn still
    | acts _ _ _ _ _ _ hand'' => cases hand'.symm.trans hand''
    | ends => exact ⟨rfl, rfl⟩
  | past admitted =>
    cases h' with
    | past => exact ⟨rfl, rfl⟩

/-- **A run in which a request is followed**: how far its handling is at the end, and what was done
for it. -/
inductive Pursues (v : World) (first : Errand) : World → Errand → List Act → Prop
  | start : Pursues v first v first []
  | step {u w : World} {e e' : Errand} {acts more : List Act} (h : Pursues v first u e acts)
      (hs : u.Step w) (furthers : u.Furthers w e more e') : Pursues v first w e' (acts ++ more)

/-! ### What is done for a request -/

/-- Whether a handler is bound to a pool that was declared closed. -/
def Declines (w : World) (handler : Handler) : Prop :=
  ∃ P p, handler.pool? = some P ∧ w.pools[P]? = some p ∧ p.announced = true

/-- A pool that was declared closed stays so. -/
theorem Declines.step (h : w.Declines handler) (hs : w.Step w') : w'.Declines handler := by
  obtain ⟨P, p, hbound, hp, hannounced⟩ := h
  obtain ⟨p', hp', hstays⟩ := hs.hardens.pools P p hp
  exact ⟨P, p', hbound, hp', hstays.announced hannounced⟩

/-- Whether a request of a handler was rightly admitted, or refused: it is admitted only if the pool
was not declared closed at the beginning, and refused only if the closing of the pool has begun. -/
def Judges (w : World) (handler : Handler) (closed : Prop) : (admitted : Bool) → Prop
  | true => ¬ closed
  | false => ∃ P, handler.pool? = some P ∧ w.PoolShut P

/-- What was right stays right. -/
theorem Judges.step {closed : Prop} {admitted : Bool} (h : w.Judges handler closed admitted)
    (hs : w.Step w') : w'.Judges handler closed admitted := by
  cases admitted with
  | true => exact h
  | false =>
    obtain ⟨P, hbound, hshut⟩ := h
    exact ⟨P, hbound, hshut.step hs⟩

/-- **Where a request is that a handler began with, and what was done for it**: nothing before a
script is run on it, and then the beginning of what the script may do. -/
inductive Fits (w : World) (handler : Handler) (context : Context) (request : Request)
    (closed : Prop) : Errand → List Act → Prop
  | offered (id : TaskId) (P : PoolId) (bound : handler.pool? = some P)
      (hand : w.Handles id (.submitting P (.offered (handler.job context request))))
      (declines : closed → w.Declines handler) :
      Fits w handler context request closed (.submitting id) []
  | waiting (id : TaskId) (P : PoolId) (ticket : Ticket) (p : WorkerPool Job)
      (bound : handler.pool? = some P) (hand : w.Handles id (.submitting P (.placed ticket)))
      (hp : w.pools[P]? = some p) (mem : (ticket, handler.job context request) ∈ p.waiting)
      (opened : ¬ closed) : Fits w handler context request closed (.submitting id) []
  | queued (P : PoolId) (ticket : Ticket) (p : WorkerPool Job) (hp : w.pools[P]? = some p)
      (mem : (ticket, handler.job context request) ∈ p.queue) (opened : ¬ closed) :
      Fits w handler context request closed (.queued P ticket) []
  | running (id : TaskId) (admitted : Bool) (run : Run) (acts : List Act)
      (hand : w.hand? id = some (.running run)) (judges : w.Judges handler closed admitted)
      (does : ∀ rest crashed, run.script.Does run.request rest crashed →
        (handler.scriptIf admitted request).Does request (acts ++ rest) crashed) :
      Fits w handler context request closed (.running id admitted) acts
  | done (admitted crashed : Bool) (acts : List Act) (judges : w.Judges handler closed admitted)
      (does : (handler.scriptIf admitted request).Does request acts crashed) :
      Fits w handler context request closed (.done admitted) acts

variable {closed : Prop}

/-- What is begun fits. -/
theorem fits_begin (h : w.Handles id (handler.begin context request)) :
    w.Fits handler context request (w.Declines handler) (handler.errand id) [] := by
  rw [Handler.begin] at h
  rw [Handler.errand]
  cases hbound : handler.pool? with
  | none =>
    rw [hbound] at h
    refine .running id true _ [] h.hand ?_ fun _ _ hrest => hrest
    rintro ⟨P, p, hsome, -⟩
    rw [hbound] at hsome
    cases hsome
  | some P =>
    rw [hbound] at h
    exact .offered id P hbound h fun hclosed => hclosed

/-- A job that a pool hands back is refused. -/
theorem fits_refused {p : WorkerPool Job} (bound : handler.pool? = some P)
    (hp : w.pools[P]? = some p) (hshut : p.isShut = true) (hs : w.Step w')
    (hand' : w'.hand? id = some (.running
      { (handler.job context request).run with script := .reject request.subject })) :
    w'.Fits handler context request closed (.running id false) [] :=
  .running id false _ [] hand' ⟨P, bound, PoolShut.step ⟨p, hp, hshut⟩ hs⟩
    fun _ _ hrest => hrest

/-- A job that is offered is refused or waits. -/
theorem furthers_offered (bound : handler.pool? = some P)
    (hand : w.Handles id (.submitting P (.offered (handler.job context request))))
    (declines : closed → w.Declines handler) (hturn : w.turn id = some w') :
    ∃ more e', w.Furthers w' (.submitting id) more e' ∧
      w'.Fits handler context request closed e' more := by
  obtain ⟨v, placement, hs, hpools, htakes⟩ := hand.takes hturn
  obtain ⟨p, ⟨job, heq, hputs, rfl⟩ | ⟨_, _, _, heq, -⟩⟩ := puts_of_submission hs hpools
  · cases heq
    rcases p.submit_cases (handler.job context request) with ⟨hn, hsubmit⟩ | ⟨hn, hsubmit⟩
    · rw [hsubmit] at htakes
      have hshut : p.isShut = true := by simp [WorkerPool.isShut, hn]
      exact ⟨[], _, .refused id hturn _ htakes.handedBack,
        fits_refused bound hputs.before hshut (.turn id hturn) htakes.handedBack⟩
    · rw [hsubmit] at htakes hputs
      have hopened : ¬ closed := by
        intro hclosed
        obtain ⟨Q, q, hQ, hq, hannounced⟩ := declines hclosed
        cases bound.symm.trans hQ
        cases hputs.before.symm.trans hq
        simp [hn] at hannounced
      refine ⟨[], _, .submits id hturn P _ htakes.onward.hand,
        .waiting id P p.issued _ bound htakes.onward hputs.after ?_ hopened⟩
      simp [WorkerPool.waiting]
  · cases heq

/-- A submission that waits goes on, is queued or is refused. -/
theorem furthers_placed {ticket : Ticket} {p : WorkerPool Job}
    (hsound : ∀ (P : Nat) p, w.pools[P]? = some p → p.Sound) (bound : handler.pool? = some P)
    (hand : w.Handles id (.submitting P (.placed ticket))) (hp : w.pools[P]? = some p)
    (mem : (ticket, handler.job context request) ∈ p.waiting) (opened : ¬ closed)
    (hturn : w.turn id = some w') : ∃ more e', w.Furthers w' (.submitting id) more e' ∧
      w'.Fits handler context request closed e' more := by
  obtain ⟨v, placement, hs, hpools, htakes⟩ := hand.takes hturn
  obtain ⟨q, ⟨_, heq, -⟩ | ⟨_, p', verdict, heq, ha, hputs, rfl⟩⟩ := puts_of_submission hs hpools
  · cases heq
  · cases heq
    cases hp.symm.trans hputs.before
    obtain ⟨job, ⟨rfl, -, hperm, -⟩ | ⟨rfl, -, hperm, hqueue⟩ | ⟨rfl, hshut, hperm, -⟩⟩ :=
      (hsound P p hp).advance?_cases ha
    · have hmem := hperm.mem_iff.mpr mem
      exact ⟨[], _, .submits id hturn P _ (Takes.onward htakes).hand,
        .waiting id P ticket p' bound (Takes.onward htakes) hputs.after hmem opened⟩
    · refine ⟨[], _, .queues id hturn P ticket hand.hand (Takes.queued htakes),
        .queued P ticket p' hputs.after ?_ opened⟩
      simp [hqueue, (hsound P p hp).job_of_perm hperm mem]
    · obtain rfl := (hsound P p hp).job_of_perm hperm mem
      exact ⟨[], _, .refused id hturn _ (Takes.handedBack htakes),
        fits_refused bound hp hshut (.turn id hturn) (Takes.handedBack htakes)⟩

/-- A job that is queued stays so until an executor takes it. -/
theorem furthers_queued {ticket : Ticket} {p : WorkerPool Job}
    (hsound : ∀ (P : Nat) p, w.pools[P]? = some p → p.Sound) (hp : w.pools[P]? = some p)
    (mem : (ticket, handler.job context request) ∈ p.queue) (opened : ¬ closed) (hs : w.Step w') :
    ∃ more e', w.Furthers w' (.queued P ticket) more e' ∧
      w'.Fits handler context request closed e' more := by
  obtain ⟨p', hp', -, hqueue⟩ := hs.pool_forth hsound hp
  have hstays : (ticket, handler.job context request) ∈ p'.queue →
      ∃ more e', w.Furthers w' (.queued P ticket) more e' ∧
        w'.Fits handler context request closed e' more := by
    intro hmem
    refine ⟨[], _, .stays P ticket ?_, .queued P ticket p' hp' hmem opened⟩
    rw [queued_eq hp']
    exact List.mem_map_of_mem hmem
  rcases hqueue _ mem with hmem | hbegun
  · exact hstays hmem
  rcases begun_cases hs with hnil | ⟨id, Q, i, q, q', job, hturn, hprogram, htake, hputs, hprogram',
    -, hone⟩
  · rw [hbegun] at hnil
    cases hnil
  · cases hbegun.symm.trans hone
    cases hp.symm.trans hputs.before
    obtain ⟨-, ⟨first, _, rest, heq, hfound, rfl⟩ | ⟨-, -, hfound, -⟩⟩ := WorkerPool.take?_cases htake
    · cases hfound
      have hrest : p'.queue = rest := by
        cases hp'.symm.trans hputs.after
        rfl
      rw [heq] at mem
      rcases List.mem_cons.mp mem with hhead | hmem
      · -- it was the first one, and no other has its ticket
        cases hhead
        have hnodup := queue_nodup (hsound P p hp)
        rw [heq, List.map_cons, List.nodup_cons] at hnodup
        refine ⟨[], _, .starts id hturn P ticket i _ hprogram hprogram' ?_,
          .running id true _ [] (hand?_eq hprogram') opened fun _ _ hrest => hrest⟩
        rw [queued_eq hp', hrest]
        exact hnodup.1
      · exact hstays (hrest ▸ hmem)
    · cases hfound

/-- A task that runs a script does what comes next, or is done. -/
theorem furthers_running {run : Run} {admitted : Bool} (hand : w.hand? id = some (.running run))
    (judges : w.Judges handler closed admitted)
    (does : ∀ rest crashed, run.script.Does run.request rest crashed →
      (handler.scriptIf admitted request).Does request (acts ++ rest) crashed) (hs : w.Step w') :
    ∃ more e', w.Furthers w' (.running id admitted) more e' ∧
      w'.Fits handler context request closed e' (acts ++ more) := by
  by_cases hturn : w.turn id = some w'
  · obtain ⟨v, progress, hrun, ⟨next, rfl, hand'⟩ | ⟨hover, hand'⟩⟩ := turnRun_of_turn hand hturn
    · refine ⟨_, _, .acts id admitted hturn run next hand hand',
        .running id admitted next _ hand' (judges.step hs) fun rest crashed hrest => ?_⟩
      rw [List.append_assoc]
      exact does _ crashed (does_of_turnRun hrun hrest)
    · obtain ⟨crashed, hdoes⟩ := does_of_over hrun hover
      exact ⟨[], _, .ends id admitted hturn hand',
        .done admitted crashed _ (judges.step hs) (does [] crashed hdoes)⟩
  · obtain ⟨program, hp, hhand⟩ := Option.bind_eq_some_iff.mp hand
    have hp' := (hs.turn_or_program id).resolve_left hturn program hp
    refine ⟨[], _, .rests id admitted hturn, ?_⟩
    rw [List.append_nil]
    exact .running id admitted run acts ((hand?_eq hp').trans hhand) (judges.step hs) does

/-- **The handling of a request goes on in every step**, as it should. -/
theorem Fits.step (h : w.Fits handler context request closed e acts) (hs : w.Step w')
    (hsound : ∀ (P : Nat) p, w.pools[P]? = some p → p.Sound) (hm : w.Manned) :
    ∃ more e', w.Furthers w' e more e' ∧ w'.Fits handler context request closed e' (acts ++ more) := by
  cases h with
  | offered id P bound hand declines =>
    by_cases hturn : w.turn id = some w'
    · exact furthers_offered bound hand declines hturn
    · exact ⟨[], _, .waits id hturn,
        .offered id P bound (hand.still hs hturn) fun hclosed => (declines hclosed).step hs⟩
  | waiting id P ticket p bound hand hp mem opened =>
    by_cases hturn : w.turn id = some w'
    · exact furthers_placed hsound bound hand hp mem opened hturn
    · obtain ⟨p', hp', hwaiting, -⟩ := hs.pool_forth hsound hp
      refine ⟨[], _, .waits id hturn,
        .waiting id P ticket p' bound (hand.still hs hturn) hp' ?_ opened⟩
      refine (hwaiting _ mem).resolve_right fun ⟨j, hj, hplaces⟩ => hturn ?_
      -- who placed the submission is the task that takes the request to the pool
      exact hm.placed.unique j id P ticket hplaces hand.hand ▸ hj
  | queued P ticket p hp mem opened => exact furthers_queued hsound hp mem opened hs
  | running id admitted run acts hand judges does => exact furthers_running hand judges does hs
  | done admitted crashed acts judges does =>
    refine ⟨[], _, .past admitted, ?_⟩
    rw [List.append_nil]
    exact .done admitted crashed acts (judges.step hs) does

/-- A run in which a request is followed. -/
theorem Pursues.steps {first : Errand} (h : Pursues v first w e acts) : Steps v w := by
  induction h with
  | start => exact .refl
  | step _ hs _ ih => exact ih.tail hs

/-- **What is done for a request in a run fits.** -/
theorem Pursues.fits (h : Pursues v (handler.errand id) w e acts) (hbefore : Steps {} v)
    (hbegin : v.Handles id (handler.begin context request)) :
    w.Fits handler context request (v.Declines handler) e acts := by
  induction h with
  | start => exact fits_begin hbegin
  | step h hs furthers ih =>
    have hrun := hbefore.trans h.steps
    obtain ⟨more, e', hgoes, hfits⟩ := ih.step hs (Attended.of_steps hrun).pools (.of_steps hrun)
    obtain ⟨rfl, rfl⟩ := furthers.unique hgoes
    exact hfits

/-- **In every run a request can be followed** from the moment at which its handling begins. -/
theorem exists_pursues (hbefore : Steps {} v) (hbegin : v.Handles id (handler.begin context request))
    (h : Steps v w) : ∃ e acts, Pursues v (handler.errand id) w e acts := by
  induction h with
  | refl => exact ⟨_, _, .start⟩
  | tail h hs ih =>
    have hrun := hbefore.trans h
    obtain ⟨e, acts, hpursues⟩ := ih
    obtain ⟨more, e', hgoes, -⟩ := (hpursues.fits hbefore hbegin).step hs
      (Attended.of_steps hrun).pools (.of_steps hrun)
    exact ⟨e', _, hpursues.step hs hgoes⟩

end World

end ServiceBus.Bus
