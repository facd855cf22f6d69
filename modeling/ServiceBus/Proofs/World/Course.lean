import ServiceBus.Proofs.World.Manned
import ServiceBus.Proofs.World.Overlap
import ServiceBus.Proofs.World.Whereabouts

/-! # The jobs that begin in a run

A `World.Course` is a run in which the calls that stop a service come one after another and nobody
else closes its pool, together with the jobs that executors begin on the way.

* `World.begun`: the jobs that executors begin between two worlds.
* `Step.pool_forth`: what becomes of the submissions and the queue of a pool in a step.
* `Course.once`: no request of a call is begun twice.
* `Course.no_loop`: while a loop of the service is there its pool is open. -/

namespace ServiceBus.Bus

namespace World

variable {w w' v u : World} {id j c s P t i : Nat} {job : Job} {jobs jobs' : List (PoolId × Job)}

/-! ### Jobs that begin -/

/-- The job that a task begins between two worlds, if it is an executor that had none. -/
def begun? (w w' : World) (id : TaskId) : Option (PoolId × Job) :=
  match w.program? id, w'.program? id with
  | some (.execute P _ none), some (.execute _ _ (some run)) =>
    some (P, { context := run.context, request := run.request, script := run.script })
  | _, _ => none

/-- The jobs that executors begin between two worlds, and their pools. -/
def begun (w w' : World) : List (PoolId × Job) :=
  (List.range w.tasks.length).filterMap (w.begun? w')

/-- A list of which one number only is kept. -/
theorem filterMap_range_single {α : Type} {f : Nat → Option α} {n k : Nat} {x : α} (hk : k < n)
    (hx : f k = some x) (hf : ∀ j, j ≠ k → f j = none) : (List.range n).filterMap f = [x] := by
  induction n with
  | zero => omega
  | succ n ih =>
    rw [List.range_succ, List.filterMap_append]
    by_cases h : k = n
    · have hnil : (List.range n).filterMap f = [] := by
        refine List.filterMap_eq_nil_iff.mpr fun j hj => hf j ?_
        have := List.mem_range.mp hj
        omega
      rw [hnil, ← h, List.nil_append, List.filterMap_cons_some hx, List.filterMap_nil]
    · rw [ih (by omega), List.filterMap_cons_none (hf n fun heq => h heq.symm), List.filterMap_nil,
        List.append_nil]

/-- A task that goes on with the same program begins nothing. -/
theorem begun?_of_program (h : ∀ program, w.program? j = some program → w'.program? j = some program) :
    w.begun? w' j = none := by
  rw [begun?]
  split
  · rename_i hp hp'
    rw [h _ hp] at hp'
    cases hp'
  · rfl

/-- Nothing begins if all tasks go on with their programs. -/
theorem begun_of_programs
    (h : ∀ (j : Nat) program, w.program? j = some program → w'.program? j = some program) :
    w.begun w' = [] :=
  List.filterMap_eq_nil_iff.mpr fun j _ => begun?_of_program (h j)

/-- A turn begins nothing but the job of the task that has it. -/
theorem begun?_of_turn (h : w.turn id = some w') (hj : j ≠ id) : w.begun? w' j = none :=
  begun?_of_program fun program hp => by rw [(others_of_turn h).2 j hj, hp]

/-- An executor that takes a job begins it. -/
theorem begun_pick (h : w.turn id = some w') (program : w.program? id = some (.execute P i none))
    (program' : w'.program? id = some (.execute P i (some job.run))) :
    w.begun w' = [(P, job)] := by
  refine filterMap_range_single (lt_of_program? program) ?_ fun j hj => begun?_of_turn h hj
  rw [begun?, program, program']
  rfl

/-- **What begins in a step**: an executor takes the first job of a queue, if it begins any. -/
theorem begun_cases (hs : w.Step w') : w.begun w' = [] ∨ ∃ id P i p p' job,
    w.turn id = some w' ∧ w.program? id = some (.execute P i none) ∧
      p.take? i = some (p', .job job) ∧ Puts P p p' w w' ∧
      w'.program? id = some (.execute P i (some job.run)) ∧ w'.bus = w.bus ∧
      w.begun w' = [(P, job)] := by
  obtain ⟨id, h⟩ | ⟨call, context?, client?, conclude, name?, -, rfl⟩ | h := hs.cases_outside
  · have hnone : w.begun? w' id = none → w.begun w' = [] := by
      intro hid
      refine List.filterMap_eq_nil_iff.mpr fun j _ => ?_
      by_cases hj : j = id
      · rw [hj, hid]
      · exact begun?_of_turn h hj
    -- an executor that has a job afterwards has just taken it, or had it before
    have hhand : (∀ run, w'.hand? id ≠ some (.running run)) ∨ w.hand? id ≠ none →
        w.begun? w' id = none := by
      intro hcase
      rw [begun?]
      split
      · rename_i hp hp'
        rcases hcase with hcase | hcase
        · exact absurd (hand?_eq hp') (hcase _)
        · exact absurd (hand?_eq hp) hcase
      · rfl
    have hafter : ∀ {after : Option Handling}, w'.hand? id = after →
        (∀ run, after ≠ some (.running run)) → w.begun w' = [] := fun heq hne =>
      hnone (hhand (Or.inl (heq ▸ hne)))
    have hbefore : ∀ {handling : Handling}, w.hand? id = some handling → w.begun w' = [] :=
      fun heq => hnone (hhand (Or.inr (by simp [heq])))
    cases deed_of_turn h with
    | quiet _ _ hand' => exact Or.inl (hafter hand' (by simp))
    | exchange _ _ _ _ _ _ _ hand' => exact Or.inl (hafter hand' (by simp))
    | receive _ _ _ _ _ hand' => exact Or.inl (hafter hand' (by simp))
    | drain _ _ _ hand' => exact Or.inl (hafter hand' (by simp))
    | leave _ _ _ _ end' => exact Or.inl (hafter (hand?_eq_none end') (by simp))
    | take d request program =>
      refine Or.inl (hnone ?_)
      rw [begun?, program]
    | submit _ _ _ _ hand => exact Or.inl (hbefore hand)
    | run _ _ _ hand => exact Or.inl (hbefore hand)
    | finish _ _ _ hand => exact Or.inl (hbefore hand)
    | pick P i p p' job program taken puts program' bus =>
      exact Or.inr ⟨id, P, i, p, p', job, h, program, taken, puts, program', bus,
        begun_pick h program program'⟩
    | exit _ _ _ _ _ _ _ end' => exact Or.inl (hafter (hand?_eq_none end') (by simp))
  · exact Or.inl (begun_of_programs fun j program hp =>
      program?_spawn_of_some (w := w.withBus _) hp _ name?)
  · exact Or.inl (begun_of_programs h.programs)

/-! ### Pools -/

/-- Who waits goes on by the turn of its own task only, and who is queued stays so until an executor
begins its job. -/
structure Onward (w w' : World) (P : PoolId) (p p' : WorkerPool Job) : Prop where
  waiting : ∀ e ∈ p.waiting, e ∈ p'.waiting ∨ ∃ id, w.turn id = some w' ∧ w.Places id P e.1
  queue : ∀ e ∈ p.queue, e ∈ p'.queue ∨ w.begun w' = [(P, e.2)]

/-- Nobody goes on. -/
theorem Onward.of_sub {p p' : WorkerPool Job} (hwaiting : ∀ e ∈ p.waiting, e ∈ p'.waiting)
    (hqueue : ∀ e ∈ p.queue, e ∈ p'.queue) : w.Onward w' P p p' :=
  ⟨fun e he => Or.inl (hwaiting e he), fun e he => Or.inl (hqueue e he)⟩

/-- A pool that is as before. -/
theorem Onward.refl (p : WorkerPool Job) : w.Onward w' P p p :=
  .of_sub (fun _ he => he) fun _ he => he

/-- Marks concern nobody who waits. -/
theorem Onward.of_marks {p p' : WorkerPool Job} (h : p.Marks p') : w.Onward w' P p p' := by
  obtain ⟨_, _, _, _, rfl⟩ := h
  exact .of_sub (fun _ he => he) fun _ he => he

/-- A job that is offered joins the line at most. -/
theorem onward_submit (p : WorkerPool Job) (job : Job) : w.Onward w' P p (p.submit job).1 := by
  rcases p.submit_cases job with ⟨-, hsubmit⟩ | ⟨-, hsubmit⟩ <;> rw [hsubmit]
  · exact .of_sub (fun _ he => he) fun _ he => he
  · refine .of_sub (fun e he => ?_) fun _ he => he
    rcases List.mem_append.mp he with he | he
    · exact List.mem_append_left _ (List.mem_append_left _ he)
    · exact List.mem_append_right _ he

/-- Only the submission of the task itself may leave those that wait. -/
theorem onward_advance {p p' : WorkerPool Job} {verdict : WorkerPool.Verdict Job} (hp : p.Sound)
    (h : w.turn id = some w') (hand : w.Places id P t) (ha : p.advance? t = some (p', verdict)) :
    w.Onward w' P p p' := by
  have hleave : ∀ {moved : Job}, p.waiting.Perm ((t, moved) :: p'.waiting) →
      ∀ e ∈ p.waiting, e ∈ p'.waiting ∨ ∃ id, w.turn id = some w' ∧ w.Places id P e.1 := by
    intro moved hperm e he
    rcases List.mem_cons.mp (hperm.mem_iff.mp he) with rfl | he
    · exact Or.inr ⟨id, h, hand⟩
    · exact Or.inl he
  obtain ⟨moved, ⟨-, -, hperm, hqueue⟩ | ⟨-, -, hperm, hqueue⟩ | ⟨-, -, hperm, hqueue⟩⟩ :=
    hp.advance?_cases ha
  · exact .of_sub (fun _ he => hperm.mem_iff.mpr he) fun _ he => hqueue ▸ he
  · refine ⟨hleave hperm, fun _ he => Or.inl ?_⟩
    rw [hqueue]
    exact List.mem_append_left _ he
  · exact ⟨hleave hperm, fun _ he => Or.inl (hqueue ▸ he)⟩

/-- A job that is over was in no queue. -/
theorem onward_finish (p : WorkerPool Job) (k : Nat) : w.Onward w' P p (p.finish k) := by
  rw [WorkerPool.finish]
  split <;> exact .of_sub (fun _ he => he) fun _ he => he

/-- An executor begins the first job of the queue, if it finds one. -/
theorem onward_take {p p' : WorkerPool Job} {found : WorkerPool.Find Job}
    (ht : p.take? i = some (p', found)) (hbegun : ∀ job, found = .job job → w.begun w' = [(P, job)]) :
    w.Onward w' P p p' := by
  obtain ⟨-, ⟨ticket, first, rest, hqueue, rfl, rfl⟩ | ⟨-, -, -, rfl⟩⟩ := WorkerPool.take?_cases ht
  · refine ⟨fun _ he => Or.inl he, fun e he => ?_⟩
    rw [hqueue] at he
    rcases List.mem_cons.mp he with rfl | he
    · exact Or.inr (hbegun _ rfl)
    · exact Or.inl he
  · exact .of_sub (fun _ he => he) fun _ he => he

/-- **What becomes of the submissions and the queue of a pool** in a step. -/
theorem Step.pool_forth (hs : w.Step w') (hp : ∀ (P : Nat) p, w.pools[P]? = some p → p.Sound)
    {p : WorkerPool Job} (h : w.pools[P]? = some p) :
    ∃ p', w'.pools[P]? = some p' ∧ w.Onward w' P p p' := by
  have hsame : w'.pools = w.pools → ∃ p', w'.pools[P]? = some p' ∧ w.Onward w' P p p' :=
    fun hpools => ⟨p, hpools ▸ h, .refl p⟩
  -- one pool is put in the place of another
  have hone : ∀ {Q : Nat} {q q' : WorkerPool Job}, Puts Q q q' w w' →
      (Q = P → w.Onward w' P q q') → ∃ p', w'.pools[P]? = some p' ∧ w.Onward w' P p p' := by
    intro Q q q' hputs honward
    rcases hputs.forth h with ⟨hQ, rfl, hp'⟩ | ⟨-, hp'⟩
    · exact ⟨q', hp', honward hQ.symm⟩
    · exact ⟨p, hp', .refl p⟩
  obtain ⟨id, hturn⟩ | ⟨call, context?, client?, conclude, name?, -, rfl⟩ | hout :=
    hs.cases_outside
  · cases deed_of_turn hturn with
    | quiet _ _ _ _ _ pools =>
      rcases pools with pools | ⟨Q, q, q', hputs, hmarks⟩
      · exact hsame pools
      · exact hone hputs fun _ => .of_marks hmarks
    | exchange _ _ _ _ _ _ _ _ _ pools => exact hsame pools
    | receive _ _ _ _ _ _ pools => exact hsame pools
    | drain _ _ _ _ _ _ pools => exact hsame pools
    | leave _ _ _ _ _ _ _ pools => exact hsame pools
    | take _ _ _ _ _ _ _ pools => exact hsame pools
    | submit v Q sub placement hand turn pools =>
      obtain ⟨q, ⟨offered, rfl, hputs, -⟩ | ⟨ticket, q', verdict, rfl, ha, hputs, -⟩⟩ :=
        puts_of_submission turn pools
      · exact hone hputs fun _ => onward_submit q offered
      · exact hone hputs fun hQ => onward_advance (hp Q q hputs.before) hturn (hQ ▸ hand) ha
    | run _ _ _ _ _ _ _ pools => exact hsame pools
    | finish _ _ _ _ _ _ _ _ _ pools =>
      rcases pools with ⟨-, pools⟩ | ⟨Q, k, q, -, -, hputs⟩
      · exact hsame pools
      · exact hone hputs fun _ => onward_finish q k
    | pick Q k q q' first program taken puts program' =>
      refine hone puts fun hQ => onward_take taken fun job hjob => ?_
      cases hjob
      rw [begun_pick hturn program program', hQ]
    | exit Q k q q' program taken puts =>
      exact hone puts fun _ => onward_take taken fun job hjob => nomatch hjob
  · exact ⟨p, h, .refl p⟩
  · obtain ⟨p', hp', hmarks⟩ := hout.pools P p h
    exact ⟨p', hp', .of_marks hmarks⟩

/-! ### Courses -/

/-- Whether at most one call that stops a service is under way. -/
def OneStop (s : ServiceId) (w : World) : Prop :=
  ∀ (id id' : Nat) stage stage', w.program? id = some (.stop s stage) →
    w.program? id' = some (.stop s stage') → id = id'

/-- **A run and the jobs that begin in it.** Calls that stop service `s` do not overlap, and nobody else
closes the pool. -/
inductive Course (s : ServiceId) (P : PoolId) (u : World) : World → List (PoolId × Job) → Prop
  | refl : Course s P u u []
  | tail {v w : World} {jobs : List (PoolId × Job)} (h : Course s P u v jobs)
      (step : OwnStep s P v w) (one : w.OneStop s) : Course s P u w (jobs ++ v.begun w)

/-- In a course nobody else closes the pool. -/
theorem Course.ownSteps (h : Course s P u w jobs) : OwnSteps s P u w := by
  induction h with
  | refl => exact .refl
  | tail _ hs _ ih => exact ih.tail hs

/-- A course is a run. -/
theorem Course.steps (h : Course s P u w jobs) : Steps u w := OwnSteps.steps h.ownSteps

/-- One course after another. -/
theorem Course.trans (h : Course s P u v jobs) (h' : Course s P v w jobs') :
    Course s P u w (jobs ++ jobs') := by
  induction h' with
  | refl => rwa [List.append_nil]
  | tail h' hs hone ih =>
    rw [← List.append_assoc]
    exact ih.tail hs hone

/-- Calls that stop the service do not overlap at the end of a course. -/
theorem Course.oneStop (h : Course s P {} w jobs) : w.OneStop s := by
  cases h with
  | refl =>
    intro id id' stage stage' hid
    rw [program?_empty] at hid
    cases hid
  | tail _ _ hone => exact hone

/-! ### No job begins twice -/

/-- A job that an executor takes out of a queue is nowhere any more. -/
theorem not_at_of_pick {p p' : WorkerPool Job} (h : w.Located) (hs : p.Sound)
    (hturn : w.turn id = some w') (taken : p.take? i = some (p', .job job))
    (puts : Puts P p p' w w') (program' : w'.program? id = some (.execute P i (some job.run)))
    (bus : w'.bus = w.bus) (hc : job.request.IsOf c) : w.bus.Sent c ∧ ∀ y, ¬ w'.At c y := by
  obtain ⟨-, ⟨ticket, _, rest, hqueue, hfound, rfl⟩ | ⟨-, -, hfound, -⟩⟩ :=
    WorkerPool.take?_cases taken
  · cases hfound
    have hat : w.At c (.queued P ticket) :=
      ⟨p, job, puts.before, by rw [hqueue]; exact List.mem_cons_self, hc⟩
    refine ⟨h.sent c _ hat, fun y hy => ?_⟩
    have hback : w.At c y := by
      cases y with
      | stored k =>
        obtain ⟨r, hr, hr'⟩ := hy
        exact ⟨r, bus ▸ hr, hr'⟩
      | offered k =>
        by_cases hk : k = id
        · obtain ⟨Q, other, hother, -⟩ := hk ▸ hy
          rw [hand?_eq program'] at hother
          cases hother
        · exact (at_offered_of_turn hturn hk).mp hy
      | waiting Q k =>
        exact (puts.at_sub (fun _ he => he) (fun _ he => hqueue ▸ List.mem_cons_of_mem _ he) Q k).1 hy
      | queued Q k =>
        exact (puts.at_sub (fun _ he => he) (fun _ he => hqueue ▸ List.mem_cons_of_mem _ he) Q k).2 hy
    -- the one place where it was is the one that it has left
    rw [h.unique c y _ hback hat] at hy
    obtain ⟨-, other, hother, -⟩ := ((puts.at_pools P ticket).2.mp hy).resolve_right
      fun hne => hne.1 rfl
    have hnodup : (p.queue.map Prod.fst).Nodup :=
      (List.nodup_append.mp (hs.tickets_nodup.of_append_left)).2.1
    rw [hqueue] at hnodup
    exact (List.nodup_cons.mp hnodup).1 (List.mem_map.mpr ⟨_, hother, rfl⟩)
  · cases hfound

/-- A request that was sent and is nowhere stays nowhere. -/
theorem Located.gone (h : w.Located) (hp : ∀ (P : Nat) p, w.pools[P]? = some p → p.Sound)
    (hs : w.Step w') (hsent : w.bus.Sent c) (hnone : ∀ x, ¬ w.At c x) :
    w'.bus.Sent c ∧ ∀ x, ¬ w'.At c x := by
  refine ⟨hs.sent hp hsent, fun x hx => ?_⟩
  cases h.shifts hp hs c with
  | stays hback => exact hnone x (hback x hx)
  | moves y y' had => exact hnone y had
  | enters _ pending => exact pending hsent

/-- **No request of a call is begun twice**, and one that is begun is nowhere else any more. -/
theorem Course.once (h : Course s P {} w jobs) :
    (jobs.Pairwise fun e e' => ∀ c, e.2.request.IsOf c → ¬ e'.2.request.IsOf c) ∧
      ∀ (c : Nat), ∀ e ∈ jobs, e.2.request.IsOf c → w.bus.Sent c ∧ ∀ x, ¬ w.At c x := by
  induction h with
  | refl => exact ⟨.nil, fun c e he => absurd he List.not_mem_nil⟩
  | @tail v w jobs h hs _ ih =>
    obtain ⟨hpairs, hgone⟩ := ih
    have hsound := (Attended.of_steps h.steps).pools
    have hlocated := Located.of_steps h.steps
    have hstays : ∀ c, v.bus.Sent c → (∀ x, ¬ v.At c x) → w.bus.Sent c ∧ ∀ x, ¬ w.At c x :=
      fun c => hlocated.gone hsound hs.1
    rcases begun_cases hs.1 with hnil | ⟨id, Q, k, p, p', job, hturn, -, taken, puts, program', bus,
      hbegun⟩
    · rw [hnil, List.append_nil]
      exact ⟨hpairs, fun c e he hc => (hgone c e he hc).elim (hstays c)⟩
    · have hpick := fun {c} (hc : job.request.IsOf c) =>
        not_at_of_pick hlocated (hsound Q p puts.before) hturn taken puts program' bus hc
      rw [hbegun]
      refine ⟨List.pairwise_append.mpr ⟨hpairs, List.pairwise_singleton _ _, ?_⟩, ?_⟩
      · intro e he e' he' c hc hc'
        rw [List.mem_singleton.mp he'] at hc'
        obtain ⟨-, ⟨ticket, _, rest, hqueue, hfound, -⟩ | ⟨-, -, hfound, -⟩⟩ :=
          WorkerPool.take?_cases taken
        · cases hfound
          refine (hgone c e he hc).2 (.queued Q ticket) ⟨p, job, puts.before, ?_, hc'⟩
          rw [hqueue]
          exact List.mem_cons_self
        · cases hfound
      · intro c e he hc
        rcases List.mem_append.mp he with he | he
        · exact (hgone c e he hc).elim (hstays c)
        · rw [List.mem_singleton.mp he] at hc
          exact ⟨hs.1.sent hsound (hpick hc).1, (hpick hc).2⟩

/-! ### The pool of the service -/

/-- **When the pool of the service is closed no loop of the service is left.** -/
theorem Course.no_loop (h : Course s P {} w jobs) (hshut : w.PoolShut P) : ∃ service : Service,
    w.services[s]? = some service ∧ w.scopes.isCancelled service.stop = true ∧
      ∀ (t : Nat) d, w.program? t = some (.deliver d) → d.stop ≠ service.stop := by
  induction h with
  | refl =>
    obtain ⟨p, hp, -⟩ := hshut
    cases hp
  | @tail v w jobs h hs _ ih =>
    have hattended := Attended.of_steps h.steps
    have hattended' := hattended.step hs.1
    by_cases hbefore : v.PoolShut P
    · obtain ⟨old, hold, hc, hnone⟩ := ih hbefore
      obtain ⟨service, hservice, hc', hloops⟩ := hs.1.stopped hattended hattended' hold hc
      refine ⟨service, hservice, hc', fun t d hd heq => ?_⟩
      obtain ⟨d', hd', heq'⟩ := hloops t d hd heq
      exact hnone t d' hd' heq'
    · obtain ⟨id, habout, hturn⟩ := hs.2 hbefore hshut
      obtain ⟨old, hold, hnil, hc⟩ := hattended.signalled id s _ habout.1 (by simp)
      obtain ⟨service, hservice, hc', hloops⟩ := hs.1.stopped hattended hattended' hold hc
      refine ⟨service, hservice, hc', fun t d hd heq => ?_⟩
      -- a call would wait for the loop, and it is not the one that closes the pool
      obtain ⟨d', hd', heq'⟩ := hloops t d hd heq
      obtain ⟨other, loops, hother, -⟩ := hattended.awaited_of_nil hold hnil hd' heq'
      have hsame := h.oneStop other id _ _ hother habout.1
      rw [hsame, habout.1] at hother
      cases hother

/-- The pool of the service is open as long as one of its loops is there. -/
theorem Course.open (h : Course s P {} w jobs) {service : Service} {d : Delivery}
    (hs : w.services[s]? = some service) (ht : w.program? t = some (.deliver d))
    (hstop : d.stop = service.stop) : ¬ w.PoolShut P := by
  intro hshut
  obtain ⟨service', hs', -, hnone⟩ := h.no_loop hshut
  rw [hs] at hs'
  obtain rfl := Option.some.inj hs'
  exact hnone t d ht hstop

end World

end ServiceBus.Bus
