import ServiceBus.Proofs.World.Course

/-! # How jobs flow through a pool

What becomes in a step of the submissions that wait in a pool, of its queue and of its executors, with
what the task that takes part has in hand before and afterwards.

* `World.Flow`: all that a step can do with the jobs of one pool. The queue gains at its end and loses
  its head.
* `Flow.waiting`: who waits in the pool afterwards.
* `Step.flow`: every step does one of these things, and only to the task that has its turn. -/

namespace ServiceBus.Bus

namespace World

variable {w w' v : World} {id P : Nat} {p : WorkerPool Job}

/-- **What a step does with the jobs of a pool**: those that wait, the queue, and those that executors
have. -/
inductive Flow (w : World) (id : TaskId) (w' : World) (P : PoolId) (p p' : WorkerPool Job) : Prop
  /-- All stay where they are, apart from a submission that gets a permit. -/
  | rests (hand : ∀ s, w.hand? id = some (.submitting P s) → w'.hand? id = some (.submitting P s))
      (waiting : p'.waiting.Perm p.waiting) (queue : p'.queue = p.queue) (busy : p'.busy = p.busy)
  /-- A job is offered and waits. -/
  | joins (job : Job) (hand : w.hand? id = some (.submitting P (.offered job)))
      (hand' : w'.hand? id = some (.submitting P (.placed p.issued)))
      (waiting : p'.waiting.Perm ((p.issued, job) :: p.waiting)) (queue : p'.queue = p.queue)
      (busy : p'.busy = p.busy)
  /-- A job that waited is queued. -/
  | queues (ticket : Ticket) (job : Job) (hand : w.Places id P ticket) (hand' : w'.hand? id = none)
      (waiting : p.waiting.Perm ((ticket, job) :: p'.waiting))
      (queue : p'.queue = p.queue ++ [(ticket, job)]) (busy : p'.busy = p.busy)
  /-- A job is handed back. -/
  | refuses (s : Submission) (hand : w.hand? id = some (.submitting P s))
      (hand' : ∀ Q s', w'.hand? id ≠ some (.submitting Q s'))
      (waiting : p'.waiting = p.waiting ∧ (∀ ticket, s ≠ .placed ticket) ∨
        ∃ ticket job, s = .placed ticket ∧ p.waiting.Perm ((ticket, job) :: p'.waiting))
      (queue : p'.queue = p.queue) (busy : p'.busy = p.busy)
  /-- An executor takes the first job of the queue. -/
  | starts (i : Nat) (ticket : Ticket) (job : Job) (hand : w.hand? id = none)
      (hand' : w'.hand? id = some (.running job.run)) (waiting : p'.waiting = p.waiting)
      (queue : p.queue = (ticket, job) :: p'.queue) (busy : p'.busy = p.busy ++ [(i, ticket)])
  /-- An executor is done with its job. -/
  | ends (i : Nat) (run : Run) (hand : w.hand? id = some (.running run))
      (hand' : w'.hand? id = none) (waiting : p'.waiting = p.waiting) (queue : p'.queue = p.queue)
      (busy : p'.busy = p.busy.filter (·.1 != i))

/-- A pool that is marked rests. -/
theorem Flow.marks {p' : WorkerPool Job} (h : p.Marks p')
    (hand : ∀ s, w.hand? id = some (.submitting P s) → w'.hand? id = some (.submitting P s)) :
    w.Flow id w' P p p' := by
  obtain ⟨_, _, _, _, rfl⟩ := h
  exact .rests hand (.refl _) rfl rfl

/-- **Who waits in a pool after a step** has waited there before, and whoever placed the submission goes
on with it, or has just been placed. -/
theorem Flow.waiting {p' : WorkerPool Job} (h : w.Flow id w' P p p') (hs : p.Sound)
    (others : ∀ j : Nat, j ≠ id → ∀ program, w.program? j = some program →
      w'.program? j = some program) {ticket : Ticket} {job : Job}
    (hmem : (ticket, job) ∈ p'.waiting) :
    (ticket, job) ∈ p.waiting ∧ (∀ j, w.Places j P ticket → w'.Places j P ticket) ∨
      w.hand? id = some (.submitting P (.offered job)) ∧ w'.Places id P ticket := by
  -- only the task that has its turn may give its submission up
  have hkeep : (w.Places id P ticket → w'.Places id P ticket) →
      ∀ j, w.Places j P ticket → w'.Places j P ticket := by
    intro hself j hj
    by_cases hne : j = id
    · exact hne ▸ hself (hne ▸ hj)
    · obtain ⟨program, hprogram, hhand⟩ := Option.bind_eq_some_iff.mp hj
      exact (hand?_eq (others j hne program hprogram)).trans hhand
  have hleft : ∀ {first job'}, p.waiting.Perm ((first, job') :: p'.waiting) → first ≠ ticket := by
    rintro first job' hperm rfl
    exact hs.not_waiting_of_perm hperm (List.mem_map_of_mem hmem)
  cases h with
  | rests hand waiting => exact Or.inl ⟨waiting.mem_iff.mp hmem, hkeep (hand _)⟩
  | joins job' hand hand' waiting =>
    rcases List.mem_cons.mp (waiting.mem_iff.mp hmem) with heq | hold
    · cases heq
      exact Or.inr ⟨hand, hand'⟩
    · refine Or.inl ⟨hold, hkeep fun hplaces => ?_⟩
      cases hand.symm.trans hplaces
  | queues first job' hand _ waiting =>
    refine Or.inl ⟨waiting.mem_iff.mpr (List.mem_cons_of_mem _ hmem), hkeep fun hplaces => ?_⟩
    cases hand.symm.trans hplaces
    exact absurd rfl (hleft waiting)
  | refuses s hand _ waiting =>
    rcases waiting with ⟨waiting, hnot⟩ | ⟨first, job', rfl, waiting⟩
    · refine Or.inl ⟨waiting ▸ hmem, hkeep fun hplaces => ?_⟩
      cases hand.symm.trans hplaces
      exact absurd rfl (hnot ticket)
    · refine Or.inl ⟨waiting.mem_iff.mpr (List.mem_cons_of_mem _ hmem), hkeep fun hplaces => ?_⟩
      cases hand.symm.trans hplaces
      exact absurd rfl (hleft waiting)
  | starts _ _ _ hand _ waiting =>
    refine Or.inl ⟨waiting ▸ hmem, hkeep fun hplaces => ?_⟩
    cases hand.symm.trans hplaces
  | ends _ _ hand _ waiting =>
    refine Or.inl ⟨waiting ▸ hmem, hkeep fun hplaces => ?_⟩
    cases hand.symm.trans hplaces

/-- What the step of a submission does with the jobs of its pool. -/
theorem flow_submit {s : Submission} {placement : Placement} {p' : WorkerPool Job} (hs : p.Sound)
    (hand : w.hand? id = some (.submitting P s)) (next : Submitted w id P w' placement)
    (hcase : (∃ job, s = .offered job ∧ p' = (p.submit job).1 ∧
        placement = .ofVerdict p.issued (p.submit job).2) ∨
      ∃ ticket verdict, s = .placed ticket ∧ p.advance? ticket = some (p', verdict) ∧
        placement = .ofVerdict ticket verdict) :
    p'.capacity = p.capacity ∧ w.Flow id w' P p p' := by
  -- what is handed back is not submitted any more
  have hback : ∀ {job : Job}, placement = .handedBack job →
      ∀ Q s', w'.hand? id ≠ some (.submitting Q s') := by
    rintro job rfl Q s' hsub
    cases next with
    | refused _ _ hand' =>
      rw [hand'] at hsub
      cases hsub
    | returned _ hand' =>
      rw [hand'] at hsub
      cases hsub
  rcases hcase with ⟨job, rfl, rfl, hplacement⟩ | ⟨ticket, verdict, rfl, ha, hplacement⟩
  · rcases p.submit_cases job with ⟨-, hsubmit⟩ | ⟨-, hsubmit⟩
    · rw [hsubmit] at hplacement ⊢
      exact ⟨rfl, .refuses _ hand (hback hplacement) (Or.inl ⟨rfl, by simp⟩) rfl rfl⟩
    · rw [hsubmit] at hplacement ⊢
      subst hplacement
      cases next with
      | onward _ hand' =>
        refine ⟨rfl, .joins job hand hand' ?_ rfl rfl⟩
        show (p.line ++ [(p.issued, job)] ++ p.admitted).Perm _
        rw [List.append_assoc]
        exact List.perm_middle
  · obtain ⟨hcapacity, -, -, hbusy, -⟩ := WorkerPool.advance?_frame ha
    refine ⟨hcapacity, ?_⟩
    obtain ⟨job, ⟨rfl, -, hperm, hqueue⟩ | ⟨rfl, -, hperm, hqueue⟩ | ⟨rfl, -, hperm, hqueue⟩⟩ :=
      hs.advance?_cases ha
    · subst hplacement
      cases next with
      | onward _ hand' =>
        refine .rests (fun s hs => ?_) hperm hqueue hbusy
        rw [← hs, hand, hand']
    · subst hplacement
      cases next with
      | queued hand' => exact .queues ticket job hand hand' hperm hqueue hbusy
    · exact .refuses _ hand (hback hplacement) (Or.inr ⟨ticket, job, rfl, hperm⟩) hqueue hbusy

/-- What a turn does with the jobs of a pool. -/
theorem flow_of_turn (hs : ∀ (P : Nat) p, w.pools[P]? = some p → p.Sound)
    (h : w.turn id = some w') (hp : w.pools[P]? = some p) :
    ∃ p', w'.pools[P]? = some p' ∧ p'.capacity = p.capacity ∧ w.Flow id w' P p p' := by
  have hvacuous : (∀ s, w.hand? id ≠ some (.submitting P s)) →
      ∀ s, w.hand? id = some (.submitting P s) → w'.hand? id = some (.submitting P s) :=
    fun hne s hand => absurd hand (hne s)
  have hsame : w'.pools = w.pools → (∀ s, w.hand? id ≠ some (.submitting P s)) →
      ∃ p', w'.pools[P]? = some p' ∧ p'.capacity = p.capacity ∧ w.Flow id w' P p p' :=
    fun hpools hne => ⟨p, hpools ▸ hp, rfl, .rests (hvacuous hne) (.refl _) rfl rfl⟩
  -- one pool is put in the place of another
  have hone : ∀ {Q : Nat} {q q' : WorkerPool Job}, Puts Q q q' w w' →
      (Q ≠ P → ∀ s, w.hand? id ≠ some (.submitting P s)) →
      (Q = P → q'.capacity = q.capacity ∧ w.Flow id w' P q q') →
      ∃ p', w'.pools[P]? = some p' ∧ p'.capacity = p.capacity ∧ w.Flow id w' P p p' := by
    intro Q q q' hputs hne hflow
    rcases hputs.forth hp with ⟨hQ, rfl, hp'⟩ | ⟨hQ, hp'⟩
    · exact ⟨q', hp', hflow hQ.symm⟩
    · exact ⟨p, hp', rfl, .rests (hvacuous (hne (Ne.symm hQ))) (.refl _) rfl rfl⟩
  have hother : ∀ {before : Option Handling}, w.hand? id = before →
      (∀ s, before ≠ some (.submitting P s)) → ∀ s, w.hand? id ≠ some (.submitting P s) :=
    fun heq hne => heq ▸ hne
  cases deed_of_turn h with
  | quiet _ hand _ _ _ pools =>
    have hne := hother hand (by simp)
    rcases pools with pools | ⟨Q, q, q', hputs, hmarks⟩
    · exact hsame pools hne
    · refine hone hputs (fun _ => hne) fun _ => ⟨?_, .marks hmarks (hvacuous hne)⟩
      obtain ⟨_, _, _, _, rfl⟩ := hmarks
      rfl
  | exchange _ _ _ _ _ program _ _ _ pools =>
    exact hsame pools (hother (hand?_eq program) (by simp [Program.handling?]))
  | receive _ _ _ program _ _ pools =>
    exact hsame pools (hother (hand?_eq program) (by simp [Program.handling?]))
  | drain _ _ hand _ _ _ pools => exact hsame pools (hother hand (by simp))
  | leave _ _ hand _ _ _ _ pools => exact hsame pools (hother hand (by simp))
  | take _ _ _ hand _ _ _ pools => exact hsame pools (hother hand (by simp))
  | submit v Q s placement hand turn pools _ next =>
    have hne : Q ≠ P → ∀ s, w.hand? id ≠ some (.submitting P s) := by
      intro hQ s' hs'
      rw [hand] at hs'
      cases hs'
      exact hQ rfl
    obtain ⟨q, ⟨job, hs', hputs, hplacement⟩ | ⟨ticket, q', verdict, hs', ha, hputs, hplacement⟩⟩ :=
      puts_of_submission turn pools
    · refine hone hputs hne fun hQ => ?_
      exact flow_submit (hs Q q hputs.before) (hQ ▸ hand) (hQ ▸ next)
        (Or.inl ⟨job, hs', rfl, hplacement⟩)
    · refine hone hputs hne fun hQ => ?_
      exact flow_submit (hs Q q hputs.before) (hQ ▸ hand) (hQ ▸ next)
        (Or.inr ⟨ticket, verdict, hs', ha, hplacement⟩)
  | run _ _ _ hand _ _ _ pools => exact hsame pools (hother hand (by simp))
  | finish _ run _ hand _ _ hand' _ _ pools =>
    have hne := hother hand (by simp)
    rcases pools with ⟨-, pools⟩ | ⟨Q, k, q, -, -, hputs⟩
    · exact hsame pools hne
    · refine hone hputs (fun _ => hne) fun _ => ?_
      rw [WorkerPool.finish]
      split
      · exact ⟨rfl, .ends k run hand hand' rfl rfl rfl⟩
      · exact ⟨rfl, .rests (hvacuous hne) (.refl _) rfl rfl⟩
  | pick Q k q q' job program taken puts program' =>
    have hne := hother (hand?_eq program) (by simp [Program.handling?])
    obtain ⟨-, ⟨ticket, first, rest, hqueue, hfound, rfl⟩ | ⟨-, -, hfound, -⟩⟩ :=
      WorkerPool.take?_cases taken
    · cases hfound
      exact hone puts (fun _ => hne) fun _ =>
        ⟨rfl, .starts k ticket job (hand?_eq program) (hand?_eq program') rfl hqueue rfl⟩
    · cases hfound
  | exit Q k q q' program taken puts =>
    have hne := hother (hand?_eq program) (by simp [Program.handling?])
    obtain ⟨-, ⟨_, _, _, -, hfound, -⟩ | ⟨-, -, -, rfl⟩⟩ := WorkerPool.take?_cases taken
    · cases hfound
    · exact hone puts (fun _ => hne) fun _ => ⟨rfl, .rests (hvacuous hne) (.refl _) rfl rfl⟩

/-- **What every step does with the jobs of a pool**, to at most one task, in its turn. -/
theorem Step.flow (h : w.Step w') (hs : ∀ (P : Nat) p, w.pools[P]? = some p → p.Sound)
    (hp : w.pools[P]? = some p) : ∃ id p', w'.pools[P]? = some p' ∧ p'.capacity = p.capacity ∧
      w.Flow id w' P p p' ∧ (w.turn id = some w' ∨ w.program? id = none) ∧
      ∀ j : Nat, j ≠ id → ∀ program, w.program? j = some program →
        w'.program? j = some program := by
  have hnone : w.program? w.tasks.length = none := program?_eq_none (Nat.lt_irrefl _)
  have hvacuous : ∀ s, w.hand? w.tasks.length = some (.submitting P s) →
      w'.hand? w.tasks.length = some (.submitting P s) := by
    intro s hand
    rw [hand?_eq_none hnone] at hand
    cases hand
  obtain ⟨id, hturn⟩ | ⟨call, context?, client?, conclude, name?, -, rfl⟩ | hout := h.cases_outside
  · obtain ⟨p', hp', hcapacity, hflow⟩ := flow_of_turn hs hturn hp
    refine ⟨id, p', hp', hcapacity, hflow, Or.inl hturn, fun j hj program hprogram => ?_⟩
    rw [(others_of_turn hturn).2 j hj, hprogram]
  · refine ⟨w.tasks.length, p, hp, rfl, .rests hvacuous (.refl _) rfl rfl, Or.inr hnone,
      fun j hj program hprogram => ?_⟩
    rw [program?_spawn, if_neg (show j ≠ (w.withBus (w.bus.ask call)).tasks.length from hj)]
    exact hprogram
  · obtain ⟨p', hp', hmarks⟩ := hout.pools P p hp
    refine ⟨w.tasks.length, p', hp', ?_, .marks hmarks hvacuous, Or.inr hnone,
      fun j _ => hout.programs j⟩
    obtain ⟨_, _, _, _, rfl⟩ := hmarks
    rfl

end World

end ServiceBus.Bus
