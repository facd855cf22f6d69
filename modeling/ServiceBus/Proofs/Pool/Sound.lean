import ServiceBus.Proofs.Pool.Operations

/-! # Sound pools

`WorkerPool.Sound` is what holds of a pool at all times, and every operation keeps it.

* Every submission is in one place, every executor is idle, busy or has exited.
* Executors exit only when the queue is shut and empty.
* Every permit is free or held, and it is held by a submission that is admitted, by a queued job or by
  a job with an executor. -/

namespace ServiceBus.Bus

namespace WorkerPool

variable {α : Type} {p p' : WorkerPool α} {job : α} {t i requested : Nat}

/-- What holds of a pool at all times. -/
structure Sound (p : WorkerPool α) : Prop where
  capacity_pos : 0 < p.capacity
  tickets_nodup : p.tickets.Nodup
  ticket_lt : ∀ t ∈ p.tickets, t < p.issued
  executors_nodup : p.executors.Nodup
  executor_lt : ∀ i ∈ p.executors, i < p.capacity
  drained : ∀ i, i < p.capacity → i ∉ p.executors → p.queueShut = true ∧ p.queue = []
  permits : p.permits + p.inFlight = p.capacity
  inFlight : p.inFlight = p.admitted.length + p.queue.length + p.busy.length

/-- A pool without executors for its jobs gets one. -/
theorem capacityFor_pos (requested : Nat) : 0 < capacityFor requested := by
  rw [capacityFor]
  split
  · exact Nat.zero_lt_one
  · rename_i h
    exact Nat.pos_of_ne_zero h

/-- The executors of a new pool. -/
theorem executors_new : (new (α := α) requested).executors = List.range (capacityFor requested) :=
  List.append_nil _

/-- A new pool is sound. -/
theorem Sound.new : (WorkerPool.new (α := α) requested).Sound where
  capacity_pos := capacityFor_pos requested
  tickets_nodup := List.nodup_nil
  ticket_lt _ h := absurd h List.not_mem_nil
  executors_nodup := by rw [executors_new]; exact List.nodup_range
  executor_lt i h := by rw [executors_new] at h; exact List.mem_range.mp h
  drained i hi h := by rw [executors_new, List.mem_range] at h; exact absurd hi h
  permits := Nat.add_zero _
  inFlight := rfl

/-! ### Submissions -/

/-- No submission stands in the line twice. -/
theorem Sound.line_nodup (h : p.Sound) : (p.line.map Prod.fst).Nodup := by
  have hn := h.tickets_nodup
  rw [tickets, waiting, List.map_append, List.append_assoc, List.append_assoc] at hn
  exact hn.of_append_left

/-- No submission is admitted twice. -/
theorem Sound.admitted_nodup (h : p.Sound) : (p.admitted.map Prod.fst).Nodup := by
  have hn := h.tickets_nodup
  rw [tickets, waiting, List.map_append, List.append_assoc, List.append_assoc] at hn
  exact hn.of_append_right.of_append_left

/-- No executor has two jobs. -/
theorem Sound.busy_nodup (h : p.Sound) : (p.busy.map Prod.fst).Nodup :=
  h.executors_nodup.of_append_right

/-- What leaves the line is the submission that was found there. -/
theorem Sound.waiting_leaveLine (h : p.Sound) (hl : p.line.lookup t = some job) :
    p.waiting.Perm ((t, job) :: (p.leaveLine t).waiting) :=
  (perm_cons_filter h.line_nodup hl).append_right p.admitted

/-- What leaves the admitted ones is the submission that was found there. -/
theorem Sound.waiting_leaveAdmitted (h : p.Sound) (hl : p.admitted.lookup t = some job) :
    p.waiting.Perm ((t, job) :: (p.leaveAdmitted t).waiting) :=
  ((perm_cons_filter h.admitted_nodup hl).append_left p.line).trans List.perm_middle

/-- One admitted submission fewer. -/
theorem Sound.length_leaveAdmitted (h : p.Sound) (hl : p.admitted.lookup t = some job) :
    p.admitted.length = (p.leaveAdmitted t).admitted.length + 1 :=
  (perm_cons_filter h.admitted_nodup hl).length_eq

/-- The submissions of a pool are fewer by the one that stops waiting. -/
theorem tickets_of_waiting (hw : p.waiting.Perm ((t, job) :: p'.waiting))
    (hq : p'.queue = p.queue) (hb : p'.busy = p.busy) : p.tickets.Perm (t :: p'.tickets) := by
  rw [tickets, tickets, hq, hb, List.append_assoc, List.append_assoc, ← List.cons_append]
  exact (hw.map Prod.fst).append_right _

/-- A submission that is queued is as before one of the pool. -/
theorem tickets_of_queued (hw : p.waiting.Perm ((t, job) :: p'.waiting))
    (hq : p'.queue = p.queue ++ [(t, job)]) (hb : p'.busy = p.busy) :
    p.tickets.Perm p'.tickets := by
  rw [tickets, tickets, hq, hb, List.map_append, List.map_singleton]
  refine List.Perm.append_right _ ((hw.map Prod.fst).append_right _ |>.trans ?_)
  rw [List.map_cons, List.cons_append, ← List.append_assoc]
  exact (List.perm_append_singleton _ _).symm

/-- A pool with the executors of a sound one and with some of its submissions is sound if its permits
are. -/
theorem Sound.of_tickets (h : p.Sound) (hc : p'.capacity = p.capacity)
    (hi : p'.issued = p.issued) (ht : p'.tickets.Subperm p.tickets)
    (he : p'.executors = p.executors) (hshut : p'.queueShut = p.queueShut)
    (hq : p.queueShut = true → p'.queue = p.queue)
    (hpermits : p'.permits + p'.inFlight = p'.capacity)
    (hin : p'.inFlight = p'.admitted.length + p'.queue.length + p'.busy.length) : p'.Sound where
  capacity_pos := by rw [hc]; exact h.capacity_pos
  tickets_nodup := by
    obtain ⟨some, hperm, hsub⟩ := ht
    exact hperm.nodup_iff.mp (hsub.nodup h.tickets_nodup)
  ticket_lt t hmem := by rw [hi]; exact h.ticket_lt t (ht.subset hmem)
  executors_nodup := by rw [he]; exact h.executors_nodup
  executor_lt i hmem := by rw [hc]; exact h.executor_lt i (he ▸ hmem)
  drained i hlt hn := by
    have hd := h.drained i (hc ▸ hlt) (he ▸ hn)
    rw [hshut, hq hd.1]
    exact hd
  permits := hpermits
  inFlight := hin

/-- One submission fewer. -/
theorem tickets_subperm (hp : p.tickets.Perm (t :: p'.tickets)) :
    p'.tickets.Subperm p.tickets :=
  (List.Subperm.cons_self).trans hp.symm.subperm

/-- An offer keeps a pool sound. -/
theorem Sound.submit (h : p.Sound) (job : α) : (p.submit job).1.Sound := by
  rcases submit_cases p job with ⟨-, hs⟩ | ⟨-, hs⟩
  · rw [hs]
    exact { h with ticket_lt := fun t ht => Nat.lt_succ_of_lt (h.ticket_lt t ht) }
  · rw [hs]
    have hperm : (tickets { p with issued := p.issued + 1,
                                   line := p.line ++ [(p.issued, job)] }).Perm
        (p.issued :: p.tickets) := by
      simp only [tickets, waiting, List.map_append, List.append_assoc, List.singleton_append]
      exact List.perm_middle
    refine { h with tickets_nodup := ?_, ticket_lt := ?_ }
    · rw [hperm.nodup_iff, List.nodup_cons]
      exact ⟨fun hmem => absurd (h.ticket_lt _ hmem) (Nat.lt_irrefl _), h.tickets_nodup⟩
    · intro t ht
      rcases List.mem_cons.mp (hperm.mem_iff.mp ht) with rfl | ht
      · exact Nat.lt_succ_self _
      · exact Nat.lt_succ_of_lt (h.ticket_lt t ht)

/-- A submission that leaves the line keeps a pool sound. -/
theorem Sound.leaveLine (h : p.Sound) (hl : p.line.lookup t = some job) : (p.leaveLine t).Sound :=
  h.of_tickets rfl rfl (tickets_subperm (tickets_of_waiting (h.waiting_leaveLine hl) rfl rfl))
    rfl rfl (fun _ => rfl) h.permits h.inFlight

/-- A submission that gives its permit back keeps a pool sound. -/
theorem Sound.leaveAdmitted (h : p.Sound) (hl : p.admitted.lookup t = some job) :
    (p.leaveAdmitted t).returnPermit.Sound := by
  have hlen := h.length_leaveAdmitted hl
  have hin := h.inFlight
  have hpermits := h.permits
  refine h.of_tickets rfl rfl
    (tickets_subperm (tickets_of_waiting (h.waiting_leaveAdmitted hl) rfl rfl))
    rfl rfl (fun _ => rfl) ?_ ?_
  · show p.permits + 1 + (p.inFlight - 1) = p.capacity
    omega
  · show p.inFlight - 1 = (p.leaveAdmitted t).admitted.length + p.queue.length + p.busy.length
    omega

/-- What a submission that goes on does to a pool, up to the order of those who wait. -/
theorem Sound.advance?_cases {v : Verdict α} (h : p.Sound) (ha : p.advance? t = some (p', v)) :
    ∃ job, (v = .onward ∧ (t, job) ∈ p.waiting ∧ p'.waiting.Perm p.waiting ∧ p'.queue = p.queue ∨
      v = .queued ∧ p.queueShut = false ∧ p.waiting.Perm ((t, job) :: p'.waiting) ∧
        p'.queue = p.queue ++ [(t, job)] ∨
      v = .handedBack job ∧ p.isShut = true ∧ p.waiting.Perm ((t, job) :: p'.waiting) ∧
        p'.queue = p.queue) := by
  rcases WorkerPool.advance?_cases ha with ha | ha
  · obtain ⟨job, hjob, hcase⟩ := admit?_cases ha
    have hleave := h.waiting_leaveLine hjob
    refine ⟨job, ?_⟩
    rcases hcase with ⟨hshut, rfl, rfl⟩ | ⟨-, -, rfl, rfl⟩
    · exact Or.inr (Or.inr ⟨rfl, by simp [isShut, hshut], hleave, rfl⟩)
    · refine Or.inl ⟨rfl, List.mem_append_left _ (mem_of_lookup hjob), ?_, rfl⟩
      refine List.Perm.trans ?_ hleave.symm
      show ((p.leaveLine t).line ++ (p.admitted ++ [(t, job)])).Perm _
      rw [← List.append_assoc]
      exact List.perm_append_singleton _ _
  · obtain ⟨job, hjob, hcase⟩ := enqueue?_cases ha
    have hleave := h.waiting_leaveAdmitted hjob
    refine ⟨job, ?_⟩
    rcases hcase with ⟨hshut, rfl, rfl⟩ | ⟨hshut, -, rfl, rfl⟩
    · exact Or.inr (Or.inr ⟨rfl, by simp [isShut, hshut], hleave, rfl⟩)
    · exact Or.inr (Or.inl ⟨rfl, hshut, hleave, rfl⟩)

/-- A submission that has left those that wait does not wait any more. -/
theorem Sound.not_waiting_of_perm (h : p.Sound) (hperm : p.waiting.Perm ((t, job) :: p'.waiting)) :
    t ∉ p'.waiting.map Prod.fst := by
  have hnodup : (p.waiting.map Prod.fst).Nodup := h.tickets_nodup.of_append_left.of_append_left
  exact (List.nodup_cons.mp ((hperm.map Prod.fst).nodup_iff.mp hnodup)).1

/-- A ticket is that of one job. -/
theorem Sound.job_of_perm {job' : α} (h : p.Sound)
    (hperm : p.waiting.Perm ((t, job) :: p'.waiting)) (hmem : (t, job') ∈ p.waiting) :
    job' = job := by
  rcases List.mem_cons.mp (hperm.mem_iff.mp hmem) with heq | hmem
  · exact (Prod.mk.inj heq).2
  · exact absurd (List.mem_map_of_mem hmem) (h.not_waiting_of_perm hperm)

/-- A submission that goes on leaves the rest of a pool alone. -/
theorem advance?_frame {v : Verdict α} (ha : p.advance? t = some (p', v)) :
    p'.capacity = p.capacity ∧ p'.issued = p.issued ∧ p'.idle = p.idle ∧ p'.busy = p.busy ∧
      p'.announced = p.announced ∧ p'.admissionShut = p.admissionShut ∧
      p'.queueShut = p.queueShut ∧ p'.unjoined = p.unjoined := by
  rcases WorkerPool.advance?_cases ha with ha | ha
  · obtain ⟨job, -, ⟨-, rfl, -⟩ | ⟨-, -, -, rfl⟩⟩ := admit?_cases ha
    · exact ⟨rfl, rfl, rfl, rfl, rfl, rfl, rfl, rfl⟩
    · exact ⟨rfl, rfl, rfl, rfl, rfl, rfl, rfl, rfl⟩
  · obtain ⟨job, -, ⟨-, rfl, -⟩ | ⟨-, -, -, rfl⟩⟩ := enqueue?_cases ha
    · exact ⟨rfl, rfl, rfl, rfl, rfl, rfl, rfl, rfl⟩
    · exact ⟨rfl, rfl, rfl, rfl, rfl, rfl, rfl, rfl⟩

/-- A submission that is admitted keeps a pool sound. -/
theorem Sound.admit (h : p.Sound) (hl : p.line.lookup t = some job) (hpos : 0 < p.permits) :
    Sound { (p.leaveLine t).takePermit with admitted := p.admitted ++ [(t, job)] } := by
  have hpermits := h.permits
  have hin := h.inFlight
  refine h.of_tickets rfl rfl (List.Perm.subperm ?_) rfl rfl (fun _ => rfl) ?_ ?_
  · refine List.Perm.append_right _ (List.Perm.append_right _ (List.Perm.map _ ?_))
    refine List.Perm.trans ?_ (h.waiting_leaveLine hl).symm
    show ((p.leaveLine t).line ++ (p.admitted ++ [(t, job)])).Perm _
    rw [← List.append_assoc]
    exact List.perm_append_singleton _ _
  · show p.permits - 1 + (p.inFlight + 1) = p.capacity
    omega
  · show p.inFlight + 1 = (p.admitted ++ [(t, job)]).length + p.queue.length + p.busy.length
    rw [List.length_append, List.length_singleton]
    omega

/-- A submission that is queued keeps a pool sound. -/
theorem Sound.enqueue (h : p.Sound) (hl : p.admitted.lookup t = some job)
    (hshut : p.queueShut = false) :
    Sound { p.leaveAdmitted t with queue := p.queue ++ [(t, job)] } := by
  have hlen := h.length_leaveAdmitted hl
  have hin := h.inFlight
  have htickets : p.tickets.Perm
      (tickets { p.leaveAdmitted t with queue := p.queue ++ [(t, job)] }) :=
    tickets_of_queued (h.waiting_leaveAdmitted hl) rfl rfl
  refine h.of_tickets rfl rfl htickets.symm.subperm rfl rfl ?_ h.permits ?_
  · intro hs
    rw [hshut] at hs
    exact absurd hs Bool.false_ne_true
  · show p.inFlight =
      (p.leaveAdmitted t).admitted.length + (p.queue ++ [(t, job)]).length + p.busy.length
    rw [List.length_append, List.length_singleton]
    omega

/-- A submission that goes on keeps a pool sound. -/
theorem Sound.advance {v : Verdict α} (h : p.Sound) (ha : p.advance? t = some (p', v)) :
    p'.Sound := by
  rcases WorkerPool.advance?_cases ha with ha | ha
  · obtain ⟨job, hjob, ⟨-, rfl, -⟩ | ⟨-, hpos, -, rfl⟩⟩ := admit?_cases ha
    · exact h.leaveLine hjob
    · exact h.admit hjob (Nat.zero_lt_of_lt hpos)
  · obtain ⟨job, hjob, ⟨-, rfl, -⟩ | ⟨hshut, -, -, rfl⟩⟩ := enqueue?_cases ha
    · exact h.leaveAdmitted hjob
    · exact h.enqueue hjob hshut

/-- A submission that is given up keeps a pool sound. -/
theorem Sound.abandon (h : p.Sound) (t : Nat) : (p.abandon t).Sound := by
  rcases abandon_cases p t with ⟨job, hjob, hp⟩ | ⟨job, hjob, hp⟩ | ⟨-, hp⟩
  · rw [hp]
    exact h.leaveAdmitted hjob
  · rw [hp]
    exact h.leaveLine hjob
  · rw [hp]
    exact h

/-! ### Executors -/

/-- The idle executors but one. -/
theorem Sound.idle_perm (h : p.Sound) (hi : i ∈ p.idle) :
    p.idle.Perm (i :: p.idle.filter (· != i)) := by
  have hn : p.idle.Nodup := h.executors_nodup.of_append_left
  rw [← hn.erase_eq_filter]
  exact List.perm_cons_erase hi

/-- An executor that takes a job stays one of the pool. -/
theorem Sound.executors_take (h : p.Sound) (hi : i ∈ p.idle) (k : Nat) :
    (wakeInVain k (p.idle.filter (· != i)) ++ (p.busy ++ [(i, t)]).map Prod.fst).Perm
      p.executors := by
  rw [List.map_append, List.map_singleton, ← List.append_assoc]
  refine (List.perm_append_singleton _ _).trans ?_
  rw [← List.cons_append]
  exact List.Perm.append_right _ (((wakeInVain_perm _ _).cons i).trans (h.idle_perm hi).symm)

/-- An executor whose job is over stays one of the pool. -/
theorem Sound.executors_finish (h : p.Sound) (hb : p.busy.lookup i = some t) :
    (p.idle ++ [i] ++ (p.busy.filter (·.1 != i)).map Prod.fst).Perm p.executors := by
  rw [List.append_assoc, List.singleton_append]
  exact ((perm_cons_filter h.busy_nodup hb).symm.map Prod.fst).append_left _

/-- A job that is taken is that of a submission as before. -/
theorem tickets_of_taken (hw : p'.waiting = p.waiting) (hq : p.queue = (t, job) :: p'.queue)
    (hb : p'.busy = p.busy ++ [(i, t)]) : p.tickets.Perm p'.tickets := by
  rw [tickets, tickets, hw, hq, hb, List.map_cons, List.map_append, List.map_singleton,
    List.append_assoc, List.append_assoc]
  refine List.Perm.append_left _ ?_
  rw [List.cons_append, ← List.append_assoc]
  exact (List.perm_append_singleton _ _).symm

/-- A job that is over is that of one submission. -/
theorem tickets_of_over (hw : p'.waiting = p.waiting) (hq : p'.queue = p.queue)
    (hb : p.busy.Perm ((i, t) :: p'.busy)) : p.tickets.Perm (t :: p'.tickets) := by
  rw [tickets, tickets, hw, hq]
  exact ((hb.map Prod.snd).append_left _).trans List.perm_middle

/-- Taking a job keeps a pool sound. -/
theorem Sound.takeJob (h : p.Sound) (hi : i ∈ p.idle) {rest : List (Ticket × α)}
    (hq : p.queue = (t, job) :: rest) :
    Sound { p with queue := rest, idle := wakeInVain rest.length (p.idle.filter (· != i)),
                   busy := p.busy ++ [(i, t)] } := by
  have hexecutors := h.executors_take (t := t) hi rest.length
  have htickets : p.tickets.Perm (tickets { p with
      queue := rest, idle := wakeInVain rest.length (p.idle.filter (· != i)),
      busy := p.busy ++ [(i, t)] }) := tickets_of_taken rfl hq rfl
  exact {
    capacity_pos := h.capacity_pos
    tickets_nodup := htickets.nodup_iff.mp h.tickets_nodup
    ticket_lt := fun t ht => h.ticket_lt t (htickets.mem_iff.mpr ht)
    executors_nodup := hexecutors.nodup_iff.mpr h.executors_nodup
    executor_lt := fun i hmem => h.executor_lt i (hexecutors.mem_iff.mp hmem)
    drained := fun i hlt hn => by
      have hd := h.drained i hlt fun hmem => hn (hexecutors.mem_iff.mpr hmem)
      rw [hq] at hd
      exact absurd hd.2 (List.cons_ne_nil _ _)
    permits := h.permits
    inFlight := by
      have hin := h.inFlight
      rw [hq, List.length_cons] at hin
      rw [List.length_append, List.length_singleton]
      show p.inFlight = p.admitted.length + rest.length + (p.busy.length + 1)
      omega }

/-- An executor that exits keeps a pool sound. -/
theorem Sound.exit (h : p.Sound) (hi : i ∈ p.idle) (hq : p.queue = [])
    (hshut : p.queueShut = true) : Sound { p with idle := p.idle.filter (· != i) } := by
  have hexecutors : p.executors.Perm (i :: (p.idle.filter (· != i) ++ p.busy.map Prod.fst)) :=
    (h.idle_perm hi).append_right _
  exact {
    h with
    executors_nodup := (List.nodup_cons.mp (hexecutors.nodup_iff.mp h.executors_nodup)).2
    executor_lt := fun i hmem =>
      h.executor_lt i (hexecutors.mem_iff.mpr (List.mem_cons_of_mem _ hmem))
    drained := fun _ _ _ => ⟨hshut, hq⟩ }

/-- An executor that finds what there is to find keeps a pool sound. -/
theorem Sound.take {found : Find α} (h : p.Sound) (ht : p.take? i = some (p', found)) :
    p'.Sound := by
  obtain ⟨hi, ⟨t, job, rest, hq, -, rfl⟩ | ⟨hq, hshut, -, rfl⟩⟩ := take?_cases ht
  · exact h.takeJob hi hq
  · exact h.exit hi hq hshut

/-- The end of a job keeps a pool sound. -/
theorem Sound.finish (h : p.Sound) (i : Nat) : (p.finish i).Sound := by
  cases hb : p.busy.lookup i with
  | none =>
    rw [WorkerPool.finish, hb]
    exact h
  | some t =>
    rw [finish_of_lookup hb]
    have hbusy := perm_cons_filter h.busy_nodup hb
    have hexecutors := h.executors_finish hb
    have htickets : p.tickets.Perm (t :: tickets
        { p with idle := p.idle ++ [i], busy := p.busy.filter (·.1 != i) }.returnPermit) :=
      tickets_of_over rfl rfl hbusy
    have hlen := hbusy.length_eq
    rw [List.length_cons] at hlen
    have hin := h.inFlight
    have hpermits := h.permits
    exact {
      capacity_pos := h.capacity_pos
      tickets_nodup := (List.nodup_cons.mp (htickets.nodup_iff.mp h.tickets_nodup)).2
      ticket_lt := fun t ht => h.ticket_lt t (htickets.mem_iff.mpr (List.mem_cons_of_mem _ ht))
      executors_nodup := hexecutors.nodup_iff.mpr h.executors_nodup
      executor_lt := fun i hmem => h.executor_lt i (hexecutors.mem_iff.mp hmem)
      drained := fun i hlt hn => h.drained i hlt fun hmem => hn (hexecutors.mem_iff.mpr hmem)
      permits := by
        show p.permits + 1 + (p.inFlight - 1) = p.capacity
        omega
      inFlight := by
        show p.inFlight - 1 =
          p.admitted.length + p.queue.length + (p.busy.filter (·.1 != i)).length
        omega }

/-! ### Closing -/

/-- Shutting the queue keeps a pool sound. -/
theorem Sound.shutQueue (h : p.Sound) : p.shutQueue.Sound :=
  { h with drained := fun i hlt hn => ⟨rfl, (h.drained i hlt hn).2⟩ }

/-- Closing keeps a pool sound. -/
theorem Sound.close (h : p.Sound) : p.close.Sound := by
  rcases close_cases p with ⟨-, hp⟩ | ⟨-, hp⟩
  · rw [hp]
    exact h
  · rw [hp]
    exact { h.shutQueue with }

/-- A step of a shutdown keeps a pool sound. -/
theorem Sound.shutdown {stage : Shutdown} {next? : Option Shutdown} (h : p.Sound)
    (hs : p.shutdown? stage = some (p', next?)) : p'.Sound := by
  rcases shutdown?_cases hs with ⟨-, rfl, -⟩ | ⟨-, rfl, -⟩ | ⟨i, rest, -, -, rfl, -⟩
  · exact { h.close with }
  · exact h
  · exact h

/-! ### Use of a pool -/

/-- What those do with a pool who use it and do not close it. -/
inductive Works (p : WorkerPool α) : WorkerPool α → Prop where
  | submit (job : α) : Works p (p.submit job).1
  | advance {t : Ticket} {p' : WorkerPool α} {v : Verdict α} (h : p.advance? t = some (p', v)) :
      Works p p'
  | take {i : Nat} {p' : WorkerPool α} {found : Find α} (h : p.take? i = some (p', found)) :
      Works p p'
  | finish (i : Nat) : Works p (p.finish i)

/-- Using a pool keeps it sound. -/
theorem Works.sound (hw : p.Works p') (h : p.Sound) : p'.Sound := by
  cases hw with
  | submit job => exact h.submit job
  | advance ha => exact h.advance ha
  | take ht => exact h.take ht
  | finish i => exact h.finish i

/-- Using a pool brings back no executor that has exited. -/
theorem Works.executors_subset (hw : p.Works p') (h : p.Sound) (hi : i ∈ p'.executors) :
    i ∈ p.executors := by
  cases hw with
  | submit job =>
    rw [(submit_frame p job).2] at hi
    exact hi
  | advance ha =>
    obtain ⟨-, -, hidle, hbusy, -⟩ := advance?_frame ha
    rw [executors, hidle, hbusy] at hi
    exact hi
  | take ht =>
    obtain ⟨hidle, ⟨t, job, rest, -, -, rfl⟩ | ⟨-, -, -, rfl⟩⟩ := take?_cases ht
    · exact (h.executors_take hidle _).mem_iff.mp hi
    · rcases List.mem_append.mp hi with hi | hi
      · exact List.mem_append_left _ (List.mem_of_mem_filter hi)
      · exact List.mem_append_right _ hi
  | finish j =>
    cases hb : p.busy.lookup j with
    | none =>
      rw [WorkerPool.finish, hb] at hi
      exact hi
    | some t =>
      rw [finish_of_lookup hb] at hi
      exact (h.executors_finish hb).mem_iff.mp hi

/-- Using a pool closes no part of it, and nobody waits for its executors. -/
theorem Works.frame (hw : p.Works p') : p'.capacity = p.capacity ∧ p'.announced = p.announced ∧
    p'.admissionShut = p.admissionShut ∧ p'.queueShut = p.queueShut ∧ p'.unjoined = p.unjoined := by
  cases hw with
  | submit job =>
    rcases submit_cases p job with ⟨-, hs⟩ | ⟨-, hs⟩
    · rw [hs]
      exact ⟨rfl, rfl, rfl, rfl, rfl⟩
    · rw [hs]
      exact ⟨rfl, rfl, rfl, rfl, rfl⟩
  | advance ha =>
    obtain ⟨hc, -, -, -, hn, ha, hq, hu⟩ := advance?_frame ha
    exact ⟨hc, hn, ha, hq, hu⟩
  | take ht =>
    obtain ⟨-, ⟨t, job, rest, -, -, rfl⟩ | ⟨-, -, -, rfl⟩⟩ := take?_cases ht
    · exact ⟨rfl, rfl, rfl, rfl, rfl⟩
    · exact ⟨rfl, rfl, rfl, rfl, rfl⟩
  | finish i =>
    rw [WorkerPool.finish]
    split
    · exact ⟨rfl, rfl, rfl, rfl, rfl⟩
    · exact ⟨rfl, rfl, rfl, rfl, rfl⟩

/-- Using a pool opens nothing. -/
theorem Works.staysShut (hw : p.Works p') : p.StaysShut p' := by
  obtain ⟨-, hn, ha, hq, -⟩ := hw.frame
  exact ⟨hn.trans, ha.trans, hq.trans⟩

end WorkerPool

end ServiceBus.Bus
