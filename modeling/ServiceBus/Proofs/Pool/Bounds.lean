import ServiceBus.Proofs.Pool.Run

/-! # The admission bound of a pool

A submission that was given a permit holds a slot until its job is over or handed back. The number of
slots in flight is counted apart from the permits and apart from the queue.

* `WorkerPool.holders`: the submissions that hold a slot.
* `PoolRun.slotChange`: what a move adds to the count of the slots.
* `PoolRun.bounds_of_follow`: the count is that of the holders, no slot is dropped that is not counted,
  and no submission that has a permit waits for room in the queue. -/

namespace ServiceBus.Bus

namespace WorkerPool

variable {α : Type} {p p' : WorkerPool α} {job : α} {t i : Nat}

/-! ### Slots -/

/-- The submissions that hold a slot: they have a permit and are not queued yet, or their job is
queued or with an executor. -/
def holders (p : WorkerPool α) : List Ticket :=
  p.admitted.map Prod.fst ++ p.queue.map Prod.fst ++ p.busy.map Prod.snd

/-- All submissions of a pool are those in the line and those that hold a slot. -/
theorem tickets_eq (p : WorkerPool α) : p.tickets = p.line.map Prod.fst ++ p.holders := by
  simp only [tickets, waiting, holders, List.map_append, List.append_assoc]

/-- No submission holds two slots. -/
theorem Sound.holders_nodup (h : p.Sound) : p.holders.Nodup := by
  have hn := h.tickets_nodup
  rw [tickets_eq] at hn
  exact hn.of_append_right

/-- The count of the slots is the number of the submissions that hold one. -/
theorem Sound.inFlight_eq (h : p.Sound) : p.inFlight = p.holders.length := by
  have hin := h.inFlight
  simp only [holders, List.length_append, List.length_map]
  exact hin

/-- No more slots are held than there are executors. -/
theorem Sound.inFlight_le (h : p.Sound) : p.inFlight ≤ p.capacity := by
  have hpermits := h.permits
  omega

/-- No more jobs are queued and executed than there are executors. -/
theorem Sound.queue_busy_le (h : p.Sound) : p.queue.length + p.busy.length ≤ p.capacity := by
  have hin := h.inFlight
  have hle := h.inFlight_le
  omega

/-- While a submission has a permit and is not queued yet, there is room in the queue. -/
theorem Sound.queue_lt_of_admitted (h : p.Sound) (ht : (t, job) ∈ p.admitted) :
    p.queue.length < p.capacity := by
  have hpos : 0 < p.admitted.length := List.length_pos_of_mem ht
  have hin := h.inFlight
  have hle := h.inFlight_le
  omega

/-- A submission that has a permit is found under its number. -/
theorem Sound.lookup_admitted (h : p.Sound) (ht : (t, job) ∈ p.admitted) :
    p.admitted.lookup t = some job := by
  cases hl : p.admitted.lookup t with
  | none =>
    rw [← Option.isNone_iff_eq_none, lookup_isNone_iff] at hl
    exact absurd (List.mem_map_of_mem ht) hl
  | some job' =>
    -- The two entries have the same number, which occurs once.
    have hmem := mem_of_lookup hl
    have heq := List.inj_on_of_nodup_map h.admitted_nodup hmem ht rfl
    rw [(Prod.mk.inj heq).2]

/-- A submission that has a permit is not in the line. -/
theorem Sound.not_in_line (h : p.Sound) (ht : t ∈ p.holders) : p.line.lookup t = none := by
  have hn := h.tickets_nodup
  rw [tickets_eq] at hn
  rw [← Option.isNone_iff_eq_none, lookup_isNone_iff]
  intro hl
  exact (List.nodup_append.mp hn).2.2 t hl t ht rfl

/-- A submission that has a permit is one of the holders. -/
theorem mem_holders_of_admitted (ht : (t, job) ∈ p.admitted) : t ∈ p.holders := by
  apply List.mem_append_left
  apply List.mem_append_left
  exact List.mem_map_of_mem ht

/-- **A submission that has a permit does not wait**: it is queued at once, or handed back if the
queue is shut. -/
theorem Sound.advance?_of_admitted (h : p.Sound) (ht : (t, job) ∈ p.admitted) :
    ∃ p', p.advance? t = some (p', if p.queueShut then .handedBack job else .queued) := by
  have hline := h.not_in_line (mem_holders_of_admitted ht)
  have hjob := h.lookup_admitted ht
  have hroom := h.queue_lt_of_admitted ht
  have hadmit : p.admit? t = none := by rw [admit?, hline]; rfl
  rw [advance?, hadmit, Option.none_or, enqueue?, hjob, Option.bind_eq_bind, Option.bind_some]
  cases hshut : p.queueShut with
  | true => exact ⟨_, rfl⟩
  | false =>
    rw [if_pos hroom]
    exact ⟨_, rfl⟩

end WorkerPool

namespace PoolRun

variable {α : Type} {r r' : PoolRun α} {m : Move α} {t i : Nat}

/-! ### The count of the slots -/

/-- What a move adds to the count of the slots. A permit that is given adds one; a submission that is
handed back or given up with its permit drops its slot, and so does the end of a job. -/
def slotChange (r : PoolRun α) : Move α → Int
  | .advance t =>
    if (r.pool.line.lookup t).isSome then if r.pool.admissionShut then 0 else 1
    else if r.pool.queueShut then -1 else 0
  | .abandon t => if (r.pool.admitted.lookup t).isSome then -1 else 0
  | .finish _ _ => -1
  | _ => 0

/-- Whoever has an entry in one of the three places is counted. -/
theorem inFlight_pos (h : r.pool.Sound) (ht : t ∈ r.pool.holders) : 0 < r.pool.inFlight := by
  rw [h.inFlight_eq]
  exact List.length_pos_of_mem ht

/-- The count after a submission went on. -/
theorem inFlight_advance (h : r.pool.Sound) (hm : r.step? (.advance t) = some r') :
    (r'.pool.inFlight : Int) = r.pool.inFlight + r.slotChange (.advance t) := by
  obtain ⟨⟨p, v⟩, ha, hm⟩ := Option.bind_eq_some_iff.mp hm
  rw [← Option.some.inj hm, slotChange]
  rcases WorkerPool.advance?_cases ha with ha | ha
  · obtain ⟨job, hjob, hcase⟩ := WorkerPool.admit?_cases ha
    rw [hjob, Option.isSome_some, if_pos rfl]
    rcases hcase with ⟨hshut, rfl, -⟩ | ⟨hshut, -, -, rfl⟩
    · rw [hshut, if_pos rfl, Int.add_zero]
      rfl
    · rw [hshut, if_neg Bool.false_ne_true]
      exact Int.natCast_succ _
  · obtain ⟨job, hjob, hcase⟩ := WorkerPool.enqueue?_cases ha
    have hholder := WorkerPool.mem_holders_of_admitted (mem_of_lookup hjob)
    rw [h.not_in_line hholder, Option.isSome_none, if_neg Bool.false_ne_true]
    rcases hcase with ⟨hshut, rfl, -⟩ | ⟨hshut, -, -, rfl⟩
    · have hpos := inFlight_pos h hholder
      rw [hshut, if_pos rfl]
      show ((r.pool.inFlight - 1 : Nat) : Int) = _
      omega
    · rw [hshut, if_neg Bool.false_ne_true, Int.add_zero]
      rfl

/-- The count after a submission was given up. -/
theorem inFlight_abandon (h : r.pool.Sound) (hm : r.step? (.abandon t) = some r') :
    (r'.pool.inFlight : Int) = r.pool.inFlight + r.slotChange (.abandon t) := by
  rw [step?] at hm
  split at hm
  · rw [← Option.some.inj hm, slotChange]
    cases hjob : r.pool.admitted.lookup t with
    | some job =>
      have hpos := inFlight_pos h (WorkerPool.mem_holders_of_admitted (mem_of_lookup hjob))
      rw [Option.isSome_some, if_pos rfl, WorkerPool.abandon, hjob]
      show ((r.pool.inFlight - 1 : Nat) : Int) = _
      omega
    | none =>
      rw [Option.isSome_none, if_neg Bool.false_ne_true, Int.add_zero, WorkerPool.abandon, hjob]
      rfl
  · cases hm

/-- The count after a job was over. -/
theorem inFlight_finish {crashed : Bool} (h : r.pool.Sound)
    (hm : r.step? (.finish i crashed) = some r') :
    (r'.pool.inFlight : Int) = r.pool.inFlight + r.slotChange (.finish i crashed) := by
  obtain ⟨t, hb, hm⟩ := Option.bind_eq_some_iff.mp hm
  have hholder : t ∈ r.pool.holders :=
    List.mem_append_right _ (List.mem_map_of_mem (mem_of_lookup hb))
  have hpos := inFlight_pos h hholder
  rw [← Option.some.inj hm, WorkerPool.finish_of_lookup hb, slotChange]
  show ((r.pool.inFlight - 1 : Nat) : Int) = _
  omega

/-- The other moves leave the count as it is. -/
theorem inFlight_other (hm : r.step? m = some r') (hadvance : ∀ t, m ≠ .advance t)
    (habandon : ∀ t, m ≠ .abandon t) (hfinish : ∀ i crashed, m ≠ .finish i crashed) :
    r'.pool.inFlight = r.pool.inFlight := by
  cases m with
  | advance t => exact absurd rfl (hadvance t)
  | abandon t => exact absurd rfl (habandon t)
  | finish i crashed => exact absurd rfl (hfinish i crashed)
  | submit job =>
    rw [← Option.some.inj hm]
    show (r.pool.submit job).1.inFlight = _
    rcases WorkerPool.submit_cases r.pool job with ⟨-, hs⟩ | ⟨-, hs⟩
    · rw [hs]
    · rw [hs]
  | take i =>
    obtain ⟨⟨p, found⟩, ht, hm⟩ := Option.bind_eq_some_iff.mp hm
    rw [← Option.some.inj hm]
    obtain ⟨-, ⟨t, job, rest, -, -, rfl⟩ | ⟨-, -, -, rfl⟩⟩ := WorkerPool.take?_cases ht
    · rfl
    · rfl
  | shutdown => rw [← Option.some.inj hm]
  | announce | shutAdmission | shutQueue =>
    rw [← Option.some.inj hm]
    rfl
  | goOn k =>
    obtain ⟨stage, p, next?, -, hs, rfl⟩ := goOn_cases hm
    rcases WorkerPool.shutdown?_cases hs with ⟨-, rfl, -⟩ | ⟨-, rfl, -⟩ | ⟨_, _, -, -, rfl, -⟩
    · rcases WorkerPool.close_cases r.pool with ⟨-, hp⟩ | ⟨-, hp⟩
      · rw [hp, WorkerPool.join]
      · rw [hp, WorkerPool.join]
    · rfl
    · rfl

/-- **The count follows the slots**, with no slot dropped that was not counted: it is a difference of
whole numbers that are never below zero. -/
theorem inFlight_step (h : r.pool.Sound) (hm : r.step? m = some r') :
    (r'.pool.inFlight : Int) = r.pool.inFlight + r.slotChange m := by
  cases m with
  | advance t => exact inFlight_advance h hm
  | abandon t => exact inFlight_abandon h hm
  | finish i crashed => exact inFlight_finish h hm
  | submit | take | announce | shutAdmission | shutQueue | shutdown | goOn =>
    rw [inFlight_other hm (by simp) (by simp) (by simp)]
    exact (Int.add_zero _).symm

/-! ### Runs -/

/-- No move changes the capacity. -/
theorem capacity_step (hm : r.step? m = some r') : r'.pool.capacity = r.pool.capacity := by
  cases m with
  | submit job =>
    rw [← Option.some.inj hm]
    exact (WorkerPool.Works.submit job).frame.1
  | advance t =>
    obtain ⟨⟨p, v⟩, ha, hm⟩ := Option.bind_eq_some_iff.mp hm
    rw [← Option.some.inj hm]
    exact (WorkerPool.Works.advance ha).frame.1
  | abandon t =>
    rw [step?] at hm
    split at hm
    · rw [← Option.some.inj hm]
      rcases WorkerPool.abandon_cases r.pool t with ⟨_, -, hp⟩ | ⟨_, -, hp⟩ | ⟨-, hp⟩
      · rw [hp]
        rfl
      · rw [hp]
        rfl
      · rw [hp]
    · cases hm
  | take i =>
    obtain ⟨⟨p, found⟩, ht, hm⟩ := Option.bind_eq_some_iff.mp hm
    rw [← Option.some.inj hm]
    exact (WorkerPool.Works.take ht).frame.1
  | finish i crashed =>
    obtain ⟨t, hb, hm⟩ := Option.bind_eq_some_iff.mp hm
    rw [← Option.some.inj hm]
    exact (WorkerPool.Works.finish i).frame.1
  | shutdown => rw [← Option.some.inj hm]
  | announce | shutAdmission | shutQueue =>
    rw [← Option.some.inj hm]
    rfl
  | goOn k =>
    obtain ⟨stage, p, next?, -, hs, rfl⟩ := goOn_cases hm
    exact (WorkerPool.shutdown?_frame hs).2.1

/-- The pool of a run is sound and has the capacity that it was asked to have. -/
structure MadeFor (requested : Nat) (r : PoolRun α) : Prop where
  sound : r.pool.Sound
  capacity : r.pool.capacity = WorkerPool.capacityFor requested

/-- A run keeps its pool sound and its capacity. -/
theorem madeFor_of_follow {requested : Nat} {moves : List (Move α)}
    (h : follow moves (PoolRun.of requested) = some r) : r.MadeFor requested := by
  have hstart : MadeFor requested (PoolRun.of (α := α) requested) := ⟨.new, rfl⟩
  exact follow_induction h hstart fun m r r' ⟨hsound, hcapacity⟩ hm =>
    ⟨(step?_passage hsound hm).1, (capacity_step hm).trans hcapacity⟩

/-- **The admission bound.** At any time of any run, with the pool open or closed in any part: no more
jobs are queued and executed than the capacity, which is one if none was asked for; the count in
flight is that of the submissions which hold a slot, is at most the capacity, and every move adds to it
as a whole number that does not fall below zero; and whoever has a permit finds room in the queue, so
that it is queued at once or, once the queue is shut, handed back at once. -/
theorem bounds_of_follow {requested : Nat} {moves : List (Move α)}
    (h : follow moves (PoolRun.of requested) = some r) :
    r.pool.capacity = (if requested = 0 then 1 else requested) ∧
    r.pool.queue.length + r.pool.busy.length ≤ r.pool.capacity ∧
    (r.pool.state.inFlight = r.pool.holders.length ∧ r.pool.holders.Nodup ∧
      r.pool.state.inFlight ≤ r.pool.capacity) ∧
    (∀ m r', r.step? m = some r' → 0 ≤ (r.pool.inFlight : Int) + r.slotChange m ∧
      (r'.pool.inFlight : Int) = r.pool.inFlight + r.slotChange m) ∧
    ∀ t job, (t, job) ∈ r.pool.admitted → r.pool.queue.length < r.pool.capacity ∧
      ∃ p, r.pool.advance? t =
        some (p, if r.pool.queueShut then .handedBack job else .queued) := by
  obtain ⟨hsound, hcapacity⟩ := madeFor_of_follow h
  refine ⟨hcapacity, hsound.queue_busy_le,
    ⟨hsound.inFlight_eq, hsound.holders_nodup, hsound.inFlight_le⟩, ?_, ?_⟩
  · intro m r' hm
    have hchange := inFlight_step hsound hm
    refine ⟨?_, hchange⟩
    rw [← hchange]
    exact Int.natCast_nonneg _
  · intro t job ht
    exact ⟨hsound.queue_lt_of_admitted ht, hsound.advance?_of_admitted ht⟩

/-- A pool of two executors is closed part by part while one job runs and one submission has its permit
but is not queued yet; a third was given up in the line. The job that runs crashes. -/
def partedMoves : List (Move String) :=
  [.submit "first", .advance 0, .advance 0, .take 0, .submit "second", .submit "third", .advance 1,
    .abandon 2, .announce, .shutAdmission, .shutQueue, .finish 0 true]

/-- The run of that pool. -/
def partedRun : PoolRun String := (follow partedMoves (PoolRun.of 2)).get (by decide)

/-- The pool that was closed part by part still counts one slot, and the submission that holds it is
handed back at once. -/
theorem bounds_of_parted_pool :
    follow partedMoves (PoolRun.of 2) = some partedRun ∧ partedRun.pool.capacity = 2 ∧
      partedRun.pool.holders = [1] ∧ partedRun.pool.state.inFlight = 1 ∧
      ∃ p, partedRun.pool.advance? 1 = some (p, .handedBack "second") := by
  have h : follow partedMoves (PoolRun.of 2) = some partedRun := (Option.some_get _).symm
  obtain ⟨hcapacity, -, ⟨hin, -, -⟩, -, hadvance⟩ := bounds_of_follow h
  exact ⟨h, hcapacity, rfl, hin, (hadvance 1 "second" (by decide)).2⟩

end PoolRun

end ServiceBus.Bus
