import ServiceBus.Proofs.Pool.Bounds
import ServiceBus.Proofs.World.Flow

/-! # What passes through an inbox and a pool

Beside a run the requests are written down that come into an inbox, and the jobs that executors of a
pool take out of its queue and finish.

* `World.incoming`, `World.taken`: what comes in and what is taken between two worlds.
* `Traffic`, `World.Carries`: the record of a run; every run has one (`World.exists_carries`).
* `Traffic.Single`: in a pool of one executor jobs are finished in the order in which they were taken.
  Every step keeps this (`Traffic.Single.after`), and so every run does (`Carries.single`). -/

namespace ServiceBus.Bus

/-! ### The record -/

/-- **What passed through an inbox and a pool** in a run, oldest first. -/
structure Traffic where
  /-- The requests that came into the inbox. -/
  came : List Request
  /-- The jobs that executors took out of the queue. -/
  taken : List (Ticket × Job) := []
  /-- Those of them that are being executed. -/
  executing : List (Ticket × Job) := []
  /-- Those of them that are over, as they ended. -/
  finished : List (Ticket × Job) := []

namespace World

variable {w w' v u : World} {id i P c : Nat} {p p' : WorkerPool Job} {g : Traffic} {r : Request}

/-- The jobs that wait in the queue of a pool. -/
def queued (w : World) (P : PoolId) : List (Ticket × Job) := (w.pools[P]?).elim [] (·.queue)

/-- The submissions whose jobs executors of a pool have. -/
def executing (w : World) (P : PoolId) : List Ticket :=
  (w.pools[P]?).elim [] fun p => p.busy.map Prod.snd

/-- The requests that come into an inbox between two worlds: they stand behind as many as there were
before. -/
def incoming (w w' : World) (i : InboxId) : List Request :=
  (w'.bus.buffer i).drop (w.bus.buffer i).length

/-- The jobs that executors take out of the queue of a pool between two worlds: they were queued before,
and executors have them afterwards. -/
def taken (w w' : World) (P : PoolId) : List (Ticket × Job) :=
  (w.queued P).filter fun e => (w'.executing P).contains e.1

end World

/-- The record after one more step. A job that was taken is over when no executor has it any more. -/
def Traffic.after (g : Traffic) (i : InboxId) (P : PoolId) (w w' : World) : Traffic where
  came := g.came ++ w.incoming w' i
  taken := g.taken ++ w.taken w' P
  executing := (g.executing ++ w.taken w' P).filter fun e => (w'.executing P).contains e.1
  finished := g.finished ++
    (g.executing ++ w.taken w' P).filter fun e => !(w'.executing P).contains e.1

namespace World

variable {w w' v u : World} {id i P c : Nat} {p p' : WorkerPool Job} {g : Traffic} {r : Request}

/-- **A run and what passes** through an inbox and a pool on the way. What the inbox holds at first has
come in before all else. -/
inductive Carries (i : InboxId) (P : PoolId) (v : World) : World → Traffic → Prop
  | start : Carries i P v v { came := v.bus.buffer i }
  | step {u w : World} {g : Traffic} (h : Carries i P v u g) (hs : u.Step w) :
      Carries i P v w (g.after i P u w)

/-- What passes is recorded in a run. -/
theorem Carries.steps (h : Carries i P v w g) : Steps v w := by
  induction h with
  | start => exact .refl
  | step _ hs ih => exact ih.tail hs

/-- Every run has its record. -/
theorem exists_carries (i P : Nat) (h : Steps v w) : ∃ g, Carries i P v w g := by
  induction h with
  | refl => exact ⟨_, .start⟩
  | tail _ hs ih =>
    obtain ⟨g, hg⟩ := ih
    exact ⟨_, hg.step hs⟩

/-! ### What comes in -/

/-- What was there before and what comes in are what is there. -/
theorem take_append_incoming (w w' : World) (i : Nat) :
    (w'.bus.buffer i).take (w.bus.buffer i).length ++ w.incoming w' i = w'.bus.buffer i :=
  List.take_append_drop _ _

/-- Of what was there nothing is put in another order. -/
theorem Step.take_sublist (hs : w.Step w') (i : Nat) :
    ((w'.bus.buffer i).take (w.bus.buffer i).length).Sublist (w.bus.buffer i) := by
  cases hs.stocks with
  | thins touched h => exact (List.take_sublist _ _).trans (h.sublist i)
  | enters id c k _ _ h =>
    obtain ⟨call, -, -, hbuffer⟩ := h.call
    by_cases hi : i = k
    · rw [hi, hbuffer, List.take_left]
    · rw [h.others i hi, List.take_length]

/-- **What comes in** is the request of a call that has just stored it. -/
theorem Step.incoming_cases (hs : w.Step w') (i : Nat) : w.incoming w' i = [] ∨ ∃ c r,
    r.IsOf c ∧ ¬ w.bus.Sent c ∧ w'.bus.Sent c ∧ w.bus.Accepts i ∧ w.incoming w' i = [r] := by
  cases hs.stocks with
  | thins touched h => exact Or.inl (List.drop_eq_nil_of_le (h.sublist i).length_le)
  | enters id c k _ _ h =>
    obtain ⟨call, hcall, hpending, hbuffer⟩ := h.call
    by_cases hi : i = k
    · refine Or.inr ⟨c, call.request c, call.isOf_request c, ?_, h.sent, hi ▸ h.accepts, ?_⟩
      · rintro ⟨s, hs, hnot⟩
        rw [MemoryBus.stage?, hcall] at hs
        cases hs
        exact hnot hpending
      · rw [incoming, hi, hbuffer, List.drop_left]
    · left
      rw [incoming, h.others i hi, List.drop_length]

/-- What has been sent does not come in. -/
theorem Step.not_incoming (hs : w.Step w') (hsent : ∀ c, r.IsOf c → w.bus.Sent c) (i : Nat) :
    r ∉ w.incoming w' i := by
  intro hr
  rcases hs.incoming_cases i with hnil | ⟨c, r', hc, hnot, -, -, heq⟩
  · rw [hnil] at hr
    cases hr
  · rw [heq, List.mem_singleton] at hr
    exact hnot (hsent c (hr ▸ hc))

/-! ### What is taken -/

theorem queued_eq (hp : w.pools[P]? = some p) : w.queued P = p.queue := by
  rw [queued, hp]
  rfl

theorem executing_eq (hp : w.pools[P]? = some p) : w.executing P = p.busy.map Prod.snd := by
  rw [executing, hp]
  rfl

/-- What is queued no executor has. -/
theorem not_executing_of_queued (hs : p.Sound) {e : Ticket × Job} (he : e ∈ p.queue) :
    e.1 ∉ p.busy.map Prod.snd := fun hbusy => by
  have hnodup := hs.holders_nodup
  rw [WorkerPool.holders, List.append_assoc] at hnodup
  exact (List.nodup_append.mp hnodup.of_append_right).2.2 _ (List.mem_map_of_mem he) _ hbusy rfl

/-- No two queued jobs are of one submission. -/
theorem queue_nodup (hs : p.Sound) : (p.queue.map Prod.fst).Nodup := by
  have hnodup := hs.holders_nodup
  rw [WorkerPool.holders, List.append_assoc] at hnodup
  exact hnodup.of_append_right.of_append_left

/-- Nothing is taken if executors get no job. -/
theorem taken_eq_nil (hs : p.Sound) (hp : w.pools[P]? = some p) (hp' : w'.pools[P]? = some p')
    (h : ∀ k ∈ p'.busy.map Prod.snd, k ∈ p.busy.map Prod.snd) : w.taken w' P = [] := by
  rw [taken, queued_eq hp, executing_eq hp', List.filter_eq_nil_iff]
  intro e he hk
  exact not_executing_of_queued hs he (h _ (List.contains_iff_mem.mp hk))

/-- The head of the queue is taken if an executor gets it. -/
theorem taken_eq_head (hs : p.Sound) (hp : w.pools[P]? = some p) (hp' : w'.pools[P]? = some p')
    {k : Nat} {e : Ticket × Job} (hqueue : p.queue = e :: p'.queue)
    (hbusy : p'.busy = p.busy ++ [(k, e.1)]) : w.taken w' P = [e] := by
  have htickets : p'.busy.map Prod.snd = p.busy.map Prod.snd ++ [e.1] := by
    rw [hbusy, List.map_append, List.map_singleton]
  have hnodup := queue_nodup hs
  rw [hqueue, List.map_cons, List.nodup_cons] at hnodup
  rw [taken, queued_eq hp, executing_eq hp', htickets, hqueue, List.filter_cons_of_pos (by simp),
    List.filter_eq_nil_iff.mpr]
  intro e' he' hk
  rcases List.mem_append.mp (List.contains_iff_mem.mp hk) with hk | hk
  · exact not_executing_of_queued hs (hqueue ▸ List.mem_cons_of_mem _ he') hk
  · exact hnodup.1 (List.mem_singleton.mp hk ▸ List.mem_map_of_mem he')

/-- **What is taken was at the head of the queue.** A step may queue one job at the end. -/
theorem Flow.taken_append (h : w.Flow id w' P p p') (hs : p.Sound) (hp : w.pools[P]? = some p)
    (hp' : w'.pools[P]? = some p') : w.taken w' P ++ p'.queue = p.queue ∨
      ∃ ticket job, w.Places id P ticket ∧ w'.hand? id = none ∧ (ticket, job) ∈ p.waiting ∧
        w.taken w' P = [] ∧ p'.queue = p.queue ++ [(ticket, job)] := by
  have hnone : p'.busy = p.busy → w.taken w' P = [] := fun hbusy =>
    taken_eq_nil hs hp hp' fun k hk => hbusy ▸ hk
  cases h with
  | rests _ _ queue busy => exact Or.inl (by rw [hnone busy, queue, List.nil_append])
  | joins _ _ _ _ queue busy => exact Or.inl (by rw [hnone busy, queue, List.nil_append])
  | queues ticket job hand hand' waiting queue busy =>
    exact Or.inr ⟨ticket, job, hand, hand', waiting.mem_iff.mpr List.mem_cons_self, hnone busy, queue⟩
  | refuses _ _ _ _ queue busy => exact Or.inl (by rw [hnone busy, queue, List.nil_append])
  | starts k ticket job _ _ _ queue busy =>
    exact Or.inl (by rw [taken_eq_head hs hp hp' queue busy, queue, List.singleton_append])
  | ends k _ _ _ _ queue busy =>
    have hsub : ∀ t ∈ p'.busy.map Prod.snd, t ∈ p.busy.map Prod.snd := by
      rw [busy]
      exact fun t ht => (List.filter_sublist.map Prod.snd).subset ht
    exact Or.inl (by rw [taken_eq_nil hs hp hp' hsub, queue, List.nil_append])

end World

/-! ### Pools of one executor -/

variable {w w' : World} {i P : Nat} {p p' : WorkerPool Job} {g : Traffic}

/-- A list of one element at most is what is kept of it, or what is not. -/
theorem filter_not_append_filter {α : Type} {l : List α} (h : l.length ≤ 1) (q : α → Bool) :
    l.filter (fun a => !q a) ++ l.filter q = l := by
  match l with
  | [] => rfl
  | [a] => cases hq : q a <;> simp [hq]
  | _ :: _ :: _ => simp at h

/-- **Jobs are finished in the order in which they were taken**, and at most one is being executed. -/
structure Traffic.Single (g : Traffic) (p : WorkerPool Job) : Prop where
  taken_eq : g.taken = g.finished ++ g.executing
  busy : ∀ e ∈ g.executing, e.1 ∈ p.busy.map Prod.snd
  length : g.executing.length ≤ 1

/-- Where one executor has a job none is taken. -/
theorem Traffic.Single.length_append (h : g.Single p) (hs : p.Sound) (hcapacity : p.capacity = 1)
    (hp : w.pools[P]? = some p) (w' : World) : (g.executing ++ w.taken w' P).length ≤ 1 := by
  have hle := hs.queue_busy_le
  have htaken : (w.taken w' P).length ≤ p.queue.length := by
    rw [World.taken, World.queued_eq hp]
    exact List.length_filter_le _ _
  have hlength := h.length
  rw [List.length_append]
  -- a job that an executor has holds the only permit, so nothing is queued
  cases hexecuting : g.executing with
  | nil =>
    rw [List.length_nil]
    omega
  | cons e rest =>
    have hbusy := List.length_pos_of_mem (h.busy e (hexecuting ▸ List.mem_cons_self))
    rw [List.length_map] at hbusy
    rw [← hexecuting]
    omega

/-- In a pool of one executor jobs go on being finished in order. -/
theorem Traffic.Single.after (h : g.Single p) (hs : p.Sound) (hcapacity : p.capacity = 1)
    (hp : w.pools[P]? = some p) (hp' : w'.pools[P]? = some p') : (g.after i P w w').Single p' := by
  have hone := h.length_append hs hcapacity hp w'
  refine ⟨?_, fun e he => ?_, (List.length_filter_le _ _).trans hone⟩
  · -- of at most one job all is over, or nothing
    simp only [Traffic.after]
    rw [List.append_assoc, filter_not_append_filter hone, h.taken_eq, List.append_assoc]
  · rw [← World.executing_eq hp']
    exact List.contains_iff_mem.mp (List.mem_filter.mp he).2

namespace World

/-- A pool stays while requests pass, and so does its capacity. -/
theorem Carries.pool {v : World} (hbefore : Steps {} v) (hp : v.pools[P]? = some p)
    (h : Carries i P v w g) : ∃ q, w.pools[P]? = some q ∧ q.capacity = p.capacity := by
  induction h with
  | start => exact ⟨p, hp, rfl⟩
  | step h hs ih =>
    obtain ⟨q, hq, hcapacity⟩ := ih
    have hsound := (Attended.of_steps (hbefore.trans h.steps)).pools
    obtain ⟨id, q', hq', hsame, -⟩ := hs.flow hsound hq
    exact ⟨q', hq', hsame.trans hcapacity⟩

/-- **In a pool of one executor jobs are finished in the order in which they were taken.** -/
theorem Carries.single {v : World} (hbefore : Steps {} v) (hp : v.pools[P]? = some p)
    (hcapacity : p.capacity = 1) (h : Carries i P v w g) :
    ∀ q, w.pools[P]? = some q → g.Single q := by
  induction h with
  | start => exact fun q _ => ⟨rfl, fun e he => absurd he List.not_mem_nil, Nat.zero_le 1⟩
  | step h hs ih =>
    intro q' hq'
    obtain ⟨q, hq, hsame⟩ := h.pool hbefore hp
    have hsound := (Attended.of_steps (hbefore.trans h.steps)).pools P q hq
    exact (ih q hq).after hsound (hsame.trans hcapacity) hq hq'

end World

end ServiceBus.Bus
