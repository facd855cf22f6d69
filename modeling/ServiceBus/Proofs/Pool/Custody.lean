import Mathlib.Data.List.Pairwise
import ServiceBus.Proofs.Pool.Run

/-! # Custody of jobs

In every run of a pool each submission is in exactly one place, and its job is run at most once.

* `PoolRun.Custody`: the invariant, kept by every passage.
* `PoolRun.Awaited`: who waits for which executors. -/

namespace ServiceBus.Bus

variable {α : Type}

/-! ### Places -/

namespace PoolEvent

/-- The submission that is offered. -/
@[simp] def offered? : PoolEvent α → Option Ticket
  | offered t _ => some t
  | _ => none

/-- The submission that ends well. -/
@[simp] def accepted? : PoolEvent α → Option Ticket
  | accepted t => some t
  | _ => none

/-- The submission that gives its job back. -/
@[simp] def handedBack? : PoolEvent α → Option Ticket
  | handedBack t _ => some t
  | _ => none

/-- The submission that is given up. -/
@[simp] def abandoned? : PoolEvent α → Option Ticket
  | abandoned t => some t
  | _ => none

/-- The submission whose job is started. -/
@[simp] def started? : PoolEvent α → Option Ticket
  | started t _ _ => some t
  | _ => none

/-- The submission whose job is over. -/
@[simp] def ended? : PoolEvent α → Option Ticket
  | ended t _ => some t
  | _ => none

end PoolEvent

namespace PoolRun

variable {r r' : PoolRun α} {job : α} {t i : Nat}

/-- The submissions that wait to be admitted or queued. -/
def waiting (r : PoolRun α) : List Ticket := r.pool.waiting.map Prod.fst

/-- The submissions whose jobs are queued. -/
def queued (r : PoolRun α) : List Ticket := r.pool.queue.map Prod.fst

/-- The submissions whose jobs an executor has, once for every executor. -/
def executing (r : PoolRun α) : List Ticket := r.pool.busy.map Prod.snd

/-- The submissions whose jobs have finished or crashed. -/
def finished (r : PoolRun α) : List Ticket := r.events.filterMap PoolEvent.ended?

/-- The submissions that gave their jobs back. -/
def handedBack (r : PoolRun α) : List Ticket := r.events.filterMap PoolEvent.handedBack?

/-- The submissions that were given up. -/
def abandoned (r : PoolRun α) : List Ticket := r.events.filterMap PoolEvent.abandoned?

/-- All submissions, in order. -/
def offered (r : PoolRun α) : List Ticket := r.events.filterMap PoolEvent.offered?

/-- The submissions that ended well. -/
def accepted (r : PoolRun α) : List Ticket := r.events.filterMap PoolEvent.accepted?

/-- The submissions whose jobs were started, once for every start. -/
def started (r : PoolRun α) : List Ticket := r.events.filterMap PoolEvent.started?

/-- All places where a submission may be. -/
def places (r : PoolRun α) : List Ticket :=
  r.waiting ++ r.queued ++ r.executing ++ r.finished ++ r.handedBack ++ r.abandoned

/-! ### What a passage moves -/

/-- What a record that goes on does to a part of it. -/
theorem filterMap_append_of {β : Type} {events : List (PoolEvent α)}
    (he : r'.events = r.events ++ events) (f : PoolEvent α → Option β) :
    r'.events.filterMap f = r.events.filterMap f ++ events.filterMap f := by
  rw [he, List.filterMap_append]

end PoolRun

namespace Passage

variable {p p' : WorkerPool α} {events : List (PoolEvent α)}

/-- Submissions come in by being offered, in order. -/
theorem offered (h : Passage p p' events) :
    List.range p.issued ++ events.filterMap PoolEvent.offered? = List.range p'.issued := by
  cases h with
  | enter job issued | bounce job issued => rw [issued, List.range_succ]; rfl
  | stay issued | accept _ _ issued | handBack _ _ issued | abandon _ _ issued
  | start _ _ _ issued | ends _ _ _ issued => rw [issued]; exact List.append_nil _

/-- **No submission is lost and none is in two places**: what is gone from a pool afterwards or still
in it was in it or is new. -/
theorem count_tickets (h : Passage p p' events) (x : Ticket) :
    p'.tickets.count x + (events.filterMap PoolEvent.ended?).count x +
        (events.filterMap PoolEvent.handedBack?).count x +
        (events.filterMap PoolEvent.abandoned?).count x =
      p.tickets.count x + (events.filterMap PoolEvent.offered?).count x := by
  simp only [WorkerPool.tickets, List.count_append]
  cases h with
  | enter job issued waiting queue busy =>
    have hw := (waiting.map Prod.fst).count_eq x
    simp [List.count_cons] at hw
    simp [List.filterMap_cons, List.count_cons, queue, busy]
    omega
  | bounce job issued waiting queue busy =>
    simp [List.filterMap_cons, List.count_cons, waiting, queue, busy]
  | stay issued waiting queue busy =>
    have hw := (waiting.map Prod.fst).count_eq x
    simp [queue, busy]
    omega
  | accept t job issued waiting queue busy =>
    have hw := (waiting.map Prod.fst).count_eq x
    simp [List.count_cons] at hw
    simp [List.filterMap_cons, List.count_cons, queue, busy]
    omega
  | handBack t job issued waiting queue busy | abandon t job issued waiting queue busy =>
    have hw := (waiting.map Prod.fst).count_eq x
    simp [List.count_cons] at hw
    simp [List.filterMap_cons, List.count_cons, queue, busy]
    omega
  | start t job i issued waiting queue busy =>
    simp [List.filterMap_cons, List.count_cons, waiting, queue, busy]
    omega
  | ends t i crashed issued waiting queue busy =>
    have hb := (busy.map Prod.snd).count_eq x
    simp [List.count_cons] at hb
    simp [List.filterMap_cons, List.count_cons, waiting, queue]
    omega

/-- A job that was accepted is queued, with an executor, or over. -/
theorem count_accepted (h : Passage p p' events) (x : Ticket) :
    (p'.queue.map Prod.fst).count x + (p'.busy.map Prod.snd).count x +
        (events.filterMap PoolEvent.ended?).count x =
      (p.queue.map Prod.fst).count x + (p.busy.map Prod.snd).count x +
        (events.filterMap PoolEvent.accepted?).count x := by
  cases h with
  | enter _ _ _ queue busy | bounce _ _ _ queue busy | stay _ _ queue busy
  | handBack _ _ _ _ queue busy | abandon _ _ _ _ queue busy =>
    simp [List.filterMap_cons, queue, busy]
  | accept t job issued waiting queue busy =>
    simp [List.filterMap_cons, List.count_cons, queue, busy]
    omega
  | start t job i issued waiting queue busy =>
    simp [List.filterMap_cons, List.count_cons, queue, busy]
    omega
  | ends t i crashed issued waiting queue busy =>
    have hb := (busy.map Prod.snd).count_eq x
    simp [List.count_cons] at hb
    simp [List.filterMap_cons, List.count_cons, queue]
    omega

/-- A job that was started is with an executor, or over. -/
theorem count_started (h : Passage p p' events) (x : Ticket) :
    (p'.busy.map Prod.snd).count x + (events.filterMap PoolEvent.ended?).count x =
      (p.busy.map Prod.snd).count x + (events.filterMap PoolEvent.started?).count x := by
  cases h with
  | enter _ _ _ _ busy | bounce _ _ _ _ busy | stay _ _ _ busy | accept _ _ _ _ _ busy
  | handBack _ _ _ _ _ busy | abandon _ _ _ _ _ busy | start _ _ _ _ _ _ busy =>
    simp [List.filterMap_cons, List.count_cons, busy]
  | ends t i crashed issued waiting queue busy =>
    have hb := (busy.map Prod.snd).count_eq x
    simp [List.count_cons] at hb
    simp [List.filterMap_cons, List.count_cons]
    omega

/-- A job in a pool is the one that was offered. -/
theorem offered_of_mem (h : Passage p p' events) {e : Ticket × α}
    (he : e ∈ p'.waiting ++ p'.queue) :
    e ∈ p.waiting ++ p.queue ∨ .offered e.1 e.2 ∈ events := by
  rw [List.mem_append] at he ⊢
  cases h with
  | enter job issued waiting queue busy =>
    rw [queue, waiting.mem_iff, List.mem_cons] at he
    rcases he with (rfl | he) | he
    · exact Or.inr List.mem_cons_self
    · exact Or.inl (Or.inl he)
    · exact Or.inl (Or.inr he)
  | bounce job issued waiting queue busy => rw [waiting, queue] at he; exact Or.inl he
  | stay issued waiting queue busy => rw [waiting.mem_iff, queue] at he; exact Or.inl he
  | accept t job issued waiting queue busy =>
    rw [queue, List.mem_append, List.mem_singleton] at he
    rw [waiting.mem_iff, List.mem_cons]
    rcases he with he | he | rfl
    · exact Or.inl (Or.inl (Or.inr he))
    · exact Or.inl (Or.inr he)
    · exact Or.inl (Or.inl (Or.inl rfl))
  | handBack t job issued waiting queue busy | abandon t job issued waiting queue busy =>
    rw [queue] at he
    rw [waiting.mem_iff, List.mem_cons]
    exact Or.inl (he.imp_left Or.inr)
  | start t job i issued waiting queue busy =>
    rw [waiting] at he
    rw [queue, List.mem_cons]
    exact Or.inl (he.imp_right Or.inr)
  | ends t i crashed issued waiting queue busy => rw [waiting, queue] at he; exact Or.inl he

/-- A job that is given back is one that waited, or was just offered. -/
theorem offered_of_handedBack (h : Passage p p' events) {t : Ticket} {job : α}
    (he : .handedBack t job ∈ events) :
    (t, job) ∈ p.waiting ++ p.queue ∨ .offered t job ∈ events := by
  cases h with
  | bounce job issued waiting queue busy => right; simpa using he
  | handBack t job issued waiting queue busy =>
    obtain ⟨rfl, rfl⟩ := PoolEvent.handedBack.inj (List.mem_singleton.mp he)
    exact Or.inl (List.mem_append_left _ (waiting.mem_iff.mpr List.mem_cons_self))
  | enter | stay | accept | abandon | start | ends => simp at he

/-- A job that is started was queued. -/
theorem mem_of_started (h : Passage p p' events) {t : Ticket} {i : Nat} {job : α}
    (he : .started t i job ∈ events) : (t, job) ∈ p.waiting ++ p.queue := by
  cases h with
  | start t job i issued waiting queue busy =>
    obtain ⟨rfl, rfl, rfl⟩ := PoolEvent.started.inj (List.mem_singleton.mp he)
    rw [queue]
    exact List.mem_append_right _ List.mem_cons_self
  | enter | bounce | stay | accept | handBack | abandon | ends => simp at he

end Passage

namespace PoolRun

variable {r r' : PoolRun α} {p' : WorkerPool α} {m : Move α} {t i k : Nat} {job : α}

/-! ### The invariant -/

/-- What holds of the record of a pool at all times. -/
structure Custody (r : PoolRun α) : Prop where
  offered : r.offered = List.range r.pool.issued
  located : r.places.Perm (List.range r.pool.issued)
  accepted : r.accepted.Perm (r.queued ++ r.executing ++ r.finished)
  started : r.started.Perm (r.executing ++ r.finished)
  jobs : ∀ e ∈ r.pool.waiting ++ r.pool.queue, .offered e.1 e.2 ∈ r.events
  returned : ∀ t job, .handedBack t job ∈ r.events → .offered t job ∈ r.events
  begun : ∀ t i job, .started t i job ∈ r.events → .offered t job ∈ r.events

/-- Nothing was submitted to a new pool. -/
theorem Custody.of (requested : Nat) : (PoolRun.of (α := α) requested).Custody where
  offered := rfl
  located := List.Perm.refl _
  accepted := List.Perm.refl _
  started := List.Perm.refl _
  jobs _ h := absurd h List.not_mem_nil
  returned _ _ h := absurd h List.not_mem_nil
  begun _ _ _ h := absurd h List.not_mem_nil


/-- **A passage keeps every submission in one place.** -/
theorem Custody.passage {events : List (PoolEvent α)} (h : r.Custody)
    (he : r'.events = r.events ++ events) (hp : Passage r.pool r'.pool events) : r'.Custody where
  offered := by
    rw [PoolRun.offered, filterMap_append_of he, ← hp.offered, ← h.offered, PoolRun.offered]
  located := by
    rw [List.perm_iff_count]
    intro x
    have hx := h.located.count_eq x
    have hmoved := hp.count_tickets x
    rw [← hp.offered]
    simp only [places, waiting, queued, executing, finished, handedBack, abandoned,
      filterMap_append_of he, WorkerPool.tickets, List.count_append] at hx hmoved ⊢
    omega
  accepted := by
    rw [List.perm_iff_count]
    intro x
    have hx := h.accepted.count_eq x
    have hmoved := hp.count_accepted x
    simp only [PoolRun.accepted, queued, executing, finished, filterMap_append_of he,
      List.count_append] at hx hmoved ⊢
    omega
  started := by
    rw [List.perm_iff_count]
    intro x
    have hx := h.started.count_eq x
    have hmoved := hp.count_started x
    simp only [PoolRun.started, executing, finished, filterMap_append_of he,
      List.count_append] at hx hmoved ⊢
    omega
  jobs e hmem := by
    rw [he, List.mem_append]
    exact (hp.offered_of_mem hmem).imp_left (h.jobs e)
  returned t job hmem := by
    rw [he, List.mem_append] at hmem ⊢
    rcases hmem with hmem | hmem
    · exact Or.inl (h.returned t job hmem)
    · exact (hp.offered_of_handedBack hmem).imp_left (h.jobs (t, job))
  begun t i job hmem := by
    rw [he, List.mem_append] at hmem ⊢
    rcases hmem with hmem | hmem
    · exact Or.inl (h.begun t i job hmem)
    · exact Or.inl (h.jobs (t, job) (hp.mem_of_started hmem))

/-! ### Who waits for the executors -/

/-- What holds of the calls that shut a pool down: as long as none waits for executors all of them
are at the start, and afterwards every executor has exited or is waited for. -/
structure Awaited (r : PoolRun α) : Prop where
  unjoined : r.pool.unjoined = true → ∀ s ∈ r.shutdowns, s = some .closing
  awaited : ∀ i ∈ r.pool.executors, r.pool.unjoined = true ∨
    ∃ executors, some (.joining executors) ∈ r.shutdowns ∧ i ∈ executors

/-- Nobody waits for the executors of a new pool. -/
theorem Awaited.of (requested : Nat) : (PoolRun.of (α := α) requested).Awaited where
  unjoined _ _ h := absurd h List.not_mem_nil
  awaited _ _ := Or.inl rfl

/-- A stage that is not the one replaced stays. -/
theorem mem_set_of_ne {β : Type} {l : List β} {x y z : β} (hx : x ∈ l) (hk : l[k]? = some y)
    (hne : x ≠ y) : x ∈ l.set k z := by
  obtain ⟨n, hn⟩ := List.mem_iff_getElem?.mp hx
  refine List.mem_iff_getElem?.mpr ⟨n, ?_⟩
  rw [List.getElem?_set_ne, hn]
  rintro rfl
  rw [hk] at hn
  exact hne (Option.some.inj hn).symm

/-- The stage that a call goes on to is among the stages. -/
theorem mem_set_self {β : Type} {l : List β} {y : β} (hk : l[k]? = some y) (z : β) :
    z ∈ l.set k z := by
  obtain ⟨hlt, -⟩ := List.getElem?_eq_some_iff.mp hk
  exact List.mem_iff_getElem?.mpr ⟨k, List.getElem?_set_self hlt⟩

/-- A change of a pool with no call going on. -/
theorem Awaited.of_shutdowns (h : r.Awaited) (hu : r'.pool.unjoined = r.pool.unjoined)
    (hs : r'.shutdowns = r.shutdowns)
    (he : ∀ i ∈ r'.pool.executors, i ∈ r.pool.executors) : r'.Awaited where
  unjoined := by rw [hu, hs]; exact h.unjoined
  awaited i hi := by rw [hu, hs]; exact h.awaited i (he i hi)

/-- Use of a pool. -/
theorem Awaited.of_works (h : r.Awaited) (hs : r.pool.Sound) (hw : r.pool.Works p')
    (hp : r'.pool = p') (hd : r'.shutdowns = r.shutdowns) : r'.Awaited := by
  obtain ⟨-, -, -, -, hu⟩ := hw.frame
  rw [← hp] at hw hu
  exact h.of_shutdowns hu hd fun i hi => hw.executors_subset hs hi

/-- A call that shuts the pool down goes on. -/
theorem Awaited.goOn (h : r.Awaited) (hs : r.pool.Sound) (hm : r.step? (.goOn k) = some r') :
    r'.Awaited := by
  obtain ⟨stage, p, next?, hk, hstep, rfl⟩ := goOn_cases hm
  have hmem : some stage ∈ r.shutdowns := List.mem_iff_getElem?.mpr ⟨k, hk⟩
  rcases WorkerPool.shutdown?_cases hstep with
    ⟨rfl, rfl, rfl⟩ | ⟨rfl, rfl, rfl⟩ | ⟨j, rest, rfl, hexit, rfl, rfl⟩
  · refine ⟨fun hu => absurd hu Bool.false_ne_true, fun i hi => Or.inr ?_⟩
    obtain ⟨hc, hu, he⟩ := WorkerPool.close_frame r.pool
    have hi : i ∈ r.pool.executors := by rw [← he]; exact hi
    rw [WorkerPool.join, hu, hc]
    rcases h.awaited i hi with hunjoined | ⟨executors, hexecutors, hi⟩
    · rw [if_pos hunjoined]
      exact ⟨_, mem_set_self hk _, List.mem_range.mpr (hs.executor_lt i ‹_›)⟩
    · exact ⟨executors, mem_set_of_ne hexecutors hk (by simp), hi⟩
  · refine ⟨fun hu => absurd (h.unjoined hu _ hmem) (by simp), fun i hi => ?_⟩
    rcases h.awaited i hi with hunjoined | ⟨executors, hexecutors, hi⟩
    · exact Or.inl hunjoined
    · refine Or.inr ⟨executors, mem_set_of_ne hexecutors hk ?_, hi⟩
      rintro hnil
      rw [Shutdown.joining.inj (Option.some.inj hnil)] at hi
      exact absurd hi List.not_mem_nil
  · refine ⟨fun hu => absurd (h.unjoined hu _ hmem) (by simp), fun i hi => ?_⟩
    rcases h.awaited i hi with hunjoined | ⟨executors, hexecutors, hin⟩
    · exact Or.inl hunjoined
    · refine Or.inr ?_
      -- the one that was waited for at the call itself is waited for no more, since it has exited
      by_cases hsame : executors = j :: rest
      · rw [hsame, List.mem_cons] at hin
        rcases hin with rfl | hin
        · exact absurd hi (WorkerPool.hasExited_iff.mp hexit)
        · exact ⟨rest, mem_set_self hk _, hin⟩
      · refine ⟨executors, mem_set_of_ne hexecutors hk ?_, hin⟩
        intro heq
        exact hsame (Shutdown.joining.inj (Option.some.inj heq))

/-- **Every move keeps track of who waits for which executors.** -/
theorem Awaited.step (h : r.Awaited) (hs : r.pool.Sound) (hm : r.step? m = some r') :
    r'.Awaited := by
  cases m with
  | submit job =>
    rw [← Option.some.inj hm]
    exact h.of_works hs (.submit job) rfl rfl
  | advance t =>
    obtain ⟨⟨p, v⟩, ha, hm⟩ := Option.bind_eq_some_iff.mp hm
    rw [← Option.some.inj hm]
    exact h.of_works hs (.advance ha) rfl rfl
  | abandon t =>
    rw [step?] at hm
    split at hm
    · rw [← Option.some.inj hm]
      obtain ⟨hu, he⟩ := WorkerPool.abandon_frame r.pool t
      exact h.of_shutdowns hu rfl fun i hi => he ▸ hi
    · exact absurd hm (by simp)
  | take i =>
    obtain ⟨⟨p, found⟩, ht, hm⟩ := Option.bind_eq_some_iff.mp hm
    rw [← Option.some.inj hm]
    exact h.of_works hs (.take ht) rfl rfl
  | finish i crashed =>
    obtain ⟨t, hb, hm⟩ := Option.bind_eq_some_iff.mp hm
    rw [← Option.some.inj hm]
    exact h.of_works hs (.finish i) rfl rfl
  | announce | shutAdmission | shutQueue =>
    rw [← Option.some.inj hm]
    exact h.of_shutdowns rfl rfl fun _ => id
  | shutdown =>
    rw [← Option.some.inj hm]
    refine ⟨fun hu s hmem => ?_, fun i hi => ?_⟩
    · rcases List.mem_append.mp hmem with hmem | hmem
      · exact h.unjoined hu s hmem
      · exact List.mem_singleton.mp hmem
    · rcases h.awaited i hi with hu | ⟨executors, hexecutors, hi⟩
      · exact Or.inl hu
      · exact Or.inr ⟨executors, List.mem_append_left _ hexecutors, hi⟩
  | goOn k => exact h.goOn hs hm

/-! ### Every run -/

/-- What holds of a run at all times. -/
structure Sound (r : PoolRun α) : Prop where
  pool : r.pool.Sound
  custody : r.Custody
  awaited : r.Awaited

/-- **Every run of a new pool is sound.** -/
theorem Sound.of_follow {requested : Nat} {moves : List (Move α)}
    (h : follow moves (PoolRun.of requested) = some r) : r.Sound := by
  refine follow_induction h ⟨.new, .of requested, .of requested⟩ fun m r r' hr hm => ?_
  obtain ⟨hpool, events, he, hp⟩ := step?_passage hr.pool hm
  exact ⟨hpool, hr.custody.passage he hp, hr.awaited.step hr.pool hm⟩

/-- No submission is in two places. -/
theorem Custody.places_nodup (h : r.Custody) : r.places.Nodup :=
  h.located.nodup_iff.mpr List.nodup_range

/-- A submission is offered with one job. -/
theorem Custody.offered_inj {job' : α} (h : r.Custody) (hj : .offered t job ∈ r.events)
    (hj' : .offered t job' ∈ r.events) : job = job' := by
  have hn : r.offered.Nodup := h.offered ▸ List.nodup_range
  rw [PoolRun.offered, List.Nodup, List.pairwise_filterMap] at hn
  have hsymm : Std.Symm fun a b : PoolEvent α =>
      ∀ c, a.offered? = some c → ∀ d, b.offered? = some d → c ≠ d :=
    ⟨fun a b hab c hc d hd => (hab d hd c hc).symm⟩
  by_contra hne
  exact hn.forall hj hj' (fun heq => hne (PoolEvent.offered.inj heq).2) t rfl t rfl rfl

/-- A submission in one of these places is in no other. -/
theorem Custody.started_count_le (h : r.Custody) (t : Nat) : r.started.count t ≤ 1 := by
  have hn := List.nodup_iff_count_le_one.mp h.places_nodup t
  have hst := h.started.count_eq t
  simp only [places, List.count_append] at hn hst
  omega

/-- A job that was handed back was not started. -/
theorem Custody.not_started_of_handedBack (h : r.Custody) (ht : t ∈ r.handedBack) :
    t ∉ r.started := by
  have hn := List.nodup_iff_count_le_one.mp h.places_nodup t
  have hst := h.started.count_eq t
  have hback := List.count_pos_iff.mpr ht
  simp only [places, List.count_append] at hn hst
  rw [← List.count_eq_zero]
  omega

/-- A submission that has ended and did not end well gave its job back. -/
theorem Custody.handedBack_of_not_accepted (h : r.Custody) (ht : t < r.pool.issued)
    (hw : t ∉ r.waiting) (ha : t ∉ r.abandoned) (hacc : t ∉ r.accepted) : t ∈ r.handedBack := by
  have hmem : t ∈ r.places := h.located.mem_iff.mpr (List.mem_range.mpr ht)
  rw [h.accepted.mem_iff] at hacc
  simp only [places, List.mem_append, not_or] at hmem hacc
  tauto

/-- When all executors have exited, every job that was accepted is over. -/
theorem Sound.finished_of_exited (h : r.Sound)
    (hexit : ∀ i, i < r.pool.capacity → r.pool.hasExited i = true) :
    r.accepted.Perm r.finished ∧ r.started.Perm r.finished := by
  have hnone : ∀ i, i ∉ r.pool.executors := fun i hi =>
    WorkerPool.hasExited_iff.mp (hexit i (h.pool.executor_lt i hi)) hi
  have hbusy : r.executing = [] := by
    have hall := (List.append_eq_nil_iff.mp (List.eq_nil_iff_forall_not_mem.mpr hnone)).2
    rw [executing, List.map_eq_nil_iff.mp hall, List.map_nil]
  have hqueue : r.queued = [] := by
    rw [queued, (h.pool.drained 0 h.pool.capacity_pos (hnone 0)).2, List.map_nil]
  have hacc := h.custody.accepted
  have hst := h.custody.started
  rw [hbusy] at hacc hst
  rw [hqueue] at hacc
  exact ⟨hacc, hst⟩

/-- When the only call that shuts a pool down has returned, all executors have exited. -/
theorem Sound.exited_of_shutdown (h : r.Sound) (hs : r.shutdowns = [none]) (i : Nat) :
    r.pool.hasExited i = true := by
  rw [WorkerPool.hasExited_iff]
  intro hi
  rcases h.awaited.awaited i hi with hu | ⟨executors, hmem, -⟩
  · have hnone := h.awaited.unjoined hu none (by rw [hs]; exact List.mem_singleton_self _)
    exact absurd hnone (by simp)
  · rw [hs, List.mem_singleton] at hmem
    exact absurd hmem (by simp)

/-- **A pool neither loses nor duplicates a job.** At any time each submission is in exactly one
place; its job was started at most once, and not at all if it was handed back. When all executors
have exited, every job that was accepted was started once and is over, and every other submission
that ended gave back the job it was offered. When the only shutdown returns every job that was
accepted is over. -/
theorem custody_of_follow {requested : Nat} {moves : List (Move α)}
    (h : follow moves (PoolRun.of requested) = some r) :
    r.places.Perm (List.range r.pool.issued) ∧
    (∀ t, r.started.count t ≤ 1 ∧ (t ∈ r.handedBack → t ∉ r.started)) ∧
    (∀ t i job, .started t i job ∈ r.events → .offered t job ∈ r.events) ∧
    ((∀ i, i < r.pool.capacity → r.pool.hasExited i = true) →
      (∀ t ∈ r.accepted, r.started.count t = 1 ∧ t ∈ r.finished) ∧
      ∀ t < r.pool.issued, t ∉ r.waiting → t ∉ r.abandoned → t ∉ r.accepted →
        ∀ job, .offered t job ∈ r.events → .handedBack t job ∈ r.events) ∧
    (r.shutdowns = [none] → ∀ t ∈ r.accepted, t ∈ r.finished) := by
  have hr := Sound.of_follow h
  have hc := hr.custody
  refine ⟨hc.located, fun t => ⟨hc.started_count_le t, hc.not_started_of_handedBack⟩, hc.begun,
    fun hexit => ⟨fun t ht => ?_, fun t ht hw ha hacc job hjob => ?_⟩, fun hs t ht => ?_⟩
  · obtain ⟨hover, hstarted⟩ := hr.finished_of_exited hexit
    have hmem : t ∈ r.finished := hover.mem_iff.mp ht
    have hpos := List.count_pos_iff.mpr (hstarted.mem_iff.mpr hmem)
    exact ⟨Nat.le_antisymm (hc.started_count_le t) hpos, hmem⟩
  · obtain ⟨e, he, hback⟩ := List.mem_filterMap.mp (hc.handedBack_of_not_accepted ht hw ha hacc)
    cases e with
    | handedBack t' job' =>
      cases hback
      rw [hc.offered_inj hjob (hc.returned _ _ he)]
      exact he
    | offered | accepted | abandoned | started | ended => simp at hback
  · exact (hr.finished_of_exited fun i _ => hr.exited_of_shutdown hs i).1.mem_iff.mp ht

/-- A pool of one executor is shut down while one job runs and another waits for a permit. The first
crashes, the second is handed back, and a third that comes later is too. -/
def drainedMoves : List (Move String) :=
  [.submit "first", .advance 0, .advance 0, .take 0, .submit "second", .shutdown, .goOn 0,
    .submit "third", .finish 0 true, .advance 1, .take 0, .goOn 0, .goOn 0]

/-- The run of that pool. -/
def drainedRun : PoolRun String := (follow drainedMoves (PoolRun.of 1)).get (by decide)

/-- The pool that was shut down at work has kept all its jobs. -/
theorem custody_of_drained_pool :
    follow drainedMoves (PoolRun.of 1) = some drainedRun ∧ drainedRun.shutdowns = [none] ∧
      (∀ i, i < drainedRun.pool.capacity → drainedRun.pool.hasExited i = true) ∧
      drainedRun.accepted = [0] ∧ 0 ∈ drainedRun.finished ∧
      drainedRun.handedBack = [2, 1] ∧ .handedBack 1 "second" ∈ drainedRun.events := by
  have h : follow drainedMoves (PoolRun.of 1) = some drainedRun := (Option.some_get _).symm
  have hdown : drainedRun.shutdowns = [none] := rfl
  have hexit : ∀ i, i < drainedRun.pool.capacity → drainedRun.pool.hasExited i = true := by decide
  obtain ⟨-, -, -, hall, hover⟩ := custody_of_follow h
  refine ⟨h, hdown, hexit, rfl, hover hdown 0 (by decide), rfl, ?_⟩
  exact (hall hexit).2 1 (by decide) (by decide) (by decide) (by decide) "second" (by decide)

end PoolRun

end ServiceBus.Bus
