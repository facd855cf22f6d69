import ServiceBus.Proofs.World.Stock

/-! # Where the request of a call is

Before a handler has it on a pool, the request of a call is stored in an inbox, offered to a pool, or
waits in a pool or is queued there. In every run it is at one of these places at most, and once.

* `World.Place`, `World.At`: the places, and whether the request of a call is there.
* `World.Shifts`: what a step does to the places of a request: it stays, moves, or enters.
* `World.Located.of_steps`: no request is at two places. -/

namespace ServiceBus.Bus

namespace World

variable {w w' v : World} {id j c i P t : Nat} {r : Request}

/-! ### Places -/

/-- Where a request may be before a handler has it. -/
inductive Place where
  | stored (inbox : InboxId)
  | offered (id : TaskId)
  | waiting (pool : PoolId) (ticket : Ticket)
  | queued (pool : PoolId) (ticket : Ticket)

/-- Whether the request of a call is at a place. -/
def At (w : World) (c : CallId) : Place → Prop
  | .stored i => ∃ r ∈ w.bus.buffer i, r.IsOf c
  | .offered id => ∃ P job, w.hand? id = some (.submitting P (.offered job)) ∧ job.request.IsOf c
  | .waiting P t => ∃ p job, w.pools[P]? = some p ∧ (t, job) ∈ p.waiting ∧ job.request.IsOf c
  | .queued P t => ∃ p job, w.pools[P]? = some p ∧ (t, job) ∈ p.queue ∧ job.request.IsOf c

/-- Whether a place is no inbox. -/
def Place.IsPast : Place → Prop
  | .stored _ => False
  | .offered _ | .waiting .. | .queued .. => True

/-- **What a step does to the places of a request.** -/
inductive Shifts (w w' : World) (c : CallId) : Prop
  | stays (h : ∀ y, w'.At c y → w.At c y)
  | moves (x x' : Place) (had : w.At c x) (h : ∀ y, w'.At c y → w.At c y ∧ y ≠ x ∨ y = x')
  | enters (x' : Place) (pending : ¬ w.bus.Sent c) (sent : w'.bus.Sent c)
      (h : ∀ y, w'.At c y → w.At c y ∨ y = x')

/-- **No request is at two places**, nor twice at one. -/
structure Located (w : World) : Prop where
  calls : ∀ i : Nat, ∀ r ∈ w.bus.buffer i, ∃ c, r.IsOf c
  apart : ∀ i : Nat, (w.bus.buffer i).Pairwise fun r r' => ∀ c, r.IsOf c → ¬ r'.IsOf c
  sent : ∀ (c : Nat) x, w.At c x → w.bus.Sent c
  unique : ∀ (c : Nat) x y, w.At c x → w.At c y → x = y

/-! ### Places beyond inboxes -/

/-- How the places beyond the inboxes may change in a step. -/
inductive Passages (w w' : World) (c : CallId) : Prop
  | stays (h : ∀ y : Place, y.IsPast → w'.At c y → w.At c y)
  | taken (id : TaskId) (i : InboxId) (r : Request) (of : r.IsOf c)
      (taken : w.bus.take? i = some (r, w'.bus))
      (h : ∀ y : Place, y.IsPast → w'.At c y → w.At c y ∨ y = .offered id)
  | moves (x x' : Place) (past : x.IsPast) (had : w.At c x)
      (h : ∀ y : Place, y.IsPast → w'.At c y → w.At c y ∧ y ≠ x ∨ y = x')

/-- The places in pools that stay as they are. -/
theorem at_pools (hpools : w'.pools = w.pools) (P t : Nat) :
    (w'.At c (.waiting P t) ↔ w.At c (.waiting P t)) ∧
      (w'.At c (.queued P t) ↔ w.At c (.queued P t)) := by
  simp only [At, hpools, and_self]

/-- The places in pools after one is put in the place of another. -/
theorem Puts.at_pools {pool : Nat} {p p' : WorkerPool Job} (h : Puts pool p p' w w') (P t : Nat) :
    (w'.At c (.waiting P t) ↔ P = pool ∧ (∃ job, (t, job) ∈ p'.waiting ∧ job.request.IsOf c) ∨
        P ≠ pool ∧ w.At c (.waiting P t)) ∧
      (w'.At c (.queued P t) ↔ P = pool ∧ (∃ job, (t, job) ∈ p'.queue ∧ job.request.IsOf c) ∨
        P ≠ pool ∧ w.At c (.queued P t)) := by
  have hlt := (List.getElem?_eq_some_iff.mp h.before).1
  by_cases hP : P = pool
  · simp [At, h.pools, hP, hlt]
  · simp [At, h.pools, hP, List.getElem?_set_ne (Ne.symm hP)]

/-- The places in a pool that loses some at most. -/
theorem Puts.at_sub {pool : Nat} {p p' : WorkerPool Job} (h : Puts pool p p' w w')
    (hw : ∀ e ∈ p'.waiting, e ∈ p.waiting) (hq : ∀ e ∈ p'.queue, e ∈ p.queue) (P t : Nat) :
    (w'.At c (.waiting P t) → w.At c (.waiting P t)) ∧
      (w'.At c (.queued P t) → w.At c (.queued P t)) := by
  constructor
  · intro hat
    rcases (h.at_pools P t).1.mp hat with ⟨rfl, job, hjob, hc⟩ | ⟨-, hat⟩
    · exact ⟨p, job, h.before, hw _ hjob, hc⟩
    · exact hat
  · intro hat
    rcases (h.at_pools P t).2.mp hat with ⟨rfl, job, hjob, hc⟩ | ⟨-, hat⟩
    · exact ⟨p, job, h.before, hq _ hjob, hc⟩
    · exact hat

/-- A pool that is marked has the same submissions. -/
theorem Puts.at_marks {pool : Nat} {p p' : WorkerPool Job} (h : Puts pool p p' w w')
    (hm : p.Marks p') (P t : Nat) : (w'.At c (.waiting P t) → w.At c (.waiting P t)) ∧
      (w'.At c (.queued P t) → w.At c (.queued P t)) := by
  obtain ⟨_, _, _, _, rfl⟩ := hm
  exact h.at_sub (fun _ he => he) (fun _ he => he) P t

/-- Who offers a job after a turn of another offered it before. -/
theorem at_offered_of_turn (h : w.turn id = some w') (hj : j ≠ id) :
    w'.At c (.offered j) ↔ w.At c (.offered j) := by
  rw [At, At, hand?_of_turn h hj]

/-- Who offers a job after the turn of a task that offers none offered it before. -/
theorem at_offered_before (h : w.turn id = some w')
    (hhand : ∀ P job, w'.hand? id ≠ some (.submitting P (.offered job)))
    (hat : w'.At c (.offered j)) : w.At c (.offered j) ∧ j ≠ id := by
  have hj : j ≠ id := by
    rintro rfl
    obtain ⟨P, job, hjob, -⟩ := hat
    exact hhand P job hjob
  exact ⟨(at_offered_of_turn h hj).mp hat, hj⟩

/-- A turn that stores nothing, after which the task offers no job and the places in pools are those
before. -/
theorem at_of_turn (h : w.turn id = some w')
    (hbuffer : ∀ i : Nat, (w'.bus.buffer i).Sublist (w.bus.buffer i))
    (hhand : ∀ P job, w'.hand? id ≠ some (.submitting P (.offered job)))
    (hpools : ∀ P t : Nat, (w'.At c (.waiting P t) → w.At c (.waiting P t)) ∧
      (w'.At c (.queued P t) → w.At c (.queued P t))) (y : Place) (hat : w'.At c y) : w.At c y := by
  cases y with
  | stored i =>
    obtain ⟨r, hr, hc⟩ := hat
    exact ⟨r, (hbuffer i).subset hr, hc⟩
  | offered j => exact (at_offered_before h hhand hat).1
  | waiting P t => exact (hpools P t).1 hat
  | queued P t => exact (hpools P t).2 hat

/-- A turn after which the task offers no job, and the places in pools are those before. -/
theorem Passages.quiet (h : w.turn id = some w')
    (hhand : ∀ P job, w'.hand? id ≠ some (.submitting P (.offered job)))
    (hpools : ∀ P t : Nat, (w'.At c (.waiting P t) → w.At c (.waiting P t)) ∧
      (w'.At c (.queued P t) → w.At c (.queued P t))) : w.Passages w' c := by
  refine .stays fun y hy hat => ?_
  cases y with
  | stored i => exact absurd hy fun h => h
  | offered j => exact (at_offered_before h hhand hat).1
  | waiting P t => exact (hpools P t).1 hat
  | queued P t => exact (hpools P t).2 hat

/-- A task that takes a request out of its inbox and goes on with it. -/
theorem passages_take {d : Delivery} {request : Request} (h : w.turn id = some w')
    (taken : w.bus.take? d.inbox = some (request, w'.bus))
    (hand' : w'.hand? id = some (d.handler.begin d.context request))
    (pools : w'.pools = w.pools) : w.Passages w' c := by
  have hjob : ∀ {P job}, w'.hand? id = some (.submitting P (.offered job)) →
      job.request = request := by
    intro P job hjob
    rw [hand', Handler.begin] at hjob
    split at hjob
    · cases hjob
    · cases hjob
      rfl
  by_cases hc : request.IsOf c
  · refine .taken id d.inbox request hc taken fun y hy hat => ?_
    cases y with
    | stored i => exact absurd hy fun h => h
    | offered j =>
      by_cases hj : j = id
      · exact Or.inr (congrArg Place.offered hj)
      · exact Or.inl ((at_offered_of_turn h hj).mp hat)
    | waiting P t => exact Or.inl ((World.at_pools pools P t).1.mp hat)
    | queued P t => exact Or.inl ((World.at_pools pools P t).2.mp hat)
  · refine .stays fun y hy hat => ?_
    cases y with
    | stored i => exact absurd hy fun h => h
    | offered j =>
      by_cases hj : j = id
      · obtain ⟨P, job, hoffer, hof⟩ := hj ▸ hat
        rw [hjob hoffer] at hof
        exact absurd hof hc
      · exact (at_offered_of_turn h hj).mp hat
    | waiting P t => exact (World.at_pools pools P t).1.mp hat
    | queued P t => exact (World.at_pools pools P t).2.mp hat

/-- A task offers a job to a pool, and the pool takes it or not. -/
theorem passages_offer {pool : PoolId} {p : WorkerPool Job} {job : Job} {w' : World}
    (h : w.turn id = some w')
    (hand : w.hand? id = some (.submitting pool (.offered job)))
    (hputs : Puts pool p (p.submit job).1 w w')
    (hnot : ∀ P job, w'.hand? id ≠ some (.submitting P (.offered job))) : w.Passages w' c := by
  rcases p.submit_cases job with ⟨-, hsubmit⟩ | ⟨-, hsubmit⟩
  · rw [hsubmit] at hputs
    exact .quiet h hnot fun P t => hputs.at_sub (fun _ he => he) (fun _ he => he) P t
  · rw [hsubmit] at hputs
    have hwaiting : ∀ e, e ∈ (p.line ++ [(p.issued, job)] ++ p.admitted) ↔
        e ∈ p.waiting ∨ e = (p.issued, job) := by
      intro e
      simp only [WorkerPool.waiting, List.mem_append, List.mem_singleton]
      tauto
    by_cases hc : job.request.IsOf c
    · refine .moves (.offered id) (.waiting pool p.issued) trivial ⟨pool, job, hand, hc⟩
        fun y hy hat => ?_
      cases y with
      | stored i => exact absurd hy fun h => h
      | offered j =>
        obtain ⟨hat, hj⟩ := at_offered_before h hnot hat
        exact Or.inl ⟨hat, fun heq => hj (Place.offered.inj heq)⟩
      | waiting P t =>
        rcases (hputs.at_pools P t).1.mp hat with ⟨rfl, job', hjob', hc'⟩ | ⟨-, hat⟩
        · rcases (hwaiting _).mp hjob' with hjob' | heq
          · exact Or.inl ⟨⟨p, job', hputs.before, hjob', hc'⟩, by rintro ⟨⟩⟩
          · cases heq
            exact Or.inr rfl
        · exact Or.inl ⟨hat, by rintro ⟨⟩⟩
      | queued P t =>
        rcases (hputs.at_pools P t).2.mp hat with ⟨rfl, job', hjob', hc'⟩ | ⟨-, hat⟩
        · exact Or.inl ⟨⟨p, job', hputs.before, hjob', hc'⟩, by rintro ⟨⟩⟩
        · exact Or.inl ⟨hat, by rintro ⟨⟩⟩
    · refine .quiet h hnot fun P t => ⟨fun hat => ?_, fun hat => ?_⟩
      · rcases (hputs.at_pools P t).1.mp hat with ⟨rfl, job', hjob', hc'⟩ | ⟨-, hat⟩
        · rcases (hwaiting _).mp hjob' with hjob' | heq
          · exact ⟨p, job', hputs.before, hjob', hc'⟩
          · cases heq
            exact absurd hc' hc
        · exact hat
      · rcases (hputs.at_pools P t).2.mp hat with ⟨rfl, job', hjob', hc'⟩ | ⟨-, hat⟩
        · exact ⟨p, job', hputs.before, hjob', hc'⟩
        · exact hat

/-- A submission that waits in a pool goes on, or is handed back. -/
theorem passages_advance {pool : PoolId} {p p' : WorkerPool Job} {verdict : WorkerPool.Verdict Job}
    (h : w.turn id = some w') (hs : p.Sound) (ha : p.advance? t = some (p', verdict))
    (hputs : Puts pool p p' w w')
    (hnot : ∀ P job, w'.hand? id ≠ some (.submitting P (.offered job))) : w.Passages w' c := by
  obtain ⟨job, ⟨-, -, hperm, hq⟩ | ⟨-, -, hperm, hq⟩ | ⟨-, -, hperm, hq⟩⟩ := hs.advance?_cases ha
  · exact .quiet h hnot fun P s => hputs.at_sub (fun _ he => hperm.mem_iff.mp he)
      (fun _ he => hq ▸ he) P s
  · have hsub : ∀ e ∈ p'.waiting, e ∈ p.waiting := fun e he =>
      hperm.mem_iff.mpr (List.mem_cons_of_mem _ he)
    by_cases hc : job.request.IsOf c
    · have hmem : (t, job) ∈ p.waiting := hperm.mem_iff.mpr List.mem_cons_self
      refine .moves (.waiting pool t) (.queued pool t) trivial ⟨p, job, hputs.before, hmem, hc⟩
        fun y hy hat => ?_
      cases y with
      | stored i => exact absurd hy fun h => h
      | offered j => exact Or.inl ⟨(at_offered_before h hnot hat).1, fun heq => nomatch heq⟩
      | waiting P s =>
        rcases (hputs.at_pools P s).1.mp hat with ⟨rfl, job', hjob', hc'⟩ | ⟨hP, hat⟩
        · refine Or.inl ⟨⟨p, job', hputs.before, hsub _ hjob', hc'⟩, fun heq => ?_⟩
          cases heq
          exact hs.not_waiting_of_perm hperm (List.mem_map_of_mem hjob')
        · exact Or.inl ⟨hat, fun heq => hP (Place.waiting.inj heq).1⟩
      | queued P s =>
        rcases (hputs.at_pools P s).2.mp hat with ⟨rfl, job', hjob', hc'⟩ | ⟨-, hat⟩
        · rw [hq, List.mem_append, List.mem_singleton] at hjob'
          rcases hjob' with hjob' | heq
          · exact Or.inl ⟨⟨p, job', hputs.before, hjob', hc'⟩, fun h => nomatch h⟩
          · cases heq
            exact Or.inr rfl
        · exact Or.inl ⟨hat, fun h => nomatch h⟩
    · refine .quiet h hnot fun P s => ⟨fun hat => ?_, fun hat => ?_⟩
      · rcases (hputs.at_pools P s).1.mp hat with ⟨rfl, job', hjob', hc'⟩ | ⟨-, hat⟩
        · exact ⟨p, job', hputs.before, hsub _ hjob', hc'⟩
        · exact hat
      · rcases (hputs.at_pools P s).2.mp hat with ⟨rfl, job', hjob', hc'⟩ | ⟨-, hat⟩
        · rw [hq, List.mem_append, List.mem_singleton] at hjob'
          rcases hjob' with hjob' | heq
          · exact ⟨p, job', hputs.before, hjob', hc'⟩
          · cases heq
            exact absurd hc' hc
        · exact hat
  · exact .quiet h hnot fun P s => hputs.at_sub
      (fun e he => hperm.mem_iff.mpr (List.mem_cons_of_mem _ he)) (fun _ he => hq ▸ he) P s

/-- **How requests pass in a turn** beyond the inboxes. -/
theorem passages_of_turn (hs : ∀ (P : Nat) p, w.pools[P]? = some p → p.Sound)
    (h : w.turn id = some w') : w.Passages w' c := by
  have hsame : w'.pools = w.pools → ∀ P t : Nat,
      (w'.At c (.waiting P t) → w.At c (.waiting P t)) ∧
        (w'.At c (.queued P t) → w.At c (.queued P t)) := fun hpools P t =>
    ⟨(at_pools hpools P t).1.mp, (at_pools hpools P t).2.mp⟩
  have hnone : ∀ {after : Option Handling}, w'.hand? id = after →
      (∀ P job, after ≠ some (.submitting P (.offered job))) →
        ∀ P job, w'.hand? id ≠ some (.submitting P (.offered job)) := fun heq hne => heq ▸ hne
  cases deed_of_turn h with
  | quiet _ _ hand' _ _ pools =>
    refine .quiet h (hnone hand' (by simp)) ?_
    rcases pools with pools | ⟨pool, p, p', hputs, hmarks⟩
    · exact hsame pools
    · exact hputs.at_marks hmarks
  | exchange _ _ _ _ _ _ _ hand' _ pools => exact .quiet h (hnone hand' (by simp)) (hsame pools)
  | receive _ _ _ _ _ hand' pools => exact .quiet h (hnone hand' (by simp)) (hsame pools)
  | drain _ _ _ hand' _ _ pools => exact .quiet h (hnone hand' (by simp)) (hsame pools)
  | leave _ _ _ _ end' _ _ pools =>
    exact .quiet h (hnone (hand?_eq_none end') (by simp)) (hsame pools)
  | take d request _ _ taken hand' _ pools => exact passages_take h taken hand' pools
  | submit v pool s placement hand turn pools _ next =>
    have hnot : ∀ P job, w'.hand? id ≠ some (.submitting P (.offered job)) := by
      cases next with
      | onward _ hand' =>
        obtain ⟨t, rfl⟩ := placed_of_onward turn
        exact hnone hand' (by simp)
      | queued hand' => exact hnone hand' (by simp)
      | refused _ _ hand' => exact hnone hand' (by simp)
      | returned _ hand' => exact hnone hand' (by simp)
    obtain ⟨p, ⟨job, rfl, hputs, -⟩ | ⟨t, p', verdict, rfl, ha, hputs, -⟩⟩ :=
      puts_of_submission turn pools
    · exact passages_offer h hand hputs hnot
    · exact passages_advance h (hs pool p hputs.before) ha hputs hnot
  | run _ _ _ _ _ hand' _ pools => exact .quiet h (hnone hand' (by simp)) (hsame pools)
  | finish _ _ _ _ _ _ hand' _ _ pools =>
    refine .quiet h (hnone hand' (by simp)) ?_
    rcases pools with ⟨-, pools⟩ | ⟨pool, i, p, -, -, hputs⟩
    · exact hsame pools
    · have hfinish : (p.finish i).waiting = p.waiting ∧ (p.finish i).queue = p.queue := by
        rw [WorkerPool.finish]
        split <;> exact ⟨rfl, rfl⟩
      exact hputs.at_sub (fun _ he => hfinish.1 ▸ he) fun _ he => hfinish.2 ▸ he
  | pick pool i p p' job _ taken puts program' =>
    refine .quiet h (hnone (hand?_eq program') (by simp [Program.handling?])) ?_
    obtain ⟨-, ⟨_, _, rest, hq, -, rfl⟩ | ⟨-, -, hf, -⟩⟩ := WorkerPool.take?_cases taken
    · exact puts.at_sub (fun _ he => he) fun _ he => hq ▸ List.mem_cons_of_mem _ he
    · cases hf
  | exit pool i p p' _ taken puts end' =>
    refine .quiet h (hnone (hand?_eq_none end') (by simp)) ?_
    obtain ⟨-, ⟨_, _, _, -, hf, -⟩ | ⟨-, -, -, rfl⟩⟩ := WorkerPool.take?_cases taken
    · cases hf
    · exact puts.at_sub (fun _ he => he) fun _ he => he

/-- **How requests pass in a step** beyond the inboxes. -/
theorem Step.passages (hp : ∀ (P : Nat) p, w.pools[P]? = some p → p.Sound) (hs : w.Step w') :
    w.Passages w' c := by
  obtain ⟨id, h⟩ | ⟨call, context?, client?, conclude, name?, -, rfl⟩ | h := hs.cases_outside
  · exact passages_of_turn hp h
  · refine .stays fun y hy hat => ?_
    cases y with
    | stored i => exact absurd hy fun h => h
    | offered j =>
      obtain ⟨P, job, hjob, hc⟩ := hat
      exact ⟨P, job, (hand?_exchange j).symm.trans hjob, hc⟩
    | waiting P t => exact hat
    | queued P t => exact hat
  · refine .stays fun y hy hat => ?_
    cases y with
    | stored i => exact absurd hy fun h => h
    | offered j =>
      obtain ⟨P, job, hjob, hc⟩ := hat
      exact ⟨P, job, (h.hands j _ hjob).resolve_right fun hfree => hfree.1 c hc, hc⟩
    | waiting P t =>
      obtain ⟨p', job, hp', hjob, hc⟩ := hat
      rcases h.pools_back P p' hp' with ⟨p, hp, ⟨_, _, _, _, rfl⟩⟩ | ⟨⟨requested, rfl⟩, -⟩
      · exact ⟨p, job, hp, hjob, hc⟩
      · cases hjob
    | queued P t =>
      obtain ⟨p', job, hp', hjob, hc⟩ := hat
      rcases h.pools_back P p' hp' with ⟨p, hp, ⟨_, _, _, _, rfl⟩⟩ | ⟨⟨requested, rfl⟩, -⟩
      · exact ⟨p, job, hp, hjob, hc⟩
      · cases hjob

/-! ### All places -/

/-- What a step stores was stored before, or is the request of a call that enters. -/
theorem Stocks.stored (h : w.Stocks w') (c : Nat) :
    (∀ i, w'.At c (.stored i) → w.At c (.stored i)) ∨ ¬ w.bus.Sent c ∧ w'.bus.Sent c ∧
      ∃ k, ∀ i, w'.At c (.stored i) → w.At c (.stored i) ∨ i = k := by
  cases h with
  | thins touched h => exact Or.inl fun i ⟨r, hr, hc⟩ => ⟨r, (h.sublist i).subset hr, hc⟩
  | enters id d k exchanges turn h =>
    obtain ⟨call, hcall, hpending, hbuffer⟩ := h.call
    have hback : ∀ i, w'.At c (.stored i) → w.At c (.stored i) ∨ i = k ∧ c = d := by
      rintro i ⟨r, hr, hc⟩
      by_cases hi : i = k
      · rw [hi, hbuffer, List.mem_append, List.mem_singleton] at hr
        rcases hr with hr | rfl
        · exact Or.inl ⟨r, hi ▸ hr, hc⟩
        · exact Or.inr ⟨hi, hc.eq (call.isOf_request d)⟩
      · exact Or.inl ⟨r, h.others i hi ▸ hr, hc⟩
    by_cases hd : c = d
    · refine Or.inr ⟨?_, hd ▸ h.sent, k, fun i hi => (hback i hi).imp_right And.left⟩
      rintro ⟨s, hs, hnot⟩
      rw [hd, MemoryBus.stage?, hcall] at hs
      cases hs
      exact hnot hpending
    · exact Or.inl fun i hi => (hback i hi).resolve_right fun heq => hd heq.2

/-- What is taken out of an inbox is there no more. -/
theorem Located.not_stored (h : w.Located) {b' : MemoryBus} (hc : r.IsOf c)
    (taken : w.bus.take? i = some (r, b')) : ∀ r' ∈ b'.buffer i, ¬ r'.IsOf c := by
  have happart := h.apart i
  rw [(MemoryBus.buffer_take taken).1, List.pairwise_cons] at happart
  exact fun r' hr' => happart.1 r' hr' c hc

/-- **Every step shifts requests in one of these ways.** -/
theorem Located.shifts (h : w.Located) (hp : ∀ (P : Nat) p, w.pools[P]? = some p → p.Sound)
    (hs : w.Step w') (c : Nat) : w.Shifts w' c := by
  rcases hs.stocks.stored c with hstored | ⟨hpending, hsent, k, hstored⟩
  · cases hs.passages (c := c) hp with
    | stays hpast =>
      refine .stays fun y hat => ?_
      cases y with
      | stored i => exact hstored i hat
      | offered j => exact hpast _ trivial hat
      | waiting P t => exact hpast _ trivial hat
      | queued P t => exact hpast _ trivial hat
    | taken id i r of taken hpast =>
      have hhead : r ∈ w.bus.buffer i := by
        rw [(MemoryBus.buffer_take taken).1]
        exact List.mem_cons_self
      refine .moves (.stored i) (.offered id) ⟨r, hhead, of⟩ fun y hat => ?_
      cases y with
      | stored k =>
        refine Or.inl ⟨hstored k hat, fun heq => ?_⟩
        cases heq
        obtain ⟨r', hr', hc'⟩ := hat
        exact h.not_stored of taken r' hr' hc'
      | offered j =>
        exact (hpast (.offered j) trivial hat).imp_left fun hat => ⟨hat, fun heq => nomatch heq⟩
      | waiting P t =>
        exact (hpast (.waiting P t) trivial hat).imp_left fun hat => ⟨hat, fun heq => nomatch heq⟩
      | queued P t =>
        exact (hpast (.queued P t) trivial hat).imp_left fun hat => ⟨hat, fun heq => nomatch heq⟩
    | moves x x' past had hpast =>
      refine .moves x x' had fun y hat => ?_
      cases y with
      | stored k =>
        refine Or.inl ⟨hstored k hat, ?_⟩
        rintro rfl
        exact past
      | offered j => exact hpast _ trivial hat
      | waiting P t => exact hpast _ trivial hat
      | queued P t => exact hpast _ trivial hat
  · -- a call that enters has its request nowhere else
    have hnone : ∀ x, ¬ w.At c x := fun x hx => hpending (h.sent c x hx)
    refine .enters (.stored k) hpending hsent fun y hat => ?_
    have hpast : ∀ y : Place, y.IsPast → w'.At c y → w.At c y := by
      cases hs.passages (c := c) hp with
      | stays hpast => exact hpast
      | taken id i r of taken =>
        refine absurd ⟨r, ?_, of⟩ (hnone (.stored i))
        rw [(MemoryBus.buffer_take taken).1]
        exact List.mem_cons_self
      | moves x x' past had => exact absurd had (hnone x)
    cases y with
    | stored i => exact (hstored i hat).imp_right (congrArg Place.stored)
    | offered j => exact Or.inl (hpast _ trivial hat)
    | waiting P t => exact Or.inl (hpast _ trivial hat)
    | queued P t => exact Or.inl (hpast _ trivial hat)

/-! ### The invariant -/

/-- A call that has nothing to store has nothing to store after a step. -/
theorem Step.sent (hp : ∀ (P : Nat) p, w.pools[P]? = some p → p.Sound) (hs : w.Step w')
    (h : w.bus.Sent c) : w'.bus.Sent c := by
  obtain ⟨s, hstage, hnot⟩ := h
  rcases (hs.custody hp).stages c with ⟨hnone, -⟩ | hsame | ⟨id, hex, hturn⟩ | ⟨i, -, reply, hi, -⟩ |
    ⟨i, -, hi, -⟩
  · rw [hstage] at hnone
    cases hnone
  · exact ⟨s, hsame.trans hstage, hnot⟩
  · obtain ⟨context?, begun, client?, conclude, program⟩ := hex.program
    rw [World.turn, program, Option.bind_eq_bind, Option.bind_some] at hturn
    have hbefore : w.bus.Sent c := ⟨s, hstage, hnot⟩
    obtain ⟨v, result, rfl, hcase⟩ | ⟨-, -, rfl⟩ := turnExchange_cases hturn
    · rw [(alone_finish (v.absorb (conclude result)) id (conclude result).value).bus]
      show v.bus.Sent c
      rcases hcase with ⟨e, -, -, rfl, -⟩ | ⟨rfl, -⟩ | ⟨e, -, -, rfl, -⟩
      · exact MemoryBus.sent_abandon hbefore
      · exact MemoryBus.sent_poll hbefore
      · exact MemoryBus.sent_abandon (MemoryBus.sent_poll hbefore)
    · exact MemoryBus.sent_poll hbefore
  · exact ⟨_, hi, fun h => h⟩
  · exact ⟨_, hi, fun h => h⟩

/-- At the beginning there are no requests. -/
theorem Located.empty : Located {} := by
  have hbuffer : ∀ i : Nat, (({} : World).bus).buffer i = [] := fun i => rfl
  have hnone : ∀ c x, ¬ At {} c x := by
    intro c x hat
    cases x with
    | stored i =>
      obtain ⟨r, hr, -⟩ := hat
      rw [hbuffer] at hr
      cases hr
    | offered j =>
      obtain ⟨P, job, hjob, -⟩ := hat
      rw [hand?_eq_none (program?_empty j)] at hjob
      cases hjob
    | waiting P t =>
      obtain ⟨p, job, hp, -⟩ := hat
      cases hp
    | queued P t =>
      obtain ⟨p, job, hp, -⟩ := hat
      cases hp
  refine ⟨fun i r hr => ?_, fun i => ?_, fun c x hx => absurd hx (hnone c x),
    fun c x y hx => absurd hx (hnone c x)⟩
  · rw [hbuffer] at hr
    cases hr
  · rw [hbuffer]
    exact .nil

/-- A step keeps requests apart. -/
theorem Located.step (h : w.Located) (hp : ∀ (P : Nat) p, w.pools[P]? = some p → p.Sound)
    (hs : w.Step w') : w'.Located := by
  refine ⟨?_, ?_, fun c x hx => ?_, fun c x y hx hy => ?_⟩
  · cases hs.stocks with
    | thins touched hthin => exact fun i r hr => h.calls i r ((hthin.sublist i).subset hr)
    | enters id d k exchanges turn henters =>
      intro i r hr
      obtain ⟨call, -, -, hbuffer⟩ := henters.call
      by_cases hi : i = k
      · rw [hi, hbuffer, List.mem_append, List.mem_singleton] at hr
        rcases hr with hr | rfl
        · exact h.calls k r hr
        · exact ⟨d, call.isOf_request d⟩
      · exact h.calls i r (henters.others i hi ▸ hr)
  · cases hs.stocks with
    | thins touched hthin => exact fun i => (h.apart i).sublist (hthin.sublist i)
    | enters id d k exchanges turn henters =>
      intro i
      obtain ⟨call, hcall, hpending, hbuffer⟩ := henters.call
      by_cases hi : i = k
      · rw [hi, hbuffer, List.pairwise_append]
        refine ⟨h.apart k, List.pairwise_singleton _ _, fun r hr r' hr' c hc hc' => ?_⟩
        rw [List.mem_singleton.mp hr'] at hc'
        rw [hc'.eq (call.isOf_request d)] at hc
        obtain ⟨s, hs, hnot⟩ := h.sent d (.stored k) ⟨r, hr, hc⟩
        rw [MemoryBus.stage?, hcall] at hs
        cases hs
        exact hnot hpending
      · rw [henters.others i hi]
        exact h.apart i
  · cases h.shifts hp hs c with
    | stays hback => exact hs.sent hp (h.sent c x (hback x hx))
    | moves y y' had hback => exact hs.sent hp (h.sent c y had)
    | enters x' pending sent hback => exact sent
  · cases h.shifts hp hs c with
    | stays hback => exact h.unique c x y (hback x hx) (hback y hy)
    | moves z z' had hback =>
      rcases hback x hx with ⟨hx, hne⟩ | rfl
      · exact absurd (h.unique c x z hx had) hne
      · rcases hback y hy with ⟨hy, hne⟩ | rfl
        · exact absurd (h.unique c y z hy had) hne
        · rfl
    | enters z' pending sent hback =>
      rcases hback x hx with hx | rfl
      · exact absurd (h.sent c x hx) pending
      · rcases hback y hy with hy | rfl
        · exact absurd (h.sent c y hy) pending
        · rfl

/-- **In every run no request is at two places.** -/
theorem Located.of_steps (h : Steps {} w) : w.Located := by
  induction h with
  | refl => exact .empty
  | tail h hs ih => exact ih.step (Attended.of_steps h).pools hs

end World

end ServiceBus.Bus
