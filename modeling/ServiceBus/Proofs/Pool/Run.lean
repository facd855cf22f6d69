import ServiceBus.Proofs.Pool.Sound

/-! # Runs of a pool

A `PoolRun` is a pool with the calls that shut it down and with the record of what became of every
submission. Whoever uses the pool makes a `Move` at a time, in any order: the pool may be closed
between any two of them, part by part.

* `PoolRun.step?`, `PoolRun.follow`: one move, and a list of them.
* `Passage`: all that a move can do to the submissions of a pool. -/

namespace ServiceBus.Bus

/-- What happens to a submission. -/
inductive PoolEvent (α : Type) where
  | offered (ticket : Ticket) (job : α)
  /-- The submission ended well: its job was queued. -/
  | accepted (ticket : Ticket)
  /-- The submission ended because the pool is closed, and gave the job back. -/
  | handedBack (ticket : Ticket) (job : α)
  /-- Whoever waited for the end of the submission stopped to. -/
  | abandoned (ticket : Ticket)
  | started (ticket : Ticket) (executor : Nat) (job : α)
  | ended (ticket : Ticket) (crashed : Bool)
deriving DecidableEq

/-- A pool, the calls that shut it down, and the record of its submissions. -/
structure PoolRun (α : Type) where
  pool : WorkerPool α
  /-- How far every call that shuts the pool down is; one that has returned has no stage. -/
  shutdowns : List (Option Shutdown) := []
  events : List (PoolEvent α) := []

namespace PoolRun

variable {α : Type} {r r' : PoolRun α} {p p' : WorkerPool α} {job : α} {t i : Nat}

/-! ### Moves -/

/-- One thing that somebody does with a pool. -/
inductive Move (α : Type) where
  | submit (job : α)
  /-- A submission goes on. -/
  | advance (ticket : Ticket)
  | abandon (ticket : Ticket)
  /-- An idle executor looks for a job. -/
  | take (executor : Nat)
  /-- The job of an executor is over, or crashed. -/
  | finish (executor : Nat) (crashed : Bool)
  | announce
  | shutAdmission
  | shutQueue
  /-- One more call that shuts the pool down begins. -/
  | shutdown
  /-- A call that shuts the pool down goes on. -/
  | goOn (call : Nat)

/-- The run of a pool that was just made. -/
def of (requested : Nat) : PoolRun α := { pool := .new requested }

/-- What a verdict is for a submission. -/
def verdictEvents (t : Ticket) : WorkerPool.Verdict α → List (PoolEvent α)
  | .onward => []
  | .queued => [.accepted t]
  | .handedBack job => [.handedBack t job]

/-- What it is for the submissions in the queue when an executor looks for a job. -/
def findEvents (executor : Nat) :
    List (Ticket × α) → WorkerPool.Find α → List (PoolEvent α)
  | (t, _) :: _, .job job => [.started t executor job]
  | _, _ => []

/-- The run after a move, or `none` if nobody can make that move now. -/
def step? (r : PoolRun α) : Move α → Option (PoolRun α)
  | .submit job =>
    let (p, verdict) := r.pool.submit job
    some { r with pool := p,
                  events := r.events ++
                    .offered r.pool.issued job :: verdictEvents r.pool.issued verdict }
  | .advance t => do
    let (p, verdict) ← r.pool.advance? t
    some { r with pool := p, events := r.events ++ verdictEvents t verdict }
  | .abandon t =>
    if t ∈ r.pool.waiting.map Prod.fst then
      some { r with pool := r.pool.abandon t, events := r.events ++ [.abandoned t] }
    else none
  | .take i => do
    let (p, found) ← r.pool.take? i
    some { r with pool := p, events := r.events ++ findEvents i r.pool.queue found }
  | .finish i crashed => do
    let t ← r.pool.busy.lookup i
    some { r with pool := r.pool.finish i, events := r.events ++ [.ended t crashed] }
  | .announce => some { r with pool := r.pool.announce }
  | .shutAdmission => some { r with pool := r.pool.shutAdmission }
  | .shutQueue => some { r with pool := r.pool.shutQueue }
  | .shutdown => some { r with shutdowns := r.shutdowns ++ [some .closing] }
  | .goOn k => do
    let stage ← (← r.shutdowns[k]?)
    let (p, next?) ← r.pool.shutdown? stage
    some { r with pool := p, shutdowns := r.shutdowns.set k next? }

/-- The run after some moves. -/
def follow : List (Move α) → PoolRun α → Option (PoolRun α)
  | [], r => some r
  | m :: moves, r => (r.step? m).bind (follow moves)

/-- **What every move keeps, every run keeps.** -/
theorem follow_induction {holds : PoolRun α → Prop} {moves : List (Move α)}
    (hf : follow moves r = some r') (start : holds r)
    (step : ∀ m r r', holds r → r.step? m = some r' → holds r') : holds r' := by
  induction moves generalizing r with
  | nil =>
    rw [← Option.some.inj hf]
    exact start
  | cons m moves ih =>
    obtain ⟨next, hm, hf⟩ := Option.bind_eq_some_iff.mp hf
    exact ih hf (step m r next start hm)

end PoolRun

/-! ### Passages -/

variable {α : Type}

/-- **What a move does to the submissions of a pool**: at most one of them goes from one place to
another, and the record says from where to where. -/
inductive Passage (p p' : WorkerPool α) : List (PoolEvent α) → Prop where
  | enter (job : α) (issued : p'.issued = p.issued + 1)
      (waiting : p'.waiting.Perm ((p.issued, job) :: p.waiting))
      (queue : p'.queue = p.queue) (busy : p'.busy = p.busy) :
      Passage p p' [.offered p.issued job]
  | bounce (job : α) (issued : p'.issued = p.issued + 1) (waiting : p'.waiting = p.waiting)
      (queue : p'.queue = p.queue) (busy : p'.busy = p.busy) :
      Passage p p' [.offered p.issued job, .handedBack p.issued job]
  | stay (issued : p'.issued = p.issued) (waiting : p'.waiting.Perm p.waiting)
      (queue : p'.queue = p.queue) (busy : p'.busy = p.busy) : Passage p p' []
  | accept (t : Ticket) (job : α) (issued : p'.issued = p.issued)
      (waiting : p.waiting.Perm ((t, job) :: p'.waiting))
      (queue : p'.queue = p.queue ++ [(t, job)]) (busy : p'.busy = p.busy) :
      Passage p p' [.accepted t]
  | handBack (t : Ticket) (job : α) (issued : p'.issued = p.issued)
      (waiting : p.waiting.Perm ((t, job) :: p'.waiting))
      (queue : p'.queue = p.queue) (busy : p'.busy = p.busy) : Passage p p' [.handedBack t job]
  | abandon (t : Ticket) (job : α) (issued : p'.issued = p.issued)
      (waiting : p.waiting.Perm ((t, job) :: p'.waiting))
      (queue : p'.queue = p.queue) (busy : p'.busy = p.busy) : Passage p p' [.abandoned t]
  | start (t : Ticket) (job : α) (i : Nat) (issued : p'.issued = p.issued)
      (waiting : p'.waiting = p.waiting) (queue : p.queue = (t, job) :: p'.queue)
      (busy : p'.busy = p.busy ++ [(i, t)]) : Passage p p' [.started t i job]
  | ends (t : Ticket) (i : Nat) (crashed : Bool) (issued : p'.issued = p.issued)
      (waiting : p'.waiting = p.waiting) (queue : p'.queue = p.queue)
      (busy : p.busy.Perm ((i, t) :: p'.busy)) : Passage p p' [.ended t crashed]

namespace WorkerPool.Sound

variable {p p' : WorkerPool α} {job : α} {t i : Nat}

/-- An offer is a passage. -/
theorem submit_passage (p : WorkerPool α) (job : α) :
    Passage p (p.submit job).1
      (.offered p.issued job :: PoolRun.verdictEvents p.issued (p.submit job).2) := by
  rcases submit_cases p job with ⟨-, hs⟩ | ⟨-, hs⟩
  · rw [hs]
    exact .bounce job rfl rfl rfl rfl
  · rw [hs]
    refine .enter job rfl ?_ rfl rfl
    rw [waiting, List.append_assoc, List.singleton_append]
    exact List.perm_middle

/-- A submission that goes on makes a passage. -/
theorem advance_passage {v : Verdict α} (h : p.Sound) (ha : p.advance? t = some (p', v)) :
    Passage p p' (PoolRun.verdictEvents t v) := by
  obtain ⟨-, hissued, -, hbusy, -⟩ := advance?_frame ha
  obtain ⟨job, ⟨rfl, -, hw, hq⟩ | ⟨rfl, -, hw, hq⟩ | ⟨rfl, -, hw, hq⟩⟩ := h.advance?_cases ha
  · exact .stay hissued hw hq hbusy
  · exact .accept t job hissued hw hq hbusy
  · exact .handBack t job hissued hw hq hbusy

/-- Giving a submission up is a passage. -/
theorem abandon_passage (h : p.Sound) (ht : t ∈ p.waiting.map Prod.fst) :
    Passage p (p.abandon t) [.abandoned t] := by
  rcases abandon_cases p t with ⟨job, hjob, hp⟩ | ⟨job, hjob, hp⟩ | ⟨hn, -⟩
  · rw [hp]
    exact .abandon t job rfl (h.waiting_leaveAdmitted hjob) rfl rfl
  · rw [hp]
    exact .abandon t job rfl (h.waiting_leaveLine hjob) rfl rfl
  · exact absurd ht hn

/-- An executor that looks for a job makes a passage. -/
theorem take_passage {found : Find α} (ht : p.take? i = some (p', found)) :
    Passage p p' (PoolRun.findEvents i p.queue found) := by
  obtain ⟨-, ⟨t, job, rest, hq, rfl, rfl⟩ | ⟨hq, -, rfl, rfl⟩⟩ := take?_cases ht
  · rw [hq]
    exact .start t job i rfl rfl hq rfl
  · have hnone : PoolRun.findEvents i p.queue (.ended : Find α) = [] := by rw [hq]; rfl
    rw [hnone]
    exact .stay rfl (List.Perm.refl _) rfl rfl

/-- The end of a job is a passage. -/
theorem finish_passage (h : p.Sound) (hb : p.busy.lookup i = some t) (crashed : Bool) :
    Passage p (p.finish i) [.ended t crashed] := by
  rw [finish_of_lookup hb]
  exact .ends t i crashed rfl rfl rfl (perm_cons_filter h.busy_nodup hb)

/-- Closing moves no submission. -/
theorem close_passage (p : WorkerPool α) : Passage p p.close [] := by
  rcases close_cases p with ⟨-, hp⟩ | ⟨-, hp⟩
  · rw [hp]
    exact .stay rfl (List.Perm.refl _) rfl rfl
  · rw [hp]
    exact .stay rfl (List.Perm.refl _) rfl rfl

/-- A step of a shutdown moves no submission. -/
theorem shutdown_passage {stage : Shutdown} {next? : Option Shutdown}
    (hs : p.shutdown? stage = some (p', next?)) : Passage p p' [] := by
  rcases shutdown?_cases hs with ⟨-, rfl, -⟩ | ⟨-, rfl, -⟩ | ⟨i, rest, -, -, rfl, -⟩
  · cases close_passage p with
    | stay issued waiting queue busy => exact .stay issued waiting queue busy
  · exact .stay rfl (List.Perm.refl _) rfl rfl
  · exact .stay rfl (List.Perm.refl _) rfl rfl

end WorkerPool.Sound

namespace PoolRun

variable {r r' : PoolRun α} {m : Move α} {k : Nat}

/-- How a call that shuts the pool down goes on. -/
theorem goOn_cases (hm : r.step? (.goOn k) = some r') :
    ∃ stage p next?, r.shutdowns[k]? = some (some stage) ∧
      r.pool.shutdown? stage = some (p, next?) ∧
      r' = { r with pool := p, shutdowns := r.shutdowns.set k next? } := by
  simp only [step?, Option.bind_eq_bind, Option.bind_eq_some_iff, Option.some.injEq,
    Prod.exists] at hm
  obtain ⟨_, hk, stage, rfl, p, next?, hs, rfl⟩ := hm
  exact ⟨stage, p, next?, hk, hs, rfl⟩

/-- **Every move is a passage and keeps the pool sound.** -/
theorem step?_passage (h : r.pool.Sound) (hm : r.step? m = some r') :
    r'.pool.Sound ∧ ∃ events, r'.events = r.events ++ events ∧ Passage r.pool r'.pool events := by
  cases m with
  | submit job =>
    rw [← Option.some.inj hm]
    exact ⟨h.submit job, _, rfl, WorkerPool.Sound.submit_passage r.pool job⟩
  | advance t =>
    obtain ⟨⟨p, v⟩, ha, hm⟩ := Option.bind_eq_some_iff.mp hm
    rw [← Option.some.inj hm]
    exact ⟨h.advance ha, _, rfl, h.advance_passage ha⟩
  | abandon t =>
    rw [step?] at hm
    split at hm
    · rename_i ht
      rw [← Option.some.inj hm]
      exact ⟨h.abandon t, _, rfl, h.abandon_passage ht⟩
    · exact absurd hm (by simp)
  | take i =>
    obtain ⟨⟨p, found⟩, ht, hm⟩ := Option.bind_eq_some_iff.mp hm
    rw [← Option.some.inj hm]
    exact ⟨h.take ht, _, rfl, WorkerPool.Sound.take_passage ht⟩
  | finish i crashed =>
    obtain ⟨t, hb, hm⟩ := Option.bind_eq_some_iff.mp hm
    rw [← Option.some.inj hm]
    exact ⟨h.finish i, _, rfl, h.finish_passage hb crashed⟩
  | announce =>
    rw [← Option.some.inj hm]
    exact ⟨{ h with }, [], (List.append_nil _).symm, .stay rfl (List.Perm.refl _) rfl rfl⟩
  | shutAdmission =>
    rw [← Option.some.inj hm]
    exact ⟨{ h with }, [], (List.append_nil _).symm, .stay rfl (List.Perm.refl _) rfl rfl⟩
  | shutQueue =>
    rw [← Option.some.inj hm]
    exact ⟨h.shutQueue, [], (List.append_nil _).symm, .stay rfl (List.Perm.refl _) rfl rfl⟩
  | shutdown =>
    rw [← Option.some.inj hm]
    exact ⟨h, [], (List.append_nil _).symm, .stay rfl (List.Perm.refl _) rfl rfl⟩
  | goOn k =>
    obtain ⟨stage, p, next?, -, hs, rfl⟩ := goOn_cases hm
    exact ⟨h.shutdown hs, [], (List.append_nil _).symm, WorkerPool.Sound.shutdown_passage hs⟩

end PoolRun

end ServiceBus.Bus
