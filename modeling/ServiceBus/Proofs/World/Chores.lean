import Mathlib.Tactic.Abel
import ServiceBus.Proofs.Bus.Chores
import ServiceBus.Proofs.World.Step

/-! # What is left to do in a world

`World.chores` counts what is left to do by tasks, on the bus and in pools.

* `WorkerPool.chores`: what a pool has left to do; a submission that goes on leaves less.
* `World.turnRun_chores`, `World.lightens_turnHandling`: the parts of turns leave less.
* `World.Busies.lighter`: what a turn has to leave less of. -/

namespace ServiceBus.Bus

open Finset (range)

variable {s s' t t' : Multiset Chore} {a : Chore}

/-! ### More on chores -/

/-- Some chores are lighter and the others are no heavier. -/
theorem Lighter.add (h : Lighter s' s) (h' : NoHeavier t' t) : Lighter (s' + t') (s + t) :=
  (h'.add_left s').trans_lighter (h.add_right t)

/-- Some chores are no heavier and the others are lighter. -/
theorem NoHeavier.add (h : NoHeavier s' s) (h' : Lighter t' t) : Lighter (s' + t') (s + t) := by
  rw [add_comm s', add_comm s]
  exact h'.add h

/-- No chores are no heavier than any. -/
theorem noHeavier_zero (t : Multiset Chore) : NoHeavier 0 t := by
  have h := noHeavier_add 0 t
  rwa [zero_add] at h

/-- One of several chores of a kind makes way for others. -/
theorem lighter_replicate {n m : Nat} (h : n < m) (hs : ∀ b ∈ s, Chore.Below b a) :
    Lighter (.replicate n a + s) (.replicate m a) := by
  have hone : Lighter (.replicate n a + s) (.replicate (n + 1) a) := by
    rw [Multiset.replicate_add, Multiset.replicate_one]
    exact (lighter_of_below hs).add_left _
  exact hone.trans_noHeavier (noHeavier_replicate h a)

/-! ### Pools -/

/-- The chore of handing a job to a pool. -/
def offerChore : Chore := ⟨5, .stop, 0⟩

namespace WorkerPool

variable {p p' : WorkerPool Job} {t i : Nat}

/-- What a pool has left to do. -/
def chores (p : WorkerPool Job) : Multiset Chore :=
  .replicate p.line.length ⟨4, .stop, 0⟩ + .replicate p.admitted.length ⟨3, .stop, 0⟩ +
    .replicate p.queue.length ⟨2, .stop, 0⟩

/-- Taking out what is there makes a list shorter. -/
theorem length_filter_lt {l : List (Nat × Job)} {job : Job} (h : l.lookup t = some job) :
    (l.filter (·.1 != t)).length < l.length :=
  List.length_filter_lt_length_iff_exists.mpr ⟨_, mem_of_lookup h, by simp⟩

/-- A job that is offered is a chore less, even if it then has to be refused. -/
theorem lighter_submit (p : WorkerPool Job) (job : Job) (hs : ∀ b ∈ s, b.kind ≤ 1) :
    Lighter ((p.submit job).1.chores + s) (p.chores + {offerChore}) := by
  rcases submit_cases p job with ⟨-, hp⟩ | ⟨-, hp⟩
  · rw [hp]
    refine Lighter.add_left (lighter_of_below fun b hb => Chore.below_of_kind ?_) p.chores
    exact Nat.lt_of_le_of_lt (hs b hb) (by decide)
  · rw [hp]
    have hline : chores { p with issued := p.issued + 1, line := p.line ++ [(p.issued, job)] } =
        p.chores + {⟨4, .stop, 0⟩} := by
      rw [chores, chores, List.length_append, List.length_singleton, Multiset.replicate_add,
        Multiset.replicate_one]
      abel
    rw [hline, add_assoc]
    refine Lighter.add_left (lighter_of_below fun b hb => Chore.below_of_kind ?_) p.chores
    rcases Multiset.mem_add.mp hb with hb | hb
    · rw [Multiset.mem_singleton.mp hb]
      decide
    · exact Nat.lt_of_le_of_lt (hs b hb) (by decide)

/-- A submission that goes on is a lesser chore, even if it then has to be refused. -/
theorem lighter_advance {v : Verdict Job} (h : p.advance? t = some (p', v))
    (hs : ∀ b ∈ s, b.kind ≤ 1) : Lighter (p'.chores + s) p.chores := by
  have hbelow : ∀ k, 1 < k → ∀ b ∈ s, Chore.Below b ⟨k, .stop, 0⟩ := fun k hk b hb =>
    Chore.below_of_kind (Nat.lt_of_le_of_lt (hs b hb) hk)
  have hwith : ∀ k n, n < k → 1 < k →
      ∀ b ∈ ({⟨n, .stop, 0⟩} : Multiset Chore) + s, Chore.Below b ⟨k, .stop, 0⟩ := by
    intro k n hn hk b hb
    rcases Multiset.mem_add.mp hb with hb | hb
    · rw [Multiset.mem_singleton.mp hb]
      exact Chore.below_of_kind hn
    · exact hbelow k hk b hb
  rcases advance?_cases h with h | h
  · obtain ⟨job, hjob, ⟨-, rfl, -⟩ | ⟨-, -, -, rfl⟩⟩ := admit?_cases h
    · have hl := lighter_replicate (length_filter_lt hjob) (hbelow 4 (by decide))
      have hl' := hl.add_right (.replicate p.admitted.length ⟨3, .stop, 0⟩ +
        .replicate p.queue.length ⟨2, .stop, 0⟩)
      rw [← add_assoc, add_right_comm _ s, add_right_comm _ s, ← add_assoc] at hl'
      exact hl'
    · have hl := lighter_replicate (length_filter_lt hjob) (hwith 4 3 (by decide) (by decide))
      have hl' := hl.add_right (.replicate p.admitted.length ⟨3, .stop, 0⟩ +
        .replicate p.queue.length ⟨2, .stop, 0⟩)
      rw [← add_assoc (Multiset.replicate p.line.length _)] at hl'
      refine (congrArg (Lighter · _) ?_).mpr hl'
      rw [chores, List.length_append, List.length_singleton, Multiset.replicate_add,
        Multiset.replicate_one, leaveLine, takePermit]
      abel
  · obtain ⟨job, hjob, ⟨-, rfl, -⟩ | ⟨-, -, -, rfl⟩⟩ := enqueue?_cases h
    · have hl := lighter_replicate (length_filter_lt hjob) (hbelow 3 (by decide))
      have hl' := (hl.add_left (.replicate p.line.length ⟨4, .stop, 0⟩)).add_right
        (.replicate p.queue.length ⟨2, .stop, 0⟩)
      refine (congrArg (Lighter · _) ?_).mpr hl'
      rw [chores, leaveAdmitted, returnPermit]
      abel
    · have hl := lighter_replicate (length_filter_lt hjob) (hwith 3 2 (by decide) (by decide))
      have hl' := (hl.add_left (.replicate p.line.length ⟨4, .stop, 0⟩)).add_right
        (.replicate p.queue.length ⟨2, .stop, 0⟩)
      refine (congrArg (Lighter · _) ?_).mpr hl'
      rw [chores, List.length_append, List.length_singleton, Multiset.replicate_add,
        Multiset.replicate_one, leaveAdmitted]
      abel

/-- A job that is taken out of the queue is a lesser chore. -/
theorem lighter_take {job : Job} (h : p.take? i = some (p', .job job))
    (hs : ∀ b ∈ s, b.kind ≤ 1) : Lighter (p'.chores + s) p.chores := by
  obtain ⟨-, ⟨t, job', rest, hq, -, rfl⟩ | ⟨-, -, hf, -⟩⟩ := take?_cases h
  · have hlt : rest.length < p.queue.length := by rw [hq]; exact Nat.lt_succ_self _
    have hl := (lighter_replicate (a := ⟨2, .stop, 0⟩) hlt fun b hb =>
      Chore.below_of_kind (Nat.lt_of_le_of_lt (hs b hb) (by decide))).add_left
        (.replicate p.line.length ⟨4, .stop, 0⟩ + .replicate p.admitted.length ⟨3, .stop, 0⟩)
    rw [← add_assoc] at hl
    exact hl
  · cases hf

/-- An executor that exits leaves as much to do. -/
theorem chores_exit (h : p.take? i = some (p', .ended)) : p'.chores = p.chores := by
  obtain ⟨-, ⟨t, job', rest, -, hf, -⟩ | ⟨-, -, -, rfl⟩⟩ := take?_cases h
  · cases hf
  · rfl

/-- An executor whose job is over leaves as much to do. -/
theorem chores_finish (p : WorkerPool Job) (i : Nat) : (p.finish i).chores = p.chores := by
  rw [finish]
  split
  · rfl
  · rfl

/-- A shutdown leaves as much to do. -/
theorem chores_shutdown {stage : Shutdown} {next? : Option Shutdown}
    (h : p.shutdown? stage = some (p', next?)) : p'.chores = p.chores := by
  rcases shutdown?_cases h with ⟨-, rfl, -⟩ | ⟨-, rfl, -⟩ | ⟨i, rest, -, -, rfl, -⟩
  · rcases close_cases p with ⟨-, hp⟩ | ⟨-, hp⟩
    · rw [join, hp]
      rfl
    · rw [join, hp]
      rfl
  · rfl
  · rfl

end WorkerPool

namespace World

variable {w w' v : World} {id j : Nat}

/-! ### Tasks -/

/-- The chore of a task that does nothing else; the count is that of its turns. -/
def ownChore (n : Nat) : Chore := ⟨0, .stop, n⟩

/-- What is left to do of a run: its script, once more if it first has to get in line or to set a
time. -/
def runChore (w : World) (id : TaskId) (run : Run) : Chore :=
  ⟨1, run.script, match run.script with
    | .pass payload _ => if (w.gate payload).line.contains id then 0 else 1
    | .pause .. => if run.wake?.isNone then 1 else 0
    | _ => 0⟩

/-- What is left to do of a submission, apart from what the pool does. -/
def submissionChores : Submission → Multiset Chore
  | .offered _ => {offerChore}
  | .placed _ => 0

/-- What is left to do with a request. -/
def handlingChores (w : World) (id : TaskId) : Handling → Multiset Chore
  | .submitting _ s => submissionChores s
  | .running run => {w.runChore id run}

/-- What is left to do of a shutdown. -/
def shutdownChore : Shutdown → Chore
  | .closing => ⟨12, .stop, 0⟩
  | .joining executors => ⟨11, .stop, executors.length⟩

/-- What is left to do of a stop. -/
def stopChore : Stopping → Chore
  | .signalling => ⟨14, .stop, 0⟩
  | .joining deliveries => ⟨13, .stop, deliveries.length⟩
  | .shutting stage => shutdownChore stage

/-- What a task has left to do by itself. -/
def programChores (w : World) (id : TaskId) : Program → Multiset Chore
  | .awaitCancelled _ | .awaitEnd _ | .receive .. => {ownChore 1}
  | .sleep _ begun _ | .exchange _ _ begun _ _ => {ownChore (if begun then 1 else 2)}
  | .submit _ s => {ownChore 1} + submissionChores s
  | .handle h => {ownChore 1} + w.handlingChores id h
  | .deliver d => {ownChore (if d.draining then 1 else 2)} + d.handling?.elim 0 (w.handlingChores id)
  | .execute _ _ run? => {ownChore 1} + run?.elim 0 fun run => {w.runChore id run}
  | .shutdown _ stage => {shutdownChore stage}
  | .stop _ stage => {stopChore stage}

/-- What a task has left to do, if anything. -/
def taskChores (w : World) (id : TaskId) : Multiset Chore :=
  (w.program? id).elim 0 (w.programChores id)

/-- What a pool has left to do. -/
def poolChores (w : World) (pool : PoolId) : Multiset Chore :=
  (w.pools[pool]?).elim 0 (·.chores)

/-- **What is left to do in a world.** -/
def chores (w : World) : Multiset Chore :=
  ∑ id ∈ range w.tasks.length, w.taskChores id + w.bus.chores +
    ∑ pool ∈ range w.pools.length, w.poolChores pool

/-- Whether a task stands where it stood in the lines of all gates. -/
def SameLines (w v : World) (j : TaskId) : Prop :=
  ∀ payload, (v.gate payload).line.contains j = (w.gate payload).line.contains j

/-- Gates that stay as they are. -/
theorem SameLines.of_gates (h : v.gates = w.gates) (j : TaskId) : w.SameLines v j := by
  intro payload
  rw [gate, gate, h]

/-- The chore of a run depends on the gates only. -/
theorem runChore_congr (h : w.SameLines v id) (run : Run) : v.runChore id run = w.runChore id run := by
  rw [runChore, runChore]
  congr 1
  split
  · rw [h]
  · rfl
  · rfl

/-- The chores of a program depend on the gates only. -/
theorem programChores_congr (h : w.SameLines v id) (program : Program) :
    v.programChores id program = w.programChores id program := by
  have hhandling : v.handlingChores id = w.handlingChores id := by
    funext handling
    cases handling with
    | submitting pool s => rfl
    | running run => rw [handlingChores, handlingChores, runChore_congr h]
  cases program with
  | handle handling => rw [programChores, programChores, hhandling]
  | deliver d => rw [programChores, programChores, hhandling]
  | execute pool i run? =>
    rw [programChores, programChores]
    cases run? with
    | none => rfl
    | some run => rw [Option.elim_some, Option.elim_some, runChore_congr h]
  | _ => rfl

/-! ### The chores of a turn -/

/-- What becomes of the tasks and the pools when one task has its turn. -/
structure Busies (id : TaskId) (w w' : World) : Prop where
  length : w'.tasks.length = w.tasks.length
  others : ∀ j : Nat, j ≠ id → w'.program? j = w.program? j
  lines : ∀ j : Nat, j ≠ id → w.SameLines w' j

/-- The chores before and after a turn differ in those of the task, of the bus and of the pools. -/
theorem Busies.lighter {rest old new : Multiset Chore} (hb : Busies id w w')
    (hlt : id < w.tasks.length)
    (hold : ∑ pool ∈ range w.pools.length, w.poolChores pool = rest + old)
    (hnew : ∑ pool ∈ range w'.pools.length, w'.poolChores pool = rest + new)
    (h : Lighter (w'.taskChores id + w'.bus.chores + new) (w.taskChores id + w.bus.chores + old)) :
    Lighter w'.chores w.chores := by
  obtain ⟨tasks, htasks, htasks'⟩ := exists_sum_eq (f := w.taskChores) (g := w'.taskChores) hlt
    fun j hj => by
      rw [taskChores, taskChores, hb.others j hj]
      cases w.program? j with
      | none => rfl
      | some program => exact programChores_congr (hb.lines j hj) program
  have hsum := h.add_left (tasks + rest)
  rw [chores, chores, hb.length, htasks, htasks', hold, hnew]
  refine (congrArg₂ Lighter ?_ ?_).mpr hsum
  · abel
  · abel

/-- A turn that uses no pool. -/
theorem Busies.lighter_task (hb : Busies id w w') (hlt : id < w.tasks.length)
    (hpools : w'.pools = w.pools)
    (h : Lighter (w'.taskChores id + w'.bus.chores) (w.taskChores id + w.bus.chores)) :
    Lighter w'.chores w.chores := by
  have hsame : ∀ pool : Nat, w'.poolChores pool = w.poolChores pool := fun pool => by
    rw [poolChores, poolChores, hpools]
  refine hb.lighter hlt (add_zero _).symm ?_ (h.add_right 0)
  rw [add_zero, hpools]
  exact Finset.sum_congr rfl fun pool _ => hsame pool

/-- A turn that uses a pool and leaves the bus alone. -/
theorem Busies.lighter_pool {pool : Nat} {p p' : WorkerPool Job} (hb : Busies id w w')
    (hlt : id < w.tasks.length) (hp : w.pools[pool]? = some p)
    (hpools : w'.pools = w.pools.set pool p') (hbus : NoHeavier w'.bus.chores w.bus.chores)
    (h : Lighter (p'.chores + w'.taskChores id) (p.chores + w.taskChores id)) :
    Lighter w'.chores w.chores := by
  have hpool := (List.getElem?_eq_some_iff.mp hp).1
  obtain ⟨rest, hold, hnew⟩ := exists_sum_eq (f := w.poolChores) (g := w'.poolChores) hpool
    fun Q hQ => by
      rw [poolChores, poolChores, hpools, List.getElem?_set_ne (Ne.symm hQ)]
  have hself : w'.poolChores pool = p'.chores := by
    rw [poolChores, hpools, List.getElem?_set_self hpool]
    rfl
  rw [hself] at hnew
  rw [show w.poolChores pool = p.chores by rw [poolChores, hp]; rfl] at hold
  refine hb.lighter hlt hold (by rw [hpools, List.length_set, hnew]) ?_
  refine (congrArg₂ Lighter ?_ ?_).mpr (h.add hbus)
  · abel
  · abel

/-! ### Turns of parts -/

/-- The gate of a payload after one is changed. -/
theorem gate_setGate (w : World) (payload q : Bytes) (g : Gate) :
    (w.setGate payload g).gate q = if q = payload then g else w.gate q := by
  rw [gate, setGate]
  by_cases h : q = payload
  · rw [if_pos h, h, List.lookup_cons_self]
    rfl
  · rw [if_neg h, List.lookup_cons, beq_eq_false_iff_ne.mpr h, gate]
    refine congrArg (Option.getD · _) ?_
    show List.lookup q (w.gates.filter _) = List.lookup q w.gates
    induction w.gates with
    | nil => rfl
    | cons e gates ih =>
      obtain ⟨k, g'⟩ := e
      by_cases hk : k = payload
      · rw [List.filter_cons_of_neg (by simp [hk]), ih, List.lookup_cons, hk,
          beq_eq_false_iff_ne.mpr h]
      · rw [List.filter_cons_of_pos (by simp [hk]), List.lookup_cons, List.lookup_cons, ih]

/-- A reply leaves as much to do on the bus. -/
theorem reply_chores (w : World) (request : Request) (headers : Headers) (payload : Bytes) :
    (w.reply request headers payload).1.bus.chores = w.bus.chores ∧
      (w.reply request headers payload).1.gates = w.gates := by
  rw [reply]
  cases request.replyTo? with
  | none => exact ⟨rfl, rfl⟩
  | some address =>
    cases address with
    | call id => exact ⟨MemoryBus.chores_answer _ _ _, rfl⟩
    | journal label => exact ⟨rfl, rfl⟩
    | broken => exact ⟨rfl, rfl⟩

/-- A task that comes to a gate gets in line once, and then goes through. -/
theorem pass?_cases {payload : Bytes} {passed : Bool} (h : w.pass? id payload = some (v, passed)) :
    v.bus = w.bus ∧ (∀ j : Nat, j ≠ id → w.SameLines v j) ∧ (passed = false →
      (w.gate payload).line.contains id = false ∧ (v.gate payload).line.contains id = true) := by
  rw [pass?] at h
  split at h
  · rename_i hline
    cases h
    refine ⟨rfl, fun j hj q => ?_, fun _ => ⟨by simpa using hline, ?_⟩⟩
    · rw [gate_setGate]
      split
      · rename_i hq
        rw [hq]
        simp [hj]
      · rfl
    · rw [gate_setGate, if_pos rfl]
      simp
  · split at h
    · cases h
      refine ⟨rfl, fun j hj q => ?_, fun hp => by cases hp⟩
      rw [gate_setGate]
      split
      · rename_i hq
        rw [hq]
        simp [hj]
      · rfl
    · cases h

/-- **A step of a script** leaves a part of the script to do, on the bus as much as before. -/
theorem turnRun_chores {run : Run} {progress : Progress Run}
    (h : w.turnRun id run = some (v, progress)) :
    v.bus.chores = w.bus.chores ∧ (∀ j : Nat, j ≠ id → w.SameLines v j) ∧
      ∀ next, progress = .going next → Chore.Below (v.runChore id next) (w.runChore id run) := by
  have hlines : ∀ u : World, u.gates = w.gates → ∀ j : Nat, j ≠ id → w.SameLines u j :=
    fun u hu j _ => .of_gates hu j
  have hpart : ∀ (u : World) (next : Run), Script.Part next.script run.script →
      Chore.Below (u.runChore id next) (w.runChore id run) := fun u next hnext =>
    Chore.below_of_part hnext
  cases runStep_of_turnRun h with
  | stop => exact ⟨MemoryBus.chores_drop _ _, hlines _ rfl, fun next hnext => by cases hnext⟩
  | crash => exact ⟨MemoryBus.chores_drop _ _, hlines _ rfl, fun next hnext => by cases hnext⟩
  | note n next script =>
    refine ⟨rfl, hlines _ rfl, fun _ hnext => ?_⟩
    cases hnext
    exact hpart _ _ (script ▸ .note n next)
  | report r next script =>
    refine ⟨rfl, hlines _ rfl, fun _ hnext => ?_⟩
    cases hnext
    exact hpart _ _ (script ▸ .report r next)
  | @reply headers payload next _ _ result script replied =>
    have hv := w.reply_chores run.request headers payload
    rw [replied] at hv
    refine ⟨hv.1, hlines _ hv.2, fun _ hnext => ?_⟩
    cases hnext
    exact hpart _ _ (script ▸ .reply headers payload next result)
  | @pass payload next _ passed script hpass =>
    obtain ⟨hbus, hothers, hline⟩ := pass?_cases hpass
    refine ⟨by rw [hbus], hothers, fun _ hnext => ?_⟩
    cases hnext
    cases passed with
    | true => exact hpart _ _ (script ▸ .pass payload next)
    | false =>
      -- the script is as before, but the task is in line now
      obtain ⟨hout, hin⟩ := hline rfl
      rw [runChore, runChore]
      simp only [script, hout, hin, if_false, if_true, Bool.false_eq_true]
      exact Chore.below_of_count Nat.zero_lt_one
  | pauses ms next script hwake =>
    -- the script is as before, but the pause has begun
    refine ⟨rfl, hlines _ rfl, fun _ hnext => ?_⟩
    cases hnext
    rw [runChore, runChore]
    simp only [script, hwake, Option.isNone_none, Option.isNone_some, if_true, if_false,
      Bool.false_eq_true]
    exact Chore.below_of_count Nat.zero_lt_one
  | wakes ms next script =>
    refine ⟨rfl, hlines _ rfl, fun _ hnext => ?_⟩
    cases hnext
    exact hpart _ _ (script ▸ .pause ms next)
  | awaitEnd next e script =>
    refine ⟨rfl, hlines _ rfl, fun _ hnext => ?_⟩
    cases hnext
    exact hpart _ _ (script ▸ .awaitEnd next e)
  | inspect next script =>
    refine ⟨rfl, hlines _ rfl, fun _ hnext => ?_⟩
    cases hnext
    exact hpart _ _ (script ▸ .inspect next _)
  | keep s key value next script =>
    refine ⟨rfl, hlines _ rfl, fun _ hnext => ?_⟩
    cases hnext
    exact hpart _ _ (script ▸ .keep s key value next)

/-- Whether some chores of a task make way for lighter ones while the bus has no more to do. A pool may
take part. -/
def Lightens (w v : World) (new old : Multiset Chore) : Prop :=
  NoHeavier v.bus.chores w.bus.chores ∧ (v.pools = w.pools ∧ Lighter new old ∨
    ∃ (pool : Nat) (p p' : WorkerPool Job), w.pools[pool]? = some p ∧
      v.pools = w.pools.set pool p' ∧ Lighter (p'.chores + new) (p.chores + old))

/-- What else there is does not matter. -/
theorem Lightens.add_left (h : w.Lightens v s' s) (t : Multiset Chore) :
    w.Lightens v (t + s') (t + s) := by
  obtain ⟨hbus, ⟨hpools, hl⟩ | ⟨pool, p, p', hp, hpools, hl⟩⟩ := h
  · exact ⟨hbus, Or.inl ⟨hpools, hl.add_left t⟩⟩
  · refine ⟨hbus, Or.inr ⟨pool, p, p', hp, hpools, ?_⟩⟩
    rw [add_left_comm, add_left_comm p.chores]
    exact hl.add_left t

/-- Fewer chores before and after. -/
theorem Lightens.of_noHeavier (h : w.Lightens v s' s) (hs : NoHeavier s t) (hs' : NoHeavier t' s') :
    w.Lightens v t' t := by
  obtain ⟨hbus, ⟨hpools, hl⟩ | ⟨pool, p, p', hp, hpools, hl⟩⟩ := h
  · exact ⟨hbus, Or.inl ⟨hpools, (hs'.trans_lighter hl).trans_noHeavier hs⟩⟩
  · refine ⟨hbus, Or.inr ⟨pool, p, p', hp, hpools, ?_⟩⟩
    exact ((hs'.add_left _).trans_lighter hl).trans_noHeavier (hs.add_left _)

/-- The bus may have less to do afterwards. -/
theorem Lightens.withBus (h : w.Lightens v s' s) {bus : MemoryBus}
    (hbus : NoHeavier bus.chores v.bus.chores) : w.Lightens (v.withBus bus) s' s :=
  ⟨hbus.trans h.1, h.2⟩

/-- A step of a submission, even if the job then has to be refused. -/
theorem lightens_turnSubmission {pool : PoolId} {sub : Submission} {placement : Placement}
    (h : w.turnSubmission pool sub = some (v, placement)) (hs : ∀ b ∈ s, b.kind ≤ 1) :
    v.tasks = w.tasks ∧ v.gates = w.gates ∧ w.Lightens v s (submissionChores sub) := by
  obtain ⟨p, hp, ⟨job, rfl, rfl, -⟩ | ⟨t, p', verdict, rfl, ha, rfl, -⟩⟩ := turnSubmission_cases h
  · exact ⟨rfl, rfl, .refl, Or.inr ⟨pool, p, _, hp, rfl, p.lighter_submit job hs⟩⟩
  · refine ⟨rfl, rfl, .refl, Or.inr ⟨pool, p, p', hp, rfl, ?_⟩⟩
    rw [submissionChores, add_zero]
    exact WorkerPool.lighter_advance ha hs

/-- A step of the handling of a request. -/
theorem lightens_turnHandling {handling : Handling} {progress : Progress Handling}
    (h : w.turnHandling id handling = some (v, progress)) :
    v.tasks = w.tasks ∧ (∀ j : Nat, j ≠ id → w.SameLines v j) ∧
      w.Lightens v (progress.next?.elim 0 (v.handlingChores id)) (w.handlingChores id handling) := by
  obtain ⟨run, p, rfl, hr, rfl⟩ | ⟨pool, sub, placement, rfl, hsub, rfl⟩ := turnHandling_cases h
  · obtain ⟨hbus, hlines, hnext⟩ := turnRun_chores hr
    have hbeside := beside_turnRun hr
    obtain ⟨_, _, _, _, _, rfl⟩ := hbeside
    refine ⟨rfl, hlines, noHeavier_of_eq hbus, Or.inl ⟨rfl, ?_⟩⟩
    cases p with
    | going next => exact lighter_singleton (hnext next rfl)
    | «over» => exact lighter_zero _
    | crashed => exact lighter_zero _
  · have hl : ∀ s : Multiset Chore, (∀ b ∈ s, b.kind ≤ 1) → w.Lightens v s (submissionChores sub) :=
      fun s hs => (lightens_turnSubmission hsub hs).2.2
    obtain ⟨htasks, hgates, -⟩ := lightens_turnSubmission (s := 0) hsub (by simp)
    refine ⟨htasks, fun j _ => .of_gates hgates j, ?_⟩
    cases placement with
    | onward next =>
      obtain ⟨t, rfl⟩ := placed_of_onward hsub
      exact hl 0 (by simp)
    | queued => exact hl 0 (by simp)
    | handedBack job =>
      refine hl _ fun b hb => ?_
      rw [Multiset.mem_singleton.mp hb]
      exact le_refl 1

end World

end ServiceBus.Bus
