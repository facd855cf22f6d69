import ServiceBus.Proofs.World.Manned
import ServiceBus.Proofs.World.Rest

/-! # Pools at rest

When no task of a world can go on and some executor of a pool has no job, nothing waits in the pool:
whoever waits for it would have its turn.

* `WorkerPool.Sound.advances`, `WorkerPool.Sound.takes`: a pool that has something to do and an executor
  without a job lets somebody go on.
* `World.AtRest`, `World.Spares`, `World.AtWork`: worlds in which nobody can go on, pools with an
  executor that has no job, pools with one that has.
* `World.AtRest.cleared`: nothing waits in a pool at rest that spares an executor.
* `World.AtRest.emptied`: a pool at rest that is not at work is empty. -/

namespace ServiceBus.Bus

namespace WorkerPool

variable {α : Type} {p p' : WorkerPool α} {job : α} {t i : Nat}

/-! ### Who can go on -/

/-- A submission that is admitted is queued or handed back if the queue is empty. -/
theorem exists_enqueue (h : p.Sound) (hqueue : p.queue = [])
    (hlookup : p.admitted.lookup t = some job) : ∃ p' v, p.enqueue? t = some (p', v) := by
  have hpos := h.capacity_pos
  rw [enqueue?, hlookup, Option.bind_eq_bind, Option.bind_some, hqueue, List.length_nil]
  rw [if_pos hpos]
  split <;> exact ⟨_, _, rfl⟩

/-- The first of the line gets a permit or is handed back if a permit is free. -/
theorem exists_permit {rest : List (Ticket × α)} (hpermits : 0 < p.permits)
    (hline : p.line = (t, job) :: rest) : ∃ p' v, p.admit? t = some (p', v) := by
  have hlookup : p.line.lookup t = some job := by
    rw [hline, List.lookup_cons_self]
  have hposition : p.position t = 0 := by
    rw [position, hline, List.findIdx_cons, beq_self_eq_true, cond_true]
  rw [admit?, hlookup, Option.bind_eq_bind, Option.bind_some, hposition]
  rw [if_pos hpermits]
  split <;> exact ⟨_, _, rfl⟩

/-- Not all executors are busy if one of them is not. -/
theorem Sound.busy_lt (h : p.Sound) (hi : i < p.capacity) (hnot : i ∉ p.busy.map Prod.fst) :
    p.busy.length < p.capacity := by
  have hnodup : (i :: p.busy.map Prod.fst).Nodup :=
    List.nodup_cons.mpr ⟨hnot, (List.nodup_append.mp h.executors_nodup).2.1⟩
  have hsub : (i :: p.busy.map Prod.fst) ⊆ List.range p.capacity := by
    intro k hk
    rw [List.mem_range]
    rcases List.mem_cons.mp hk with rfl | hk
    · exact hi
    · exact h.executor_lt k (List.mem_append_right _ hk)
  have hle := (hnodup.subperm hsub).length_le
  rw [List.length_cons, List.length_map, List.length_range] at hle
  exact hle

/-- **Somebody who waits goes on** if not all executors are busy and no job is queued. -/
theorem Sound.advances (h : p.Sound) (hbusy : p.busy.length < p.capacity) (hqueue : p.queue = [])
    (hwaiting : p.waiting ≠ []) :
    ∃ t job p' v, (t, job) ∈ p.waiting ∧ p.advance? t = some (p', v) := by
  have hnotNone : ∀ {t : Nat}, p.advance? t ≠ none → ∃ p' v, p.advance? t = some (p', v) := by
    intro t hne
    obtain ⟨⟨p', v⟩, ha⟩ := Option.ne_none_iff_exists'.mp hne
    exact ⟨p', v, ha⟩
  cases hadmitted : p.admitted with
  | cons first rest =>
    obtain ⟨t, job⟩ := first
    have hlookup : p.admitted.lookup t = some job := by
      rw [hadmitted, List.lookup_cons_self]
    obtain ⟨p', v, henqueue⟩ := exists_enqueue h hqueue hlookup
    have hne : p.advance? t ≠ none := by
      rw [advance?, ne_eq, Option.or_eq_none_iff, henqueue]
      exact fun hboth => by cases hboth.2
    obtain ⟨p'', v', ha⟩ := hnotNone hne
    exact ⟨t, job, p'', v', List.mem_append_right _ (mem_of_lookup hlookup), ha⟩
  | nil =>
    cases hline : p.line with
    | nil => exact absurd (by rw [waiting, hline, hadmitted]; rfl) hwaiting
    | cons first rest =>
      obtain ⟨t, job⟩ := first
      have hpermits : 0 < p.permits := by
        have hsum := h.permits
        have hin := h.inFlight
        rw [hadmitted, hqueue, List.length_nil] at hin
        omega
      obtain ⟨p', v, hgiven⟩ := exists_permit hpermits hline
      have hne : p.advance? t ≠ none := by
        rw [advance?, ne_eq, Option.or_eq_none_iff, hgiven]
        exact fun hboth => by cases hboth.1
      obtain ⟨p'', v', ha⟩ := hnotNone hne
      refine ⟨t, job, p'', v', List.mem_append_left _ ?_, ha⟩
      rw [hline]
      exact List.mem_cons_self

/-- **Some idle executor takes a job** if one is queued and not all executors are busy. -/
theorem Sound.takes (h : p.Sound) (hi : i < p.capacity) (hnot : i ∉ p.busy.map Prod.fst)
    (hqueue : p.queue ≠ []) :
    ∃ i p' found, i ∈ p.idle ∧ p.isNext i = true ∧ p.take? i = some (p', found) := by
  have hidle : p.idle ≠ [] := by
    intro hnil
    have hexecutors : i ∉ p.executors := by
      rw [executors, hnil]
      exact hnot
    exact hqueue (h.drained i hi hexecutors).2
  obtain ⟨i, rest, hi⟩ := List.exists_cons_of_ne_nil hidle
  obtain ⟨⟨t, job⟩, jobs, hjobs⟩ := List.exists_cons_of_ne_nil hqueue
  have hmem : i ∈ p.idle := by
    rw [hi]
    exact List.mem_cons_self
  have hnext : p.isNext i = true := by
    rw [isNext, hi, List.idxOf_cons_self, hjobs, List.length_cons]
    simp
  have htake : ∃ p' found, p.take? i = some (p', found) := by
    rw [take?, if_pos (List.contains_iff_mem.mpr hmem), hjobs]
    exact ⟨_, _, rfl⟩
  obtain ⟨p', found, htake⟩ := htake
  exact ⟨i, p', found, hmem, hnext, htake⟩

/-- **An idle executor exits** if the queue is shut and empty. -/
theorem exits_of_drained (hqueue : p.queue = []) (hshut : p.queueShut = true) (hi : i ∈ p.idle) :
    p.isNext i = true ∧ ∃ p' found, p.take? i = some (p', found) := by
  refine ⟨by rw [isNext, hqueue]; rfl, ?_⟩
  rw [take?, if_pos (List.contains_iff_mem.mpr hi), hqueue]
  dsimp only
  rw [if_pos hshut]
  exact ⟨_, _, rfl⟩

end WorkerPool

namespace World

variable {w w' v : World} {id j t P i : Nat} {d : Delivery}

/-! ### Turns that can be had -/

/-- Whether no task can go on. -/
def AtRest (w : World) : Prop := ∀ id : TaskId, w.turn id = none

/-- Whether an executor of a pool has a job. -/
def AtWork (w : World) (P : PoolId) : Prop :=
  ∃ (j : TaskId) (i : Nat) (run : Run), w.program? j = some (.execute P i (some run))

/-- Whether some executor of a pool has no job. -/
def Spares (w : World) (P : PoolId) : Prop :=
  ∃ p i, w.pools[P]? = some p ∧ i < p.capacity ∧
    ∀ (j : TaskId) run, w.program? j ≠ some (.execute P i (some run))

/-- A pool that is not at work spares its executors. -/
theorem spares_of_not_atWork {p : WorkerPool Job} (hs : p.Sound) (hp : w.pools[P]? = some p)
    (hidle : ¬ w.AtWork P) : w.Spares P :=
  ⟨p, 0, hp, hs.capacity_pos, fun j run hj => hidle ⟨j, 0, run, hj⟩⟩

/-- A task whose submission goes on has its turn. -/
theorem turn_of_submission {sub : Submission} {placement : Placement}
    (hand : w.hand? j = some (.submitting P sub))
    (h : w.turnSubmission P sub = some (v, placement)) : ∃ w', w.turn j = some w' := by
  obtain ⟨program, hp, hh⟩ := Option.bind_eq_some_iff.mp hand
  have hhandling : w.turnHandling j (.submitting P sub) = some (v, placement.handling P) := by
    rw [turnHandling, h]
    cases placement <;> rfl
  rw [turn, hp, Option.bind_eq_bind, Option.bind_some]
  cases program with
  | submit pool s =>
    cases hh
    dsimp only
    rw [turnSubmit, h]
    cases placement <;> exact ⟨_, rfl⟩
  | handle handling =>
    cases hh
    dsimp only
    rw [turnHandle, hhandling]
    cases placement <;> exact ⟨_, rfl⟩
  | deliver d =>
    have hd : d.handling? = some (.submitting P sub) := hh
    dsimp only
    rw [turnDeliver, turnDelivery, hd]
    dsimp only
    rw [hhandling]
    cases placement <;> exact ⟨_, rfl⟩
  | execute pool i run? => cases run? <;> cases hh
  | _ => cases hh

/-- A task that offers a job to a pool has its turn. -/
theorem turn_of_offered {job : Job} {p : WorkerPool Job}
    (hand : w.hand? j = some (.submitting P (.offered job))) (hp : w.pools[P]? = some p) :
    ∃ w', w.turn j = some w' := by
  have h : ∃ v placement, w.turnSubmission P (.offered job) = some (v, placement) := by
    rw [turnSubmission, hp]
    exact ⟨_, _, rfl⟩
  obtain ⟨v, placement, h⟩ := h
  exact turn_of_submission hand h

/-- A task whose submission goes on in the pool has its turn. -/
theorem turn_of_placed {p p' : WorkerPool Job} {verdict : WorkerPool.Verdict Job}
    (hand : w.hand? j = some (.submitting P (.placed t))) (hp : w.pools[P]? = some p)
    (ha : p.advance? t = some (p', verdict)) : ∃ w', w.turn j = some w' := by
  have h : ∃ v placement, w.turnSubmission P (.placed t) = some (v, placement) := by
    rw [turnSubmission, hp, Option.bind_eq_bind, Option.bind_some]
    dsimp only
    rw [ha]
    exact ⟨_, _, rfl⟩
  obtain ⟨v, placement, h⟩ := h
  exact turn_of_submission hand h

/-- An executor that finds something has its turn. -/
theorem turn_of_take {p p' : WorkerPool Job} {found : WorkerPool.Find Job}
    (hj : w.program? j = some (.execute P i none)) (hp : w.pools[P]? = some p)
    (hnext : p.isNext i = true) (htake : p.take? i = some (p', found)) :
    ∃ w', w.turn j = some w' := by
  rw [turn, hj, Option.bind_eq_bind, Option.bind_some]
  dsimp only
  rw [turnExecute, hp, Option.bind_eq_bind, Option.bind_some, hnext]
  rw [guard, if_pos rfl, htake]
  cases found <;> exact ⟨_, rfl⟩

/-! ### Worlds at rest -/

/-- Nobody goes on in a world at rest. -/
theorem AtRest.not_turn (h : w.AtRest) (hturn : ∃ w', w.turn j = some w') : False := by
  obtain ⟨w', hturn⟩ := hturn
  rw [h j] at hturn
  cases hturn

/-- **Nothing waits in a pool at rest that spares an executor.** -/
theorem AtRest.cleared (h : w.AtRest) (hm : w.Manned) {p : WorkerPool Job} (hs : p.Sound)
    (hp : w.pools[P]? = some p) (hspare : w.Spares P) : p.waiting = [] ∧ p.queue = [] := by
  obtain ⟨q, i, hq, hi, hspare⟩ := hspare
  rw [hp] at hq
  obtain rfl := Option.some.inj hq
  have hnot : i ∉ p.busy.map Prod.fst := by
    intro hmem
    obtain ⟨j, run, hj⟩ := hm.staffed.busy P p i hp hmem
    exact hspare j run hj
  have hqueue : p.queue = [] := by
    by_contra hne
    obtain ⟨i, p', found, hi, hnext, htake⟩ := hs.takes hi hnot hne
    obtain ⟨j, hj⟩ := hm.staffed.idle P p i hp hi
    exact h.not_turn (turn_of_take hj hp hnext htake)
  refine ⟨?_, hqueue⟩
  by_contra hne
  obtain ⟨t, job, p', verdict, hmem, ha⟩ := hs.advances (hs.busy_lt hi hnot) hqueue hne
  have hwaits : w.WaitsIn P t :=
    ⟨p.waiting, by rw [hp]; rfl, List.mem_map.mpr ⟨(t, job), hmem, rfl⟩⟩
  obtain ⟨j, hj⟩ := (hm.placed.waits P t).mp hwaits
  exact h.not_turn (turn_of_placed hj hp ha)

/-- **A pool at rest that is not at work is empty**: nobody waits for it, no job is queued, no executor
has one, and if the queue is shut all executors have exited. -/
theorem AtRest.emptied (h : w.AtRest) (hm : w.Manned) {p : WorkerPool Job} (hs : p.Sound)
    (hp : w.pools[P]? = some p) (hidle : ¬ w.AtWork P) :
    p.waiting = [] ∧ p.queue = [] ∧ p.busy = [] ∧ (p.queueShut = true → p.executors = []) := by
  obtain ⟨hwaiting, hqueue⟩ := h.cleared hm hs hp (spares_of_not_atWork hs hp hidle)
  have hbusy : p.busy = [] := by
    by_contra hne
    obtain ⟨⟨i, t⟩, rest, hbusy⟩ := List.exists_cons_of_ne_nil hne
    have hmem : i ∈ p.busy.map Prod.fst := by
      rw [hbusy]
      exact List.mem_cons_self
    obtain ⟨j, run, hj⟩ := hm.staffed.busy P p i hp hmem
    exact hidle ⟨j, i, run, hj⟩
  refine ⟨hwaiting, hqueue, hbusy, fun hshut => ?_⟩
  have hnone : p.idle = [] := by
    refine List.eq_nil_iff_forall_not_mem.mpr fun i hi => ?_
    obtain ⟨hnext, p', found, htake⟩ := WorkerPool.exits_of_drained hqueue hshut hi
    obtain ⟨j, hj⟩ := hm.staffed.idle P p i hp hi
    exact h.not_turn (turn_of_take hj hp hnext htake)
  rw [WorkerPool.executors, hnone, hbusy]
  rfl

/-- Nobody submits a job to a pool at rest that spares an executor. -/
theorem AtRest.not_submitting (h : w.AtRest) (hm : w.Manned) {p : WorkerPool Job} (hs : p.Sound)
    (hp : w.pools[P]? = some p) (hspare : w.Spares P) {sub : Submission} :
    w.hand? j ≠ some (.submitting P sub) := by
  intro hand
  cases sub with
  | offered job => exact h.not_turn (turn_of_offered hand hp)
  | placed t =>
    obtain ⟨l, hl, hmem⟩ := (hm.placed.waits P t).mpr ⟨j, hand⟩
    rw [hp, Option.map_some, (h.cleared hm hs hp hspare).1] at hl
    rw [← Option.some.inj hl] at hmem
    cases hmem

/-- A loop at rest has nothing in hand if its handler is bound to a pool that is open and spares an
executor. -/
theorem AtRest.handling?_eq_none (h : w.AtRest) (hm : w.Manned) {p : WorkerPool Job} (hs : p.Sound)
    (hp : w.pools[P]? = some p) (hspare : w.Spares P) (hd : w.program? t = some (.deliver d))
    (hbound : d.handler.pool? = some P) (hopen : p.isShut = false) : d.handling? = none := by
  rw [Option.eq_none_iff_forall_ne_some]
  intro handling hh
  have hsuits := hm.bound t d handling hd hh
  cases handling with
  | submitting Q sub =>
    obtain rfl : P = Q := Option.some.inj (hbound.symm.trans hsuits)
    exact h.not_submitting hm hs hp hspare ((hand?_eq hd).trans hh)
  | running run =>
    rcases hsuits with hnone | ⟨Q, q, hQ, hq, hshut⟩
    · rw [hbound] at hnone
      cases hnone
    · rw [hbound] at hQ
      cases hQ
      rw [hp] at hq
      rw [← Option.some.inj hq, hopen] at hshut
      cases hshut

/-- A loop at rest that has no request in hand was not told to stop, or drains, and finds its inbox
empty but not for good. -/
theorem AtRest.loop (h : w.AtRest) (hd : w.program? t = some (.deliver d))
    (hand : d.handling? = none) : (d.draining = true ∨ w.scopes.isCancelled d.stop = false) ∧
      w.bus.take? d.inbox = none ∧ w.bus.hasEnded d.inbox = false := by
  have hturn := h t
  rw [turn, hd, Option.bind_eq_bind, Option.bind_some] at hturn
  dsimp only at hturn
  rw [turnDeliver, turnDelivery, hand] at hturn
  dsimp only at hturn
  split at hturn
  · cases hturn
  · rename_i hstop
    refine ⟨?_, ?_⟩
    · cases hdraining : d.draining with
      | true => exact Or.inl rfl
      | false =>
        rw [hdraining, Bool.not_false, Bool.true_and, Bool.not_eq_true] at hstop
        exact Or.inr hstop
    · cases htake : w.bus.take? d.inbox with
      | some found =>
        rw [htake] at hturn
        cases hturn
      | none =>
        refine ⟨rfl, ?_⟩
        rw [htake] at hturn
        dsimp only at hturn
        cases hended : w.bus.hasEnded d.inbox with
        | false => rfl
        | true =>
          rw [hended] at hturn
          cases hturn

end World

end ServiceBus.Bus
