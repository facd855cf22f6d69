import ServiceBus.Proofs.World.Arrivals
import ServiceBus.Proofs.World.Manned

/-! # The crews of pools

A task that runs the jobs of a pool is one of its executors that has not exited, and no executor is two
tasks. With `World.Staffed`, which says that executors are tasks, the two are one to one.

* `Step.executor_back`: executors come with a new pool only.
* `World.Crewed.of_steps`: the invariant holds in every run. -/

namespace ServiceBus.Bus

namespace World

variable {w w' v : World} {id j k P Q i : Nat}

/-! ### Where executors come from -/

/-- **Executors come with a new pool** only. -/
theorem Step.executor_back (hs : w.Step w') (h : w'.role? j = some (.execute P i)) :
    w.role? j = some (.execute P i) ∨ ∃ requested, i < WorkerPool.capacityFor requested ∧
      j = w.tasks.length + i ∧ P = w.pools.length ∧ w'.pools[P]? = some (.new requested) := by
  obtain ⟨program, hp, hrole⟩ := Option.map_eq_some_iff.mp h
  obtain ⟨run?, rfl⟩ := execute_of_role hrole
  rcases hs.arrivals hp with hturn | hold | harrival
  · exact Or.inl (role_of_turn hturn h)
  · exact Or.inl (role?_eq hold)
  · cases harrival with
    | begins hb => exact absurd hb fun hb => hb
    | executor requested i lt task pool => exact Or.inr ⟨requested, lt, task, rfl, pool⟩

/-! ### The invariant -/

/-- **Tasks that run the jobs of a pool are its executors**, one task each. -/
structure Crewed (w : World) : Prop where
  executor : ∀ j P i : Nat, w.role? j = some (.execute P i) →
    ∃ p, w.pools[P]? = some p ∧ i ∈ p.executors
  unique : ∀ j k P i : Nat, w.role? j = some (.execute P i) → w.role? k = some (.execute P i) →
    j = k

/-- At the beginning there are no executors. -/
theorem Crewed.empty : Crewed {} := by
  have hnone : ∀ j P i : Nat, ({} : World).role? j ≠ some (.execute P i) := fun j P i h => by
    rw [role?, program?_empty] at h
    cases h
  exact ⟨fun j P i h => absurd h (hnone j P i), fun j k P i h => absurd h (hnone j P i)⟩

/-- The tasks that run jobs, in a turn. -/
theorem Crewed.turn (h : w.Crewed) (hs : ∀ (P : Nat) p, w.pools[P]? = some p → p.Sound)
    (hturn : w.turn id = some w') : w'.Crewed := by
  refine ⟨fun j P i hj => ?_, fun j k P i hj hk =>
    h.unique j k P i (role_of_turn hturn hj) (role_of_turn hturn hk)⟩
  have hold := role_of_turn hturn hj
  obtain ⟨p, hp, hi⟩ := h.executor j P i hold
  have hsame : w'.pools = w.pools → ∃ p, w'.pools[P]? = some p ∧ i ∈ p.executors :=
    fun hpools => ⟨p, hpools ▸ hp, hi⟩
  -- one pool is put in the place of another
  have hput : ∀ {Q : Nat} {q q' : WorkerPool Job}, Puts Q q q' w w' →
      (Q = P → i ∈ q.executors → i ∈ q'.executors) →
      ∃ p, w'.pools[P]? = some p ∧ i ∈ p.executors := by
    intro Q q q' hputs hkeep
    rcases hputs.forth hp with ⟨hQ, rfl, hp'⟩ | ⟨-, hp'⟩
    · exact ⟨q', hp', hkeep hQ.symm hi⟩
    · exact ⟨p, hp', hi⟩
  cases deed_of_turn hturn with
  | quiet _ _ _ _ _ pools =>
    rcases pools with pools | ⟨Q, q, q', hputs, hmarks⟩
    · exact hsame pools
    · obtain ⟨_, _, _, _, rfl⟩ := hmarks
      exact hput hputs fun _ hi => hi
  | exchange _ _ _ _ _ _ _ _ _ pools => exact hsame pools
  | receive _ _ _ _ _ _ pools => exact hsame pools
  | drain _ _ _ _ _ _ pools => exact hsame pools
  | leave _ _ _ _ _ _ _ pools => exact hsame pools
  | take _ _ _ _ _ _ _ pools => exact hsame pools
  | submit v Q sub placement hand turn pools =>
    obtain ⟨q, ⟨job, -, hputs, -⟩ | ⟨t, q', verdict, -, ha, hputs, -⟩⟩ :=
      puts_of_submission turn pools
    · refine hput hputs fun _ hi => ?_
      rw [(WorkerPool.submit_frame q job).2]
      exact hi
    · obtain ⟨-, -, hidle, hbusy, -⟩ := WorkerPool.advance?_frame ha
      refine hput hputs fun _ hi => ?_
      rw [WorkerPool.executors, hidle, hbusy]
      exact hi
  | run _ _ _ _ _ _ _ pools => exact hsame pools
  | finish _ _ _ _ _ _ _ _ _ pools =>
    rcases pools with ⟨-, pools⟩ | ⟨Q, k, q, -, -, hputs⟩
    · exact hsame pools
    · refine hput hputs fun _ hi => ?_
      cases hb : q.busy.lookup k with
      | none =>
        rw [WorkerPool.finish, hb]
        exact hi
      | some t =>
        rw [WorkerPool.finish_of_lookup hb]
        exact ((hs Q q hputs.before).executors_finish hb).mem_iff.mpr hi
  | pick Q k q q' job _ taken puts =>
    obtain ⟨hidle, ⟨t, _, rest, -, -, rfl⟩ | ⟨-, -, hfound, -⟩⟩ := WorkerPool.take?_cases taken
    · refine hput puts fun _ hi => ?_
      exact ((hs Q q puts.before).executors_take hidle _).mem_iff.mpr hi
    · cases hfound
  | exit Q k q q' program taken puts end' =>
    obtain ⟨-, ⟨_, _, _, -, hfound, -⟩ | ⟨-, -, -, rfl⟩⟩ := WorkerPool.take?_cases taken
    · cases hfound
    · refine hput puts fun hQ hi => ?_
      -- the executor that exits is the task that has its turn, and that task has ended
      have hne : i ≠ k := by
        rintro rfl
        rw [h.unique j id P i hold (hQ ▸ role?_eq program), role?, end'] at hj
        cases hj
      rcases List.mem_append.mp hi with hi | hi
      · exact List.mem_append_left _ (List.mem_filter.mpr ⟨hi, bne_iff_ne.mpr hne⟩)
      · exact List.mem_append_right _ hi

/-- Marks leave the executors alone. -/
theorem executors_of_marks {p p' : WorkerPool Job} (h : p.Marks p') : p'.executors = p.executors := by
  obtain ⟨_, _, _, _, rfl⟩ := h
  rfl

/-- Every step keeps executors at their pools. -/
theorem Crewed.step (h : w.Crewed) (ha : w.Attended) (hs : w.Step w') : w'.Crewed := by
  -- pools are kept by a step that is no turn
  have hkeeps : (∀ (P : Nat) p, w.pools[P]? = some p →
      ∃ p', w'.pools[P]? = some p' ∧ p'.executors = p.executors) → w'.Crewed := by
    intro hpools
    refine ⟨fun j P i hj => ?_, fun j k P i hj hk => ?_⟩
    · rcases hs.executor_back hj with hj | ⟨requested, hi, -, -, hp⟩
      · obtain ⟨p, hp, hi⟩ := h.executor j P i hj
        obtain ⟨p', hp', heq⟩ := hpools P p hp
        exact ⟨p', hp', heq ▸ hi⟩
      · refine ⟨_, hp, ?_⟩
        rw [WorkerPool.executors_new]
        exact List.mem_range.mpr hi
    · have hold : ∀ j : Nat, w.role? j = some (.execute P i) → P < w.pools.length := by
        intro j hj
        obtain ⟨p, hp, -⟩ := h.executor j P i hj
        exact (List.getElem?_eq_some_iff.mp hp).1
      rcases hs.executor_back hj with hj | ⟨_, -, hj, hP, -⟩ <;>
        rcases hs.executor_back hk with hk | ⟨_, -, hk, hP', -⟩
      · exact h.unique j k P i hj hk
      · exact absurd hP' (Nat.ne_of_lt (hold j hj))
      · exact absurd hP (Nat.ne_of_lt (hold k hk))
      · rw [hj, hk]
  obtain ⟨id, hturn⟩ | ⟨call, context?, client?, conclude, name?, -, rfl⟩ | hout :=
    hs.cases_outside
  · exact h.turn ha.pools hturn
  · exact hkeeps fun P p hp => ⟨p, hp, rfl⟩
  · refine hkeeps fun P p hp => ?_
    obtain ⟨p', hp', hm⟩ := hout.pools P p hp
    exact ⟨p', hp', executors_of_marks hm⟩

/-- **In every run tasks that run the jobs of a pool are its executors.** -/
theorem Crewed.of_steps (h : Steps {} w) : w.Crewed := by
  induction h with
  | refl => exact .empty
  | tail h hs ih => exact ih.step (.of_steps h) hs

end World

end ServiceBus.Bus
