import ServiceBus.Proofs.World.Calls

/-! # Pools are manned

In every run each submission that waits in a pool is seen through by the task that placed it, and each
executor of a pool is a task.

* `World.Placed`: the submissions of tasks are those that wait in pools.
* `World.Staffed`: idle executors are tasks without a job, and busy ones are tasks with one.
* `World.Bound`: deliveries bound to a pool submit to that pool, and run requests themselves only to
  refuse them. -/

namespace ServiceBus.Bus

namespace World

variable {w w' v : World} {id j k P t i : Nat}

/-! ### Pools that agree -/

/-- What does not depend on a change of one pool. -/
theorem Puts.map_pools {β : Type} {pool : Nat} {p p' : WorkerPool Job} (h : Puts pool p p' w w')
    (f : WorkerPool Job → β) (hf : f p' = f p) (Q : Nat) :
    (w'.pools[Q]?).map f = (w.pools[Q]?).map f := by
  have hlt := (List.getElem?_eq_some_iff.mp h.before).1
  rw [h.pools]
  by_cases hQ : Q = pool
  · rw [hQ, List.getElem?_set_self hlt, h.before]
    exact congrArg some hf
  · rw [List.getElem?_set_ne (Ne.symm hQ)]

/-- What does not depend on marks. -/
theorem marks_map {β : Type} {p p' : WorkerPool Job} (h : p.Marks p') (f : WorkerPool Job → β)
    (hf : ∀ a b c d, f { p with announced := a, admissionShut := b, queueShut := c, unjoined := d } =
      f p) : f p' = f p := by
  obtain ⟨a, b, c, d, rfl⟩ := h
  exact hf a b c d

/-! ### Submissions -/

/-- Whether a task has placed a submission in a pool. -/
def Places (w : World) (j : TaskId) (P : PoolId) (t : Ticket) : Prop :=
  w.hand? j = some (.submitting P (.placed t))

/-- Whether a submission waits in a pool. -/
def WaitsIn (w : World) (P : PoolId) (t : Ticket) : Prop :=
  ∃ l, (w.pools[P]?).map (·.waiting) = some l ∧ t ∈ l.map Prod.fst

/-- **The submissions that wait in pools** are those that tasks have placed, one each. -/
structure Placed (w : World) : Prop where
  waits : ∀ P t : Nat, w.WaitsIn P t ↔ ∃ j, w.Places j P t
  unique : ∀ j k P t : Nat, w.Places j P t → w.Places k P t → j = k

/-- What happens to submissions in a step: one may join those that wait, or leave them. -/
inductive Lines (w w' : World) : Prop
  | same (places : ∀ j P t : Nat, w'.Places j P t ↔ w.Places j P t)
      (waits : ∀ P t : Nat, w'.WaitsIn P t ↔ w.WaitsIn P t)
  | joins (id pool t : Nat) (fresh : ¬ w.WaitsIn pool t)
      (places : ∀ j P s : Nat, w'.Places j P s ↔ w.Places j P s ∨ j = id ∧ P = pool ∧ s = t)
      (waits : ∀ P s : Nat, w'.WaitsIn P s ↔ w.WaitsIn P s ∨ P = pool ∧ s = t)
  | leaves (id pool t : Nat) (had : w.Places id pool t)
      (places : ∀ j P s : Nat, w'.Places j P s ↔ w.Places j P s ∧ j ≠ id)
      (waits : ∀ P s : Nat, w'.WaitsIn P s ↔ w.WaitsIn P s ∧ ¬ (P = pool ∧ s = t))

/-- The submissions stay those of tasks. -/
theorem Placed.step (h : w.Placed) (hl : w.Lines w') : w'.Placed := by
  cases hl with
  | same places waits =>
    refine ⟨fun P t => ?_, fun j k P t hj hk => ?_⟩
    · rw [waits, h.waits]
      exact exists_congr fun j => (places j P t).symm
    · exact h.unique j k P t ((places j P t).mp hj) ((places k P t).mp hk)
  | joins id pool t fresh places waits =>
    have hold : ∀ j, ¬ w.Places j pool t := fun j hj => fresh ((h.waits pool t).mpr ⟨j, hj⟩)
    refine ⟨fun P s => ?_, fun j k P s hj hk => ?_⟩
    · rw [waits, h.waits]
      constructor
      · rintro (⟨j, hj⟩ | ⟨hP, hs⟩)
        · exact ⟨j, (places j P s).mpr (Or.inl hj)⟩
        · exact ⟨id, (places id P s).mpr (Or.inr ⟨rfl, hP, hs⟩)⟩
      · rintro ⟨j, hj⟩
        exact ((places j P s).mp hj).imp (fun hj => ⟨j, hj⟩) And.right
    · rcases (places j P s).mp hj with hj | ⟨rfl, rfl, rfl⟩
      · rcases (places k P s).mp hk with hk | ⟨-, rfl, rfl⟩
        · exact h.unique j k P s hj hk
        · exact absurd hj (hold j)
      · rcases (places k P s).mp hk with hk | ⟨rfl, -, -⟩
        · exact absurd hk (hold k)
        · rfl
  | leaves id pool t had places waits =>
    refine ⟨fun P s => ?_, fun j k P s hj hk =>
      h.unique j k P s ((places j P s).mp hj).1 ((places k P s).mp hk).1⟩
    rw [waits, h.waits]
    constructor
    · rintro ⟨⟨j, hj⟩, hne⟩
      refine ⟨j, (places j P s).mpr ⟨hj, ?_⟩⟩
      rintro rfl
      rw [Places, show w.hand? j = _ from had] at hj
      cases hj
      exact hne ⟨rfl, rfl⟩
    · rintro ⟨j, hj⟩
      obtain ⟨hj, hne⟩ := (places j P s).mp hj
      refine ⟨⟨j, hj⟩, ?_⟩
      rintro ⟨rfl, rfl⟩
      exact hne (h.unique j id P s hj had)

/-- The submissions that wait, if pools agree on them. -/
theorem waitsIn_congr (h : ∀ P : Nat, (w'.pools[P]?).map (·.waiting) = (w.pools[P]?).map (·.waiting))
    (P t : Nat) : w'.WaitsIn P t ↔ w.WaitsIn P t := by
  rw [WaitsIn, h, WaitsIn]

/-- The submissions that wait after one pool is put in the place of another. -/
theorem Puts.waitsIn {pool : Nat} {p p' : WorkerPool Job} (h : Puts pool p p' w w') (P s : Nat) :
    (w.WaitsIn P s ↔ P = pool ∧ s ∈ p.waiting.map Prod.fst ∨ P ≠ pool ∧ w.WaitsIn P s) ∧
      (w'.WaitsIn P s ↔ P = pool ∧ s ∈ p'.waiting.map Prod.fst ∨ P ≠ pool ∧ w.WaitsIn P s) := by
  have hlt := (List.getElem?_eq_some_iff.mp h.before).1
  by_cases hP : P = pool
  · rw [WaitsIn, WaitsIn, hP, h.pools, List.getElem?_set_self hlt, h.before]
    simp
  · rw [show w'.WaitsIn P s ↔ w.WaitsIn P s by
      rw [WaitsIn, h.pools, List.getElem?_set_ne (Ne.symm hP), WaitsIn]]
    simp [hP]

/-- What the tasks have placed after a turn. -/
theorem places_of_turn (h : w.turn id = some w') (j P t : Nat) :
    w'.Places j P t ↔ j = id ∧ w'.Places id P t ∨ j ≠ id ∧ w.Places j P t := by
  by_cases hj : j = id
  · simp [hj]
  · rw [Places, hand?_of_turn h hj]
    simp [hj, Places]

/-- A task has placed nothing if it has something else in hand. -/
theorem not_places {hand : Option Handling} (h : w.hand? id = hand)
    (hne : ∀ P t : Nat, hand ≠ some (.submitting P (.placed t))) (P t : Nat) :
    ¬ w.Places id P t :=
  fun hplaces => hne P t (h.symm.trans hplaces)

/-- A turn of a task that has placed nothing before and nothing after it. -/
theorem lines_elsewhere (h : w.turn id = some w') (hbefore : ∀ P t : Nat, ¬ w.Places id P t)
    (hafter : ∀ P t : Nat, ¬ w'.Places id P t)
    (hpools : ∀ P : Nat, (w'.pools[P]?).map (·.waiting) = (w.pools[P]?).map (·.waiting)) :
    w.Lines w' := by
  refine .same (fun j P t => ?_) (waitsIn_congr hpools)
  rw [places_of_turn h]
  by_cases hj : j = id
  · simp [hj, hbefore, hafter]
  · simp [hj]

section Submissions

variable {pool ticket : Nat} {p p' : WorkerPool Job} {job : Job}

/-- A turn in which a task places a submission. -/
theorem lines_joins (h : w.turn id = some w') (hputs : Puts pool p p' w w')
    (hbefore : ∀ P t : Nat, ¬ w.Places id P t)
    (hand' : w'.hand? id = some (.submitting pool (.placed ticket)))
    (hfresh : ticket ∉ p.waiting.map Prod.fst)
    (hwaiting : ∀ t, t ∈ p'.waiting.map Prod.fst ↔ t ∈ p.waiting.map Prod.fst ∨ t = ticket) :
    w.Lines w' := by
  refine .joins id pool ticket (fun hw => ?_) (fun j P t => ?_) fun P t => ?_
  · rcases ((hputs.waitsIn pool ticket).1).mp hw with ⟨-, hmem⟩ | ⟨hne, -⟩
    · exact hfresh hmem
    · exact hne rfl
  · rw [places_of_turn h]
    by_cases hj : j = id
    · rw [hj]
      simp only [hbefore, true_and, false_or, ne_eq, not_true_eq_false, false_and, or_false]
      rw [Places, hand']
      constructor
      · rintro heq
        cases heq
        exact ⟨rfl, rfl⟩
      · rintro ⟨rfl, rfl⟩
        rfl
    · simp [hj]
  · rw [(hputs.waitsIn P t).1, (hputs.waitsIn P t).2, hwaiting]
    tauto

/-- A turn in which a submission that a task had placed is queued or given back. -/
theorem lines_leaves (h : w.turn id = some w') (hputs : Puts pool p p' w w') (hsound : p.Sound)
    (hand : w.hand? id = some (.submitting pool (.placed ticket)))
    (hperm : p.waiting.Perm ((ticket, job) :: p'.waiting))
    (hafter : ∀ P t : Nat, ¬ w'.Places id P t) : w.Lines w' := by
  have hmem : ∀ s, s ∈ p'.waiting.map Prod.fst ↔ s ∈ p.waiting.map Prod.fst ∧ s ≠ ticket := by
    intro s
    have hnot := hsound.not_waiting_of_perm hperm
    rw [(hperm.map Prod.fst).mem_iff, List.map_cons, List.mem_cons]
    constructor
    · exact fun h => ⟨Or.inr h, fun heq => hnot (heq ▸ h)⟩
    · exact fun h => h.1.resolve_left h.2
  refine .leaves id pool ticket hand (fun j P s => ?_) fun P s => ?_
  · rw [places_of_turn h]
    by_cases hj : j = id
    · simp [hj, hafter]
    · simp [hj]
  · rw [(hputs.waitsIn P s).1, (hputs.waitsIn P s).2, hmem]
    tauto

/-- A turn in which a submission that a task has placed gets a permit. -/
theorem lines_advances (h : w.turn id = some w') (hputs : Puts pool p p' w w')
    (hand : w.hand? id = some (.submitting pool (.placed ticket)))
    (hand' : w'.hand? id = some (.submitting pool (.placed ticket)))
    (hperm : p'.waiting.Perm p.waiting) : w.Lines w' := by
  refine .same (fun j P s => ?_) fun P s => ?_
  · rw [places_of_turn h]
    by_cases hj : j = id
    · simp [hj, Places, hand, hand']
    · simp [hj]
  · rw [(hputs.waitsIn P s).1, (hputs.waitsIn P s).2, (hperm.map Prod.fst).mem_iff]

/-- What the offer of a job does to the submissions that wait. -/
theorem lines_offer {placement : Placement} (hsound : p.Sound) (h : w.turn id = some w')
    (hand : w.hand? id = some (.submitting pool (.offered job)))
    (hputs : Puts pool p (p.submit job).1 w w')
    (next : Submitted w id pool w' placement)
    (hplacement : placement = .ofVerdict p.issued (p.submit job).2) : w.Lines w' := by
  have hbefore : ∀ P t : Nat, ¬ w.Places id P t := not_places hand fun P t heq => nomatch heq
  rcases p.submit_cases job with ⟨-, hsubmit⟩ | ⟨-, hsubmit⟩
  · rw [hsubmit] at hputs hplacement
    subst hplacement
    have hafter : ∀ P t : Nat, ¬ w'.Places id P t := by
      cases next with
      | refused _ _ hand' => exact not_places hand' fun P t heq => nomatch heq
      | returned _ hand' => exact not_places hand' fun P t heq => nomatch heq
    exact lines_elsewhere h hbefore hafter (hputs.map_pools (·.waiting) rfl)
  · rw [hsubmit] at hputs hplacement
    subst hplacement
    cases next with
    | onward _ hand' =>
      refine lines_joins h hputs hbefore hand' (fun hmem => ?_) fun t => ?_
      · -- tickets are below the next one
        have hlt := hsound.ticket_lt p.issued
          (List.mem_append_left _ (List.mem_append_left _ hmem))
        exact Nat.lt_irrefl _ hlt
      · simp only [WorkerPool.waiting, List.map_append, List.map_singleton, List.mem_append,
          List.mem_singleton]
        tauto

/-- What a step of a submission does to those that wait. -/
theorem lines_submit {s : Submission} {placement : Placement}
    (hs : ∀ (P : Nat) p, w.pools[P]? = some p → p.Sound) (h : w.turn id = some w')
    (hand : w.hand? id = some (.submitting pool s))
    (turn : w.turnSubmission pool s = some (v, placement)) (hpools : w'.pools = v.pools)
    (next : Submitted w id pool w' placement) : w.Lines w' := by
  obtain ⟨p, ⟨job, rfl, hputs, hplacement⟩ | ⟨t, p', verdict, rfl, ha, hputs, rfl⟩⟩ :=
    puts_of_submission turn hpools
  · exact lines_offer (hs pool p hputs.before) h hand hputs next hplacement
  · have hsound := hs pool p hputs.before
    obtain ⟨job, ⟨rfl, -, hperm, -⟩ | ⟨rfl, -, hperm, -⟩ | ⟨rfl, -, hperm, -⟩⟩ :=
      hsound.advance?_cases ha
    · cases next with
      | onward _ hand' => exact lines_advances h hputs hand hand' hperm
    · cases next with
      | queued hand' =>
        exact lines_leaves h hputs hsound hand hperm (not_places hand' fun P t heq => nomatch heq)
    · have hafter : ∀ P t : Nat, ¬ w'.Places id P t := by
        cases next with
        | refused _ _ hand' => exact not_places hand' fun P t heq => nomatch heq
        | returned _ hand' => exact not_places hand' fun P t heq => nomatch heq
      exact lines_leaves h hputs hsound hand hperm hafter

end Submissions

/-- What a turn does to the submissions that wait. -/
theorem lines_of_turn (hs : ∀ (P : Nat) p, w.pools[P]? = some p → p.Sound)
    (h : w.turn id = some w') : w.Lines w' := by
  have hsame : ∀ {before after : Option Handling}, w.hand? id = before → w'.hand? id = after →
      (∀ P t, before ≠ some (.submitting P (.placed t))) →
      (∀ P t, after ≠ some (.submitting P (.placed t))) →
      (∀ P : Nat, (w'.pools[P]?).map (·.waiting) = (w.pools[P]?).map (·.waiting)) → w.Lines w' :=
    fun hbefore hafter hb ha => lines_elsewhere h (not_places hbefore hb) (not_places hafter ha)
  have hrest : w'.pools = w.pools → ∀ P : Nat,
      (w'.pools[P]?).map (·.waiting) = (w.pools[P]?).map (·.waiting) := fun hpools P => by rw [hpools]
  cases deed_of_turn h with
  | quiet _ hand hand' _ _ pools =>
    refine hsame hand hand' (by simp) (by simp) ?_
    rcases pools with pools | ⟨pool, p, p', hputs, hmarks⟩
    · exact hrest pools
    · exact hputs.map_pools (·.waiting) (marks_map hmarks (·.waiting) fun _ _ _ _ => rfl)
  | exchange _ _ _ _ _ program _ hand' _ pools =>
    exact hsame (hand?_eq program) hand' (by simp [Program.handling?]) (by simp) (hrest pools)
  | receive _ _ _ program _ hand' pools =>
    exact hsame (hand?_eq program) hand' (by simp [Program.handling?]) (by simp) (hrest pools)
  | drain _ _ hand hand' _ _ pools => exact hsame hand hand' (by simp) (by simp) (hrest pools)
  | leave _ _ hand _ end' _ _ pools =>
    exact hsame hand (hand?_eq_none end') (by simp) (by simp) (hrest pools)
  | take d request _ hand _ hand' _ pools =>
    refine hsame hand hand' (by simp) (fun P t heq => ?_) (hrest pools)
    rw [Handler.begin] at heq
    split at heq
    · cases heq
    · cases heq
  | submit v pool s placement hand turn pools _ next =>
    exact lines_submit hs h hand turn pools next
  | run _ _ _ hand _ hand' _ pools => exact hsame hand hand' (by simp) (by simp) (hrest pools)
  | finish _ _ _ hand _ _ hand' _ _ pools =>
    refine hsame hand hand' (by simp) (by simp) ?_
    rcases pools with ⟨-, pools⟩ | ⟨pool, i, p, -, -, hputs⟩
    · exact hrest pools
    · refine hputs.map_pools (·.waiting) ?_
      rw [WorkerPool.finish]
      split <;> rfl
  | pick pool i p p' job program taken puts program' =>
    refine hsame (hand?_eq program) (hand?_eq program') (by simp [Program.handling?])
      (by simp [Program.handling?]) (puts.map_pools (·.waiting) ?_)
    obtain ⟨-, ⟨_, _, _, -, -, rfl⟩ | ⟨-, -, -, rfl⟩⟩ := WorkerPool.take?_cases taken
    · rfl
    · rfl
  | exit pool i p p' program taken puts end' =>
    refine hsame (hand?_eq program) (hand?_eq_none end') (by simp [Program.handling?]) (by simp)
      (puts.map_pools (·.waiting) ?_)
    obtain ⟨-, ⟨_, _, _, -, -, rfl⟩ | ⟨-, -, -, rfl⟩⟩ := WorkerPool.take?_cases taken
    · rfl
    · rfl

/-- What a step from outside does to the submissions that wait. -/
theorem Outside.lines (h : w.Outside w') : w.Lines w' := by
  refine .same (fun j P t => ⟨fun hj => ?_, h.hand⟩) fun P t => ⟨?_, ?_⟩
  · exact (h.hands j _ hj).resolve_right fun hfree => hfree.1
  · rintro ⟨l, hl, ht⟩
    obtain ⟨p', hp', rfl⟩ := Option.map_eq_some_iff.mp hl
    rcases h.pools_back P p' hp' with ⟨p, hp, hm⟩ | ⟨⟨requested, rfl⟩, -⟩
    · refine ⟨p.waiting, by rw [hp]; rfl, ?_⟩
      rwa [marks_map hm (·.waiting) fun _ _ _ _ => rfl] at ht
    · cases ht
  · rintro ⟨l, hl, ht⟩
    obtain ⟨p, hp, rfl⟩ := Option.map_eq_some_iff.mp hl
    obtain ⟨p', hp', hm⟩ := h.pools P p hp
    refine ⟨p'.waiting, by rw [hp']; rfl, ?_⟩
    rwa [marks_map hm (·.waiting) fun _ _ _ _ => rfl]

/-! ### Executors -/

/-- **The executors of pools** are tasks. -/
structure Staffed (w : World) : Prop where
  idle : ∀ (P : Nat) p i, w.pools[P]? = some p → i ∈ p.idle →
    ∃ j : Nat, w.program? j = some (.execute P i none)
  busy : ∀ (P : Nat) p i, w.pools[P]? = some p → i ∈ p.busy.map Prod.fst →
    ∃ (j : Nat) (run : Run), w.program? j = some (.execute P i (some run))

/-- Whether the same executors of each pool are idle, and the same are busy. -/
def SameStaff (w w' : World) : Prop :=
  ∀ P : Nat, (w'.pools[P]?).map (fun p => (p.idle, p.busy)) =
    (w.pools[P]?).map fun p => (p.idle, p.busy)

/-- Pools that stay as they are keep their executors. -/
theorem SameStaff.of_pools (h : w'.pools = w.pools) : w.SameStaff w' := fun P => by rw [h]

/-- A pool in the place of another with the same executors. -/
theorem Puts.sameStaff {pool : Nat} {p p' : WorkerPool Job} (h : Puts pool p p' w w')
    (hidle : p'.idle = p.idle) (hbusy : p'.busy = p.busy) : w.SameStaff w' :=
  h.map_pools (fun p => (p.idle, p.busy)) (by rw [hidle, hbusy])

/-- A submission leaves executors alone. -/
theorem sameStaff_submission {pool : PoolId} {s : Submission} {placement : Placement}
    (turn : w.turnSubmission pool s = some (v, placement)) (pools : w'.pools = v.pools) :
    w.SameStaff w' := by
  obtain ⟨p, ⟨job, -, hputs, -⟩ | ⟨t, p', verdict, -, ha, hputs, -⟩⟩ :=
    puts_of_submission turn pools
  · rcases p.submit_cases job with ⟨-, hsubmit⟩ | ⟨-, hsubmit⟩
    · rw [hsubmit] at hputs
      exact hputs.sameStaff rfl rfl
    · rw [hsubmit] at hputs
      exact hputs.sameStaff rfl rfl
  · obtain ⟨-, -, hidle, hbusy, -⟩ := WorkerPool.advance?_frame ha
    exact hputs.sameStaff hidle hbusy

/-- A step in which executors stay idle and busy. -/
theorem Staffed.keeps (h : w.Staffed)
    (hidle : ∀ j P i : Nat, w.program? j = some (.execute P i none) →
      w'.program? j = some (.execute P i none))
    (hbusy : ∀ (j P i : Nat) run, w.program? j = some (.execute P i (some run)) →
      ∃ run', w'.program? j = some (.execute P i (some run')))
    (hpools : w.SameStaff w') : w'.Staffed := by
  have hback : ∀ (P : Nat) p', w'.pools[P]? = some p' →
      ∃ p, w.pools[P]? = some p ∧ p.idle = p'.idle ∧ p.busy = p'.busy := by
    intro P p' hp'
    have hmap := hpools P
    rw [hp', eq_comm] at hmap
    obtain ⟨p, hp, heq⟩ := Option.map_eq_some_iff.mp hmap
    exact ⟨p, hp, congrArg Prod.fst heq, congrArg Prod.snd heq⟩
  refine ⟨fun P p' i hp' hi => ?_, fun P p' i hp' hi => ?_⟩
  · obtain ⟨p, hp, heq, -⟩ := hback P p' hp'
    obtain ⟨j, hj⟩ := h.idle P p i hp (heq ▸ hi)
    exact ⟨j, hidle j P i hj⟩
  · obtain ⟨p, hp, -, heq⟩ := hback P p' hp'
    obtain ⟨j, run, hj⟩ := h.busy P p i hp (heq ▸ hi)
    exact ⟨j, hbusy j P i run hj⟩

/-- A step in which one executor goes on to another job, or exits. -/
theorem Staffed.moves (h : w.Staffed) {run? : Option Run} (next? : Option (Option Run))
    {p p' : WorkerPool Job} (hothers : ∀ j : Nat, j ≠ id → w'.program? j = w.program? j)
    (hp : w.program? id = some (.execute P i run?))
    (hnext : w'.program? id = next?.map (.execute P i)) (hputs : Puts P p p' w w')
    (hidle : ∀ k ∈ p'.idle, k = i ∧ next? = some none ∨ k ≠ i ∧ k ∈ p.idle)
    (hbusy : ∀ k ∈ p'.busy.map Prod.fst,
      k = i ∧ (∃ run, next? = some (some run)) ∨ k ≠ i ∧ k ∈ p.busy.map Prod.fst) :
    w'.Staffed := by
  have hkeep : ∀ {j Q k : Nat} {run?' : Option Run}, w.program? j = some (.execute Q k run?') →
      ¬ (Q = P ∧ k = i) → w'.program? j = some (.execute Q k run?') := by
    intro j Q k run?' hj hne
    rw [hothers j ?_, hj]
    rintro rfl
    rw [hp] at hj
    cases hj
    exact hne ⟨rfl, rfl⟩
  refine ⟨fun Q q k hq hk => ?_, fun Q q k hq hk => ?_⟩
  · rcases hputs.pools_iff.mp hq with ⟨rfl, rfl⟩ | ⟨hQ, hq⟩
    · rcases hidle k hk with ⟨rfl, rfl⟩ | ⟨hne, hk⟩
      · exact ⟨id, hnext⟩
      · obtain ⟨j, hj⟩ := h.idle _ p k hputs.before hk
        exact ⟨j, hkeep hj fun heq => hne heq.2⟩
    · obtain ⟨j, hj⟩ := h.idle Q q k hq hk
      exact ⟨j, hkeep hj fun heq => hQ heq.1⟩
  · rcases hputs.pools_iff.mp hq with ⟨rfl, rfl⟩ | ⟨hQ, hq⟩
    · rcases hbusy k hk with ⟨rfl, run, rfl⟩ | ⟨hne, hk⟩
      · exact ⟨id, run, hnext⟩
      · obtain ⟨j, run, hj⟩ := h.busy _ p k hputs.before hk
        exact ⟨j, run, hkeep hj fun heq => hne heq.2⟩
    · obtain ⟨j, run, hj⟩ := h.busy Q q k hq hk
      exact ⟨j, run, hkeep hj fun heq => hQ heq.1⟩

/-- What is for executing executes. -/
theorem execute_of_role {program : Program} (h : program.role = .execute P i) :
    ∃ run?, program = .execute P i run? := by
  cases program with
  | execute pool i' run? =>
    cases h
    exact ⟨run?, rfl⟩
  | _ => cases h

/-- What is for something else executes nothing. -/
theorem not_executes {role : Role} (h : w.role? id = some role)
    (hne : ∀ P i : Nat, role ≠ .execute P i) (P i : Nat) : w.role? id ≠ some (.execute P i) :=
  fun heq => hne P i (Option.some.inj (h.symm.trans heq))

/-- The turn of a task that is no executor. -/
theorem Staffed.bystands (h : w.Staffed) (hturn : w.turn id = some w')
    (hrole : ∀ P i : Nat, w.role? id ≠ some (.execute P i)) (hpools : w.SameStaff w') :
    w'.Staffed := by
  have hsame : ∀ {j P i : Nat} {run? : Option Run}, w.program? j = some (.execute P i run?) →
      w'.program? j = some (.execute P i run?) := by
    intro j P i run? hj
    rw [(others_of_turn hturn).2 j ?_, hj]
    rintro rfl
    exact hrole P i (role?_eq hj)
  exact h.keeps (fun j P i => hsame) (fun j P i run hj => ⟨run, hsame hj⟩) hpools

/-- The turn of a task that goes on with a script, for a pool or not. -/
theorem Staffed.goesOn (h : w.Staffed) (hturn : w.turn id = some w') {run next : Run}
    (hand : w.hand? id = some (.running run)) (hand' : w'.hand? id = some (.running next))
    (hpools : w.SameStaff w') : w'.Staffed := by
  have hothers := (others_of_turn hturn).2
  by_cases hrole : ∃ P i : Nat, w.role? id = some (.execute P i)
  · obtain ⟨P, i, hrole⟩ := hrole
    obtain ⟨program, hp, hr⟩ := Option.map_eq_some_iff.mp hrole
    obtain ⟨run?, rfl⟩ := execute_of_role hr
    obtain ⟨program', hp', hh⟩ := Option.bind_eq_some_iff.mp hand'
    have hr' := role_of_turn hturn (role?_eq hp')
    rw [hrole] at hr'
    obtain ⟨run?', rfl⟩ := execute_of_role (Option.some.inj hr').symm
    obtain ⟨_, rfl, -⟩ := Option.map_eq_some_iff.mp hh
    rw [hand?_eq hp] at hand
    obtain ⟨_, rfl, -⟩ := Option.map_eq_some_iff.mp hand
    refine h.keeps (fun j P i hj => ?_) (fun j P i run hj => ?_) hpools
    · rw [hothers j ?_, hj]
      rintro rfl
      rw [hp] at hj
      cases hj
    · by_cases hne : j = id
      · rw [hne, hp] at hj
        cases hj
        exact ⟨_, hne ▸ hp'⟩
      · exact ⟨run, (hothers j hne).trans hj⟩
  · exact h.bystands hturn (fun P i heq => hrole ⟨P, i, heq⟩) hpools

/-- The turn of an executor that takes a job. -/
theorem Staffed.picks (h : w.Staffed) (hturn : w.turn id = some w') {p p' : WorkerPool Job}
    {job : Job} (program : w.program? id = some (.execute P i none))
    (taken : p.take? i = some (p', .job job)) (puts : Puts P p p' w w')
    (program' : w'.program? id = some (.execute P i (some job.run))) : w'.Staffed := by
  obtain ⟨-, ⟨t, _, rest, -, -, rfl⟩ | ⟨-, -, hf, -⟩⟩ := WorkerPool.take?_cases taken
  · refine h.moves (some (some job.run)) (others_of_turn hturn).2 program program' puts
      (fun k hk => ?_) fun k hk => ?_
    · have hk' := (WorkerPool.wakeInVain_perm _ _).mem_iff.mp hk
      obtain ⟨hk', hne⟩ := List.mem_filter.mp hk'
      exact Or.inr ⟨bne_iff_ne.mp hne, hk'⟩
    · by_cases hki : k = i
      · exact Or.inl ⟨hki, _, rfl⟩
      · refine Or.inr ⟨hki, ?_⟩
        rw [List.map_append, List.mem_append] at hk
        exact hk.resolve_right fun h => hki (List.mem_singleton.mp h)
  · cases hf

/-- The turn of an executor that exits. -/
theorem Staffed.exits (h : w.Staffed) (hturn : w.turn id = some w') {p p' : WorkerPool Job}
    (hsound : p.Sound) (program : w.program? id = some (.execute P i none))
    (taken : p.take? i = some (p', .ended)) (puts : Puts P p p' w w')
    (end' : w'.program? id = none) : w'.Staffed := by
  obtain ⟨hi, ⟨_, _, _, -, hf, -⟩ | ⟨-, -, -, rfl⟩⟩ := WorkerPool.take?_cases taken
  · cases hf
  · refine h.moves none (others_of_turn hturn).2 program end' puts (fun k hk => ?_) fun k hk => ?_
    · obtain ⟨hk, hne⟩ := List.mem_filter.mp hk
      exact Or.inr ⟨bne_iff_ne.mp hne, hk⟩
    · -- nobody is both idle and busy
      refine Or.inr ⟨?_, hk⟩
      rintro rfl
      exact (List.nodup_append.mp hsound.executors_nodup).2.2 k hi k hk rfl

/-- Executors in a turn. -/
theorem Staffed.turn (h : w.Staffed) (hs : ∀ (P : Nat) p, w.pools[P]? = some p → p.Sound)
    (hturn : w.turn id = some w') : w'.Staffed := by
  have hother : ∀ {program : Program}, w.program? id = some program →
      (∀ P i : Nat, program.role ≠ .execute P i) → w'.pools = w.pools → w'.Staffed :=
    fun hp hne pools => h.bystands hturn (not_executes (role?_eq hp) hne) (.of_pools pools)
  cases deed_of_turn hturn with
  | quiet role _ _ _ _ pools =>
    refine h.bystands hturn (not_executes role (by simp)) ?_
    rcases pools with pools | ⟨pool, p, p', hputs, _, _, _, _, rfl⟩
    · exact .of_pools pools
    · exact hputs.sameStaff rfl rfl
  | exchange _ _ _ _ _ program _ _ _ pools => exact hother program (by simp [Program.role]) pools
  | receive _ _ _ program _ _ pools => exact hother program (by simp [Program.role]) pools
  | drain _ program _ _ _ _ pools => exact hother program (by simp [Program.role]) pools
  | leave _ program _ _ _ _ _ pools => exact hother program (by simp [Program.role]) pools
  | take _ _ program _ _ _ _ pools => exact hother program (by simp [Program.role]) pools
  | submit v pool s placement hand turn pools =>
    refine h.bystands hturn (fun P i heq => ?_) (sameStaff_submission turn pools)
    obtain ⟨program, hp, hrole⟩ := Option.map_eq_some_iff.mp heq
    obtain ⟨run?, rfl⟩ := execute_of_role hrole
    rw [hand?_eq hp] at hand
    cases run? <;> cases hand
  | run v run next hand _ hand' _ pools => exact h.goesOn hturn hand hand' (.of_pools pools)
  | finish v run progress hand _ _ _ _ _ pools =>
    rcases pools with ⟨hrole, pools⟩ | ⟨pool, i, p, hp, hp', hputs⟩
    · exact h.bystands hturn hrole (.of_pools pools)
    · exact h.moves (some none) (others_of_turn hturn).2 hp hp' hputs
        (fun k hk => (WorkerPool.mem_idle_finish hk).imp_left fun hki => ⟨hki, rfl⟩)
        fun k hk => Or.inr (WorkerPool.mem_busy_finish hk)
  | pick pool i p p' job program taken puts program' =>
    exact h.picks hturn program taken puts program'
  | exit pool i p p' program taken puts end' =>
    exact h.exits hturn (hs pool p puts.before) program taken puts end'

/-- Executors in a step from outside. -/
theorem Outside.staffed (h : w.Outside w') (hw : w.Staffed) : w'.Staffed := by
  have hfields : ∀ {p p' : WorkerPool Job}, p.Marks p' → p'.idle = p.idle ∧ p'.busy = p.busy := by
    rintro p _ ⟨_, _, _, _, rfl⟩
    exact ⟨rfl, rfl⟩
  refine ⟨fun P p' i hp' hi => ?_, fun P p' i hp' hi => ?_⟩
  · rcases h.pools_back P p' hp' with ⟨p, hp, hm⟩ | ⟨-, htasks⟩
    · obtain ⟨j, hj⟩ := hw.idle P p i hp ((hfields hm).1 ▸ hi)
      exact ⟨j, h.programs j _ hj⟩
    · exact htasks i hi
  · rcases h.pools_back P p' hp' with ⟨p, hp, hm⟩ | ⟨⟨requested, rfl⟩, -⟩
    · obtain ⟨j, run, hj⟩ := hw.busy P p i hp ((hfields hm).2 ▸ hi)
      exact ⟨j, run, h.programs j _ hj⟩
    · cases hi

/-! ### Deliveries -/

/-- Whether the handling of a request is one of a handler. If it is bound to a pool, its delivery runs
a request only to refuse it. -/
def Suits (w : World) (handler : Handler) : Handling → Prop
  | .submitting pool _ => handler.pool? = some pool
  | .running _ => handler.pool? = none ∨
      ∃ pool p, handler.pool? = some pool ∧ w.pools[pool]? = some p ∧ p.isShut = true

/-- **Deliveries handle requests as they are bound to.** -/
def Bound (w : World) : Prop :=
  ∀ (j : Nat) d h, w.program? j = some (.deliver d) → d.handling? = some h → w.Suits d.handler h

/-- What suits a handler does so as long as nothing is opened again. -/
theorem Suits.mono {handler : Handler} {h : Handling} (hw : w.Hardens w')
    (hs : w.Suits handler h) : w'.Suits handler h := by
  cases h with
  | submitting pool s => exact hs
  | running run =>
    refine hs.imp_right fun ⟨pool, p, hpool, hp, hshut⟩ => ?_
    obtain ⟨p', hp', hstays⟩ := hw.pools pool p hp
    exact ⟨pool, p', hpool, hp', hstays.isShut hshut⟩

/-- A delivery in its turn. -/
theorem Bound.turn (hb : w.Bound) (hs : ∀ (P : Nat) p, w.pools[P]? = some p → p.Sound)
    (hturn : w.turn id = some w') : w'.Bound := by
  have hhardens := Step.hardens (.turn id hturn)
  intro j d' h hd' hh
  by_cases hj : j = id
  · rw [hj] at hd'
    obtain ⟨program, hp, hrole⟩ := Option.map_eq_some_iff.mp (role_of_turn hturn (role?_eq hd'))
    obtain ⟨d, rfl, -, -, hhandler⟩ := Program.deliver_of_role hrole
    rw [← hhandler]
    have hhand' : w'.hand? id = some h := (hand?_eq hd').trans hh
    have hold : ∀ {handling}, w.hand? id = some handling → w.Suits d.handler handling :=
      fun heq => hb id d _ hp ((hand?_eq hp).symm.trans heq)
    cases comesTo_of_turn hturn hhand' with
    | offers _ _ _ program _ _ bound =>
      cases hp.symm.trans program
      exact bound
    | begins _ _ program _ _ unbound =>
      cases hp.symm.trans program
      exact Or.inl unbound
    | places v pool s ticket hand => exact hold hand
    | refuses v pool s job hand turn =>
      obtain ⟨p, hp, hshut, -⟩ := turnSubmission_handedBack hs turn
      obtain ⟨p', hp', hstays⟩ := hhardens.pools pool p hp
      exact Or.inr ⟨pool, p', hold hand, hp', hstays.isShut hshut⟩
    | goesOn v run next hand => exact Suits.mono (h := .running run) hhardens (hold hand)
    | picks _ _ _ _ _ program => cases hp.symm.trans program
  · rw [(others_of_turn hturn).2 j hj] at hd'
    exact (hb j d' h hd' hh).mono hhardens

/-- A step from outside lets deliveries do what they do. -/
theorem Outside.bound (h : w.Outside w') (hs : w.Step w') (hb : w.Bound) : w'.Bound := by
  intro j d handling hd hh
  rcases h.hands j handling ((hand?_eq hd).trans hh) with hj | ⟨-, hrole⟩
  · obtain ⟨program, hp, -⟩ := Option.bind_eq_some_iff.mp hj
    have hp' := h.programs j program hp
    rw [hd] at hp'
    cases hp'
    exact (hb j d handling hp hh).mono hs.hardens
  · rw [role?_eq hd] at hrole
    cases hrole

/-! ### All together -/

/-- **Pools are manned**, and deliveries use the pools that they are bound to. -/
structure Manned (w : World) : Prop where
  placed : w.Placed
  staffed : w.Staffed
  bound : w.Bound

/-- At the beginning there are no pools. -/
theorem Manned.empty : Manned {} := by
  have hplaces : ∀ j P t : Nat, ¬ Places {} j P t := fun j P t h => by
    rw [Places, hand?_eq_none (program?_empty j)] at h
    cases h
  refine ⟨⟨fun P t => ⟨?_, fun h => h.elim fun j hj => absurd hj (hplaces j P t)⟩,
    fun j k P t hj => absurd hj (hplaces j P t)⟩, ⟨fun P p i hp => ?_, fun P p i hp => ?_⟩,
    fun j d h hd => ?_⟩
  · rintro ⟨l, hl, -⟩
    cases hl
  · cases hp
  · cases hp
  · rw [program?_empty] at hd
    cases hd

/-- Every step keeps pools manned. -/
theorem Manned.step (h : w.Manned) (ha : w.Attended) (hs : w.Step w') : w'.Manned := by
  obtain ⟨id, hturn⟩ | ⟨call, context?, client?, conclude, name?, -, rfl⟩ | hout :=
    hs.cases_outside
  · exact ⟨h.placed.step (lines_of_turn ha.pools hturn), h.staffed.turn ha.pools hturn,
      h.bound.turn ha.pools hturn⟩
  · have hold : ∀ {j : Nat} {program : Program}, w.program? j = some program →
        ((w.withBus (w.bus.ask call)).spawn
          (.exchange w.bus.calls.length context? false client? conclude) name?).program? j =
            some program := fun hj => program?_spawn_of_some (w := w.withBus _) hj _ name?
    refine ⟨h.placed.step (.same (fun j P t => ?_) fun P t => Iff.rfl),
      h.staffed.keeps (fun j P i => hold) (fun j P i run hj => ⟨run, hold hj⟩) fun P => rfl,
      fun j d handling hd hh => ?_⟩
    · rw [Places, hand?_exchange]
      exact Iff.rfl
    · rw [program?_spawn] at hd
      split at hd
      · cases hd
      · exact (h.bound j d handling hd hh).mono hs.hardens
  · exact ⟨h.placed.step hout.lines, hout.staffed h.staffed, hout.bound hs h.bound⟩

/-- **In every run pools are manned.** -/
theorem Manned.of_steps (h : Steps {} w) : w.Manned := by
  induction h with
  | refl => exact .empty
  | tail h hs ih => exact ih.step (.of_steps h) hs

end World

end ServiceBus.Bus
