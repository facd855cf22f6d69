import Mathlib.Data.List.Nodup
import Mathlib.Data.List.Perm.Basic
import ServiceBus.Bus.Pool

/-! # What the operations of a pool do

One statement for every operation of a `WorkerPool` that says all it can do, and beside it what
becomes of the submissions and of the executors.

* `WorkerPool.waiting`, `WorkerPool.tickets`: the submissions that are not queued yet, and all that the
  pool has.
* `WorkerPool.executors`: those that have not exited.
* `perm_cons_filter`: where every key occurs once, taking the entry of a key out takes out exactly
  the one that is found. -/

namespace ServiceBus.Bus

/-! ### Lists by key -/

section Keys

variable {β : Type} {k : Nat} {v : β} {l : List (Nat × β)}

/-- What is found under a key is in the list. -/
theorem mem_of_lookup (h : l.lookup k = some v) : (k, v) ∈ l := by
  obtain ⟨before, after, rfl, -⟩ := List.lookup_eq_some_iff.mp h
  exact List.mem_append_right _ List.mem_cons_self

/-- A key under which nothing is found is not in the list. -/
theorem lookup_isNone_iff : (l.lookup k).isNone = true ↔ k ∉ l.map Prod.fst := by
  rw [Option.isNone_iff_eq_none, List.lookup_eq_none_iff]
  constructor
  · intro h hk
    obtain ⟨⟨_, v⟩, hmem, rfl⟩ := List.mem_map.mp hk
    exact absurd (h _ hmem) (by simp)
  · intro h e he
    rw [bne_iff_ne]
    rintro rfl
    exact h (List.mem_map_of_mem he)

/-- Taking a key out that is not there changes nothing. -/
theorem filter_key_eq_self (h : k ∉ l.map Prod.fst) : l.filter (·.1 != k) = l := by
  rw [List.filter_eq_self]
  intro e he
  rw [bne_iff_ne]
  rintro rfl
  exact h (List.mem_map_of_mem he)

/-- **Taking a key out takes out the entry found under it**, and nothing else. -/
theorem perm_cons_filter (hn : (l.map Prod.fst).Nodup) (h : l.lookup k = some v) :
    l.Perm ((k, v) :: l.filter (·.1 != k)) := by
  obtain ⟨before, after, rfl, hbefore⟩ := List.lookup_eq_some_iff.mp h
  rw [List.map_append, List.map_cons, List.nodup_middle, List.nodup_cons, List.mem_append] at hn
  have hb : before.filter (·.1 != k) = before := filter_key_eq_self fun hk => hn.1 (Or.inl hk)
  have ha : after.filter (·.1 != k) = after := filter_key_eq_self fun hk => hn.1 (Or.inr hk)
  rw [List.filter_append, hb, List.filter_cons_of_neg (by simp), ha]
  exact List.perm_middle

end Keys

namespace WorkerPool

variable {α : Type} {p p' : WorkerPool α} {job : α} {t i : Nat}

/-! ### Parts -/

/-- The submissions that are not queued yet. -/
def waiting (p : WorkerPool α) : List (Ticket × α) := p.line ++ p.admitted

/-- All submissions that a pool has. -/
def tickets (p : WorkerPool α) : List Ticket :=
  p.waiting.map Prod.fst ++ p.queue.map Prod.fst ++ p.busy.map Prod.snd

/-- The executors that have not exited. -/
def executors (p : WorkerPool α) : List Nat := p.idle ++ p.busy.map Prod.fst

/-- An executor has exited if it is neither idle nor busy. -/
theorem hasExited_iff : p.hasExited i = true ↔ i ∉ p.executors := by
  rw [hasExited, Bool.and_eq_true, lookup_isNone_iff, executors, List.mem_append, not_or]
  simp

/-! ### Submissions -/

/-- What `submit` does. -/
theorem submit_cases (p : WorkerPool α) (job : α) :
    p.announced = true ∧
      p.submit job = ({ p with issued := p.issued + 1 }, .handedBack job) ∨
    p.announced = false ∧
      p.submit job = ({ p with issued := p.issued + 1, line := p.line ++ [(p.issued, job)] },
        .onward) := by
  rw [submit]
  cases h : p.announced
  · exact Or.inr ⟨rfl, by simp⟩
  · exact Or.inl ⟨rfl, by simp⟩

/-- An offer leaves the executors alone, and who waits for them. -/
theorem submit_frame (p : WorkerPool α) (job : α) :
    (p.submit job).1.unjoined = p.unjoined ∧ (p.submit job).1.executors = p.executors := by
  rcases submit_cases p job with ⟨-, hs⟩ | ⟨-, hs⟩
  · rw [hs]
    exact ⟨rfl, rfl⟩
  · rw [hs]
    exact ⟨rfl, rfl⟩

/-- What `admit?` does. -/
theorem admit?_cases {v : Verdict α} (h : p.admit? t = some (p', v)) :
    ∃ job, p.line.lookup t = some job ∧
      (p.admissionShut = true ∧ p' = p.leaveLine t ∧ v = .handedBack job ∨
       p.admissionShut = false ∧ p.position t < p.permits ∧ v = .onward ∧
         p' = { (p.leaveLine t).takePermit with admitted := p.admitted ++ [(t, job)] }) := by
  rw [admit?, Option.bind_eq_bind, Option.bind_eq_some_iff] at h
  obtain ⟨job, hjob, h⟩ := h
  refine ⟨job, hjob, ?_⟩
  split at h
  · rename_i hshut
    obtain ⟨rfl, rfl⟩ := Prod.mk.inj (Option.some.inj h)
    exact Or.inl ⟨hshut, rfl, rfl⟩
  · rename_i hshut
    split at h
    · rename_i hpos
      obtain ⟨rfl, rfl⟩ := Prod.mk.inj (Option.some.inj h)
      exact Or.inr ⟨Bool.eq_false_iff.mpr hshut, hpos, rfl, rfl⟩
    · exact absurd h (by simp)

/-- What `enqueue?` does. -/
theorem enqueue?_cases {v : Verdict α} (h : p.enqueue? t = some (p', v)) :
    ∃ job, p.admitted.lookup t = some job ∧
      (p.queueShut = true ∧ p' = (p.leaveAdmitted t).returnPermit ∧ v = .handedBack job ∨
       p.queueShut = false ∧ p.queue.length < p.capacity ∧ v = .queued ∧
         p' = { p.leaveAdmitted t with queue := p.queue ++ [(t, job)] }) := by
  rw [enqueue?, Option.bind_eq_bind, Option.bind_eq_some_iff] at h
  obtain ⟨job, hjob, h⟩ := h
  refine ⟨job, hjob, ?_⟩
  split at h
  · rename_i hshut
    obtain ⟨rfl, rfl⟩ := Prod.mk.inj (Option.some.inj h)
    exact Or.inl ⟨hshut, rfl, rfl⟩
  · rename_i hshut
    split at h
    · rename_i hroom
      obtain ⟨rfl, rfl⟩ := Prod.mk.inj (Option.some.inj h)
      exact Or.inr ⟨Bool.eq_false_iff.mpr hshut, hroom, rfl, rfl⟩
    · exact absurd h (by simp)

/-- A submission goes on from the line or from among the admitted ones. -/
theorem advance?_cases {v : Verdict α} (h : p.advance? t = some (p', v)) :
    p.admit? t = some (p', v) ∨ p.enqueue? t = some (p', v) := by
  rw [advance?, Option.or_eq_some_iff] at h
  exact h.imp_right And.right

/-- What `abandon` does. -/
theorem abandon_cases (p : WorkerPool α) (t : Nat) :
    (∃ job, p.admitted.lookup t = some job ∧ p.abandon t = (p.leaveAdmitted t).returnPermit) ∨
    (∃ job, p.line.lookup t = some job ∧ p.abandon t = p.leaveLine t) ∨
    t ∉ p.waiting.map Prod.fst ∧ p.abandon t = p := by
  rw [abandon]
  cases ha : p.admitted.lookup t with
  | some job => exact Or.inl ⟨job, rfl, rfl⟩
  | none =>
    refine Or.inr ?_
    cases hl : p.line.lookup t with
    | some job => exact Or.inl ⟨job, rfl, rfl⟩
    | none =>
      rw [← Option.isNone_iff_eq_none, lookup_isNone_iff] at ha hl
      refine Or.inr ⟨?_, ?_⟩
      · rw [waiting, List.map_append, List.mem_append, not_or]
        exact ⟨hl, ha⟩
      · rw [leaveLine, filter_key_eq_self hl]

/-- Giving a submission up leaves the executors alone, and who waits for them. -/
theorem abandon_frame (p : WorkerPool α) (t : Nat) :
    (p.abandon t).unjoined = p.unjoined ∧ (p.abandon t).executors = p.executors := by
  rcases abandon_cases p t with ⟨job, -, hp⟩ | ⟨job, -, hp⟩ | ⟨-, hp⟩
  · rw [hp]
    exact ⟨rfl, rfl⟩
  · rw [hp]
    exact ⟨rfl, rfl⟩
  · rw [hp]
    exact ⟨rfl, rfl⟩

/-! ### Executors -/

/-- Waking an executor in vain only changes the order. -/
theorem wakeInVain_perm (k : Nat) (idle : List Nat) : (wakeInVain k idle).Perm idle := by
  rw [wakeInVain]
  rcases Nat.lt_or_ge k idle.length with hk | hk
  · rw [List.getElem?_eq_getElem hk, Option.toList_some]
    exact (List.perm_append_singleton _ _).trans (List.getElem_cons_eraseIdx_perm hk)
  · rw [List.getElem?_eq_none hk, Option.toList_none, List.append_nil,
      List.eraseIdx_of_length_le hk]

/-- What `take?` does. -/
theorem take?_cases {found : Find α} (h : p.take? i = some (p', found)) :
    i ∈ p.idle ∧
      ((∃ t job rest, p.queue = (t, job) :: rest ∧ found = .job job ∧
          p' = { p with queue := rest,
                        idle := wakeInVain rest.length (p.idle.filter (· != i)),
                        busy := p.busy ++ [(i, t)] }) ∨
       p.queue = [] ∧ p.queueShut = true ∧ found = .ended ∧
         p' = { p with idle := p.idle.filter (· != i) }) := by
  rw [take?] at h
  split at h
  · rename_i hidle
    refine ⟨List.contains_iff_mem.mp hidle, ?_⟩
    split at h
    · rename_i t job rest hqueue
      obtain ⟨rfl, rfl⟩ := Prod.mk.inj (Option.some.inj h)
      exact Or.inl ⟨t, job, rest, hqueue, rfl, rfl⟩
    · rename_i hqueue
      split at h
      · rename_i hshut
        obtain ⟨rfl, rfl⟩ := Prod.mk.inj (Option.some.inj h)
        exact Or.inr ⟨hqueue, hshut, rfl, rfl⟩
      · exact absurd h (by simp)
  · exact absurd h (by simp)

/-- The end of a job of an executor that has one. -/
theorem finish_of_lookup (h : p.busy.lookup i = some t) :
    p.finish i =
      { p with idle := p.idle ++ [i], busy := p.busy.filter (·.1 != i) }.returnPermit := by
  rw [finish, h]

/-- Whoever is idle after the end of a job was idle before, or has had the job. -/
theorem mem_idle_finish {k : Nat} (hk : k ∈ (p.finish i).idle) : k = i ∨ k ≠ i ∧ k ∈ p.idle := by
  by_cases hki : k = i
  · exact Or.inl hki
  · refine Or.inr ⟨hki, ?_⟩
    rw [finish] at hk
    split at hk
    · exact (List.mem_append.mp hk).resolve_right fun h => hki (List.mem_singleton.mp h)
    · exact hk

/-- Whoever is busy after the end of a job was busy before, with another one. -/
theorem mem_busy_finish {k : Nat} (hk : k ∈ (p.finish i).busy.map Prod.fst) :
    k ≠ i ∧ k ∈ p.busy.map Prod.fst := by
  rw [finish] at hk
  split at hk
  · obtain ⟨b, hb, rfl⟩ := List.mem_map.mp hk
    obtain ⟨hb, hne⟩ := List.mem_filter.mp hb
    exact ⟨bne_iff_ne.mp hne, List.mem_map_of_mem hb⟩
  · rename_i hlookup
    refine ⟨?_, hk⟩
    rintro rfl
    exact absurd hk (lookup_isNone_iff.mp (by rw [hlookup]; rfl))

/-! ### Closing -/

/-- What a step of a shutdown does. -/
theorem shutdown?_cases {stage : Shutdown} {next? : Option Shutdown}
    (h : p.shutdown? stage = some (p', next?)) :
    stage = .closing ∧ p' = p.close.join.1 ∧ next? = some (.joining p.close.join.2) ∨
    stage = .joining [] ∧ p' = p ∧ next? = none ∨
    ∃ i rest, stage = .joining (i :: rest) ∧ p.hasExited i = true ∧ p' = p ∧
      next? = some (.joining rest) := by
  cases stage with
  | closing =>
    obtain ⟨rfl, rfl⟩ := Prod.mk.inj (Option.some.inj h)
    exact Or.inl ⟨rfl, rfl, rfl⟩
  | joining executors =>
    cases executors with
    | nil =>
      obtain ⟨rfl, rfl⟩ := Prod.mk.inj (Option.some.inj h)
      exact Or.inr (Or.inl ⟨rfl, rfl, rfl⟩)
    | cons i rest =>
      rw [shutdown?] at h
      split at h
      · rename_i hexit
        obtain ⟨rfl, rfl⟩ := Prod.mk.inj (Option.some.inj h)
        exact Or.inr (Or.inr ⟨i, rest, rfl, hexit, rfl, rfl⟩)
      · exact absurd h (by simp)

/-- A closed pool, whoever closed it, differs from the pool before in its three marks only. -/
theorem close_cases (p : WorkerPool α) :
    p.announced = true ∧ p.close = p ∨
    p.announced = false ∧
      p.close = { p with announced := true, admissionShut := true, queueShut := true } := by
  rw [close]
  cases h : p.announced
  · exact Or.inr ⟨rfl, rfl⟩
  · exact Or.inl ⟨rfl, rfl⟩

/-- Closing leaves the executors alone, and who waits for them. -/
theorem close_frame (p : WorkerPool α) : p.close.capacity = p.capacity ∧
    p.close.unjoined = p.unjoined ∧ p.close.executors = p.executors := by
  rcases close_cases p with ⟨-, hp⟩ | ⟨-, hp⟩
  · rw [hp]
    exact ⟨rfl, rfl, rfl⟩
  · rw [hp]
    exact ⟨rfl, rfl, rfl⟩

/-- Whether a pool is closed or given up, be it in part. -/
def isShut (p : WorkerPool α) : Bool := p.announced || p.admissionShut || p.queueShut

/-- A pool that is closed at least as far as another. -/
structure StaysShut (p p' : WorkerPool α) : Prop where
  announced : p.announced = true → p'.announced = true
  admissionShut : p.admissionShut = true → p'.admissionShut = true
  queueShut : p.queueShut = true → p'.queueShut = true

/-- A pool that is not changed stays as closed as it is. -/
theorem StaysShut.refl (p : WorkerPool α) : p.StaysShut p := ⟨fun h => h, fun h => h, fun h => h⟩

/-- Closing opens nothing. -/
theorem staysShut_close (p : WorkerPool α) : p.StaysShut p.close := by
  rcases close_cases p with ⟨-, hp⟩ | ⟨-, hp⟩
  · rw [hp]
    exact .refl p
  · rw [hp]
    exact ⟨fun _ => rfl, fun _ => rfl, fun _ => rfl⟩

/-- A step of a shutdown opens nothing. -/
theorem staysShut_shutdown {stage : Shutdown} {next? : Option Shutdown}
    (h : p.shutdown? stage = some (p', next?)) : p.StaysShut p' := by
  rcases shutdown?_cases h with ⟨-, rfl, -⟩ | ⟨-, rfl, -⟩ | ⟨i, rest, -, -, rfl, -⟩
  · exact ⟨(staysShut_close p).announced, (staysShut_close p).admissionShut,
      (staysShut_close p).queueShut⟩
  · exact .refl _
  · exact .refl _

/-- What is closed in part stays closed in part. -/
theorem StaysShut.isShut (h : p.StaysShut p') (hs : p.isShut = true) : p'.isShut = true := by
  rw [WorkerPool.isShut, Bool.or_eq_true, Bool.or_eq_true] at hs ⊢
  exact hs.imp (Or.imp h.announced h.admissionShut) h.queueShut

/-- A step of a shutdown leaves the executors alone; none but the first waits for them. -/
theorem shutdown?_frame {stage : Shutdown} {next? : Option Shutdown}
    (h : p.shutdown? stage = some (p', next?)) : p'.executors = p.executors ∧
      p'.capacity = p.capacity ∧ (p.unjoined = false → p'.unjoined = false) ∧
      (stage = .closing → p'.unjoined = false) ∧ (stage ≠ .closing → p' = p) := by
  rcases shutdown?_cases h with ⟨rfl, rfl, -⟩ | ⟨rfl, rfl, -⟩ | ⟨i, rest, rfl, -, rfl, -⟩
  · obtain ⟨hc, -, he⟩ := close_frame p
    exact ⟨he, hc, fun _ => rfl, fun _ => rfl, fun hne => absurd rfl hne⟩
  · exact ⟨rfl, rfl, fun hu => hu, by simp, fun _ => rfl⟩
  · exact ⟨rfl, rfl, fun hu => hu, by simp, fun _ => rfl⟩

end WorkerPool

end ServiceBus.Bus
