import ServiceBus.Proofs.Pool.Sound

/-! # The jobs of a pool

What every operation of a pool does to the jobs that it holds: those that wait for a permit, are
admitted or queued. A job leaves the pool only to an executor or when it is handed back. -/

namespace ServiceBus.Bus

namespace WorkerPool

variable {α : Type} {p p' : WorkerPool α} {job job' : α} {t i : Nat}

/-- The jobs that a pool holds. -/
def jobs (p : WorkerPool α) : List α := (p.waiting ++ p.queue).map Prod.snd

/-- A job that is offered is held unless the pool is closed. -/
theorem mem_jobs_submit : job' ∈ (p.submit job).1.jobs ↔
    job' ∈ p.jobs ∨ p.announced = false ∧ job' = job := by
  rcases submit_cases p job with ⟨hn, hs⟩ | ⟨hn, hs⟩
  · rw [hs, hn]
    exact ⟨Or.inl, fun h => h.resolve_right fun ⟨hf, _⟩ => nomatch hf⟩
  · rw [hs, hn, jobs, jobs, waiting, waiting]
    simp only [List.map_append, List.mem_append, List.map_singleton, List.mem_singleton, true_and]
    tauto

/-- A submission that goes on takes its job along. -/
theorem Sound.mem_jobs_advance {v : Verdict α} (h : p.Sound) (ha : p.advance? t = some (p', v)) :
    (v = .onward ∨ v = .queued) ∧ (∀ job', job' ∈ p'.jobs ↔ job' ∈ p.jobs) ∨
      ∃ job, v = .handedBack job ∧ p.isShut = true ∧
        ∀ job', job' ∈ p.jobs ↔ job' = job ∨ job' ∈ p'.jobs := by
  have hperm : ∀ l l' : List (Ticket × α), l.Perm l' → ∀ job', job' ∈ l.map Prod.snd ↔
      job' ∈ l'.map Prod.snd := fun l l' hl job' => (hl.map Prod.snd).mem_iff
  obtain ⟨job, ⟨hv, -, hw, hq⟩ | ⟨hv, -, hw, hq⟩ | ⟨hv, hshut, hw, hq⟩⟩ := h.advance?_cases ha
  · refine Or.inl ⟨Or.inl hv, ?_⟩
    rw [jobs, jobs, hq]
    exact hperm _ _ (hw.append_right _)
  · refine Or.inl ⟨Or.inr hv, ?_⟩
    rw [jobs, jobs, hq]
    refine hperm _ _ (List.Perm.trans ?_ (hw.append_right _).symm)
    rw [← List.append_assoc]
    exact (List.perm_append_singleton _ _)
  · refine Or.inr ⟨job, hv, hshut, fun job' => ?_⟩
    rw [jobs, jobs, hq, hperm _ _ (hw.append_right _)]
    exact List.mem_cons

/-- An executor takes one job. -/
theorem mem_jobs_take (ht : p.take? i = some (p', .job job)) :
    job' ∈ p.jobs ↔ job' = job ∨ job' ∈ p'.jobs := by
  obtain ⟨-, ⟨t, job'', rest, hq, hf, rfl⟩ | ⟨-, -, hf, -⟩⟩ := take?_cases ht
  · cases hf
    rw [jobs, jobs, hq]
    show _ ∈ List.map Prod.snd (p.waiting ++ _) ↔ _ ∨ _ ∈ List.map Prod.snd (p.waiting ++ _)
    simp only [List.map_append, List.map_cons, List.mem_append, List.mem_cons]
    tauto
  · cases hf

/-- An executor that exits takes none. -/
theorem jobs_exit (ht : p.take? i = some (p', .ended)) : p'.jobs = p.jobs := by
  obtain ⟨-, ⟨t, job, rest, -, hf, -⟩ | ⟨-, -, -, rfl⟩⟩ := take?_cases ht
  · cases hf
  · rfl

/-- The end of a job that was taken concerns no other. -/
theorem jobs_finish (p : WorkerPool α) (i : Nat) : (p.finish i).jobs = p.jobs := by
  rw [finish]
  split
  · rfl
  · rfl

end WorkerPool

end ServiceBus.Bus
