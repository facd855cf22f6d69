import ServiceBus.Proofs.Scope
import ServiceBus.Proofs.World.Step

/-! # Who waits for whom

A call that stops a service or shuts a pool down takes what it waits for out of the service or the
pool, so that another call does not wait for it too. `World.Attended` says where all of it is at any
time: still in its service or pool, or with one of the calls that are under way.

* `World.AwaitsLoop`, `World.AwaitsExecutor`: what a call still waits for.
* `World.Bystands`: the steps that have nothing to do with closing.
* `Attended.of_steps`: the invariant holds in every run. -/

namespace ServiceBus.Bus

/-- Whether a program is a call that stops a service or shuts a pool down and has taken something. -/
def Program.UnderWay : Program → Prop
  | .shutdown _ stage => stage ≠ .closing
  | .stop _ stage => stage ≠ .signalling
  | _ => False

namespace World

variable {w w' v : World} {id t s P x i : Nat}

/-! ### What a call waits for -/

/-- Whether a call that stops service `s` still waits for task `t` to end. -/
def AwaitsLoop (w : World) (id : TaskId) (s : ServiceId) (t : TaskId) : Prop :=
  ∃ loops, w.program? id = some (.stop s (.joining loops)) ∧ t ∈ loops

/-- Whether a task shuts down a pool, for itself or to stop a service, and how far it is. -/
inductive ShutsDown (w : World) (id : TaskId) (pool : PoolId) (stage : Shutdown) : Prop where
  | shutdown (h : w.program? id = some (.shutdown pool stage))
  | stop (s : ServiceId) {service : Service} (h : w.program? id = some (.stop s (.shutting stage)))
      (hs : w.services[s]? = some service) (hp : service.pool? = some pool)

/-- What the program of a task that shuts a pool down looks like. -/
theorem shutsDown_iff {stage : Shutdown} : w.ShutsDown x P stage ↔
    w.program? x = some (.shutdown P stage) ∨
      ∃ s : Nat, w.program? x = some (.stop s (.shutting stage)) ∧
        (w.services[s]?).bind (·.pool?) = some P := by
  constructor
  · rintro (h | ⟨s, h, hs, hp⟩)
    · exact Or.inl h
    · exact Or.inr ⟨s, h, by rw [hs, Option.bind_some, hp]⟩
  · rintro (h | ⟨s, h, hbind⟩)
    · exact .shutdown h
    · obtain ⟨service, hs, hp⟩ := Option.bind_eq_some_iff.mp hbind
      exact .stop s h hs hp

/-- Whether a call still waits for an executor of a pool to exit. -/
def AwaitsExecutor (w : World) (id : TaskId) (pool : PoolId) (i : Nat) : Prop :=
  ∃ executors, w.ShutsDown id pool (.joining executors) ∧ i ∈ executors

/-- Whether a task is a loop of a service or has ended. -/
def LoopOrEnded (w : World) (service : Service) (t : TaskId) : Prop :=
  t < w.tasks.length ∧
    ∀ program, w.program? t = some program → ∃ d, program = .deliver d ∧ d.stop = service.stop

/-! ### The invariant -/

/-- **Where all is that a stop has to wait for.** -/
structure Attended (w : World) : Prop where
  pools : ∀ (P : Nat) p, w.pools[P]? = some p → p.Sound
  stop_lt : ∀ (s : Nat) service, w.services[s]? = some service → service.stop < w.scopes.next
  stop_inj : ∀ (s s' : Nat) service service', w.services[s]? = some service →
    w.services[s']? = some service' → service.stop = service'.stop → s = s'
  loops : ∀ (t : Nat) d, w.program? t = some (.deliver d) → ∃ s service,
    w.services[s]? = some service ∧ d.stop = service.stop ∧
      (t ∈ service.deliveries ∨ ∃ id, w.AwaitsLoop id s t)
  kept : ∀ (s : Nat) service, w.services[s]? = some service →
    ∀ t ∈ service.deliveries, w.LoopOrEnded service t
  awaited : ∀ (id s t : Nat) service, w.services[s]? = some service → w.AwaitsLoop id s t →
    w.LoopOrEnded service t
  signalled : ∀ (id s : Nat) stage, w.program? id = some (.stop s stage) → stage ≠ .signalling →
    ∃ service, w.services[s]? = some service ∧ service.deliveries = [] ∧
      w.scopes.isCancelled service.stop = true
  paired : ∀ (id s : Nat) stage, w.program? id = some (.stop s (.shutting stage)) →
    ∃ service pool, w.services[s]? = some service ∧ service.pool? = some pool
  joined : ∀ (id P : Nat) executors, w.ShutsDown id P (.joining executors) →
    ∃ p, w.pools[P]? = some p ∧ p.unjoined = false
  executors : ∀ (P : Nat) p, w.pools[P]? = some p → ∀ i ∈ p.executors,
    p.unjoined = true ∨ ∃ id, w.AwaitsExecutor id P i

/-- A loop of a service from which all loops were taken has somebody who waits for it. -/
theorem Attended.awaited_of_nil (h : w.Attended) {service : Service} {d : Delivery}
    (hs : w.services[s]? = some service) (hnil : service.deliveries = [])
    (hd : w.program? t = some (.deliver d)) (hstop : d.stop = service.stop) :
    ∃ x, w.AwaitsLoop x s t := by
  obtain ⟨s', found, hfound, hstop', hwhere⟩ := h.loops t d hd
  obtain rfl := h.stop_inj s' s found service hfound hs (hstop'.symm.trans hstop)
  rw [hs] at hfound
  rw [← Option.some.inj hfound, hnil] at hwhere
  exact hwhere.resolve_left List.not_mem_nil

/-- There are no tasks in an empty world. -/
theorem program?_empty (j : Nat) : World.program? {} j = none := by
  rw [program?, List.getElem?_nil]
  rfl

/-- There is nothing to wait for in an empty world. -/
theorem Attended.empty : Attended {} where
  pools _ _ h := nomatch h
  stop_lt _ _ h := nomatch h
  stop_inj _ _ _ _ h := nomatch h
  loops t d h := by
    rw [program?_empty] at h
    cases h
  kept _ _ h := nomatch h
  awaited _ _ _ _ h := nomatch h
  signalled id s stage h := by
    rw [program?_empty] at h
    cases h
  paired id s stage h := by
    rw [program?_empty] at h
    cases h
  joined id P executors h := by
    rcases h with h | ⟨s, h⟩
    · rw [program?_empty] at h
      cases h
    · rw [program?_empty] at h
      cases h
  executors _ _ h := nomatch h

/-! ### Steps that have nothing to do with closing -/

/-- Pools that are used or closed at most; one may be new. -/
structure KeepsPools (w w' : World) : Prop where
  back : ∀ (P : Nat) p', w'.pools[P]? = some p' → p'.Sound ∧ p'.unjoined = true ∨
    ∃ p, w.pools[P]? = some p ∧ p'.unjoined = p.unjoined ∧
      (p.Sound → p'.Sound ∧ ∀ i ∈ p'.executors, i ∈ p.executors)
  forth : ∀ (P : Nat) p, w.pools[P]? = some p →
    ∃ p', w'.pools[P]? = some p' ∧ p'.unjoined = p.unjoined ∧ p.StaysShut p'

/-- A step that changes no call under way, makes no loop, and leaves all services as they are. A pool
may be used, or one more may be made. -/
structure Bystands (w w' : World) : Prop where
  calls : ∀ (x : Nat) q, q.UnderWay → (w'.program? x = some q ↔ w.program? x = some q)
  loops : ∀ (t : Nat) d, w'.program? t = some (.deliver d) →
    ∃ d', w.program? t = some (.deliver d') ∧ d.stop = d'.stop
  length : w.tasks.length ≤ w'.tasks.length
  tasks : ∀ t : Nat, t < w.tasks.length → ∀ q, w'.program? t = some q →
    ∃ q', w.program? t = some q' ∧ ∀ d', q' = .deliver d' → ∃ d, q = .deliver d ∧ d.stop = d'.stop
  services : w'.services = w.services
  next : w.scopes.next ≤ w'.scopes.next
  cancelled : ∀ s : Nat, w.scopes.isCancelled s = true → w'.scopes.isCancelled s = true
  pools : w.KeepsPools w'

/-- A call that waits for a loop waits for it after such a step. -/
theorem Bystands.awaitsLoop (hb : w.Bystands w') : w'.AwaitsLoop x s t ↔ w.AwaitsLoop x s t := by
  have hcall := fun loops => hb.calls x (.stop s (.joining loops)) (by simp [Program.UnderWay])
  simp only [AwaitsLoop, hcall]

/-- A call that shuts a pool down and has taken its executors is as far as before. -/
theorem Bystands.shutsDown (hb : w.Bystands w') {executors : List Nat} :
    w'.ShutsDown x P (.joining executors) ↔ w.ShutsDown x P (.joining executors) := by
  have hshut := hb.calls x (.shutdown P (.joining executors)) (by simp [Program.UnderWay])
  have hstop := fun s => hb.calls x (.stop s (.shutting (.joining executors)))
    (by simp [Program.UnderWay])
  constructor
  · rintro (h | ⟨s, h, hs, hp⟩)
    · exact .shutdown (hshut.mp h)
    · exact .stop s ((hstop s).mp h) (hb.services ▸ hs) hp
  · rintro (h | ⟨s, h, hs, hp⟩)
    · exact .shutdown (hshut.mpr h)
    · exact .stop s ((hstop s).mpr h) (hb.services.symm ▸ hs) hp

/-- A loop stays one or ends. -/
theorem Bystands.loopOrEnded (hb : w.Bystands w') {service : Service}
    (h : w.LoopOrEnded service t) : w'.LoopOrEnded service t := by
  refine ⟨h.1.trans_le hb.length, fun q hq => ?_⟩
  obtain ⟨q', hq', hstays⟩ := hb.tasks t h.1 q hq
  obtain ⟨d', rfl, hstop⟩ := h.2 q' hq'
  obtain ⟨d, rfl, hd⟩ := hstays d' rfl
  exact ⟨d, rfl, hd.trans hstop⟩

/-- **Such a step keeps the invariant.** -/
theorem Attended.bystands (h : w.Attended) (hb : w.Bystands w') : w'.Attended where
  pools P p' hp' := by
    rcases hb.pools.back P p' hp' with ⟨hs, -⟩ | ⟨p, hp, -, hs⟩
    · exact hs
    · exact (hs (h.pools P p hp)).1
  stop_lt s service hs := (h.stop_lt s service (hb.services ▸ hs)).trans_le hb.next
  stop_inj := by rw [hb.services]; exact h.stop_inj
  loops t d ht := by
    obtain ⟨d', hd', hstop⟩ := hb.loops t d ht
    obtain ⟨s, service, hs, hservice, hwhere⟩ := h.loops t d' hd'
    refine ⟨s, service, hb.services.symm ▸ hs, hstop.trans hservice, ?_⟩
    exact hwhere.imp_right fun ⟨id, hid⟩ => ⟨id, hb.awaitsLoop.mpr hid⟩
  kept s service hs t ht := hb.loopOrEnded (h.kept s service (hb.services ▸ hs) t ht)
  awaited id s t service hs ha :=
    hb.loopOrEnded (h.awaited id s t service (hb.services ▸ hs) (hb.awaitsLoop.mp ha))
  signalled id s stage hid hstage := by
    obtain ⟨service, hs, hd, hc⟩ :=
      h.signalled id s stage ((hb.calls id (.stop s stage) hstage).mp hid) hstage
    exact ⟨service, hb.services.symm ▸ hs, hd, hb.cancelled _ hc⟩
  paired id s stage hid := by
    rw [hb.services]
    exact h.paired id s stage ((hb.calls id _ (by simp [Program.UnderWay])).mp hid)
  joined id P executors hid := by
    obtain ⟨p, hp, hu⟩ := h.joined id P executors (hb.shutsDown.mp hid)
    obtain ⟨p', hp', hu', -⟩ := hb.pools.forth P p hp
    exact ⟨p', hp', hu'.trans hu⟩
  executors P p' hp' i hi := by
    rcases hb.pools.back P p' hp' with ⟨-, hu⟩ | ⟨p, hp, hu, hs⟩
    · exact Or.inl hu
    · rcases h.executors P p hp i ((hs (h.pools P p hp)).2 i hi) with hjoin | ⟨id, ex, hid, hmem⟩
      · exact Or.inl (hu.trans hjoin)
      · exact Or.inr ⟨id, ex, hb.shutsDown.mpr hid, hmem⟩

/-! ### Which steps these are -/

/-- A program that does not close anything is not under way with it. -/
theorem not_underWay {q : Program} (h : ¬ q.Stops) : ¬ q.UnderWay := by
  intro hq
  cases q with
  | shutdown pool stage => exact h trivial
  | stop s stage => exact h trivial
  | awaitCancelled | awaitEnd | sleep | receive | exchange | submit | handle | deliver | execute =>
    exact hq

/-- A pool that is put in the place of another, with no new executor. -/
theorem KeepsPools.set {p p' : WorkerPool Job} (hp : w.pools[P]? = some p)
    (hpools : w'.pools = w.pools.set P p') (hu : p'.unjoined = p.unjoined)
    (hshut : p.StaysShut p') (hs : p.Sound → p'.Sound ∧ ∀ i ∈ p'.executors, i ∈ p.executors) :
    w.KeepsPools w' := by
  have hputs : Puts P p p' w w' := ⟨hp, hpools⟩
  constructor
  · intro Q q' hq'
    rcases hputs.pools_iff.mp hq' with ⟨rfl, rfl⟩ | ⟨-, hq⟩
    · exact Or.inr ⟨p, hp, hu, hs⟩
    · exact Or.inr ⟨q', hq, rfl, fun h => ⟨h, fun _ hi => hi⟩⟩
  · intro Q q hq
    rcases hputs.forth hq with ⟨-, rfl, hafter⟩ | ⟨-, hafter⟩
    · exact ⟨p', hafter, hu, hshut⟩
    · exact ⟨q, hafter, rfl, .refl q⟩

/-- Pools that stay as they are. -/
theorem KeepsPools.same (hpools : w'.pools = w.pools) : w.KeepsPools w' where
  back P p' hp' := Or.inr ⟨p', hpools ▸ hp', rfl, fun h => ⟨h, fun _ hi => hi⟩⟩
  forth P p hp := ⟨p, by rw [hpools, hp], rfl, .refl p⟩

/-- The use of a pool. -/
theorem KeepsPools.uses (h : w'.pools = w.pools ∨ w.UsesPool w') : w.KeepsPools w' := by
  rcases h with h | ⟨P, p, p', hp, hworks, h⟩
  · exact .same h
  · obtain ⟨-, -, -, -, hu⟩ := hworks.frame
    exact .set hp h hu hworks.staysShut fun hs => ⟨hworks.sound hs, fun i hi => hworks.executors_subset hs hi⟩

/-- **The turn of a task that closes nothing** has nothing to do with closing. -/
theorem Goes.bystands {program : Program} (hg : w.Goes id program w')
    (hp : w.program? id = some program) (hs : ¬ program.Stops) : w.Bystands w' where
  calls x q hq := by
    by_cases hx : x = id
    · rw [hx]
      constructor
      · intro hnext
        exact absurd hq (not_underWay (hg.2 q hnext).stops)
      · intro hold
        rw [hp] at hold
        rw [← Option.some.inj hold] at hq
        exact absurd hq (not_underWay hs)
    · rw [hg.1.others x hx]
  loops t d hd := by
    by_cases ht : t = id
    · rw [ht] at hd ⊢
      obtain ⟨d', rfl, -, hstop, -⟩ := Program.deliver_of_role (hg.2 _ hd).role.symm
      exact ⟨d', hp, hstop.symm⟩
    · rw [hg.1.others t ht] at hd
      exact ⟨d, hd, rfl⟩
  length := hg.1.length.ge
  tasks t ht q hq := by
    by_cases htid : t = id
    · rw [htid] at hq ⊢
      refine ⟨program, hp, fun d' hd' => ?_⟩
      rw [hd'] at hg
      obtain ⟨d, rfl, -, hstop, -⟩ := Program.deliver_of_role (hg.2 q hq).role
      exact ⟨d, rfl, hstop⟩
    · rw [hg.1.others t htid] at hq
      exact ⟨q, hq, fun d' hd' => ⟨d', hd', rfl⟩⟩
  services := hg.1.services
  next := by rw [hg.1.scopes]
  cancelled s hc := by rw [hg.1.scopes]; exact hc
  pools := .uses hg.1.pools

/-- A step that leaves tasks and services alone. -/
theorem Bystands.of_tasks (tasks : w'.tasks = w.tasks) (services : w'.services = w.services)
    (next : w.scopes.next ≤ w'.scopes.next)
    (cancelled : ∀ s : Nat, w.scopes.isCancelled s = true → w'.scopes.isCancelled s = true)
    (pools : w.KeepsPools w') : w.Bystands w' := by
  have hprogram : ∀ x : Nat, w'.program? x = w.program? x := fun x => by
    rw [program?, program?, tasks]
  refine ⟨fun x q _ => by rw [hprogram], fun t d hd => ⟨d, hprogram t ▸ hd, rfl⟩,
    by rw [tasks], fun t _ q hq => ⟨q, hprogram t ▸ hq, fun d' hd' => ⟨d', hd', rfl⟩⟩,
    services, next, cancelled, pools⟩

/-- Something else beside tasks, services, scopes and pools. -/
theorem Tends.bystands (h : w.Tends w') : w.Bystands w' :=
  .of_tasks h.tasks h.services (by rw [h.scopes]) (fun s hs => by rw [h.scopes]; exact hs)
    (.uses h.pools)

/-- A new task that neither delivers nor is under way. -/
theorem Bystands.spawn {program : Program} (hb : w.Bystands v) (hq : ¬ program.UnderWay)
    (hd : ∀ d, program ≠ .deliver d) (name? : Option String) :
    w.Bystands (v.spawn program name?) where
  calls x q hunder := by
    rw [program?_spawn, ← hb.calls x q hunder]
    split
    · rename_i hx
      have hnone : v.program? x = none := program?_eq_none (by omega)
      rw [hnone]
      constructor
      · intro h
        rw [Option.some.inj h] at hq
        exact absurd hunder hq
      · intro h
        cases h
    · exact Iff.rfl
  loops t d h := by
    rw [program?_spawn] at h
    split at h
    · exact absurd (Option.some.inj h) (hd d)
    · exact hb.loops t d h
  length := by
    show w.tasks.length ≤ (v.tasks ++ [_]).length
    rw [List.length_append]
    exact hb.length.trans (Nat.le_add_right _ _)
  tasks t ht q h := by
    rw [program?_spawn, if_neg (Nat.ne_of_lt (ht.trans_le hb.length))] at h
    exact hb.tasks t ht q h
  services := hb.services
  next := hb.next
  cancelled := hb.cancelled
  pools := ⟨hb.pools.back, hb.pools.forth⟩

/-- A new pool. -/
theorem Bystands.openPool (w : World) (requested : Nat) : w.Bystands (w.openPool requested) := by
  have hold : ∀ (x : Nat) q, x < w.tasks.length → (w.openPool requested).program? x = some q →
      w.program? x = some q := by
    intro x q hx hq
    rcases program?_openPool.mp hq with hq | ⟨i, -, rfl, -⟩
    · exact hq
    · omega
  obtain ⟨log, hw⟩ := w.openPool_eq requested
  constructor
  · intro x q hunder
    rw [program?_openPool]
    refine ⟨fun h => h.resolve_right ?_, Or.inl⟩
    rintro ⟨i, -, -, rfl⟩
    exact hunder
  · intro t d hd
    rcases program?_openPool.mp hd with hd | ⟨i, -, -, hd⟩
    · exact ⟨d, hd, rfl⟩
    · cases hd
  · rw [hw]
    show _ ≤ (_ ++ _ : List Task).length
    rw [List.length_append]
    exact Nat.le_add_right _ _
  · exact fun t ht q hq => ⟨q, hold t q ht hq, fun d hd => ⟨d, hd, rfl⟩⟩
  · rw [hw]
  · rw [hw]
  · rw [hw]
    exact fun s hs => hs
  · constructor
    · intro P p' hp'
      rw [hw] at hp'
      rcases getElem?_concat_iff.mp hp' with hp' | ⟨-, rfl⟩
      · exact Or.inr ⟨p', hp', rfl, fun h => ⟨h, fun _ hi => hi⟩⟩
      · exact Or.inl ⟨.new, rfl⟩
    · intro P p hp
      refine ⟨p, ?_, rfl, .refl p⟩
      rw [hw, List.getElem?_append_left (List.getElem?_eq_some_iff.mp hp).1, hp]

/-- A pool that is closed from outside. -/
theorem Bystands.closePool {p : WorkerPool Job} (hp : w.pools[P]? = some p) :
    w.Bystands (w.setPool P p.close) := by
  obtain ⟨-, hu, he⟩ := WorkerPool.close_frame p
  exact .of_tasks rfl rfl (le_refl _) (fun _ h => h)
    (.set hp rfl hu p.staysShut_close fun hs => ⟨hs.close, fun i hi => he ▸ hi⟩)

/-- A pool that nobody holds. -/
theorem Bystands.reapPool (w : World) (P : PoolId) : w.Bystands (w.reapPool P) := by
  obtain hw | ⟨p, hp, hw⟩ := w.reapPool_eq P <;> rw [hw]
  · exact (Beside.refl w).tends.bystands
  · exact .of_tasks rfl rfl (le_refl _) (fun _ h => h)
      (.set hp rfl rfl ⟨fun h => h, fun h => h, fun _ => rfl⟩
        fun hs => ⟨hs.shutQueue, fun i hi => hi⟩)

end World

end ServiceBus.Bus
