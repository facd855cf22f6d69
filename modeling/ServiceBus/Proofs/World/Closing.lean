import ServiceBus.Proofs.World.Attended

/-! # Steps that close

The turns of the calls that stop a service or shut a pool down, and the making of services and
endpoints. With them `Attended` holds in every run (`Attended.of_steps`). -/

namespace ServiceBus.Bus

namespace World

variable {w w' : World} {id t s P x i : Nat}

/-! ### The turn of a call -/

/-- The turn of a call that closes something: its own task goes on, and is no loop. -/
structure Proceeds (id : TaskId) (w w' : World) : Prop where
  length : w'.tasks.length = w.tasks.length
  others : ∀ j : Nat, j ≠ id → w'.program? j = w.program? j
  before : ∀ d, w.program? id ≠ some (.deliver d)
  after : ∀ d, w'.program? id ≠ some (.deliver d)

/-- The loops are the same after the turn of a call. -/
theorem Proceeds.deliver_iff (hm : Proceeds id w w') {y : Nat} {d : Delivery} :
    w'.program? y = some (.deliver d) ↔ w.program? y = some (.deliver d) := by
  by_cases hy : y = id
  · rw [hy]
    exact ⟨fun h => absurd h (hm.after d), fun h => absurd h (hm.before d)⟩
  · rw [hm.others y hy]

/-- A loop stays one or has ended, whatever else becomes of its service. -/
theorem Proceeds.loopOrEnded (hm : Proceeds id w w') {q : Program}
    (hid : w.program? id = some q) {service service' : Service}
    (hstop : service'.stop = service.stop) (h : w.LoopOrEnded service t) :
    w'.LoopOrEnded service' t := by
  refine ⟨by rw [hm.length]; exact h.1, fun r hr => ?_⟩
  have ht : t ≠ id := by
    rintro rfl
    obtain ⟨d, hd, -⟩ := h.2 q hid
    exact hm.before d (hid.trans (congrArg some hd))
  rw [hm.others t ht] at hr
  obtain ⟨d, hd, hs⟩ := h.2 r hr
  exact ⟨d, hd, hs.trans hstop.symm⟩

/-- Another call is as far with a service as before. -/
theorem Proceeds.awaitsLoop_of_ne (hm : Proceeds id w w') (hx : x ≠ id) :
    w'.AwaitsLoop x s t ↔ w.AwaitsLoop x s t := by
  rw [AwaitsLoop, AwaitsLoop, hm.others x hx]

/-- Another call is as far with a pool as before, if services keep their pools. -/
theorem Proceeds.shutsDown_of_ne (hm : Proceeds id w w') (hx : x ≠ id)
    (hpool : ∀ s : Nat, (w'.services[s]?).bind (·.pool?) = (w.services[s]?).bind (·.pool?))
    {stage : Shutdown} : w'.ShutsDown x P stage ↔ w.ShutsDown x P stage := by
  rw [shutsDown_iff, shutsDown_iff, hm.others x hx]
  simp only [hpool]

/-! ### Shutting a pool down -/

/-- How a call that shuts down a pool is written as a program: for itself, or to stop a service. -/
def ShutsPool (w : World) (pool : PoolId) (call : Shutdown → Program) : Prop :=
  call = .shutdown pool ∨ ∃ s service, w.services[s]? = some service ∧
    service.pool? = some pool ∧ call = fun stage => .stop s (.shutting stage)

/-- A call that shuts down a pool is at one stage of it. -/
theorem ShutsPool.shutsDown_iff {call : Shutdown → Program} {stage stage' : Shutdown} {Q : Nat}
    (hcall : w.ShutsPool P call) (hservices : w'.services = w.services)
    (hid : w'.program? id = some (call stage)) :
    w'.ShutsDown id Q stage' ↔ Q = P ∧ stage' = stage := by
  rcases hcall with rfl | ⟨s, service, hs, hp, rfl⟩
  · constructor
    · rintro (h | ⟨s, h, -, -⟩)
      · rw [hid] at h
        cases h
        exact ⟨rfl, rfl⟩
      · rw [hid] at h
        cases h
    · rintro ⟨rfl, rfl⟩
      exact .shutdown hid
  · constructor
    · rintro (h | ⟨s', h, hs', hp'⟩)
      · rw [hid] at h
        cases h
      · rw [hid] at h
        cases h
        rw [hservices, hs] at hs'
        rw [← Option.some.inj hs', hp] at hp'
        exact ⟨(Option.some.inj hp').symm, rfl⟩
    · rintro ⟨rfl, rfl⟩
      exact .stop s hid (hservices ▸ hs) hp

/-- A call that shuts down a pool neither delivers nor waits for a loop. -/
theorem ShutsPool.ne {call : Shutdown → Program} (hcall : w.ShutsPool P call) (stage : Shutdown) :
    (∀ d, call stage ≠ .deliver d) ∧ ∀ s loops, call stage ≠ .stop s (.joining loops) := by
  rcases hcall with rfl | ⟨s, service, -, -, rfl⟩
  · exact ⟨by simp, by simp⟩
  · exact ⟨by simp, by simp⟩

/-- The turn of a call that shuts down a pool. -/
structure Presses (id : TaskId) (pool : PoolId) (p' : WorkerPool Job) (w w' : World) : Prop
    extends Proceeds id w w' where
  services : w'.services = w.services
  scopes : w'.scopes = w.scopes
  pools : w'.pools = w.pools.set pool p'

section Shut

variable {call : Shutdown → Program} {p p' : WorkerPool Job} {stage : Shutdown}
  {next? : Option Shutdown}

/-- Another call that shuts down a pool is as far as before. -/
theorem Presses.shutsDown_of_ne (hm : Presses id P p' w w') (hx : x ≠ id) {Q : Nat} :
    w'.ShutsDown x Q stage ↔ w.ShutsDown x Q stage :=
  hm.toProceeds.shutsDown_of_ne hx fun s => by rw [hm.services]

/-- The pool that is shut down is put in the place of what it was. -/
theorem Presses.puts (hm : Presses id P p' w w') (hp : w.pools[P]? = some p) : Puts P p p' w w' :=
  ⟨hp, hm.pools⟩

/-- The program of a call after a step of a shutdown. -/
theorem ShutsPool.after (hcall : w.ShutsPool P call) (hid : w.program? id = some (call stage))
    (hid' : w'.program? id = next?.map call) {s : ServiceId} {after : Stopping}
    (hstop : w'.program? id = some (.stop s after)) : (∃ part, after = .shutting part) ∧
      w.program? id = some (.stop s (.shutting stage)) ∧
        ∃ service, w.services[s]? = some service ∧ service.pool? = some P := by
  rw [hstop] at hid'
  obtain ⟨stage', -, hq⟩ := Option.map_eq_some_iff.mp hid'.symm
  rcases hcall with rfl | ⟨s', service, hs, hpool, rfl⟩
  · cases hq
  · cases hq
    exact ⟨⟨stage', rfl⟩, hid, service, hs, hpool⟩

/-- Calls wait for the same loops after a step of a shutdown. -/
theorem ShutsPool.awaitsLoop_iff (hcall : w.ShutsPool P call)
    (hid : w.program? id = some (call stage)) (hm : Proceeds id w w')
    (hid' : w'.program? id = next?.map call) : w'.AwaitsLoop x s t ↔ w.AwaitsLoop x s t := by
  by_cases hx : x = id
  · rw [hx]
    constructor
    · rintro ⟨loops, hq, -⟩
      obtain ⟨⟨part, hpart⟩, -⟩ := hcall.after hid hid' hq
      cases hpart
    · rintro ⟨loops, hq, -⟩
      rw [hid] at hq
      exact absurd (Option.some.inj hq) ((hcall.ne stage).2 s loops)
  · exact hm.awaitsLoop_of_ne hx

/-- A call that has taken executors finds the pool joined. -/
theorem Attended.unjoined_of_shut (h : w.Attended) (hcall : w.ShutsPool P call)
    (hid : w.program? id = some (call stage)) (hp : w.pools[P]? = some p)
    (hs : p.shutdown? stage = some (p', next?)) : p'.unjoined = false := by
  obtain ⟨-, -, hu, hclosing, -⟩ := WorkerPool.shutdown?_frame hs
  cases stage with
  | closing => exact hclosing rfl
  | joining executors =>
    obtain ⟨p₀, hp₀, hu₀⟩ := h.joined id P executors ((hcall.shutsDown_iff rfl hid).mpr ⟨rfl, rfl⟩)
    rw [hp] at hp₀
    exact hu (Option.some.inj hp₀ ▸ hu₀)

/-- The executors of a pool that a call shuts down are waited for. -/
theorem Attended.awaits_of_pressed (h : w.Attended) (hcall : w.ShutsPool P call)
    (hid : w.program? id = some (call stage)) (hp : w.pools[P]? = some p)
    (hs : p.shutdown? stage = some (p', next?)) (hm : Presses id P p' w w')
    (hid' : w'.program? id = next?.map call) (hi : i ∈ p.executors) :
    ∃ x, w'.AwaitsExecutor x P i := by
  have hnext : ∀ {stage'}, next? = some stage' → w'.ShutsDown id P stage' := by
    intro stage' hstage'
    rw [hstage'] at hid'
    exact (hcall.shutsDown_iff hm.services hid').mpr ⟨rfl, rfl⟩
  rcases h.executors P p hp i hi with hu | ⟨x, executors, hx, hmem⟩
  · -- nobody waits for them yet, so the call is the first that does
    rcases WorkerPool.shutdown?_cases hs with ⟨-, -, hstage'⟩ | hjoining
    · refine ⟨id, p.close.join.2, hnext hstage', ?_⟩
      obtain ⟨hc, hclose, -⟩ := WorkerPool.close_frame p
      rw [WorkerPool.join, hclose, if_pos hu, hc]
      exact List.mem_range.mpr ((h.pools P p hp).executor_lt i hi)
    · obtain ⟨executors, rfl⟩ : ∃ executors, stage = .joining executors := by
        rcases hjoining with ⟨rfl, -⟩ | ⟨j, rest, rfl, -⟩
        · exact ⟨_, rfl⟩
        · exact ⟨_, rfl⟩
      obtain ⟨p₀, hp₀, hu₀⟩ :=
        h.joined id P executors ((hcall.shutsDown_iff rfl hid).mpr ⟨rfl, rfl⟩)
      rw [hp] at hp₀
      rw [Option.some.inj hp₀, hu₀] at hu
      cases hu
  · by_cases hxid : x = id
    · rw [hxid] at hx
      obtain ⟨-, rfl⟩ := (hcall.shutsDown_iff rfl hid).mp hx
      rcases WorkerPool.shutdown?_cases hs with ⟨hstage, -⟩ | ⟨hstage, -⟩ |
        ⟨j, rest, hstage, hexit, -, hstage'⟩
      · cases hstage
      · rw [Shutdown.joining.inj hstage] at hmem
        cases hmem
      · rw [Shutdown.joining.inj hstage] at hmem
        rcases List.mem_cons.mp hmem with rfl | hmem
        · exact absurd hi (WorkerPool.hasExited_iff.mp hexit)
        · exact ⟨id, rest, hnext hstage', hmem⟩
    · exact ⟨x, executors, (hm.shutsDown_of_ne hxid).mpr hx, hmem⟩

/-- A pool whose executors some call waits for is joined after a step of a shutdown. -/
theorem Attended.joined_of_shut (h : w.Attended) (hcall : w.ShutsPool P call)
    (hid : w.program? id = some (call stage)) (hp : w.pools[P]? = some p)
    (hs : p.shutdown? stage = some (p', next?)) (hm : Presses id P p' w w')
    (hid' : w'.program? id = next?.map call) {Q : PoolId} {executors : List Nat}
    (hx : w'.ShutsDown x Q (.joining executors)) :
    ∃ q, w'.pools[Q]? = some q ∧ q.unjoined = false := by
  by_cases hQ : Q = P
  · rw [hQ]
    exact ⟨p', (hm.puts hp).after, h.unjoined_of_shut hcall hid hp hs⟩
  · have hxid : x ≠ id := by
      rintro rfl
      cases hstage' : next? with
      | none =>
        rw [hstage'] at hid'
        rcases hx with hx | ⟨s, hx, -, -⟩ <;> rw [hid'] at hx <;> cases hx
      | some stage' =>
        rw [hstage'] at hid'
        exact hQ ((hcall.shutsDown_iff hm.services hid').mp hx).1
    obtain ⟨q, hq, hqu⟩ := h.joined x Q executors ((hm.shutsDown_of_ne hxid).mp hx)
    exact ⟨q, (hm.puts hp).pools_iff.mpr (Or.inr ⟨hQ, hq⟩), hqu⟩

/-- The executors of any pool are waited for after a step of a shutdown, or may still be taken. -/
theorem Attended.awaits_of_shut (h : w.Attended) (hcall : w.ShutsPool P call)
    (hid : w.program? id = some (call stage)) (hp : w.pools[P]? = some p)
    (hs : p.shutdown? stage = some (p', next?)) (hm : Presses id P p' w w')
    (hid' : w'.program? id = next?.map call) {Q : PoolId} {q : WorkerPool Job}
    (hq : w'.pools[Q]? = some q) (hi : i ∈ q.executors) :
    q.unjoined = true ∨ ∃ x, w'.AwaitsExecutor x Q i := by
  rcases (hm.puts hp).pools_iff.mp hq with ⟨rfl, rfl⟩ | ⟨hQ, hq⟩
  · obtain ⟨he, -⟩ := WorkerPool.shutdown?_frame hs
    exact Or.inr (h.awaits_of_pressed hcall hid hp hs hm hid' (he ▸ hi))
  · refine (h.executors Q q hq i hi).imp_right fun ⟨y, executors, hy, hmem⟩ => ?_
    have hyid : y ≠ id := by
      rintro rfl
      exact hQ ((hcall.shutsDown_iff rfl hid).mp hy).1
    exact ⟨y, executors, (hm.shutsDown_of_ne hyid).mpr hy, hmem⟩

/-- **A step of a shutdown keeps the invariant.** -/
theorem Attended.shut (h : w.Attended) (hcall : w.ShutsPool P call)
    (hid : w.program? id = some (call stage)) (hp : w.pools[P]? = some p)
    (hs : p.shutdown? stage = some (p', next?)) (hm : Presses id P p' w w')
    (hid' : w'.program? id = next?.map call) : w'.Attended where
  pools Q q hq := by
    rcases (hm.puts hp).pools_iff.mp hq with ⟨rfl, rfl⟩ | ⟨-, hq⟩
    · exact (h.pools Q p hp).shutdown hs
    · exact h.pools Q q hq
  stop_lt := by rw [hm.services, hm.scopes]; exact h.stop_lt
  stop_inj := by rw [hm.services]; exact h.stop_inj
  loops t d hd := by
    obtain ⟨s, service, hs, hstop, hwhere⟩ := h.loops t d (hm.deliver_iff.mp hd)
    refine ⟨s, service, hm.services.symm ▸ hs, hstop, hwhere.imp_right fun ⟨y, hy⟩ => ⟨y, ?_⟩⟩
    exact (hcall.awaitsLoop_iff hid hm.toProceeds hid').mpr hy
  kept s service hs t ht :=
    hm.loopOrEnded hid rfl (h.kept s service (hm.services ▸ hs) t ht)
  awaited y s t service hs hy := hm.loopOrEnded hid rfl (h.awaited y s t service (hm.services ▸ hs)
    ((hcall.awaitsLoop_iff hid hm.toProceeds hid').mp hy))
  signalled y s after hy hne := by
    rw [hm.services, hm.scopes]
    by_cases hyid : y = id
    · obtain ⟨-, hbefore, -⟩ := hcall.after hid hid' (hyid ▸ hy)
      exact h.signalled id s _ hbefore (by simp)
    · exact h.signalled y s after (hm.others y hyid ▸ hy) hne
  paired y s after hy := by
    rw [hm.services]
    by_cases hyid : y = id
    · obtain ⟨-, -, service, hs, hpool⟩ := hcall.after hid hid' (hyid ▸ hy)
      exact ⟨service, P, hs, hpool⟩
    · exact h.paired y s after (hm.others y hyid ▸ hy)
  joined _ _ _ hy := h.joined_of_shut hcall hid hp hs hm hid' hy
  executors _ _ hq _ hi := h.awaits_of_shut hcall hid hp hs hm hid' hq hi

end Shut

/-! ### Stopping a service -/

/-- The turn of a call that waits for loops: one has ended, or there are none left and the call ends or
turns to the pool. -/
structure Waits (id s : Nat) (loops : List TaskId) (w w' : World) : Prop
    extends Proceeds id w w' where
  services : w'.services = w.services
  scopes : w'.scopes = w.scopes
  pools : w'.pools = w.pools
  onward : (∃ t rest, loops = t :: rest ∧ w.hasEnded t = true ∧
      w'.program? id = some (.stop s (.joining rest))) ∨
    loops = [] ∧ ∃ service, w.services[s]? = some service ∧
      (service.pool? = none ∧ w'.program? id = none ∨
        ∃ pool, service.pool? = some pool ∧ w'.program? id = some (.stop s (.shutting .closing)))

/-- What a call that waits for loops does next. -/
theorem Waits.next {loops : List TaskId} {q : Program} (hm : Waits id s loops w w')
    (hq : w'.program? id = some q) : (∃ rest, q = .stop s (.joining rest) ∧ rest ⊆ loops) ∨
      q = .stop s (.shutting .closing) ∧
        ∃ service pool, w.services[s]? = some service ∧ service.pool? = some pool := by
  rcases hm.onward with ⟨t, rest, rfl, -, hnext⟩ | ⟨-, service, hs, ⟨-, hnext⟩ | ⟨pool, hp, hnext⟩⟩
  · rw [hq] at hnext
    exact Or.inl ⟨rest, Option.some.inj hnext, List.subset_cons_self t rest⟩
  · rw [hq] at hnext
    cases hnext
  · rw [hq] at hnext
    exact Or.inr ⟨Option.some.inj hnext, service, pool, hs, hp⟩

/-- A loop that a call waits for and that has not ended is still waited for. -/
theorem Waits.left {loops : List TaskId} {d : Delivery} (hm : Waits id s loops w w')
    (ht : t ∈ loops) (hd : w.program? t = some (.deliver d)) : w'.AwaitsLoop id s t := by
  rcases hm.onward with ⟨t', rest, rfl, hend, hnext⟩ | ⟨rfl, -⟩
  · rcases List.mem_cons.mp ht with rfl | ht
    · rw [hasEnded, hd] at hend
      cases hend
    · exact ⟨rest, hnext, ht⟩
  · cases ht

/-- The call itself has taken no executors before or after it waited for loops. -/
theorem Waits.shutsDown_iff {loops : List TaskId} (hm : Waits id s loops w w')
    (hid : w.program? id = some (.stop s (.joining loops))) {executors : List Nat} :
    w'.ShutsDown x P (.joining executors) ↔ w.ShutsDown x P (.joining executors) := by
  by_cases hx : x = id
  · rw [hx]
    constructor
    · rintro (hq | ⟨s', hq, -, -⟩)
      · obtain ⟨rest, hq, -⟩ | ⟨hq, -⟩ := hm.next hq <;> cases hq
      · obtain ⟨rest, hq, -⟩ | ⟨hq, -⟩ := hm.next hq <;> cases hq
    · rintro (hq | ⟨s', hq, -, -⟩) <;> rw [hid] at hq <;> cases hq
  · exact hm.shutsDown_of_ne hx fun s => by rw [hm.services]

/-- Who waits for a loop after such a turn did so before. -/
theorem Waits.awaitsLoop_back {loops : List TaskId} (hm : Waits id s loops w w')
    (hid : w.program? id = some (.stop s (.joining loops))) {s' : ServiceId}
    (hx : w'.AwaitsLoop x s' t) : w.AwaitsLoop x s' t := by
  by_cases hxid : x = id
  · obtain ⟨ls, hx, ht⟩ := hx
    rw [hxid] at hx ⊢
    obtain ⟨rest, hq, hsub⟩ | ⟨hq, -⟩ := hm.next hx
    · cases hq
      exact ⟨loops, hid, hsub ht⟩
    · cases hq
  · exact (hm.awaitsLoop_of_ne hxid).mp hx

/-- **A call that waits for loops keeps the invariant.** -/
theorem Attended.wait {loops : List TaskId} (h : w.Attended) (hm : Waits id s loops w w')
    (hid : w.program? id = some (.stop s (.joining loops))) : w'.Attended where
  pools := by rw [hm.pools]; exact h.pools
  stop_lt := by rw [hm.services, hm.scopes]; exact h.stop_lt
  stop_inj := by rw [hm.services]; exact h.stop_inj
  loops t d hd := by
    have hd' := hm.deliver_iff.mp hd
    obtain ⟨s', service, hs', hstop, hwhere⟩ := h.loops t d hd'
    refine ⟨s', service, hm.services.symm ▸ hs', hstop, hwhere.imp_right fun ⟨y, ls, hy, ht⟩ => ?_⟩
    by_cases hyid : y = id
    · rw [hyid, hid] at hy
      cases hy
      exact ⟨id, hm.left ht hd'⟩
    · exact ⟨y, (hm.awaitsLoop_of_ne hyid).mpr ⟨ls, hy, ht⟩⟩
  kept s' service hs' t ht := hm.loopOrEnded hid rfl (h.kept s' service (hm.services ▸ hs') t ht)
  awaited y s' t service hs' hy := hm.loopOrEnded hid rfl
    (h.awaited y s' t service (hm.services ▸ hs') (hm.awaitsLoop_back hid hy))
  signalled y s' stage hy hne := by
    rw [hm.services, hm.scopes]
    by_cases hyid : y = id
    · obtain ⟨rest, hq, -⟩ | ⟨hq, -⟩ := hm.next (hyid ▸ hy)
      · cases hq
        exact h.signalled id s _ hid (by simp)
      · cases hq
        exact h.signalled id s _ hid (by simp)
    · exact h.signalled y s' stage (hm.others y hyid ▸ hy) hne
  paired y s' stage hy := by
    rw [hm.services]
    by_cases hyid : y = id
    · obtain ⟨rest, hq, -⟩ | ⟨hq, hpool⟩ := hm.next (hyid ▸ hy)
      · cases hq
      · cases hq
        exact hpool
    · exact h.paired y s' stage (hm.others y hyid ▸ hy)
  joined y Q executors hy := by
    rw [hm.pools]
    exact h.joined y Q executors ((hm.shutsDown_iff hid).mp hy)
  executors Q q hq i hi := by
    refine (h.executors Q q (hm.pools ▸ hq) i hi).imp_right fun ⟨y, executors, hy, hmem⟩ => ?_
    exact ⟨y, executors, (hm.shutsDown_iff hid).mpr hy, hmem⟩

/-- What the services are after one of them was changed. -/
theorem getElem?_modify_iff {f : Service → Service} {services : List Service} {j : Nat}
    {service' : Service} : (services.modify s f)[j]? = some service' ↔
      ∃ service, services[j]? = some service ∧
        service' = if s = j then f service else service := by
  rw [List.getElem?_modify]
  show Option.map _ _ = _ ↔ _
  rw [Option.map_eq_some_iff]
  constructor
  · rintro ⟨service, hs, rfl⟩
    exact ⟨service, hs, rfl⟩
  · rintro ⟨service, hs, rfl⟩
    exact ⟨service, hs, rfl⟩

/-- The turn of a call that begins to stop a service: it takes its loops out of it and tells them to
stop. -/
structure Signals (id s : Nat) (service : Service) (w w' : World) : Prop
    extends Proceeds id w w' where
  next : w'.program? id = some (.stop s (.joining service.deliveries))
  services : w'.services = w.services.modify s ({ · with deliveries := [] })
  scopes : w'.scopes = w.scopes.cancel w.holdsScope service.stop
  pools : w'.pools = w.pools

/-- A service after another call began to stop one. -/
theorem Signals.forth {service old : Service} (hm : Signals id s service w w') {s' : Nat}
    (hold : w.services[s']? = some old) : ∃ service', w'.services[s']? = some service' ∧
      service'.stop = old.stop ∧ service'.pool? = old.pool? ∧
        service'.deliveries = if s = s' then [] else old.deliveries := by
  rw [hm.services]
  refine ⟨_, getElem?_modify_iff.mpr ⟨old, hold, rfl⟩, ?_⟩
  split <;> exact ⟨rfl, rfl, rfl⟩

/-- A service before another call began to stop one. -/
theorem Signals.back {service service' : Service} (hm : Signals id s service w w') {s' : Nat}
    (hs' : w'.services[s']? = some service') : ∃ old, w.services[s']? = some old ∧
      service'.stop = old.stop ∧ service'.pool? = old.pool? ∧
        service'.deliveries = if s = s' then [] else old.deliveries := by
  rw [hm.services] at hs'
  obtain ⟨old, hold, rfl⟩ := getElem?_modify_iff.mp hs'
  refine ⟨old, hold, ?_⟩
  split <;> exact ⟨rfl, rfl, rfl⟩

/-- Nobody has got further with a pool when a call begins to stop a service. -/
theorem Signals.shutsDown_iff {service : Service} (hm : Signals id s service w w')
    (hid : w.program? id = some (.stop s .signalling)) {executors : List Nat} :
    w'.ShutsDown x P (.joining executors) ↔ w.ShutsDown x P (.joining executors) := by
  by_cases hx : x = id
  · rw [hx, World.shutsDown_iff, World.shutsDown_iff, hid, hm.next]
    simp
  · refine hm.shutsDown_of_ne hx fun s' => ?_
    rw [hm.services, List.getElem?_modify]
    cases w.services[s']? with
    | none => rfl
    | some old =>
      show Service.pool? (if s = s' then _ else old) = old.pool?
      split <;> rfl

/-- Who waits for a loop after a call began to stop a service is that call, or did so before. -/
theorem Signals.awaitsLoop_back {service : Service} (hm : Signals id s service w w') {s' : ServiceId}
    (hx : w'.AwaitsLoop x s' t) : s' = s ∧ t ∈ service.deliveries ∨ w.AwaitsLoop x s' t := by
  by_cases hxid : x = id
  · obtain ⟨loops, hx, ht⟩ := hx
    rw [hxid, hm.next] at hx
    cases hx
    exact Or.inl ⟨rfl, ht⟩
  · exact Or.inr ((hm.awaitsLoop_of_ne hxid).mp hx)

/-- A loop that was still in its service, or that a call waited for, is with a call or in its service
after another call began to stop one. -/
theorem Signals.where_loop {service old service' : Service} (hm : Signals id s service w w')
    (hid : w.program? id = some (.stop s .signalling)) (hs : w.services[s]? = some service)
    {s' : ServiceId} (hold : w.services[s']? = some old)
    (hdeliveries : service'.deliveries = if s = s' then [] else old.deliveries)
    (hwhere : t ∈ old.deliveries ∨ ∃ y, w.AwaitsLoop y s' t) :
    t ∈ service'.deliveries ∨ ∃ y, w'.AwaitsLoop y s' t := by
  rcases hwhere with ht | ⟨y, hy⟩
  · by_cases hss : s = s'
    · subst hss
      rw [hs] at hold
      rw [← Option.some.inj hold] at ht
      exact Or.inr ⟨id, _, hm.next, ht⟩
    · rw [hdeliveries, if_neg hss]
      exact Or.inl ht
  · have hyid : y ≠ id := by
      rintro rfl
      obtain ⟨loops, hy, -⟩ := hy
      rw [hid] at hy
      cases hy
    exact Or.inr ⟨y, (hm.awaitsLoop_of_ne hyid).mpr hy⟩

/-- **A call that begins to stop a service keeps the invariant.** -/
theorem Attended.signal {service : Service} (h : w.Attended) (hm : Signals id s service w w')
    (hid : w.program? id = some (.stop s .signalling)) (hs : w.services[s]? = some service) :
    w'.Attended where
  pools := by rw [hm.pools]; exact h.pools
  stop_lt s' service' hs' := by
    obtain ⟨old, hold, hstop, -⟩ := hm.back hs'
    rw [hm.scopes, ScopeTree.next_cancel, hstop]
    exact h.stop_lt s' old hold
  stop_inj s₁ s₂ service₁ service₂ hs₁ hs₂ heq := by
    obtain ⟨old₁, hold₁, hstop₁, -⟩ := hm.back hs₁
    obtain ⟨old₂, hold₂, hstop₂, -⟩ := hm.back hs₂
    exact h.stop_inj s₁ s₂ old₁ old₂ hold₁ hold₂ (hstop₁ ▸ hstop₂ ▸ heq)
  loops t d hd := by
    obtain ⟨s', old, hold, hstop, hwhere⟩ := h.loops t d (hm.deliver_iff.mp hd)
    obtain ⟨service', hs', hstop', -, hdeliveries⟩ := hm.forth hold
    exact ⟨s', service', hs', hstop.trans hstop'.symm,
      hm.where_loop hid hs hold hdeliveries hwhere⟩
  kept s' service' hs' t ht := by
    obtain ⟨old, hold, hstop, -, hdeliveries⟩ := hm.back hs'
    rw [hdeliveries] at ht
    split at ht
    · cases ht
    · exact hm.loopOrEnded hid hstop (h.kept s' old hold t ht)
  awaited y s' t service' hs' hy := by
    obtain ⟨old, hold, hstop, -⟩ := hm.back hs'
    rcases hm.awaitsLoop_back hy with ⟨rfl, ht⟩ | hy
    · rw [hs] at hold
      obtain rfl := Option.some.inj hold
      exact hm.loopOrEnded hid hstop (h.kept s' service hs t ht)
    · exact hm.loopOrEnded hid hstop (h.awaited y s' t old hold hy)
  signalled y s' stage hy hne := by
    by_cases hyid : y = id
    · rw [hyid, hm.next] at hy
      cases hy
      obtain ⟨service', hs', hstop', -, hdeliveries⟩ := hm.forth hs
      refine ⟨service', hs', by rw [hdeliveries, if_pos rfl], ?_⟩
      rw [hstop', hm.scopes]
      exact ScopeTree.isCancelled_cancel_self _ _ (h.stop_lt s service hs)
    · obtain ⟨old, hold, hd, hc⟩ := h.signalled y s' stage (hm.others y hyid ▸ hy) hne
      obtain ⟨service', hs', hstop', -, hdeliveries⟩ := hm.forth hold
      refine ⟨service', hs', by rw [hdeliveries, hd]; split <;> rfl, ?_⟩
      rw [hstop', hm.scopes, ScopeTree.isCancelled_cancel, hc, Bool.true_or]
  paired y s' stage hy := by
    have hyid : y ≠ id := by
      rintro rfl
      rw [hm.next] at hy
      cases hy
    obtain ⟨old, pool, hold, hp⟩ := h.paired y s' stage (hm.others y hyid ▸ hy)
    obtain ⟨service', hs', -, hp', -⟩ := hm.forth hold
    exact ⟨service', pool, hs', hp'.trans hp⟩
  joined y Q executors hy := by
    rw [hm.pools]
    exact h.joined y Q executors ((hm.shutsDown_iff hid).mp hy)
  executors Q q hq i hi := by
    refine (h.executors Q q (hm.pools ▸ hq) i hi).imp_right fun ⟨y, executors, hy, hmem⟩ => ?_
    exact ⟨y, executors, (hm.shutsDown_iff hid).mpr hy, hmem⟩

/-! ### All turns of a call -/

/-- **What the turn of a call that closes something does.** -/
inductive Closes (id : Nat) (w w' : World) : Prop where
  | signal {s : Nat} {service : Service} (hid : w.program? id = some (.stop s .signalling))
      (hs : w.services[s]? = some service) (hm : Signals id s service w w')
  | wait {s : Nat} {loops : List TaskId} (hid : w.program? id = some (.stop s (.joining loops)))
      (hm : Waits id s loops w w')
  | shut {P : Nat} {call : Shutdown → Program} {stage : Shutdown} {next? : Option Shutdown}
      {p p' : WorkerPool Job} (hcall : w.ShutsPool P call) (hid : w.program? id = some (call stage))
      (hp : w.pools[P]? = some p) (hs : p.shutdown? stage = some (p', next?))
      (hm : Presses id P p' w w') (hid' : w'.program? id = next?.map call)

/-- Such a turn keeps the invariant. -/
theorem Attended.closes (h : w.Attended) (hc : Closes id w w') : w'.Attended := by
  cases hc with
  | signal hid hs hm => exact h.signal hm hid hs
  | wait hid hm => exact h.wait hm hid
  | shut hcall hid hp hs hm hid' => exact h.shut hcall hid hp hs hm hid'

/-- Such a turn concerns the call alone among the tasks. -/
theorem Closes.proceeds (hc : Closes id w w') : Proceeds id w w' := by
  cases hc with
  | signal _ _ hm => exact hm.toProceeds
  | wait _ hm => exact hm.toProceeds
  | shut _ _ _ _ hm => exact hm.toProceeds

/-- Who stops services or shuts pools down is for nothing else. -/
theorem Closes.role (hc : Closes id w w') {program next : Program}
    (hp : w.program? id = some program) (hnext : w'.program? id = some next) :
    next.role = program.role := by
  cases hc with
  | signal hid _ hm =>
    rw [hid] at hp
    rw [hm.next] at hnext
    cases hp
    cases hnext
    rfl
  | wait hid hm =>
    rw [hid] at hp
    cases hp
    rcases hm.onward with ⟨t, rest, -, -, hid'⟩ | ⟨-, service, -, ⟨-, hid'⟩ | ⟨pool, -, hid'⟩⟩
    · rw [hid'] at hnext
      cases hnext
      rfl
    · rw [hid'] at hnext
      cases hnext
    · rw [hid'] at hnext
      cases hnext
      rfl
  | shut hcall hid _ _ _ hid' =>
    rw [hid] at hp
    rw [hid'] at hnext
    obtain ⟨stage, -, rfl⟩ := Option.map_eq_some_iff.mp hnext
    cases hp
    rcases hcall with rfl | ⟨s, service, -, -, rfl⟩
    · rfl
    · rfl

/-- The turn of a step of a shutdown. -/
theorem closes_turnShutdown {v : World} (call : Shutdown → Program) {stage : Shutdown}
    {next? : Option Shutdown} (hcall : w.ShutsPool P call) (hid : w.program? id = some (call stage))
    (hv : w.turnShutdown P stage = some (v, next?))
    (hw : (∃ stage', next? = some stage' ∧ w' = v.setProgram id (call stage')) ∨
      next? = none ∧ ∃ u outcome, v.Logs u ∧ w' = u.finish id outcome) : Closes id w w' := by
  obtain ⟨p, p', hp, hs, hlogs⟩ := turnShutdown_cases hv
  have hbeside := hlogs.beside
  obtain ⟨u, hbeside, hid', ha⟩ : ∃ u, (w.setPool P p').Beside u ∧
      w'.program? id = next?.map call ∧ Alone id u w' := by
    rcases hw with ⟨stage', rfl, rfl⟩ | ⟨rfl, u, outcome, hu, rfl⟩
    · refine ⟨v, hbeside, program?_setProgram_self ?_ _, alone_setProgram _ _ _⟩
      obtain ⟨_, _, _, _, _, rfl⟩ := hbeside
      exact lt_of_program? hid
    · exact ⟨u, hbeside.trans hu.beside, program?_finish_self _ _ _, alone_finish _ _ _⟩
  obtain ⟨bus, events, log, gates, stores, rfl⟩ := hbeside
  refine .shut hcall hid hp hs ⟨⟨ha.length, ha.others, ?_, ?_⟩, ha.services, ha.scopes, ha.pools⟩
    hid'
  · rw [hid]
    exact fun d hd => (hcall.ne stage).1 d (Option.some.inj hd)
  · intro d hd
    rw [hid'] at hd
    obtain ⟨stage', -, hd⟩ := Option.map_eq_some_iff.mp hd
    exact (hcall.ne stage').1 d hd

/-- The turn of a call that stops a service. -/
theorem closes_turnStop {stage : Stopping} (hid : w.program? id = some (.stop s stage))
    (hw : w.turnStop id s stage = some w') : Closes id w w' := by
  have hlt := lt_of_program? hid
  have hidle : ∀ d, w.program? id ≠ some (.deliver d) := by
    rw [hid]
    simp
  obtain ⟨service, hs, hcase⟩ := turnStop_cases hw
  rcases hcase with ⟨rfl, rfl⟩ | ⟨t, rest, rfl, hend, rfl⟩ | ⟨rfl, hp, rfl⟩ | ⟨pool, rfl, hp, rfl⟩ |
    ⟨pool, part, v, next?, rfl, hp, hv, hnext⟩
  · have ha := alone_setProgram { w.cancelScope service.stop with
      services := w.services.modify s ({ · with deliveries := [] }) } id
        (.stop s (.joining service.deliveries))
    have hself := program?_setProgram_self (w := { w.cancelScope service.stop with
      services := w.services.modify s ({ · with deliveries := [] }) }) hlt
        (.stop s (.joining service.deliveries))
    refine .signal hid hs ⟨⟨ha.length, ha.others, hidle, ?_⟩, hself, rfl, rfl, rfl⟩
    rw [hself]
    simp
  · obtain ⟨log, hreport⟩ := w.logs_reportCrash t
    have hlt' : id < (w.reportCrash t).tasks.length := by
      rw [hreport]
      exact hlt
    have hself := program?_setProgram_self hlt' (.stop s (.joining rest))
    have ha := alone_setProgram (w.reportCrash t) id (.stop s (.joining rest))
    refine .wait hid ⟨⟨?_, fun j hj => (ha.others j hj).trans ?_, hidle, ?_⟩, ?_, ?_, ?_, ?_⟩
    · rw [ha.length, hreport]
    · rw [hreport]
      rfl
    · rw [hself]
      simp
    · rw [ha.services, hreport]
    · rw [ha.scopes, hreport]
    · rw [ha.pools, hreport]
    · exact Or.inl ⟨t, rest, rfl, hend, hself⟩
  · have ha := alone_finish w id (.stopped (w.isStopped service))
    have hself := w.program?_finish_self id (.stopped (w.isStopped service))
    refine .wait hid ⟨⟨ha.length, ha.others, hidle, ?_⟩, ha.services, ha.scopes, ha.pools,
      Or.inr ⟨rfl, service, hs, Or.inl ⟨hp, hself⟩⟩⟩
    rw [hself]
    simp
  · have ha := alone_setProgram w id (.stop s (.shutting .closing))
    have hself := program?_setProgram_self hlt (.stop s (.shutting .closing))
    refine .wait hid ⟨⟨ha.length, ha.others, hidle, ?_⟩, ha.services, ha.scopes, ha.pools,
      Or.inr ⟨rfl, service, hs, Or.inr ⟨pool, hp, hself⟩⟩⟩
    rw [hself]
    simp
  · exact closes_turnShutdown (fun stage => .stop s (.shutting stage))
      (Or.inr ⟨s, service, hs, hp, rfl⟩) hid hv hnext

/-- **The turn of a call that closes something** is one of these. -/
theorem closes_turn {program : Program} (hid : w.program? id = some program) (hs : program.Stops)
    (hw : w.turn id = some w') : Closes id w w' := by
  cases program with
  | shutdown pool stage =>
    obtain ⟨v, next?, hv, hnext⟩ := turnShutdown_of_turn hid hw
    refine closes_turnShutdown (.shutdown pool) (Or.inl rfl) hid hv ?_
    exact hnext.imp_right fun ⟨hn, outcome, hf⟩ => ⟨hn, v, outcome, .refl v, hf⟩
  | stop s stage => exact closes_turnStop hid (turnStop_of_turn hid hw)
  | _ => exact absurd hs fun hs => hs

end World

end ServiceBus.Bus
