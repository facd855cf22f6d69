import ServiceBus.Proofs.World.Crew
import ServiceBus.Proofs.World.Idle
import ServiceBus.Proofs.World.Way

/-! # A stop drains the service

A service whose endpoints share a pool is stopped by one call after another, and nobody else closes the
pool. Then the stop waits for the loops, which hand on what their inboxes hold while the pool is still
open, and after that for the executors.

* `Course.awaits`: nobody but a call that stops the service waits for executors of its pool.
* `Course.returned`: when such a call returns no loop of the service and no executor is left.
* `Course.stalled`: a call that stops the service waits, in a world at rest, for an executor with a job.
* `World.stop_drains`: what was stored in the inbox of a loop is handed to its handler once. -/

namespace ServiceBus.Bus

namespace World

variable {w w' v : World} {id j c s P t i : Nat} {d : Delivery} {r : Request} {job : Job}
  {jobs before after : List (PoolId × Job)}

/-! ### Pools that were joined -/

/-- A pool whose executors somebody waited for was closed. -/
theorem announced_of_joined (h : Steps {} w) {p : WorkerPool Job} (hp : w.pools[P]? = some p)
    (hu : p.unjoined = false) : p.announced = true := by
  induction h generalizing p with
  | refl => cases hp
  | @tail v w _ hs ih =>
    rcases hs.kinds with hb | hr | ⟨id, program, hid, hstops, hturn⟩
    · rcases hb.pools.back P p hp with ⟨-, hnew⟩ | ⟨q, hq, heq, -⟩
      · rw [hu] at hnew
        cases hnew
      · obtain ⟨q', hq', -, hstays⟩ := hb.pools.forth P q hq
        rw [hp] at hq'
        rw [Option.some.inj hq']
        exact hstays.announced (ih hq (heq.symm.trans hu))
    · rw [hr.pools] at hp
      exact ih hp hu
    · cases closes_turn hid hstops hturn with
      | signal _ _ hm =>
        rw [hm.pools] at hp
        exact ih hp hu
      | wait _ hm =>
        rw [hm.pools] at hp
        exact ih hp hu
      | @shut Q call stage next? q q' hcall hid' hq hshut hm =>
        have hputs : Puts Q q q' v w := ⟨hq, hm.pools⟩
        rcases hputs.pools_iff.mp hp with ⟨rfl, rfl⟩ | ⟨-, hp⟩
        · rcases WorkerPool.shutdown?_cases hshut with ⟨-, rfl, -⟩ | ⟨-, rfl, -⟩ | ⟨_, _, -, -, rfl, -⟩
          · rcases q.close_cases with ⟨ha, heq⟩ | ⟨-, heq⟩
            · rw [heq]
              exact ha
            · rw [heq]
              rfl
          · exact ih hq hu
          · exact ih hq hu
        · exact ih hp hu

/-- A pool whose executors somebody waited for stays so. -/
theorem Step.joined (hs : w.Step w') {p : WorkerPool Job} (hp : w.pools[P]? = some p)
    (hu : p.unjoined = false) : ∃ p', w'.pools[P]? = some p' ∧ p'.unjoined = false := by
  rcases hs.kinds with hb | hr | ⟨id, program, hid, hstops, hturn⟩
  · obtain ⟨p', hp', heq, -⟩ := hb.pools.forth P p hp
    exact ⟨p', hp', heq.trans hu⟩
  · exact ⟨p, by rw [hr.pools, hp], hu⟩
  · cases closes_turn hid hstops hturn with
    | signal _ _ hm => exact ⟨p, by rw [hm.pools, hp], hu⟩
    | wait _ hm => exact ⟨p, by rw [hm.pools, hp], hu⟩
    | @shut Q call stage next? q q' hcall hid' hq hshut hm =>
      have hputs : Puts Q q q' w w' := ⟨hq, hm.pools⟩
      rcases hputs.forth hp with ⟨-, rfl, hp'⟩ | ⟨-, hp'⟩
      · obtain ⟨-, -, hkeep, -⟩ := WorkerPool.shutdown?_frame hshut
        exact ⟨q', hp', hkeep hu⟩
      · exact ⟨p, hp', hu⟩

/-- A pool stays. -/
theorem pool_of_steps (h : Steps v w) {p : WorkerPool Job} (hp : v.pools[P]? = some p) :
    ∃ q, w.pools[P]? = some q := by
  induction h with
  | refl => exact ⟨p, hp⟩
  | tail _ hs ih =>
    obtain ⟨q, hq⟩ := ih
    obtain ⟨q', hq', -⟩ := hs.hardens.pools P q hq
    exact ⟨q', hq'⟩

/-- A service keeps its scope and its pool. -/
theorem Step.paired (hs : w.Step w') {service : Service} (h : w.services[s]? = some service)
    (hpool : service.pool? = some P) : ∃ service' : Service, w'.services[s]? = some service' ∧
      service'.stop = service.stop ∧ service'.pool? = some P := by
  rcases hs.kinds with hb | hr | ⟨id, program, hid, hstops, hturn⟩
  · exact ⟨service, hb.services.symm ▸ h, rfl, hpool⟩
  · obtain ⟨service', hservice', hstop, hkeep, -⟩ := hr.forth s service h
    exact ⟨service', hservice', hstop, hkeep P hpool⟩
  · cases closes_turn hid hstops hturn with
    | signal _ _ hm =>
      obtain ⟨service', hservice', hstop, hsame, -⟩ := hm.forth h
      exact ⟨service', hservice', hstop, hsame.trans hpool⟩
    | wait _ hm => exact ⟨service, hm.services.symm ▸ h, rfl, hpool⟩
    | shut _ _ _ _ hm => exact ⟨service, hm.services.symm ▸ h, rfl, hpool⟩

/-- A service keeps its scope and its pool in a run. -/
theorem paired_of_steps (hs : Steps v w) {service : Service} (h : v.services[s]? = some service)
    (hpool : service.pool? = some P) : ∃ service' : Service, w.services[s]? = some service' ∧
      service'.stop = service.stop ∧ service'.pool? = some P := by
  induction hs with
  | refl => exact ⟨service, h, rfl, hpool⟩
  | tail _ hs ih =>
    obtain ⟨old, hold, hstop, hpool⟩ := ih
    obtain ⟨service', hservice', hstop', hpool'⟩ := hs.paired hold hpool
    exact ⟨service', hservice', hstop'.trans hstop, hpool'⟩

/-! ### Who waits for the executors -/

/-- What has taken executors is under way. -/
theorem ShutsDown.underWay {x : Nat} {executors : List Nat}
    (h : w.ShutsDown x P (.joining executors)) : ∃ q, w.program? x = some q ∧ q.UnderWay := by
  rcases h with hq | ⟨s, hq, -, -⟩
  · exact ⟨_, hq, by simp [Program.UnderWay]⟩
  · exact ⟨_, hq, by simp [Program.UnderWay]⟩

/-- A call that waits for executors is as far before a step that is not its turn. -/
theorem Step.awaitsExecutor_back (hs : w.Step w') (h : w.Attended) {x : Nat}
    (hx : w.turn x ≠ some w') (hw : w'.AwaitsExecutor x P i) :
    w.AwaitsExecutor x P i ∧ w'.program? x = w.program? x := by
  obtain ⟨executors, hshuts, hi⟩ := hw
  obtain ⟨q, hq, hunder⟩ := hshuts.underWay
  rcases hs.kinds with hb | hr | ⟨id, program, hid, hstops, hturn⟩
  · exact ⟨⟨executors, hb.shutsDown.mp hshuts, hi⟩, hq.trans ((hb.calls x q hunder).mp hq).symm⟩
  · exact ⟨⟨executors, (hr.shutsDown_iff h).mp hshuts, hi⟩,
      hq.trans ((hr.calls x q hunder).mp hq).symm⟩
  · have hne : x ≠ id := by
      rintro rfl
      exact hx hturn
    have hcloses := closes_turn hid hstops hturn
    have hpool : ∀ s : Nat, (w'.services[s]?).bind (·.pool?) = (w.services[s]?).bind (·.pool?) := by
      intro s
      cases hcloses with
      | @signal s' service _ hs' hm =>
        rw [hm.services, List.getElem?_modify]
        cases w.services[s]? with
        | none => rfl
        | some old =>
          show Service.pool? (if s' = s then _ else old) = old.pool?
          split <;> rfl
      | wait _ hm => rw [hm.services]
      | shut _ _ _ _ hm => rw [hm.services]
    exact ⟨⟨executors, (hcloses.proceeds.shutsDown_of_ne hne hpool).mp hshuts, hi⟩,
      hcloses.proceeds.others x hne⟩

/-- A call that is about to close a pool goes on in its own turn only. -/
theorem AboutToClose.eq (ha : w.AboutToClose id s P) (hturn : w.turn id = some w')
    (hj : w.turn j = some w') : j = id := by
  by_contra hne
  have hsame := (others_of_turn hj).2 id (Ne.symm hne)
  cases closes_turn ha.1 trivial hturn with
  | signal hid' =>
    rw [ha.1] at hid'
    cases hid'
  | wait hid' =>
    rw [ha.1] at hid'
    cases hid'
  | @shut Q call stage next? p p' hcall hid' hp hs hm hnext =>
    obtain ⟨-, rfl⟩ := (hcall.shutsDown_iff rfl hid').mp
      (shutsDown_iff.mpr (Or.inr ⟨s, ha⟩))
    rcases WorkerPool.shutdown?_cases hs with ⟨-, -, rfl⟩ | ⟨hstage, -⟩ | ⟨_, _, hstage, -⟩
    · rw [hsame, hid', Option.map_some] at hnext
      rcases hcall with rfl | ⟨_, _, -, -, rfl⟩ <;> cases hnext
    · cases hstage
    · cases hstage

/-- **How a call comes to wait for an executor** in its turn: it closes the pool while nobody waits for
the executors, or it waited for this one before. -/
theorem awaitsExecutor_of_turn {x : Nat} (hturn : w.turn x = some w')
    (hw : w'.AwaitsExecutor x P i) : ∃ call stage stage', w.ShutsPool P call ∧
      w.program? x = some (call stage) ∧ w'.program? x = some (call stage') ∧
      (w.AwaitsExecutor x P i ∨
        w'.PoolShut P ∧ ∃ p, w.pools[P]? = some p ∧ p.unjoined = true) := by
  obtain ⟨executors, hshuts, hi⟩ := hw
  obtain ⟨q, hq, hunder⟩ := hshuts.underWay
  obtain ⟨program, hprogram⟩ := exists_program_of_turn hturn
  have hstops : program.Stops := by
    by_contra hnot
    exact not_underWay ((goes_turn hprogram hnot hturn).2 q hq).stops hunder
  cases closes_turn hprogram hstops hturn with
  | signal hid' hs' hm =>
    rcases hshuts with hq | ⟨s', hq, -, -⟩ <;> rw [hm.next] at hq <;> cases hq
  | wait hid' hm =>
    rcases hshuts with hq | ⟨s', hq, -, -⟩ <;>
      obtain ⟨rest, hq, -⟩ | ⟨hq, -⟩ := hm.next hq <;> cases hq
  | @shut Q call stage next? p p' hcall hid' hp hshut hm hnext =>
    obtain ⟨stage', rfl⟩ : ∃ stage', next? = some stage' := by
      cases next? with
      | some stage' => exact ⟨stage', rfl⟩
      | none =>
        rw [hq] at hnext
        cases hnext
    obtain ⟨rfl, rfl⟩ := (hcall.shutsDown_iff hm.services hnext).mp hshuts
    refine ⟨call, stage, _, hcall, hid', hnext, ?_⟩
    rcases WorkerPool.shutdown?_cases hshut with ⟨-, rfl, hn⟩ | ⟨-, -, hn⟩ | ⟨k, rest, rfl, -, -, hn⟩
    · refine Or.inr ⟨⟨p.close.join.1, ?_, isShut_close p⟩, p, hp, ?_⟩
      · rw [hm.pools]
        exact List.getElem?_set_self (List.getElem?_eq_some_iff.mp hp).1
      · -- there are executors to wait for only if nobody waited for them before
        obtain ⟨-, hclose, -⟩ := WorkerPool.close_frame p
        rw [Shutdown.joining.inj (Option.some.inj hn), WorkerPool.join, hclose] at hi
        cases hu : p.unjoined with
        | true => rfl
        | false =>
          rw [hu] at hi
          cases hi
    · cases hn
    · refine Or.inl ⟨k :: rest, (hcall.shutsDown_iff rfl hid').mpr ⟨rfl, rfl⟩, ?_⟩
      rw [Shutdown.joining.inj (Option.some.inj hn)] at hi
      exact List.mem_cons_of_mem _ hi

/-- **Nobody but a call that stops the service waits for executors of its pool**, and somebody waits for
them as soon as the pool is closed. -/
theorem Course.awaits (h : Course s P {} w jobs) :
    (w.PoolShut P → ∀ p, w.pools[P]? = some p → p.unjoined = false) ∧
      ∀ x i : Nat, w.AwaitsExecutor x P i → ∃ stage, w.program? x = some (.stop s stage) := by
  induction h with
  | refl =>
    refine ⟨fun _ p hp => absurd hp (by simp), fun x i hx => ?_⟩
    obtain ⟨executors, hshuts, -⟩ := hx
    obtain ⟨q, hq, -⟩ := hshuts.underWay
    rw [program?_empty] at hq
    cases hq
  | @tail v w jobs h hs _ ih =>
    obtain ⟨hjoined, hawaits⟩ := ih
    refine ⟨fun hshut p hp => ?_, fun x i hx => ?_⟩
    · by_cases hbefore : v.PoolShut P
      · obtain ⟨q, hq, -⟩ := id hbefore
        obtain ⟨p', hp', hu⟩ := hs.1.joined hq (hjoined hbefore q hq)
        rw [hp] at hp'
        rw [Option.some.inj hp', hu]
      · obtain ⟨closer, habout, hturn⟩ := hs.2 hbefore hshut
        obtain ⟨q, -, hq⟩ := habout.turn hturn
        rw [hp] at hq
        rw [Option.some.inj hq]
        rfl
    · by_cases hturn : v.turn x = some w
      · obtain ⟨call, stage, stage', hcall, hold, hnext, hcase⟩ := awaitsExecutor_of_turn hturn hx
        have hstop : ∃ stage, v.program? x = some (.stop s stage) := by
          rcases hcase with hbefore | ⟨hshut, p, hp, hu⟩
          · exact hawaits x i hbefore
          · -- who closes the pool is a call that stops the service
            have hopen : ¬ v.PoolShut P := fun hshut => by
              rw [hjoined hshut p hp] at hu
              cases hu
            obtain ⟨closer, habout, hcloser⟩ := hs.2 hopen hshut
            rw [habout.eq hcloser hturn]
            exact ⟨_, habout.1⟩
        obtain ⟨before, hbefore⟩ := hstop
        rw [hold] at hbefore
        rcases hcall with rfl | ⟨s', service, -, -, rfl⟩
        · cases hbefore
        · cases hbefore
          exact ⟨_, hnext⟩
      · obtain ⟨hold, hsame⟩ := hs.1.awaitsExecutor_back (.of_steps h.steps) hturn hx
        rw [hsame]
        exact hawaits x i hold

/-! ### When the stop returns -/

/-- A call that stops a service with a pool returns from the shutdown of the pool. -/
theorem shutsDown_of_returned {stage : Stopping} {service : Service}
    (hid : w.program? id = some (.stop s stage)) (hturn : w.turn id = some w')
    (hend : w'.program? id = none) (hservice : w'.services[s]? = some service)
    (hpool : service.pool? = some P) : ∃ stage, w.ShutsDown id P stage := by
  cases closes_turn hid trivial hturn with
  | signal hid' hs' hm =>
    rw [hm.next] at hend
    cases hend
  | wait hid' hm =>
    rw [hid] at hid'
    cases hid'
    rcases hm.onward with ⟨_, _, -, -, hnext⟩ | ⟨-, old, hold, ⟨hnone, -⟩ | ⟨_, -, hnext⟩⟩
    · rw [hend] at hnext
      cases hnext
    · rw [← hm.services, hservice] at hold
      rw [← Option.some.inj hold, hpool] at hnone
      cases hnone
    · rw [hend] at hnext
      cases hnext
  | @shut Q call stage next? p p' hcall hid' hp hs hm hnext =>
    rw [hid] at hid'
    rcases hcall with rfl | ⟨s', old, hold, hpool', rfl⟩
    · cases hid'
    · cases hid'
      refine ⟨stage, .stop s hid hold ?_⟩
      rw [← hm.services, hservice] at hold
      rw [← Option.some.inj hold]
      exact hpool

/-- **When a call that stops the service returns** no loop of the service is left and no executor of its
pool. -/
theorem Course.returned (h : Course s P {} w jobs) {stage : Stopping} {service : Service}
    (hid : w.program? id = some (.stop s stage)) (hturn : w.turn id = some w')
    (hend : w'.program? id = none) (hservice : w'.services[s]? = some service)
    (hpool : service.pool? = some P) :
    (∀ (t : Nat) d, w'.program? t = some (.deliver d) → d.stop ≠ service.stop) ∧
      ∀ p, w'.pools[P]? = some p → p.executors = [] := by
  have hattended := Attended.of_steps h.steps
  have hattended' := hattended.step (.turn id hturn)
  have hne : ∀ {x : Nat} {q : Program}, w'.program? x = some q → x ≠ id := by
    rintro x q hq rfl
    rw [hend] at hq
    cases hq
  constructor
  · refine (hattended'.loops_left hservice
      (hattended.deliveries_of_returned hid hturn hend hservice)).mpr ?_
    rintro other t ⟨loops, hq, -⟩
    have hother := hne hq
    rw [(others_of_turn hturn).2 other hother] at hq
    exact absurd (h.oneStop other id _ _ hq hid) hother
  · intro p hp
    obtain ⟨stage', hshuts⟩ := shutsDown_of_returned hid hturn hend hservice hpool
    have hu := hattended.unjoined_of_returned hshuts hturn hend hp
    refine List.eq_nil_iff_forall_not_mem.mpr fun i hi => ?_
    rcases hattended'.executors P p hp i hi with hu' | ⟨x, hx⟩
    · rw [hu] at hu'
      cases hu'
    · -- whoever waits for the executor would be another call that stops the service
      obtain ⟨q, hq, -⟩ := hx.choose_spec.1.underWay
      have hxid := hne hq
      have hnot : w.turn x ≠ some w' := by
        intro hxturn
        have hsame := (others_of_turn hxturn).2 id (Ne.symm hxid)
        rw [hend, hid] at hsame
        cases hsame
      obtain ⟨hawaits, -⟩ := Step.awaitsExecutor_back (.turn id hturn) hattended hnot hx
      obtain ⟨stage'', hstop⟩ := h.awaits.2 x i hawaits
      exact hxid (h.oneStop x id _ _ hstop hid)

/-- No job begins in the turn of a call that stops a service. -/
theorem begun_of_stop {stage : Stopping} (hid : w.program? id = some (.stop s stage))
    (hturn : w.turn id = some w') : w.begun w' = [] := by
  rcases begun_cases (.turn id hturn) with hnil | ⟨j, Q, k, p, p', job, -, hp, -, -, hp', -, -⟩
  · exact hnil
  · by_cases hj : j = id
    · rw [hj, hid] at hp
      cases hp
    · rw [(others_of_turn hturn).2 j hj, hp] at hp'
      cases hp'

/-! ### Loops that drain -/

/-- **The inbox of a loop that drains takes no more requests.** -/
theorem not_accepts_of_draining (h : Steps {} w) (hd : w.program? t = some (.deliver d))
    (hdraining : d.draining = true) : ¬ w.bus.Accepts d.inbox := by
  induction h generalizing d with
  | refl =>
    rw [program?_empty] at hd
    cases hd
  | @tail v w hv hs ih =>
    -- the inbox is closed already, and stays so
    have hstays : ∀ {d' : Delivery}, v.program? t = some (.deliver d') → d'.draining = true →
        d'.inbox = d.inbox → ¬ w.bus.Accepts d.inbox := by
      intro d' hd' hdraining' hinbox
      have hlt := (ReadOnce.of_steps hv).lt _ _ (reads_deliver hd')
      rw [← hinbox]
      exact (hs.shut_inbox hlt (ih hd' hdraining')).2.1
    rcases hs.arrivals hd with hturn | hold | harrival
    · obtain ⟨program, hp, hrole⟩ := Option.map_eq_some_iff.mp (role_of_turn hturn (role?_eq hd))
      obtain ⟨d', rfl, hinbox, -⟩ := Program.deliver_of_role hrole
      have hlt := lt_of_program? hp
      have hdeliver := hturn
      rw [turn, hp, Option.bind_eq_bind, Option.bind_some] at hdeliver
      obtain ⟨handling, u, progress, hh, hu, hcase⟩ | ⟨-, -, -, rfl⟩ | ⟨-, -, hcase⟩ :=
        turnDeliver_cases hdeliver
      · have hlt' : t < u.tasks.length := by
          rw [tasks_turnHandling hu]
          exact hlt
        rcases hcase with ⟨next, -, rfl⟩ | ⟨-, rfl⟩ | ⟨-, rfl⟩
        · rw [program?_setProgram_self hlt'] at hd
          cases hd
          exact hstays hp hdraining rfl
        · rw [program?_setProgram_self hlt'] at hd
          cases hd
          exact hstays hp hdraining rfl
        · rw [program?_endTask_self] at hd
          cases hd
      · rw [← hinbox]
        exact MemoryBus.not_accepts_closeInbox _ _
      · rcases hcase with ⟨request, bus, -, rfl⟩ | ⟨-, -, u, -, rfl⟩
        · have hlt' : t < (v.withBus bus).tasks.length := hlt
          rw [program?_setProgram_self hlt'] at hd
          cases hd
          exact hstays hp hdraining rfl
        · rw [program?_endTask_self] at hd
          cases hd
    · exact hstays hold hdraining rfl
    · cases harrival with
      | begins hb => exact absurd hb fun hb => hb
      | loop _ hnot =>
        rw [hnot] at hdraining
        cases hdraining

/-! ### Services at rest -/

section Rest

variable {p : WorkerPool Job}

/-- **A loop at rest** whose handler is bound to an open pool that is not at work has nothing in hand,
finds its inbox empty and was not told to stop. -/
theorem AtRest.loop_idle (h : w.AtRest) (hrun : Steps {} w) (hp : w.pools[P]? = some p)
    (hidle : ¬ w.AtWork P) (hd : w.program? t = some (.deliver d))
    (hbound : d.handler.pool? = some P) (hopen : ¬ w.PoolShut P) : d.handling? = none ∧
      w.bus.buffer d.inbox = [] ∧ w.scopes.isCancelled d.stop = false := by
  have hsound := (Attended.of_steps hrun).pools P p hp
  have hand := h.handling?_eq_none (.of_steps hrun) hsound hp (spares_of_not_atWork hsound hp hidle)
    hd hbound (Bool.not_eq_true _ ▸ fun hshut => hopen ⟨p, hp, hshut⟩)
  obtain ⟨hstop, htake, hended⟩ := h.loop hd hand
  have hempty := MemoryBus.buffer_of_take_none htake
  refine ⟨hand, hempty, hstop.resolve_left fun hdraining => ?_⟩
  -- a loop that drains and finds its inbox empty ends
  have hnot := not_accepts_of_draining hrun hd hdraining
  have hlt := (ReadOnce.of_steps hrun).lt _ _ (reads_deliver hd)
  obtain ⟨inbox, hinbox⟩ : ∃ inbox, w.bus.inboxes[d.inbox]? = some inbox :=
    ⟨_, List.getElem?_eq_getElem hlt⟩
  have haccepting : inbox.accepting = false := by
    rw [← Bool.not_eq_true]
    exact fun hacc => hnot ⟨inbox, hinbox, hacc⟩
  rw [MemoryBus.buffer_eq hinbox] at hempty
  rw [MemoryBus.hasEnded, hinbox, Option.all_some, hempty, haccepting] at hended
  cases hended

/-- No request is on its way in a world at rest in which the pool is not at work. -/
theorem OnWay.not_atRest (hway : w.OnWay t d P r) (h : w.AtRest) (hrun : Steps {} w)
    (hp : w.pools[P]? = some p) (hbound : d.handler.pool? = some P)
    (hopen : w.Loops t d → ¬ w.PoolShut P) : w.AtWork P := by
  by_contra hidle
  have hsound := (Attended.of_steps hrun).pools P p hp
  have hempty := h.emptied (.of_steps hrun) hsound hp hidle
  have hspare := spares_of_not_atWork hsound hp hidle
  cases hway with
  | stored loop hr =>
    obtain ⟨d', hd', hinbox, -, -, hhandler⟩ := loop.program
    have hnil := (h.loop_idle hrun hp hidle hd' (hhandler ▸ hbound) (hopen loop)).2.1
    rw [← hinbox, hnil] at hr
    cases hr
  | offered loop hand => exact h.not_submitting (.of_steps hrun) hsound hp hspare hand
  | waiting loop ticket q hq hmem hand =>
    exact h.not_submitting (.of_steps hrun) hsound hp hspare hand
  | queued ticket q hq hmem =>
    rw [hp] at hq
    rw [← Option.some.inj hq, hempty.2.1] at hmem
    cases hmem

/-- A call that stops a service waits for a loop or for the shutdown of the pool. -/
theorem AtRest.stop (h : w.AtRest) {stage : Stopping} {service : Service}
    (hid : w.program? id = some (.stop s stage)) (hservice : w.services[s]? = some service)
    (hpool : service.pool? = some P) (hp : w.pools[P]? = some p) :
    (∃ t rest, stage = .joining (t :: rest) ∧ w.hasEnded t = false) ∨
      ∃ i rest, stage = .shutting (.joining (i :: rest)) ∧ p.hasExited i = false := by
  have hturn := h id
  rw [turn, hid, Option.bind_eq_bind, Option.bind_some] at hturn
  dsimp only at hturn
  rw [turnStop, hservice, Option.bind_eq_bind, Option.bind_some] at hturn
  cases stage with
  | signalling => cases hturn
  | joining loops =>
    cases loops with
    | nil =>
      dsimp only at hturn
      rw [hpool] at hturn
      cases hturn
    | cons t rest =>
      refine Or.inl ⟨t, rest, rfl, ?_⟩
      cases hended : w.hasEnded t with
      | false => rfl
      | true =>
        dsimp only at hturn
        rw [hended] at hturn
        cases hturn
  | shutting stage =>
    dsimp only at hturn
    rw [hpool, Option.bind_eq_bind, Option.bind_some, turnShutdown, hp] at hturn
    cases stage with
    | closing => cases hturn
    | joining executors =>
      cases executors with
      | nil => cases hturn
      | cons i rest =>
        refine Or.inr ⟨i, rest, rfl, ?_⟩
        cases hexited : p.hasExited i with
        | false => rfl
        | true =>
          have hgoes : p.shutdown? (.joining (i :: rest)) = some (p, some (.joining rest)) :=
            if_pos hexited
          simp only [Option.bind_eq_bind, Option.bind_some, hgoes] at hturn
          cases hturn

/-- **A call that stops the service waits**, in a world at rest, for an executor of the pool that has a
job, if all endpoints of the service share the pool. -/
theorem Course.stalled (hcourse : Course s P {} w jobs) (h : w.AtRest) {stage : Stopping}
    {service : Service} (hid : w.program? id = some (.stop s stage))
    (hservice : w.services[s]? = some service) (hpool : service.pool? = some P)
    (hp : w.pools[P]? = some p) (hbound : ∀ (t : Nat) d, w.program? t = some (.deliver d) →
      d.stop = service.stop → d.handler.pool? = some P) : w.AtWork P := by
  by_contra hidle
  have hrun := hcourse.steps
  have hattended := Attended.of_steps hrun
  rcases h.stop hid hservice hpool hp with ⟨t, rest, rfl, hended⟩ | ⟨i, rest, rfl, hexited⟩
  · -- the loop was told to stop and has nothing to do, so it ends
    obtain ⟨told, htold, -, hcancelled⟩ := hattended.signalled id s _ hid (by simp)
    rw [hservice] at htold
    obtain rfl := Option.some.inj htold
    have hloop := hattended.awaited id s t service hservice ⟨_, hid, List.mem_cons_self⟩
    cases hprogram : w.program? t with
    | none =>
      rw [hasEnded, hprogram] at hended
      cases hended
    | some program =>
      obtain ⟨d, rfl, hstop⟩ := hloop.2 program hprogram
      have hopen := hcourse.open hservice hprogram hstop
      have hnot := (h.loop_idle hrun hp hidle hprogram (hbound t d hprogram hstop) hopen).2.2
      rw [hstop, hcancelled] at hnot
      cases hnot
  · -- the pool is closed and empty, so the executor has exited
    obtain ⟨q, hq, hu⟩ := hattended.joined id P _ (.stop s hid hservice hpool)
    rw [hp] at hq
    obtain rfl := Option.some.inj hq
    have hshut : p.isShut = true := by
      rw [WorkerPool.isShut, announced_of_joined hrun hp hu]
      rfl
    have hqueue := (hcourse.ownSteps.closed hp hshut).2.2
    have hnone := (h.emptied (.of_steps hrun) (hattended.pools P p hp) hp hidle).2.2.2 hqueue
    have hexit : p.hasExited i = true := WorkerPool.hasExited_iff.mpr (by rw [hnone]; exact List.not_mem_nil)
    rw [hexit] at hexited
    cases hexited

end Rest

/-! ### What a stop comes to -/

/-- Whether among the jobs that began there is one of a call, and it is one that began in a pool. -/
def BegunOnce (jobs : List (PoolId × Job)) (c : CallId) (P : PoolId) (job : Job) : Prop :=
  ∃ l l', jobs = l ++ (P, job) :: l' ∧ ∀ e ∈ l ++ l', ¬ e.2.request.IsOf c

/-- A job of a call that began in a course is the only one of the call. -/
theorem Course.begunOnce (h : Course s P {} w jobs) (hmem : (P, job) ∈ jobs)
    (hc : job.request.IsOf c) : BegunOnce jobs c P job := by
  obtain ⟨l, l', rfl⟩ := List.append_of_mem hmem
  obtain ⟨-, hright, hcross⟩ := List.pairwise_append.mp h.once.1
  refine ⟨l, l', rfl, fun e he hec => ?_⟩
  rcases List.mem_append.mp he with he | he
  · exact hcross e he _ List.mem_cons_self c hec hc
  · exact (List.pairwise_cons.mp hright).1 e he c hc hec

/-- No request is on its way to the pool when a call that stops the service returns. -/
theorem Course.not_onWay (h : Course s P {} w jobs) {stage : Stopping} {service : Service}
    (hid : w.program? id = some (.stop s stage)) (hturn : w.turn id = some w')
    (hend : w'.program? id = none) (hservice : w'.services[s]? = some service)
    (hpool : service.pool? = some P) (hstop : d.stop = service.stop)
    (hbound : d.handler.pool? = some P) (hopen : w.Loops t d → ¬ w.PoolShut P) :
    ¬ w.OnWay t d P r := by
  intro hway
  have hs : w.Step w' := .turn id hturn
  have hattended := Attended.of_steps h.steps
  obtain ⟨hnone, hexecutors⟩ := h.returned hid hturn hend hservice hpool
  have hnot : ¬ w'.Loops t d := by
    intro hloop
    obtain ⟨d', hd', -, -, hd'stop, -⟩ := hloop.program
    exact hnone t d' hd' (hd'stop.trans hstop)
  rcases hway.step hs hattended.pools (.of_steps h.steps) (.of_steps h.steps) hbound hopen with
    hway' | hbegun
  · cases hway' with
    | stored loop => exact hnot loop
    | offered loop => exact hnot loop
    | waiting loop => exact hnot loop
    | queued ticket q hq hmem =>
      -- the queue is empty as all executors have exited
      have hsound := (hattended.step hs).pools P q hq
      have hout : 0 ∉ q.executors := by
        rw [hexecutors q hq]
        exact List.not_mem_nil
      rw [(hsound.drained 0 hsound.capacity_pos hout).2] at hmem
      cases hmem
  · rw [begun_of_stop hid hturn] at hbegun
    cases hbegun

/-- No executor of the pool has a job when a call that stops the service returns. -/
theorem Course.not_atWork (h : Course s P {} w jobs) {stage : Stopping} {service : Service}
    (hid : w.program? id = some (.stop s stage)) (hturn : w.turn id = some w')
    (hend : w'.program? id = none) (hservice : w'.services[s]? = some service)
    (hpool : service.pool? = some P) : ¬ w'.AtWork P := by
  rintro ⟨j, i, run, hj⟩
  have hcrewed := Crewed.of_steps (h.steps.tail (.turn id hturn))
  obtain ⟨q, hq, hi⟩ := hcrewed.executor j P i (role?_eq hj)
  rw [(h.returned hid hturn hend hservice hpool).2 q hq] at hi
  cases hi

/-- **A stop drains the service.** Take a run in which the calls that stop a service come one after
another and nobody else closes its pool, and a loop of the service whose handler is bound to that pool.

* A request that is stored in the inbox of the loop is of a call. Either no job of the call has begun and
  the request is on its way to the pool, or its job began once and the request is nowhere else.
* It has begun when the world is at rest and the pool is not at work, and when a call that stops the
  service returns. Then no executor of the pool has a job.
* The loop never turns a request away.
* Once its inbox is closed the loop has only such requests in hand that it had before.
* In a world at rest in which the pool is not at work every call that stops the service has returned. -/
theorem stop_drains {service : Service} {p : WorkerPool Job} (hbefore : Course s P {} v before)
    (hafter : Course s P v w after) (hservice : v.services[s]? = some service)
    (hpaired : service.pool? = some P) (hp : v.pools[P]? = some p)
    (hloop : v.program? t = some (.deliver d)) (hstop : d.stop = service.stop)
    (hbound : d.handler.pool? = some P) :
    (∀ r ∈ v.bus.buffer d.inbox, ∃ c, r.IsOf c ∧
      (w.OnWay t d P r ∧ (∀ e ∈ before ++ after, ¬ e.2.request.IsOf c) ∨
        BegunOnce (before ++ after) c P (d.job r) ∧ ∀ x, ¬ w.At c x) ∧
      (w.AtRest → ¬ w.AtWork P → BegunOnce (before ++ after) c P (d.job r)) ∧
      ∀ id stage w', w.program? id = some (.stop s stage) → w.turn id = some w' →
        w'.program? id = none → BegunOnce (before ++ after ++ w.begun w') c P (d.job r) ∧
          (∀ x, ¬ w'.At c x) ∧ ¬ w'.AtWork P) ∧
    ¬ w.TurnsAway t ∧
    (¬ v.bus.Accepts d.inbox → (∀ r ∈ w.bus.buffer d.inbox, r ∈ v.bus.buffer d.inbox) ∧
      ∀ Q job, w.hand? t = some (.submitting Q (.offered job)) →
        v.hand? t = some (.submitting Q (.offered job)) ∨ job.request ∈ v.bus.buffer d.inbox) ∧
    (w.AtRest → ¬ w.AtWork P →
      (∀ (t : Nat) d, w.program? t = some (.deliver d) → d.stop = service.stop →
        d.handler.pool? = some P) →
      ∀ id stage, w.program? id ≠ some (.stop s stage)) := by
  have hcourse := hbefore.trans hafter
  have hrun := hcourse.steps
  have hsound := (Attended.of_steps hrun).pools
  have hlocated := Located.of_steps hrun
  have hloops := loops_of_program hloop
  obtain ⟨q, hq⟩ := pool_of_steps hafter.steps hp
  have hopen : w.Loops t d → ¬ w.PoolShut P := hbefore.open_of_loops hafter hservice hstop
  refine ⟨fun r hr => ?_, hbefore.not_turnsAway hafter hservice hstop hbound hloops,
    handles_accepted (.of_steps hbefore.steps) hafter.steps hloops, ?_⟩
  · obtain ⟨c, hc⟩ := (Located.of_steps hbefore.steps).calls d.inbox r hr
    have honce : (P, d.job r) ∈ after → BegunOnce (before ++ after) c P (d.job r) := fun hmem =>
      hcourse.begunOnce (List.mem_append_right _ hmem) hc
    have hgone : (P, d.job r) ∈ after → w.bus.Sent c ∧ ∀ x, ¬ w.At c x := fun hmem =>
      hcourse.once.2 c _ (List.mem_append_right _ hmem) hc
    have hcase := hbefore.onWay hafter hservice hstop hbound hloops hr
    refine ⟨c, hc, ?_, fun hrest hidle => ?_, fun id stage w' hid hturn hend => ?_⟩
    · refine hcase.imp (fun hway => ⟨hway, fun e he hec => ?_⟩) fun hmem =>
        ⟨honce hmem, (hgone hmem).2⟩
      obtain ⟨x, hx⟩ := hway.at hc
      exact (hcourse.once.2 c e he hec).2 x hx
    · rcases hcase with hway | hmem
      · exact absurd (hway.not_atRest hrest hrun hq hbound hopen) hidle
      · exact honce hmem
    · have hs : w.Step w' := .turn id hturn
      obtain ⟨service', hservice', hstop', hpool'⟩ :=
        paired_of_steps (hafter.steps.tail hs) hservice hpaired
      have hmem : (P, d.job r) ∈ after := hcase.resolve_left
        (hcourse.not_onWay hid hturn hend hservice' hpool' (hstop.trans hstop'.symm) hbound hopen)
      refine ⟨?_, ?_, hcourse.not_atWork hid hturn hend hservice' hpool'⟩
      · rw [begun_of_stop hid hturn, List.append_nil]
        exact honce hmem
      · exact (hlocated.gone hsound hs (hgone hmem).1 (hgone hmem).2).2
  · intro hrest hidle hall id stage hid
    obtain ⟨service', hservice', hstop', hpool'⟩ := paired_of_steps hafter.steps hservice hpaired
    refine hidle (hcourse.stalled hrest hid hservice' hpool' hq fun t d hd heq => ?_)
    exact hall t d hd (heq.trans hstop')

/-! ### One request and one stop -/

/-- A call that closes something and goes on stops the same service as before, if any. -/
theorem Closes.stop_iff (hc : Closes id w w') {program next : Program}
    (hp : w.program? id = some program) (hnext : w'.program? id = some next) :
    (∃ stage, next = .stop s stage) ↔ ∃ stage, program = .stop s stage := by
  have hsame : ∀ {s' : Nat} {stage stage' : Stopping}, program = .stop s' stage →
      next = .stop s' stage' → ((∃ stage, next = .stop s stage) ↔ ∃ stage, program = .stop s stage) := by
    rintro s' stage stage' rfl rfl
    constructor
    · rintro ⟨_, heq⟩
      cases heq
      exact ⟨_, rfl⟩
    · rintro ⟨_, heq⟩
      cases heq
      exact ⟨_, rfl⟩
  cases hc with
  | signal hid' hs' hm =>
    rw [hp] at hid'
    exact hsame (Option.some.inj hid') (Option.some.inj (hnext.symm.trans hm.next))
  | wait hid' hm =>
    rw [hp] at hid'
    obtain ⟨_, hq, -⟩ | ⟨hq, -⟩ := hm.next hnext
    · exact hsame (Option.some.inj hid') hq
    · exact hsame (Option.some.inj hid') hq
  | shut hcall hid' hp' hs hm hnext' =>
    rw [hp] at hid'
    rw [hnext] at hnext'
    obtain ⟨stage', -, heq⟩ := Option.map_eq_some_iff.mp hnext'.symm
    rcases hcall with rfl | ⟨s', service, -, -, rfl⟩
    · rw [Option.some.inj hid', ← heq]
      constructor <;> rintro ⟨_, h⟩ <;> cases h
    · exact hsame (Option.some.inj hid') heq.symm

/-- A task that stops a service after a turn has stopped it before. -/
theorem stop_of_turn {stage : Stopping} (hturn : w.turn id = some w')
    (h : w'.program? j = some (.stop s stage)) : ∃ stage, w.program? j = some (.stop s stage) := by
  by_cases hj : j = id
  · obtain ⟨program, hp⟩ := exists_program_of_turn hturn
    rw [hj] at h ⊢
    have hstops : program.Stops := by
      by_contra hnot
      exact ((goes_turn hp hnot hturn).2 _ h).stops trivial
    obtain ⟨_, rfl⟩ := ((closes_turn hp hstops hturn).stop_iff hp h).mp ⟨_, rfl⟩
    exact ⟨_, hp⟩
  · rw [(others_of_turn hturn).2 j hj] at h
    exact ⟨_, h⟩

/-- Calls that stop the service do not come to overlap in a turn. -/
theorem OneStop.turn (h : w.OneStop s) (hturn : w.turn id = some w') : w'.OneStop s := by
  intro j k stage stage' hj hk
  obtain ⟨_, hj⟩ := stop_of_turn hturn hj
  obtain ⟨_, hk⟩ := stop_of_turn hturn hk
  exact h j k _ _ hj hk

/-- Turns after which the pool is open, or before which it is closed, are a course. -/
theorem exists_course_of_turns (ids : List TaskId) (h : v.turns ids = some w) (one : v.OneStop s)
    (hpool : ¬ w.PoolShut P ∨ v.PoolShut P) : w.OneStop s ∧ ∃ jobs, Course s P v w jobs := by
  induction ids using List.reverseRecOn generalizing w with
  | nil =>
    rw [turns, List.foldlM_nil] at h
    cases h
    exact ⟨one, [], .refl⟩
  | append_singleton ids id ih =>
    rw [turns, List.foldlM_append] at h
    obtain ⟨u, hu, hlast⟩ := Option.bind_eq_some_iff.mp h
    obtain ⟨_, hturn, hsame⟩ := Option.bind_eq_some_iff.mp hlast
    cases hsame
    have hs : u.Step w := .turn id hturn
    obtain ⟨hone, jobs, hcourse⟩ := ih hu (hpool.imp_left fun hopen hshut => hopen (hshut.step hs))
    refine ⟨hone.turn hturn, _, hcourse.tail ⟨hs, fun hopen hshut => ?_⟩ (hone.turn hturn)⟩
    rcases hpool with hnot | hbefore
    · exact absurd hshut hnot
    · exact absurd (hbefore.steps hcourse.steps) hopen

/-- Whether every task goes on, and none stops the service. -/
def Unstopped (w : World) (s : ServiceId) : Prop :=
  ∀ id : Nat, id < w.tasks.length →
    ∃ program, w.program? id = some program ∧ ∀ stage, program ≠ .stop s stage

/-- A run after which every task goes on and none stops the service is a course. -/
theorem exists_course_of_unstopped (h : Steps v w) (hopen : ¬ w.PoolShut P)
    (hw : w.Unstopped s) : ∃ jobs, Course s P v w jobs := by
  induction h with
  | refl => exact ⟨[], .refl⟩
  | @tail u w hu hs ih =>
    have hstop : ∀ {x : World}, x.Unstopped s → x.OneStop s := by
      intro x hx id id' stage stage' hid
      obtain ⟨program, hp, hne⟩ := hx id (lt_of_program? hid)
      rw [hid] at hp
      exact absurd (Option.some.inj hp).symm (hne stage)
    have hunstopped : u.Unstopped s := by
      intro id hlt
      obtain ⟨hlt', hended⟩ := hs.ended hlt
      obtain ⟨next, hnext, hne⟩ := hw id hlt'
      cases hp : u.program? id with
      | none =>
        rw [hended hp] at hnext
        cases hnext
      | some program =>
        refine ⟨program, rfl, ?_⟩
        rintro stage rfl
        rcases hs.turn_or_program id with hturn | hsame
        · obtain ⟨_, rfl⟩ := ((closes_turn hp trivial hturn).stop_iff hp hnext).mpr ⟨_, rfl⟩
          exact hne _ rfl
        · rw [hsame _ hp] at hnext
          cases hnext
          exact hne _ rfl
    obtain ⟨jobs, hcourse⟩ := ih (fun hshut => hopen (hshut.step hs)) hunstopped
    exact ⟨_, hcourse.tail ⟨hs, fun _ hshut => absurd hshut hopen⟩ (hstop hw)⟩

/-- The service with one endpoint, its gate open, and the request of a call in the inbox. -/
def stocked : World :=
  let world : World := { gated with gates := [([], { permits := 1 })] }
  let world := (world.withBus (world.bus.ask { subject := "echo" })).spawn
    (.exchange world.bus.calls.length none false none fun result => pure (.replied result))
  (world.turn 2).get (by decide)

/-- There is a run to the request. -/
theorem steps_stocked : Steps {} stocked := by
  have h := steps_gated.tail (.aside [([], { permits := 1 })] gated.stores gated.clientCount gated.log .cancelled)
  have h := h.tail (.ask { subject := "echo" } rfl none none
    (fun result => pure (.replied result)) none)
  exact h.tail (.turn 2 (Option.some_get (by decide)).symm)

/-- A call that stops the service has waited for the loop and is about to close the pool. -/
def relieved : World :=
  ((stocked.spawn (.stop 0 .signalling)).turns [3, 1, 1, 1, 1, 1, 0, 0, 0, 0, 1, 3, 3]).get (by decide)

/-- The call has closed the pool. -/
def shuttered : World := (relieved.turn 3).get (by decide)

/-- The call is about to return. -/
def drained : World := (shuttered.turns [0, 3]).get (by decide)

/-- The call has returned. -/
def finished : World := (drained.turn 3).get (by decide)

/-- Nobody has stopped the service, and the pool is open. -/
theorem unstopped_stocked : stocked.Unstopped 0 ∧ ¬ stocked.PoolShut 0 := by
  refine ⟨fun id hlt => ?_, ?_⟩
  · have hlength : stocked.tasks.length = 3 := rfl
    have hcases : id = 0 ∨ id = 1 ∨ id = 2 := by omega
    rcases hcases with rfl | rfl | rfl
    · exact ⟨_, rfl, fun stage h => by cases h⟩
    · exact ⟨_, rfl, fun stage h => by cases h⟩
    · exact ⟨_, rfl, fun stage h => by cases h⟩
  · rintro ⟨p, hp, hshut⟩
    cases hp
    cases hshut

/-- The call that stops the service comes to its end in a course. -/
theorem exists_course_drained : ∃ jobs, Course 0 0 stocked drained jobs := by
  obtain ⟨hunstopped, hopen⟩ := unstopped_stocked
  have hstarted : OneStop 0 (stocked.spawn (.stop 0 .signalling)) := by
    have hlast : ∀ {id : Nat} {stage : Stopping},
        (stocked.spawn (.stop 0 .signalling)).program? id = some (.stop 0 stage) →
          id = stocked.tasks.length := by
      intro id stage h
      rw [program?_spawn] at h
      split at h
      · assumption
      · obtain ⟨program, hp, hne⟩ := hunstopped id (lt_of_program? h)
        rw [h] at hp
        exact absurd (Option.some.inj hp).symm (hne stage)
    intro id id' stage stage' h h'
    rw [hlast h, hlast h']
  have hstart : Course 0 0 stocked (stocked.spawn (.stop 0 .signalling)) _ :=
    Course.refl.tail ⟨.start (.stop 0 .signalling) none rfl, fun hnot hshut => absurd hshut hnot⟩
      hstarted
  have hrelieved : ¬ relieved.PoolShut 0 := by
    rintro ⟨p, hp, hshut⟩
    cases hp
    cases hshut
  obtain ⟨hone, jobs, hcourse⟩ := exists_course_of_turns [3, 1, 1, 1, 1, 1, 0, 0, 0, 0, 1, 3, 3]
    (Option.some_get (by decide)).symm hstarted (Or.inl hrelieved)
  have hclose : relieved.turn 3 = some shuttered := (Option.some_get (by decide)).symm
  have hclosed : OwnStep 0 0 relieved shuttered :=
    ⟨.turn 3 hclose, fun _ _ => ⟨3, ⟨rfl, rfl⟩, hclose⟩⟩
  have hshut : shuttered.PoolShut 0 := ⟨_, rfl, rfl⟩
  obtain ⟨-, jobs', hcourse'⟩ := exists_course_of_turns [0, 3]
    (Option.some_get (by decide)).symm (hone.turn hclose) (Or.inr hshut)
  exact ⟨_, ((hstart.trans hcourse).tail hclosed (hone.turn hclose)).trans hcourse'⟩

/-- The request that was in the inbox is handled once when the stop returns. -/
theorem stop_drains_stocked : ∃ before after c d, Course 0 0 {} stocked before ∧
    Course 0 0 stocked drained after ∧ drained.turn 3 = some finished ∧
      finished.program? 3 = none ∧ stocked.program? 1 = some (.deliver d) ∧
      (∃ r ∈ stocked.bus.buffer d.inbox, r.IsOf c ∧
        BegunOnce (before ++ after ++ drained.begun finished) c 0 (d.job r)) ∧
      (∀ x, ¬ finished.At c x) ∧ ¬ finished.AtWork 0 := by
  obtain ⟨hunstopped, hopen⟩ := unstopped_stocked
  obtain ⟨before, hbefore⟩ := exists_course_of_unstopped steps_stocked hopen hunstopped
  obtain ⟨after, hafter⟩ := exists_course_drained
  have hturn : drained.turn 3 = some finished := (Option.some_get (by decide)).symm
  obtain ⟨d, hd⟩ : ∃ d, stocked.program? 1 = some (.deliver d) := ⟨_, rfl⟩
  have hdrains := stop_drains hbefore hafter rfl rfl rfl hd (by cases hd; rfl) (by cases hd; rfl)
  obtain ⟨r, hr⟩ : ∃ r, r ∈ stocked.bus.buffer d.inbox := by
    cases hd
    exact ⟨_, List.mem_singleton_self _⟩
  obtain ⟨c, hc, -, -, hreturn⟩ := hdrains.1 r hr
  obtain ⟨honce, hgone, hidle⟩ := hreturn 3 _ finished rfl hturn rfl
  exact ⟨before, after, c, d, hbefore, hafter, hturn, rfl, hd, ⟨r, hr, hc, honce⟩, hgone, hidle⟩

end World

end ServiceBus.Bus
