import ServiceBus.Proofs.World.Services

/-! # Stops that overlap

A call that stops a service waits for the loops that it found in the service, and a call that shuts a
pool down for the executors that it found in the pool. A second call finds none. So it returns while
the first still waits, and if it stops a service it closes the pool while loops still submit to it.

* `World.OwnSteps`: runs in which nobody but those who stop a service closes its pool.
* `World.overlapping_stops`: what holds when any one of the calls returns, and which requests are
  turned away. -/

namespace ServiceBus.Bus

namespace World

variable {w w' : World} {id s P : Nat}

/-! ### What is left when a call returns -/

/-- The loops of a service whose loops were taken have ended if those have that calls wait for. -/
theorem Attended.loops_left {service : Service} (h : w.Attended)
    (hs : w.services[s]? = some service) (hnil : service.deliveries = []) :
    (∀ (t : Nat) d, w.program? t = some (.deliver d) → d.stop ≠ service.stop) ↔
      ∀ other t : Nat, w.AwaitsLoop other s t → w.hasEnded t = true := by
  constructor
  · intro hnone other t ht
    rw [hasEnded, Option.isNone_iff_eq_none, Option.eq_none_iff_forall_ne_some]
    intro q hq
    obtain ⟨d, rfl, hstop⟩ := (h.awaited other s t service hs ht).2 q hq
    exact hnone t d hq hstop
  · intro hended t d hd hstop
    obtain ⟨s', service', hs', hstop', hwhere⟩ := h.loops t d hd
    obtain rfl := h.stop_inj s' s service' service hs' hs (hstop'.symm.trans hstop)
    rw [hs] at hs'
    rw [← Option.some.inj hs', hnil] at hwhere
    rcases hwhere with ht | ⟨other, ht⟩
    · cases ht
    · have hend := hended other t ht
      rw [hasEnded, hd] at hend
      cases hend

/-- The executors of a pool whose executors were taken have exited if those have that calls wait for.
A submission that was admitted before the pool was closed counts until it hears of that. -/
theorem Attended.executors_left {p : WorkerPool Job} (h : w.Attended)
    (hp : w.pools[P]? = some p) (hu : p.unjoined = false) :
    (∀ i, i < p.capacity → p.hasExited i = true) ∧ p.inFlight = 0 ↔
      (∀ other i : Nat, w.AwaitsExecutor other P i → p.hasExited i = true) ∧ p.admitted = [] := by
  have hsound := h.pools P p hp
  constructor
  · rintro ⟨hexit, hflight⟩
    refine ⟨fun other i _ => ?_, List.eq_nil_of_length_eq_zero ?_⟩
    · rw [WorkerPool.hasExited_iff]
      intro hi
      exact WorkerPool.hasExited_iff.mp (hexit i (hsound.executor_lt i hi)) hi
    · have hcount := hsound.inFlight
      omega
  · rintro ⟨hexit, hadmitted⟩
    have hnone : ∀ i, i ∉ p.executors := by
      intro i hi
      rcases h.executors P p hp i hi with hu' | ⟨other, hother⟩
      · rw [hu] at hu'
        cases hu'
      · exact WorkerPool.hasExited_iff.mp (hexit other i hother) hi
    refine ⟨fun i _ => WorkerPool.hasExited_iff.mpr (hnone i), ?_⟩
    have hbusy : p.busy = [] := List.map_eq_nil_iff.mp
      (List.append_eq_nil_iff.mp (List.eq_nil_iff_forall_not_mem.mpr hnone)).2
    rw [hsound.inFlight, hadmitted, hbusy, (hsound.drained 0 hsound.capacity_pos (hnone 0)).2]
    rfl

/-- A call that stops a service returns after it took the loops of the service. -/
theorem Attended.deliveries_of_returned {stage : Stopping} {service : Service} (h : w.Attended)
    (hid : w.program? id = some (.stop s stage)) (hw : w.turn id = some w')
    (hend : w'.program? id = none) (hs : w'.services[s]? = some service) :
    service.deliveries = [] := by
  have htaken : ∀ {stage : Stopping}, w.program? id = some (.stop s stage) → stage ≠ .signalling →
      w'.services = w.services → service.deliveries = [] := by
    intro stage hid hne hservices
    obtain ⟨old, hold, hnil, -⟩ := h.signalled id s stage hid hne
    rw [hservices, hold] at hs
    rw [← Option.some.inj hs, hnil]
  cases closes_turn hid trivial hw with
  | signal hid' hs' hm =>
    rw [hm.next] at hend
    cases hend
  | wait hid' hm =>
    rw [hid] at hid'
    cases hid'
    exact htaken hid (by simp) hm.services
  | shut hcall hid' hp hs' hm hnext =>
    rw [hid] at hid'
    rcases hcall with rfl | ⟨s', service', -, -, rfl⟩
    · cases hid'
    · cases hid'
      exact htaken hid (by simp) hm.services

/-- A call that shuts a pool down returns after the executors of the pool were taken. -/
theorem Attended.unjoined_of_returned {stage : Shutdown} {p : WorkerPool Job} (h : w.Attended)
    (hid : w.ShutsDown id P stage) (hw : w.turn id = some w') (hend : w'.program? id = none)
    (hp : w'.pools[P]? = some p) : p.unjoined = false := by
  obtain ⟨program, hprogram, hstops⟩ : ∃ program, w.program? id = some program ∧ program.Stops := by
    rcases hid with hid | ⟨s, hid, -, -⟩
    · exact ⟨_, hid, trivial⟩
    · exact ⟨_, hid, trivial⟩
  cases closes_turn hprogram hstops hw with
  | signal hid' hs' hm =>
    rw [hm.next] at hend
    cases hend
  | wait hid' hm =>
    rcases hid with hid | ⟨s, hid, -, -⟩ <;> rw [hid'] at hid <;> cases hid
  | shut hcall hid' hp' hs hm hnext =>
    obtain ⟨rfl, rfl⟩ := (hcall.shutsDown_iff rfl hid').mp hid
    rw [hm.pools, List.getElem?_set_self (List.getElem?_eq_some_iff.mp hp').1] at hp
    rw [← Option.some.inj hp]
    exact h.unjoined_of_shut hcall hid' hp' hs

/-! ### Who closes the pool of a service -/

/-- Whether a pool is closed or given up, be it in part. -/
def PoolShut (w : World) (pool : PoolId) : Prop :=
  ∃ p, w.pools[pool]? = some p ∧ p.isShut = true

/-- Whether a call that stops a service is about to close a pool. -/
def AboutToClose (w : World) (id : TaskId) (s : ServiceId) (pool : PoolId) : Prop :=
  w.program? id = some (.stop s (.shutting .closing)) ∧
    (w.services[s]?).bind (·.pool?) = some pool

/-- A step in which nobody closes a pool, unless it is a call that stops service `s`. -/
def OwnStep (s : ServiceId) (pool : PoolId) (w w' : World) : Prop :=
  w.Step w' ∧ (¬ w.PoolShut pool → w'.PoolShut pool →
    ∃ id, w.AboutToClose id s pool ∧ w.turn id = some w')

/-- Some such steps, one after another. -/
def OwnSteps (s : ServiceId) (pool : PoolId) : World → World → Prop :=
  Relation.ReflTransGen (OwnStep s pool)

/-- Whether a call that stops a service closes the pool in a step although another call still waits for
a loop of the service. -/
def ClosesEarly (s : ServiceId) (pool : PoolId) (t : TaskId) (w w' : World) : Prop :=
  ∃ id other, w.AboutToClose id s pool ∧ w.turn id = some w' ∧ other ≠ id ∧ w.AwaitsLoop other s t

/-- Such steps are steps. -/
theorem OwnSteps.steps (h : OwnSteps s P w w') : Steps w w' := by
  induction h with
  | refl => exact .refl
  | tail _ hs ih => exact ih.tail hs.1

/-- What is closed stays closed. -/
theorem PoolShut.step (hw : w.PoolShut P) (hs : w.Step w') : w'.PoolShut P := by
  obtain ⟨p, hp, hshut⟩ := hw
  obtain ⟨p', hp', hstays⟩ := hs.hardens.pools P p hp
  exact ⟨p', hp', hstays.isShut hshut⟩

/-- What is closed stays closed in a run. -/
theorem PoolShut.steps (hw : w.PoolShut P) (hs : Steps w w') : w'.PoolShut P := by
  induction hs with
  | refl => exact hw
  | tail _ hs ih => exact ih.step hs

/-- A run after which the pool is open is one in which nobody closed it. -/
theorem ownSteps_of_open (h : Steps w w') (hopen : ¬ w'.PoolShut P) : OwnSteps s P w w' := by
  induction h with
  | refl => exact .refl
  | @tail v w' _ hs ih =>
    refine (ih fun hv => hopen ?_).tail ⟨hs, fun _ hw => absurd hw hopen⟩
    exact hv.step hs

/-- A run before which the pool is closed is one in which nobody closes it. -/
theorem ownSteps_of_shut (h : Steps w w') (hshut : w.PoolShut P) : OwnSteps s P w w' := by
  induction h with
  | refl => exact .refl
  | @tail v w' hv hs ih => exact ih.tail ⟨hs, fun hopen _ => absurd (hshut.steps hv) hopen⟩

/-- The call that is about to close a pool closes it in its turn. -/
theorem AboutToClose.turn (ha : w.AboutToClose id s P) (hw : w.turn id = some w') :
    ∃ p, w.pools[P]? = some p ∧ w'.pools[P]? = some p.close.join.1 := by
  have hat : w.ShutsDown id P .closing := shutsDown_iff.mpr (Or.inr ⟨s, ha⟩)
  cases closes_turn ha.1 trivial hw with
  | signal hid' hs' hm =>
    rw [ha.1] at hid'
    cases hid'
  | wait hid' hm =>
    rw [ha.1] at hid'
    cases hid'
  | @shut Q call stage next? p p' hcall hid' hp hs hm hnext =>
    obtain ⟨rfl, rfl⟩ := (hcall.shutsDown_iff rfl hid').mp hat
    refine ⟨p, hp, ?_⟩
    rw [hm.pools, List.getElem?_set_self (List.getElem?_eq_some_iff.mp hp).1]
    rcases WorkerPool.shutdown?_cases hs with ⟨-, rfl, -⟩ | ⟨hstage, -⟩ | ⟨i, rest, hstage, -⟩
    · rfl
    · cases hstage
    · cases hstage

/-- A pool that was closed by a call is closed in all its parts. -/
theorem isClosed_close (p : WorkerPool Job) (h : p.isShut = false) :
    p.close.announced = true ∧ p.close.admissionShut = true ∧ p.close.queueShut = true := by
  rcases WorkerPool.close_cases p with ⟨ha, -⟩ | ⟨-, hp⟩
  · rw [WorkerPool.isShut, ha, Bool.true_or, Bool.true_or] at h
    cases h
  · rw [hp]
    exact ⟨rfl, rfl, rfl⟩

/-- A pool that was closed is closed. -/
theorem isShut_close (p : WorkerPool Job) : p.close.isShut = true := by
  rcases WorkerPool.close_cases p with ⟨ha, hp⟩ | ⟨-, hp⟩
  · rw [hp, WorkerPool.isShut, ha, Bool.true_or, Bool.true_or]
  · rw [hp]
    rfl

/-- A pool that nobody else closes is open or closed in all its parts. -/
theorem OwnSteps.closed (h : OwnSteps s P {} w) {p : WorkerPool Job}
    (hp : w.pools[P]? = some p) (hshut : p.isShut = true) :
    p.announced = true ∧ p.admissionShut = true ∧ p.queueShut = true := by
  induction h generalizing p with
  | refl => cases hp
  | @tail v w hv hs ih =>
    by_cases hbefore : v.PoolShut P
    · obtain ⟨q, hq, hqshut⟩ := hbefore
      obtain ⟨hn, ha, hqueue⟩ := ih hq hqshut
      obtain ⟨p', hp', hstays⟩ := hs.1.hardens.pools P q hq
      rw [hp] at hp'
      rw [Option.some.inj hp']
      exact ⟨hstays.announced hn, hstays.admissionShut ha, hstays.queueShut hqueue⟩
    · obtain ⟨id, habout, hturn⟩ := hs.2 hbefore ⟨p, hp, hshut⟩
      obtain ⟨q, hq, hp'⟩ := habout.turn hturn
      rw [hp] at hp'
      rw [Option.some.inj hp']
      have hopen : q.isShut = false := by
        rw [← Bool.not_eq_true]
        exact fun hqshut => hbefore ⟨q, hq, hqshut⟩
      exact isClosed_close q hopen

/-- **Whoever closes the pool of a service too soon does it while another call waits for the loop.** -/
theorem OwnSteps.early (h : OwnSteps s P {} w) (hshut : w.PoolShut P) :
    ∃ service, w.services[s]? = some service ∧ w.scopes.isCancelled service.stop = true ∧
      ∀ (t : Nat) d, w.program? t = some (.deliver d) → d.stop = service.stop →
        ∃ u u', OwnSteps s P {} u ∧ u.ClosesEarly s P t u' ∧ OwnSteps s P u' w := by
  induction h with
  | refl =>
    obtain ⟨p, hp, -⟩ := hshut
    cases hp
  | @tail v w hv hs ih =>
    have hattended := Attended.of_steps (OwnSteps.steps hv)
    have hattended' := hattended.step hs.1
    by_cases hbefore : v.PoolShut P
    · obtain ⟨old, hold, hc, hearly⟩ := ih hbefore
      obtain ⟨service, hservice, hc', hloops⟩ := hs.1.stopped hattended hattended' hold hc
      refine ⟨service, hservice, hc', fun t d hd heq => ?_⟩
      obtain ⟨d', hd', heq'⟩ := hloops t d hd heq
      obtain ⟨u, u', hu, hclose, hafter⟩ := hearly t d' hd' heq'
      exact ⟨u, u', hu, hclose, hafter.tail hs⟩
    · obtain ⟨id, habout, hturn⟩ := hs.2 hbefore hshut
      obtain ⟨old, hold, hnil, hc⟩ := hattended.signalled id s _ habout.1 (by simp)
      obtain ⟨service, hservice, hc', hloops⟩ := hs.1.stopped hattended hattended' hold hc
      refine ⟨service, hservice, hc', fun t d hd heq => ?_⟩
      -- the loop is not in the service any more, so a call has it
      obtain ⟨d', hd', heq'⟩ := hloops t d hd heq
      obtain ⟨other, hother⟩ := hattended.awaited_of_nil hold hnil hd' heq'
      have hne : other ≠ id := by
        rintro rfl
        obtain ⟨loops, hq, -⟩ := hother
        rw [habout.1] at hq
        cases hq
      exact ⟨v, w, hv, ⟨id, other, habout, hturn, hne, hother⟩, .refl⟩

/-! ### Requests that are turned away -/

/-- A pool that is open or closed in all its parts hands a job back if and only if it is closed. -/
theorem handedBack_iff {p : WorkerPool Job} {sub : Submission} {placement : Placement}
    (hp : w.pools[P]? = some p)
    (hclosed : p.isShut = true →
      p.announced = true ∧ p.admissionShut = true ∧ p.queueShut = true)
    (h : w.turnSubmission P sub = some (w', placement)) :
    (∃ job, placement = .handedBack job) ↔ p.isShut = true := by
  have hshut : p.announced = true ∨ p.admissionShut = true ∨ p.queueShut = true →
      p.isShut = true := by
    intro hor
    rw [WorkerPool.isShut, Bool.or_eq_true, Bool.or_eq_true, or_assoc]
    exact hor
  obtain ⟨p₀, hp₀, hcase⟩ := turnSubmission_cases h
  rw [hp] at hp₀
  obtain rfl := Option.some.inj hp₀
  rcases hcase with ⟨job, rfl, -, rfl⟩ | ⟨t, p', v, rfl, ha, -, rfl⟩
  · rcases WorkerPool.submit_cases p job with ⟨hn, hs⟩ | ⟨hn, hs⟩
    · rw [hs]
      exact ⟨fun _ => hshut (Or.inl hn), fun _ => ⟨job, rfl⟩⟩
    · rw [hs]
      constructor
      · rintro ⟨_, hback⟩
        cases hback
      · intro h
        rw [(hclosed h).1] at hn
        cases hn
  · rcases WorkerPool.advance?_cases ha with ha | ha
    · obtain ⟨job, -, ⟨hs, -, rfl⟩ | ⟨hs, -, rfl, -⟩⟩ := WorkerPool.admit?_cases ha
      · exact ⟨fun _ => hshut (Or.inr (Or.inl hs)), fun _ => ⟨job, rfl⟩⟩
      · constructor
        · rintro ⟨_, hback⟩
          cases hback
        · intro h
          rw [(hclosed h).2.1] at hs
          cases hs
    · obtain ⟨job, -, ⟨hs, -, rfl⟩ | ⟨hs, -, rfl, -⟩⟩ := WorkerPool.enqueue?_cases ha
      · exact ⟨fun _ => hshut (Or.inr (Or.inr hs)), fun _ => ⟨job, rfl⟩⟩
      · constructor
        · rintro ⟨_, hback⟩
          cases hback
        · intro h
          rw [(hclosed h).2.2] at hs
          cases hs

/-- Whether a loop has got a request back from the pool and is about to answer that the pool is closed. -/
def TurnsAway (w : World) (t : TaskId) : Prop :=
  ∃ d run subject, w.program? t = some (.deliver d) ∧ d.handling? = some (.running run) ∧
    run.script = .reject subject

/-- A loop that submits a request turns it away if and only if the pool is closed. -/
theorem turnsAway_iff {sub : Submission} {d : Delivery}
    (hclosed : ∀ p, w.pools[P]? = some p → p.isShut = true →
      p.announced = true ∧ p.admissionShut = true ∧ p.queueShut = true)
    (hid : w.program? id = some (.deliver d)) (hd : d.handling? = some (.submitting P sub))
    (hw : w.turn id = some w') : w'.TurnsAway id ↔ w.PoolShut P := by
  rw [turn, hid, Option.bind_eq_bind, Option.bind_some] at hw
  obtain ⟨handling, v, progress, hh, hv, hcase⟩ | ⟨hh, -⟩ | ⟨hh, -⟩ := turnDeliver_cases hw
  · rw [hd] at hh
    obtain rfl := Option.some.inj hh
    obtain ⟨run, _, heq, -⟩ | ⟨pool, sub', placement, heq, hs, rfl⟩ := turnHandling_cases hv
    · cases heq
    · cases heq
      obtain ⟨p, hp, -⟩ := turnSubmission_cases hs
      have hiff : (∃ job, placement = .handedBack job) ↔ w.PoolShut P := by
        rw [handedBack_iff hp (hclosed p hp) hs]
        constructor
        · exact fun hshut => ⟨p, hp, hshut⟩
        · rintro ⟨q, hq, hshut⟩
          rw [hp] at hq
          rw [Option.some.inj hq, hshut]
      rw [← hiff]
      have hlt : id < v.tasks.length := by
        rw [(tends_turnSubmission hs).tasks]
        exact lt_of_program? hid
      -- a loop that goes on in another way runs nothing itself
      have hother : ∀ d', (∀ run, d'.handling? ≠ some (.running run)) →
          ¬ (v.setProgram id (.deliver d')).TurnsAway id := by
        rintro d' hne ⟨d'', run, subject, hd'', hrun, -⟩
        rw [program?_setProgram_self hlt] at hd''
        rw [← Program.deliver.inj (Option.some.inj hd'')] at hrun
        exact hne run hrun
      cases placement with
      | onward next =>
        rcases hcase with ⟨next', heq, rfl⟩ | ⟨heq, -⟩ | ⟨heq, -⟩ <;> cases heq
        exact iff_of_false (hother _ (by simp)) (by simp)
      | queued =>
        rcases hcase with ⟨next', heq, -⟩ | ⟨-, rfl⟩ | ⟨heq, -⟩
        · cases heq
        · exact iff_of_false (hother _ (by simp)) (by simp)
        · cases heq
      | handedBack job =>
        rcases hcase with ⟨next', heq, rfl⟩ | ⟨heq, -⟩ | ⟨heq, -⟩ <;> cases heq
        exact iff_of_true ⟨_, _, _, program?_setProgram_self hlt _, rfl, rfl⟩ ⟨job, rfl⟩
  · rw [hd] at hh
    cases hh
  · rw [hd] at hh
    cases hh

/-! ### Overlapping calls -/

/-- **What overlapping stops come to.** When a call that stops a service returns, all loops of the
service have ended if and only if those have that other calls still wait for. When a call that shuts a
pool down returns, for itself or to stop a service, all executors have exited and no job is in flight
if and only if those executors have that other calls still wait for, and no submission is still to
hear that the pool is closed. A loop turns a request away if and only if a call that stops its service
had closed the pool while another call was still waiting for the loop. -/
theorem overlapping_stops (hrun : Steps {} w) (hturn : w.turn id = some w') :
    (w'.program? id = none →
      (∀ (s : Nat) stage service, w.program? id = some (.stop s stage) →
        w'.services[s]? = some service →
        ((∀ (t : Nat) d, w'.program? t = some (.deliver d) → d.stop ≠ service.stop) ↔
          ∀ other t : Nat, w'.AwaitsLoop other s t → w'.hasEnded t = true)) ∧
      ∀ (P : Nat) stage p, w.ShutsDown id P stage → w'.pools[P]? = some p →
        ((∀ i, i < p.capacity → p.hasExited i = true) ∧ p.inFlight = 0 ↔
          (∀ other i : Nat, w'.AwaitsExecutor other P i → p.hasExited i = true) ∧
            p.admitted = [])) ∧
    ∀ (s P : Nat) d sub service, OwnSteps s P {} w → w.program? id = some (.deliver d) →
      w.services[s]? = some service → d.stop = service.stop →
      d.handling? = some (.submitting P sub) →
      (w'.TurnsAway id ↔
        ∃ u u', OwnSteps s P {} u ∧ u.ClosesEarly s P id u' ∧ OwnSteps s P u' w) := by
  have h := Attended.of_steps hrun
  have h' := h.step (.turn id hturn)
  refine ⟨fun hend => ⟨fun s stage service hid hs => ?_, fun P stage p hid hp => ?_⟩,
    fun s P d sub service hown hid hs hstop hd => ?_⟩
  · exact h'.loops_left hs (h.deliveries_of_returned hid hturn hend hs)
  · exact h'.executors_left hp (h.unjoined_of_returned hid hturn hend hp)
  · rw [turnsAway_iff (fun p hp => hown.closed hp) hid hd hturn]
    constructor
    · intro hshut
      obtain ⟨service', hs', -, hearly⟩ := hown.early hshut
      rw [hs] at hs'
      obtain rfl := Option.some.inj hs'
      exact hearly id d hid hstop
    · rintro ⟨u, u', -, ⟨closer, -, habout, hclose, -⟩, hafter⟩
      obtain ⟨q, -, hq⟩ := habout.turn hclose
      exact PoolShut.steps ⟨_, hq, isShut_close q⟩ hafter.steps

/-! ### Two calls that stop a service -/

/-- A pool of one executor and a service with one endpoint, whose handler waits at a gate. -/
def gated : World :=
  let world : World := { ({} : World) with scopes := ScopeTree.fresh {} }.openPool 1
  let world := (world.openService { name := "echo", version := "1" }).toOption.getD {}
  let world := world.pairService 0 0
  (world.openEndpoint 0 { info := .ofConfig { name := "echo", version := "1" }, stop := 1 }
    { scope := 0 } { name := "Echo", subject := "echo" }
    { pool? := some 0, script := fun _ => .pass [] .stop }).toOption.getD {}

/-- There is a run to the service. -/
theorem steps_gated : Steps {} gated := by
  have h : Steps {} { ({} : World) with scopes := ScopeTree.fresh {} } :=
    .tail .refl (.scopes _ (by decide) fun s hs => by cases hs)
  have h := h.tail (.openPool 1)
  have h := h.tail (.openService { name := "echo", version := "1" } rfl)
  have h := h.tail (.pair 0 0 rfl rfl)
  exact h.tail (.openEndpoint 0 { scope := 0 } { name := "Echo", subject := "echo" }
    { pool? := some 0, script := fun _ => .pass [] .stop } rfl rfl)

/-- The service with two calls on it and two calls that stop it. The executor has the request of one
call, and that of the other is in the inbox. -/
def crowded : World :=
  let call : Call := { subject := "echo" }
  let ask (w : World) : World := (w.withBus (w.bus.ask call)).spawn
    (.exchange w.bus.calls.length none false none fun result => pure (.replied result))
  let served := ((ask (ask gated)).turns [2, 3, 1, 1, 1, 1, 0]).get (by decide)
  (served.spawn (.stop 0 .signalling)).spawn (.stop 0 .signalling)

/-- There is a run to the two calls. -/
theorem steps_crowded : Steps {} crowded := by
  have h := steps_gated.tail (.ask { subject := "echo" } rfl none none
    (fun result => pure (.replied result)) none)
  have h := h.tail (.ask { subject := "echo" } rfl none none
    (fun result => pure (.replied result)) none)
  have h := h.trans (steps_turns [2, 3, 1, 1, 1, 1, 0] (Option.some_get (by decide)).symm)
  have h := h.tail (.start (.stop 0 .signalling) none rfl)
  exact h.tail (.start (.stop 0 .signalling) none rfl)

/-- The first call waits for the loop, the second is about to close the pool. -/
def contested : World := (crowded.turns [4, 5, 5]).get (by decide)

/-- The second call has closed the pool. -/
def preempted : World := (contested.turn 5).get (by decide)

/-- The loop submits the request that was in the inbox. -/
def belated : World := (preempted.turns [1, 1]).get (by decide)

/-- The loop has its request back. -/
def refused : World := (belated.turn 1).get (by decide)

/-- The loop has ended, and the first call has nobody to wait for. -/
def vacated : World := (refused.turns [1, 1, 1, 1, 4, 4, 4]).get (by decide)

/-- The first call has returned. -/
def returned : World := (vacated.turn 4).get (by decide)

/-- The run goes on from one of these worlds to the next. -/
theorem steps_contested : Steps crowded contested ∧ contested.turn 5 = some preempted ∧
    Steps preempted belated ∧ belated.turn 1 = some refused ∧ Steps refused vacated ∧
    vacated.turn 4 = some returned :=
  ⟨steps_turns [4, 5, 5] (Option.some_get (by decide)).symm,
    (Option.some_get (by decide)).symm,
    steps_turns [1, 1] (Option.some_get (by decide)).symm,
    (Option.some_get (by decide)).symm,
    steps_turns [1, 1, 1, 1, 4, 4, 4] (Option.some_get (by decide)).symm,
    (Option.some_get (by decide)).symm⟩

/-- In this run nobody else closes the pool. -/
theorem ownSteps_belated :
    OwnSteps 0 0 {} contested ∧ contested.ClosesEarly 0 0 1 preempted ∧
      OwnSteps 0 0 preempted belated := by
  obtain ⟨hcontested, hturn, hbelated, -⟩ := steps_contested
  refine ⟨ownSteps_of_open (steps_crowded.trans hcontested) ?_,
    ⟨5, 4, ⟨rfl, rfl⟩, hturn, by decide, [1], rfl, List.mem_singleton_self 1⟩,
    ownSteps_of_shut hbelated ⟨_, rfl, rfl⟩⟩
  rintro ⟨p, hp, hshut⟩
  cases hp
  cases hshut

/-- With two calls a request is turned away, and the first call to return finds all loops ended but an
executor at work. -/
theorem overlapping_stops_of_two_calls :
    refused.TurnsAway 1 ∧ returned.program? 4 = none ∧
      (∀ (t : Nat) d, returned.program? t = some (.deliver d) → d.stop ≠ 1) ∧
      ∀ p, returned.pools[0]? = some p →
        ¬ ((∀ i, i < p.capacity → p.hasExited i = true) ∧ p.inFlight = 0) := by
  obtain ⟨-, hturn, -, hrefused, hvacated, hreturned⟩ := steps_contested
  obtain ⟨hcontested, hclose, hbelated⟩ := ownSteps_belated
  have hown : OwnSteps 0 0 {} belated :=
    (hcontested.tail ⟨.turn 5 hturn, fun _ _ => ⟨5, ⟨rfl, rfl⟩, hturn⟩⟩).trans hbelated
  have haway := (overlapping_stops hown.steps hrefused).2 0 0 _ _ _ hown rfl rfl rfl rfl
  have hleft := (overlapping_stops ((hown.steps.tail (.turn 1 hrefused)).trans hvacated)
    hreturned).1 rfl
  refine ⟨haway.mpr ⟨contested, preempted, hcontested, hclose, hbelated⟩, rfl, ?_, ?_⟩
  · refine (hleft.1 0 _ _ rfl rfl).mpr ?_
    rintro other t ⟨loops, hq, ht⟩
    have hlt : other < 6 := lt_of_program? hq
    have hcases : other = 0 ∨ other = 1 ∨ other = 2 ∨ other = 3 ∨ other = 4 ∨ other = 5 := by omega
    rcases hcases with rfl | rfl | rfl | rfl | rfl | rfl <;> cases hq
  · intro p hp hdone
    have hexit := ((hleft.2 0 _ p (.stop 0 rfl rfl rfl) hp).mp hdone).1 5 0
      ⟨[0], .stop 0 rfl rfl rfl, List.mem_singleton_self 0⟩
    have hbusy : (returned.pools[0]?).any (·.hasExited 0) = false := rfl
    rw [hp, Option.any_some, hexit] at hbusy
    cases hbusy

/-- **Overlapping stops do not behave like one stop.** Of two calls that stop a service at once one
returns while an executor is at work, and a request that was in the inbox before is turned away. -/
theorem not_as_one_stop :
    Steps {} crowded ∧ crowded.program? 4 = some (.stop 0 .signalling) ∧
      crowded.program? 5 = some (.stop 0 .signalling) ∧
      (crowded.bus.inboxes[0]?).map (·.buffer.length) = some 1 ∧
      Steps crowded refused ∧ refused.TurnsAway 1 ∧
      Steps refused vacated ∧ vacated.program? 4 = some (.stop 0 (.shutting (.joining []))) ∧
      vacated.turn 4 = some returned ∧ returned.program? 4 = none ∧
      ∀ p, returned.pools[0]? = some p → p.hasExited 0 = false ∧ p.inFlight = 1 := by
  obtain ⟨hcontested, hturn, hbelated, hrefused, hvacated, hreturned⟩ := steps_contested
  have hsteps : Steps crowded refused :=
    ((hcontested.tail (.turn 5 hturn)).trans hbelated).tail (.turn 1 hrefused)
  refine ⟨steps_crowded, rfl, rfl, rfl, hsteps, ⟨_, _, _, rfl, rfl, rfl⟩, hvacated, rfl, hreturned,
    rfl, fun p hp => ?_⟩
  have hstate : (returned.pools[0]?).map (fun p => (p.hasExited 0, p.inFlight)) =
      some (false, 1) := rfl
  rw [hp, Option.map_some, Option.some.injEq, Prod.mk.injEq] at hstate
  exact hstate

end World

end ServiceBus.Bus
