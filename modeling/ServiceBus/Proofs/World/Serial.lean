import ServiceBus.Proofs.World.Order
import ServiceBus.Proofs.World.Overlap

/-! # Requests are served in their order

The requests of an endpoint are taken by the executors of its pool in the order in which they came in. A
pool of one executor handles one request at a time, so they are also done in that order.

* `Script.Refuses`, `World.Refusing`: what a loop runs whose handler is bound to a pool is the refusal of
  a request that the pool did not take.
* `Crewed.one`: a pool of one executor has one task.
* `World.served_in_order`: the order in which requests are taken and done. -/

namespace ServiceBus.Bus

/-! ### Refusals -/

/-- **What is left of a refusal**: the script that answers a request that a closed pool did not take. -/
inductive Script.Refuses : Script → Prop
  | warns (subject : String) : Refuses (.reject subject)
  | answers (subject : String) : Refuses (.signalError [] subject .poolClosed .stop)
  | unsent (subject : String) (e : TransportError) :
      Refuses (.report (HandlerError.poolClosed.unsent [] subject e) .stop)
  | done : Refuses .stop

namespace World

variable {w w' v : World} {id t j k P : Nat} {d : Delivery} {p : WorkerPool Job} {g : Traffic}

/-- A refusal goes on as a refusal. -/
theorem refuses_going {run next : Run} (h : run.script.Refuses)
    (hturn : w.turnRun id run = some (v, .going next)) : next.script.Refuses := by
  obtain ⟨context, request, script, wake?⟩ := run
  cases h with
  | warns subject =>
    cases hturn
    exact .answers subject
  | answers subject =>
    cases hturn
    dsimp only
    -- the answer is sent or not
    split
    · exact .done
    · exact .unsent subject _
  | unsent subject e =>
    cases hturn
    exact .done
  | done => cases hturn

/-- **What loops run themselves** whose handlers are bound to a pool are refusals. -/
def Refusing (w : World) : Prop :=
  ∀ (t : Nat) d run, w.program? t = some (.deliver d) → d.handler.pool? ≠ none →
    d.handling? = some (.running run) → run.script.Refuses

/-- Every step keeps it so. -/
theorem Refusing.step (h : w.Refusing) (hs : w.Step w') : w'.Refusing := by
  intro t d' run hd' hpool hrun
  rcases hs.arrivals hd' with hturn | hold | harrival
  · obtain ⟨program, hp, hrole⟩ := Option.map_eq_some_iff.mp (role_of_turn hturn (role?_eq hd'))
    obtain ⟨d, rfl, -, -, hhandler⟩ := Program.deliver_of_role hrole
    rw [← hhandler] at hpool
    have hhand' : w'.hand? t = some (.running run) := (hand?_eq hd').trans hrun
    cases comesTo_of_turn hturn hhand' with
    | begins _ _ program _ _ unbound =>
      cases hp.symm.trans program
      exact absurd unbound hpool
    | refuses _ _ _ job => exact .warns _
    | goesOn _ old _ hand turn =>
      exact refuses_going (h t d old hp hpool ((hand?_eq hp).symm.trans hand)) turn
    | picks _ _ _ _ _ program => cases hp.symm.trans program
  · exact h t d' run hold hpool hrun
  · cases harrival with
    | begins hb => exact absurd hb fun hb => hb
    | loop _ _ hand => cases hand.symm.trans hrun

/-- **In every run loops bound to a pool run refusals only.** -/
theorem Refusing.of_steps (h : Steps {} w) : w.Refusing := by
  induction h with
  | refl =>
    intro t d run hd
    rw [program?_empty] at hd
    cases hd
  | tail _ hs ih => exact ih.step hs

/-! ### One executor -/

/-- **A pool of one executor has one task** that runs its jobs. -/
theorem Crewed.one {i i' : Nat} (h : w.Crewed) (hs : p.Sound) (hp : w.pools[P]? = some p)
    (hcapacity : p.capacity = 1) (hj : w.role? j = some (.execute P i))
    (hk : w.role? k = some (.execute P i')) : j = k := by
  -- the number of the executor is less than the capacity
  have hzero : ∀ {j i : Nat}, w.role? j = some (.execute P i) → i = 0 := by
    intro j i hj
    obtain ⟨q, hq, hi⟩ := h.executor j P i hj
    cases hp.symm.trans hq
    have hlt := hs.executor_lt i hi
    omega
  rw [hzero hj] at hj
  rw [hzero hk] at hk
  exact h.unique j k P 0 hj hk

/-! ### The order of requests -/

/-- **The requests of an endpoint are served in their order.** Take a loop whose handler is bound to a
pool, at any moment of a run, and the run from there on. It may stop the service and close the pool, and
other loops and tasks may submit to it.

* No request comes into the inbox twice. Those that executors take out of the queue are taken in the order
  in which they came in.
* If the pool has one executor, at most one task runs a job of it, and what a loop runs itself whose
  handler is bound to the pool is the refusal of a request after the pool was closed. The jobs are done in
  the order in which they were taken, one at a time, so the requests that came in are done in their
  order. -/
theorem served_in_order (hbefore : Steps {} v) (hp : v.pools[P]? = some p)
    (hloop : v.program? t = some (.deliver d)) (hbound : d.handler.pool? = some P)
    (h : Carries d.inbox P v w g) :
    g.came.Nodup ∧ ((g.taken.map (·.2.request)).filter (· ∈ g.came)).Sublist g.came ∧
    (p.capacity = 1 →
      (∀ (j k i i' : Nat) run run', w.program? j = some (.execute P i (some run)) →
        w.program? k = some (.execute P i' (some run')) → j = k) ∧
      (∀ (t : Nat) d run, w.program? t = some (.deliver d) → d.handler.pool? = some P →
        d.handling? = some (.running run) → w.PoolShut P ∧ run.script.Refuses) ∧
      g.taken = g.finished ++ g.executing ∧ g.executing.length ≤ 1 ∧
      ((g.finished.map (·.2.request)).filter (· ∈ g.came)).Sublist g.came) := by
  have hrun := hbefore.trans h.steps
  have horder := h.inOrder hbefore hp hloop hbound
  have htaken : ((g.taken.map (·.2.request)).filter (· ∈ g.came)).Sublist g.came := by
    obtain ⟨hand, -, hsub⟩ := horder.order
    exact ((List.sublist_append_left _ _).filter _).trans hsub
  refine ⟨horder.nodup, htaken, fun hcapacity => ?_⟩
  obtain ⟨q, hq, hsame⟩ := h.pool hbefore hp
  have hsingle := h.single hbefore hp hcapacity q hq
  refine ⟨fun j k i i' run run' hj hk => ?_, fun t d run hd hpool hhand => ⟨?_, ?_⟩,
    hsingle.taken_eq, hsingle.length, ?_⟩
  · exact (Crewed.of_steps hrun).one ((Attended.of_steps hrun).pools P q hq) hq
      (hsame.trans hcapacity) (role?_eq hj) (role?_eq hk)
  · rcases (Manned.of_steps hrun).bound t d _ hd hhand with hnone | ⟨Q, q', hQ, hq', hshut⟩
    · rw [hpool] at hnone
      cases hnone
    · cases hpool.symm.trans hQ
      exact ⟨q', hq', hshut⟩
  · exact Refusing.of_steps hrun t d run hd (by simp [hpool]) hhand
  · -- what is finished is the first part of what was taken
    refine List.Sublist.trans ?_ htaken
    rw [hsingle.taken_eq, List.map_append]
    exact (List.sublist_append_left _ _).filter _

/-! ### Two requests and a stop -/

/-- What passes while tasks have their turns one after another. -/
def passing (i : InboxId) (P : PoolId) (start : World × Traffic) (ids : List TaskId) :
    Option (World × Traffic) :=
  ids.foldlM (fun (w, g) id => (w.turn id).map fun w' => (w', g.after i P w w')) start

/-- Turns are a run. -/
theorem Carries.passing {i : Nat} {u : World} {last : World × Traffic} (ids : List TaskId)
    (h : Carries i P v u g) (hids : World.passing i P (u, g) ids = some last) :
    Carries i P v last.1 last.2 := by
  induction ids generalizing u g with
  | nil =>
    cases hids
    exact h
  | cons id ids ih =>
    obtain ⟨⟨u', g₁⟩, hfirst, hrest⟩ := Option.bind_eq_some_iff.mp hids
    obtain ⟨_, hturn, heq⟩ := Option.map_eq_some_iff.mp hfirst
    cases heq
    exact ih (h.step (.turn id hturn)) hrest

/-- The service with one endpoint, and its gate open for two requests. -/
def opened : World := { gated with gates := [([], { permits := 2 })] }

/-- There is a run to the service. -/
theorem steps_opened : Steps {} opened :=
  steps_gated.tail (.aside [([], { permits := 2 })] gated.stores gated.clientCount gated.log .cancelled)

/-- One more call on the service. -/
def called (w : World) : World :=
  (w.withBus (w.bus.ask { subject := "echo" })).spawn
    (.exchange w.bus.calls.length none false none fun result => pure (.replied result))

/-- A call begins. -/
theorem step_called (w : World) : w.Step w.called :=
  .ask { subject := "echo" } rfl none none (fun result => pure (.replied result)) none

/-- Two calls have begun. -/
def calling : World × Traffic :=
  (opened.called.called, ({ came := opened.bus.buffer 0 } : Traffic)
    |>.after 0 0 opened opened.called |>.after 0 0 opened.called opened.called.called)

/-- They have stored their requests. -/
def buffered : World × Traffic := (passing 0 0 calling [2, 3]).get (by decide)

/-- Somebody stops the service. -/
def halting : World × Traffic :=
  (buffered.1.spawn (.stop 0 .signalling),
    buffered.2.after 0 0 buffered.1 (buffered.1.spawn (.stop 0 .signalling)))

/-- The loop and the executor have done what there was to do. -/
def served : World × Traffic :=
  (passing 0 0 halting [4, 1, 1, 1, 1, 1, 1, 1, 0, 0, 0, 0, 1, 1, 1, 0, 0, 0, 0]).get (by decide)

/-- So requests pass in this run. -/
theorem carries_served : Carries 0 0 opened served.1 served.2 := by
  have hcalling : Carries 0 0 opened calling.1 calling.2 :=
    (Carries.start.step (step_called _)).step (step_called _)
  have hbuffered : passing 0 0 (calling.1, calling.2) [2, 3] = some buffered :=
    (Option.some_get (by decide)).symm
  have hhalting : Carries 0 0 opened halting.1 halting.2 :=
    (hcalling.passing _ hbuffered).step (.start (.stop 0 .signalling) none rfl)
  have hserved : passing 0 0 (halting.1, halting.2)
      [4, 1, 1, 1, 1, 1, 1, 1, 0, 0, 0, 0, 1, 1, 1, 0, 0, 0, 0] = some served :=
    (Option.some_get (by decide)).symm
  exact hhalting.passing _ hserved

/-- Two requests that are in the inbox when the service is stopped are done in their order. -/
theorem served_in_order_of_two : Carries 0 0 opened served.1 served.2 ∧
    served.1.program? 1 = none ∧ served.2.came.length = 2 ∧ served.2.finished.length = 2 ∧
      ((served.2.finished.map (·.2.request)).filter (· ∈ served.2.came)).Sublist served.2.came := by
  obtain ⟨d, hd⟩ : ∃ d, opened.program? 1 = some (.deliver d) := ⟨_, rfl⟩
  have hcarries : Carries d.inbox 0 opened served.1 served.2 := by
    cases hd
    exact carries_served
  obtain ⟨-, -, hone⟩ := served_in_order (p := .new 1) steps_opened rfl hd (by cases hd; rfl) hcarries
  exact ⟨carries_served, rfl, rfl, rfl, (hone rfl).2.2.2.2⟩

end World

end ServiceBus.Bus
