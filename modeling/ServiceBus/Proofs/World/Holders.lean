import ServiceBus.Proofs.World.Course

/-! # Who holds a request, and who replies

Out of an inbox a request goes through a pool, or at once, to somebody who holds it and may reply to
it: a task that runs a script on it, or the desk, which has it under a name.

* `World.request?`: the request that somebody holds.
* `World.Moves`: a step and who takes it. Every step is taken by somebody (`Step.mover`).
* `World.attempt?`: the reply that is attempted in a step.
* `World.Hands`: what a step does to those who hold requests. Nobody gets the request of a call but
  from the one place where it was, and nobody replies but who holds the request
  (`Moves.hands`). -/

namespace ServiceBus.Bus

/-- Who may hold a request and reply to it. -/
inductive Holder where
  /-- A task that runs a script on it. -/
  | task (id : TaskId)
  /-- Whoever has it under a name. -/
  | name (name : String)
deriving DecidableEq

/-- The request that a script is run on. -/
def Handling.request? : Handling → Option Request
  | .submitting .. => none
  | .running run => some run.request

/-- Who takes a step. -/
inductive Mover where
  | task (id : TaskId)
  /-- Somebody who replies to the request of a name. -/
  | replier (name : String) (headers : Headers) (payload : Bytes)
  | outside

/-- A reply that somebody attempts to a request that he holds. -/
structure Attempt where
  holder : Holder
  request : Request
  headers : Headers
  payload : Bytes

/-- What is to be sent. -/
def Attempt.message (a : Attempt) : Message := a.request.reply a.headers a.payload

namespace World

variable {w w' v : World} {id c : Nat} {m : Mover} {r : Request}

/-! ### Holders -/

/-- The request that somebody holds. -/
def request? (w : World) : Holder → Option Request
  | .task id => (w.hand? id).bind (·.request?)
  | .name name => w.desk.requests[name]?

/-- The request that a task runs a script on. -/
theorem request?_task : w.request? (.task id) = some r ↔
    ∃ run : Run, w.hand? id = some (.running run) ∧ run.request = r := by
  rw [request?, Option.bind_eq_some_iff]
  constructor
  · rintro ⟨handling, hand, h⟩
    cases handling with
    | submitting => cases h
    | running run => exact ⟨run, hand, Option.some.inj h⟩
  · rintro ⟨run, hand, rfl⟩
    exact ⟨_, hand, rfl⟩

/-- A task that has nothing in hand holds no request. -/
theorem request?_of_hand (h : ∀ run, w.hand? id ≠ some (.running run)) :
    w.request? (.task id) = none := by
  cases hr : w.request? (.task id) with
  | none => rfl
  | some r =>
    obtain ⟨run, hand, -⟩ := request?_task.mp hr
    exact absurd hand (h run)

/-- The reply that is attempted in a step, if any. -/
def attempt? (w : World) : Mover → Option Attempt
  | .task id =>
    match w.hand? id with
    | some (.running { request, script := .reply headers payload _, .. }) =>
      some ⟨.task id, request, headers, payload⟩
    | _ => none
  | .replier name headers payload =>
    (w.desk.requests[name]?).map fun request => ⟨.name name, request, headers, payload⟩
  | .outside => none

/-- A task replies if its script does so next. -/
theorem attempt?_reply {run : Run} {headers : Headers} {payload : Bytes}
    {next : Except TransportError Unit → Script} (hand : w.hand? id = some (.running run))
    (h : run.script = .reply headers payload next) :
    w.attempt? (.task id) = some ⟨.task id, run.request, headers, payload⟩ := by
  obtain ⟨context, request, script, wake?⟩ := run
  obtain rfl : script = _ := h
  rw [attempt?, hand]

/-- A task that runs no script which replies next attempts no reply. -/
theorem attempt?_eq_none (h : ∀ run headers payload next, w.hand? id = some (.running run) →
    run.script ≠ .reply headers payload next) : w.attempt? (.task id) = none := by
  rw [attempt?]
  split
  · rename_i hand
    exact absurd rfl (h _ _ _ _ hand)
  · rfl

/-- Who attempts a reply holds the request. -/
theorem request?_of_attempt {a : Attempt} (h : w.attempt? m = some a) :
    w.request? a.holder = some a.request := by
  cases m with
  | task id =>
    rw [attempt?] at h
    split at h
    · rename_i hand
      cases h
      exact request?_task.mpr ⟨_, hand, rfl⟩
    · cases h
  | replier name headers payload =>
    obtain ⟨request, hr, rfl⟩ := Option.map_eq_some_iff.mp h
    exact hr
  | outside => cases h

/-! ### Steps and who takes them -/

/-- **A step, and who takes it.** -/
inductive Moves (w : World) : Mover → World → Prop
  | turn (id : TaskId) {w' : World} (h : w.turn id = some w') : Moves w (.task id) w'
  | respond (name : String) (request : Request) (headers : Headers) (payload : Bytes)
      (h : w.desk.requests[name]? = some request) :
      Moves w (.replier name headers payload) { (w.reply request headers payload).1 with
        desk.requests := w.desk.requests.insert name (w.reply request headers payload).2.1 }
  /-- No task has its turn, and nobody gets a request under a name. -/
  | outside {w' : World} (step : w.Step w') (still : ∀ id, w.turn id ≠ some w')
      (requests : ∀ (name : String) (r : Request), w'.desk.requests[name]? = some r →
        w.desk.requests[name]? = some r) : Moves w .outside w'

/-- What somebody takes is a step. -/
theorem Moves.step (h : w.Moves m w') : w.Step w' := by
  cases h with
  | turn id h => exact .turn id h
  | respond name request headers payload h => exact .respond name request headers payload h
  | outside step => exact step

/-- A step in which no task has its turn and nobody replies: nobody gets a request under a name, and on
the bus a call begins or requests are given up. -/
structure Unanswering (w w' : World) : Prop where
  requests : ∀ (name : String) (r : Request), w'.desk.requests[name]? = some r →
    w.desk.requests[name]? = some r
  bus : (∃ call : Call, call.stage = .asking ∧ w'.bus = w.bus.ask call) ∨
    ∃ lost gone, w.bus.Releases lost gone w'.bus

/-- A step that leaves the bus and the named requests alone. -/
theorem Unanswering.same (hrequests : w'.desk.requests = w.desk.requests) (hbus : w'.bus = w.bus) :
    w.Unanswering w' :=
  ⟨fun _ _ hr => hrequests ▸ hr, Or.inr ⟨_, _, by rw [hbus]; exact .refl w.bus⟩⟩

/-- **A step is a turn, the reply to a named request, or neither.** -/
theorem Step.cases_reply (hs : w.Step w') : (∃ id, w.turn id = some w') ∨
    (∃ (name : String) (request : Request) (headers : Headers) (payload : Bytes),
      w.desk.requests[name]? = some request ∧ w' = { (w.reply request headers payload).1 with
        desk.requests := w.desk.requests.insert name (w.reply request headers payload).2.1 }) ∨
    w.Unanswering w' := by
  cases hs with
  | turn id h => exact Or.inl ⟨id, h⟩
  | respond name request headers payload h =>
    exact Or.inr (Or.inl ⟨name, request, headers, payload, h, rfl⟩)
  | ask call asking =>
    exact Or.inr (Or.inr ⟨fun _ _ hr => hr, Or.inl ⟨call, asking, rfl⟩⟩)
  | dropRequest name request =>
    exact Or.inr (Or.inr ⟨fun _ _ hr => (names_erase.mp hr).2,
      Or.inr ⟨_, _, w.bus.releases_drop request⟩⟩)
  | names desk _ requests => exact Or.inr (Or.inr (.same requests rfl))
  | @subscribe name subject bus hbus =>
    have hreleases := MemoryBus.releases_subscribe hbus
    have hframe := nameSubscription_frame (w.withBus bus) name w.bus.inboxes.length
    refine Or.inr (Or.inr ⟨fun _ _ hr => hframe.2 ▸ hr, Or.inr ?_⟩)
    obtain ⟨bus', hw, rfl | ⟨old, -, rfl⟩⟩ :=
      (w.withBus bus).nameSubscription_cases name w.bus.inboxes.length <;> rw [hw]
    · exact ⟨_, _, hreleases⟩
    · exact ⟨_, _, hreleases.trans (bus.releases_discardInbox old)⟩
  | closeSubscription name inbox =>
    exact Or.inr (Or.inr ⟨fun _ _ hr => hr, Or.inr ⟨_, _, w.bus.releases_closeInbox inbox⟩⟩)
  | dropSubscription name inbox =>
    exact Or.inr (Or.inr ⟨fun _ _ hr => hr, Or.inr ⟨_, _, w.bus.releases_discardInbox inbox⟩⟩)
  | closeBus => exact Or.inr (Or.inr ⟨fun _ _ hr => hr, Or.inr ⟨_, _, w.bus.releases_close⟩⟩)
  | openPool requested =>
    obtain ⟨log, hw⟩ := w.openPool_eq requested
    exact Or.inr (Or.inr (.same (by rw [hw]) (by rw [hw])))
  | reapPool pool =>
    obtain hw | ⟨p, -, hw⟩ := w.reapPool_eq pool <;>
    · rw [hw]
      exact Or.inr (Or.inr (.same rfl rfl))
  | openService config hw =>
    obtain ⟨log, rfl⟩ := openService_eq hw
    exact Or.inr (Or.inr (.same rfl rfl))
  | openEndpoint s context config handler hservice hw =>
    obtain ⟨-, bus, log, inbox, hbus, -, rfl⟩ := openEndpoint_cases hw
    exact Or.inr (Or.inr ⟨fun _ _ hr => hr, Or.inr ⟨_, _, MemoryBus.releases_subscribe hbus⟩⟩)
  | pair s pool hservice =>
    obtain ⟨log, hw⟩ := pairService_eq hservice pool
    exact Or.inr (Or.inr (.same (by rw [hw]) (by rw [hw])))
  | clock | aside | scopes | start | receive | closePool =>
    exact Or.inr (Or.inr (.same rfl rfl))

/-- **Every step is taken by somebody.** -/
theorem Step.mover (hs : w.Step w') : ∃ m, w.Moves m w' := by
  by_cases hturn : ∃ id, w.turn id = some w'
  · obtain ⟨id, h⟩ := hturn
    exact ⟨.task id, .turn id h⟩
  · rcases hs.cases_reply with h | ⟨name, request, headers, payload, h, rfl⟩ | h
    · exact absurd h hturn
    · exact ⟨_, .respond name request headers payload h⟩
    · exact ⟨.outside, .outside hs (fun id h => hturn ⟨id, h⟩) h.requests⟩

/-! ### What steps do to holders -/

/-- A step in which nobody replies. -/
structure Silent (w : World) (m : Mover) (w' : World) : Prop where
  attempt : w.attempt? m = none
  answered : ∀ (c : Nat) i reply, w'.bus.stage? c = some (.answered i reply) →
    w.bus.stage? c = some (.answered i reply)

/-- **What a step does to those who hold requests.** -/
inductive Hands (w : World) (m : Mover) (w' : World) : Prop
  /-- Nobody gets the request of a call. -/
  | keeps (silent : w.Silent m w')
      (h : ∀ x r, w'.request? x = some r →
        w.request? x = some r ∨ w.request? x = none ∧ ∀ c, ¬ r.IsOf c)
  /-- Somebody gets the request of a call from the place where it was. -/
  | hands (silent : w.Silent m w') (x : Holder) (r : Request) (c : CallId) (y : Place)
      (of : r.IsOf c) (had : w.At c y) (gone : ∀ z, ¬ w'.At c z) (holds : w'.request? x = some r)
      (new : ∀ id, x = .task id → w.request? x = none)
      (others : ∀ z, z ≠ x → w'.request? z = w.request? z)
  /-- Somebody replies, and holds the request without its address from then on. -/
  | replies (a : Attempt) (attempt : w.attempt? m = some a)
      (bus : w'.bus = (w.reply a.request a.headers a.payload).1.bus)
      (holds : w'.request? a.holder = some (w.reply a.request a.headers a.payload).2.1)
      (others : ∀ z, z ≠ a.holder → w'.request? z = w.request? z)

/-- A bus that gives requests up answers no call. -/
theorem answered_of_releases {lost : Request → Prop} {gone : InboxId → Request → Prop}
    {b b' : MemoryBus} (h : b.Releases lost gone b') {i : Nat} {reply : Message}
    (hs : b'.stage? c = some (.answered i reply)) : b.stage? c = some (.answered i reply) := by
  rcases h.stages c with hsame | ⟨-, k, -, hlost⟩
  · exact hsame.symm.trans hs
  · rw [hlost] at hs
    cases hs

/-- A call that has its turn is answered by nobody. -/
theorem answered_of_advances {b b' : MemoryBus} {d i : Nat} {reply : Message}
    (h : MemoryBus.Advances d b b') (hs : b'.stage? c = some (.answered i reply)) :
    b.stage? c = some (.answered i reply) := by
  by_cases hc : c = d
  · rw [hc] at hs ⊢
    exact h.answered i reply hs
  · exact (h.stages c hc).symm.trans hs

/-- What is at the one place that a request has left, and nowhere new, is nowhere. -/
theorem Located.gone_of (h : w.Located) {y : Place} (had : w.At c y)
    (hback : ∀ z, w'.At c z → w.At c z) (hnot : ¬ w'.At c y) : ∀ z, ¬ w'.At c z :=
  fun z hz => hnot (h.unique c z y (hback z hz) had ▸ hz)

/-- The holders in a turn after which the task holds no request. -/
theorem keeps_of_turn (h : w.turn id = some w') (silent : w.Silent (.task id) w')
    (hand' : ∀ run, w'.hand? id ≠ some (.running run))
    (hdesk : w'.desk.requests = w.desk.requests) : w.Hands (.task id) w' := by
  refine .keeps silent fun x r hr => Or.inl ?_
  cases x with
  | task j =>
    obtain ⟨run, hand, rfl⟩ := request?_task.mp hr
    by_cases hj : j = id
    · exact absurd (hj ▸ hand) (hand' run)
    · exact request?_task.mpr ⟨run, (hand?_of_turn h hj).symm.trans hand, rfl⟩
  | name name => exact (congrArg (·[name]?) hdesk).symm.trans hr

/-- The other holders in a turn of a task that leaves the desk alone. -/
theorem others_hold (h : w.turn id = some w') (hdesk : w'.desk = w.desk) (x : Holder)
    (hx : x ≠ .task id) : w'.request? x = w.request? x := by
  cases x with
  | task j =>
    have hj : j ≠ id := fun heq => hx (congrArg Holder.task heq)
    rw [request?, request?, hand?_of_turn h hj]
  | name name => exact congrArg (·.requests[name]?) hdesk

/-- A turn after which the task runs a script on a request that it had not in hand. If the request is
of a call it was somewhere else before. -/
theorem hands_got {r : Request} (h : w.turn id = some w') (desk : w'.desk = w.desk)
    (silent : w.Silent (.task id) w') (hbefore : w.request? (.task id) = none)
    (hholds : w'.request? (.task id) = some r)
    (hfrom : ∀ c, r.IsOf c → ∃ y, w.At c y ∧ ∀ z, ¬ w'.At c z) : w.Hands (.task id) w' := by
  by_cases hc : ∃ c, r.IsOf c
  · obtain ⟨c, of⟩ := hc
    obtain ⟨y, had, hgone⟩ := hfrom c of
    exact .hands silent (.task id) r c y of had hgone hholds
      (fun j hj => by cases hj; exact hbefore) (others_hold h desk)
  · refine .keeps silent fun x s hs => ?_
    by_cases hx : x = .task id
    · rw [hx, hholds] at hs
      rw [← Option.some.inj hs, hx]
      exact Or.inr ⟨hbefore, fun c of => hc ⟨c, of⟩⟩
    · exact Or.inl ((others_hold h desk x hx).symm.trans hs)

/-- A delivery that takes a request runs its script on it, or offers it to a pool. -/
theorem hands_take {d : Delivery} {request : Request} (hl : w.Located) (h : w.turn id = some w')
    (hand : w.hand? id = none) (taken : w.bus.take? d.inbox = some (request, w'.bus))
    (hand' : w'.hand? id = some (d.handler.begin d.context request)) (desk : w'.desk = w.desk)
    (pools : w'.pools = w.pools) (silent : w.Silent (.task id) w') : w.Hands (.task id) w' := by
  rw [Handler.begin] at hand'
  split at hand'
  · refine hands_got h desk silent (request?_of_hand (by simp [hand]))
      (request?_task.mpr ⟨_, hand', rfl⟩) fun c of => ?_
    have hmem : request ∈ w.bus.buffer d.inbox := by
      rw [(MemoryBus.buffer_take taken).1]
      exact List.mem_cons_self
    have had : w.At c (.stored d.inbox) := ⟨request, hmem, of⟩
    refine ⟨.stored d.inbox, had, hl.gone_of had (at_of_turn h
      (MemoryBus.thins_take taken).sublist (by simp [hand'])
      fun P t => ⟨(at_pools pools P t).1.mp, (at_pools pools P t).2.mp⟩) ?_⟩
    rintro ⟨r, hr, hc⟩
    exact hl.not_stored of taken r hr hc
  · exact keeps_of_turn h silent (fun run hrun => by simp [hand'] at hrun) (by rw [desk])

/-- A task that waits for a request gives it a name. -/
theorem hands_receive {subscription name : String} {inbox : InboxId} (hl : w.Located)
    (h : w.turn id = some w') (hp : w.program? id = some (.receive subscription inbox name))
    (turn : w.turnReceive id subscription inbox name = some w') (pools : w'.pools = w.pools)
    (silent : w.Silent (.task id) w') : w.Hands (.task id) w' := by
  obtain ⟨b, hb, hbus, -, hend⟩ := turnReceive_effect turn
  have hhand : w.hand? id = none := hand?_eq hp
  have hhand' : w'.hand? id = none := hand?_eq_none hend
  rcases hb with ⟨r, b', taken, hdrop, hrequests⟩ | ⟨-, hrequests⟩
  · have hmem : r ∈ w.bus.buffer inbox := by
      rw [(MemoryBus.buffer_take taken).1]
      exact List.mem_cons_self
    obtain ⟨c, of⟩ := hl.calls inbox r hmem
    -- what is given up on the way leaves less in the inboxes
    have hless : ∀ k : Nat, (w'.bus.buffer k).Sublist (b'.buffer k) := by
      have hb : ∀ k : Nat, (b.buffer k).Sublist (b'.buffer k) := by
        rcases hdrop with ⟨rfl, -⟩ | ⟨old, -, rfl⟩
        · exact fun k => .refl _
        · have hthins : MemoryBus.Thins (fun _ => False) b' (b'.drop old) := b'.thins_drop old
          exact hthins.sublist
      rcases hbus with hbus | ⟨k, -, hbus⟩
      · exact hbus ▸ hb
      · exact fun j => hbus ▸ ((b.thins_discardInbox k).sublist j).trans (hb j)
    have had : w.At c (.stored inbox) := ⟨r, hmem, of⟩
    refine .hands silent (.name name) r c (.stored inbox) of had ?_ ?_
      (by simp) fun z hz => ?_
    · refine hl.gone_of had (at_of_turn h
        (fun k => (hless k).trans ((MemoryBus.thins_take taken).sublist k)) (by simp [hhand'])
        fun P t => ⟨(at_pools pools P t).1.mp, (at_pools pools P t).2.mp⟩) ?_
      rintro ⟨q, hq, hc⟩
      exact hl.not_stored of taken q ((hless inbox).subset hq) hc
    · rw [request?, hrequests, Std.TreeMap.getElem?_insert_self]
    · cases z with
      | task j =>
        by_cases hj : j = id
        · rw [hj, request?, request?, hhand, hhand']
        · rw [request?, request?, hand?_of_turn h hj]
      | name other =>
        have hne : other ≠ name := fun heq => hz (congrArg Holder.name heq)
        rw [request?, request?, hrequests, Std.TreeMap.getElem?_insert, if_neg fun heq =>
          hne (Std.compare_eq_iff_eq.mp heq).symm]
  · exact keeps_of_turn h silent (fun run hrun => by simp [hhand'] at hrun) hrequests

/-- A task that waits for a request answers no call. -/
theorem answered_of_receive {subscription name : String} {inbox i : InboxId} {reply : Message}
    (turn : w.turnReceive id subscription inbox name = some w')
    (hs : w'.bus.stage? c = some (.answered i reply)) :
    w.bus.stage? c = some (.answered i reply) := by
  obtain ⟨b, hb, hbus, -⟩ := turnReceive_effect turn
  have hstage : b.stage? c = some (.answered i reply) := by
    rcases hbus with hbus | ⟨k, -, hbus⟩
    · exact hbus ▸ hs
    · exact answered_of_releases (b.releases_discardInbox k) (hbus ▸ hs)
  rcases hb with ⟨r, b', taken, hdrop, -⟩ | ⟨rfl, -⟩
  · refine answered_of_releases (MemoryBus.releases_take taken) ?_
    rcases hdrop with ⟨rfl, -⟩ | ⟨old, -, rfl⟩
    · exact hstage
    · exact answered_of_releases (b'.releases_drop old) hstage
  · exact hstage

/-- The request of a job that a pool hands back has left the place on its way where it was. -/
theorem gone_of_handedBack {pool : PoolId} {s : Submission} {job : Job} {run : Run}
    (hl : w.Located) (hs : ∀ (P : Nat) p, w.pools[P]? = some p → p.Sound)
    (h : w.turn id = some w') (hand : w.hand? id = some (.submitting pool s))
    (turn : w.turnSubmission pool s = some (v, .handedBack job)) (pools : w'.pools = v.pools)
    (bus : w'.bus = w.bus) (hand' : w'.hand? id = some (.running run)) (of : job.request.IsOf c) :
    ∃ y, w.At c y ∧ ∀ z, ¬ w'.At c z := by
  have hback := fun hpools => at_of_turn (c := c) h (fun k => bus ▸ .refl _) (by simp [hand']) hpools
  obtain ⟨p, ⟨offered, rfl, hputs, hplaced⟩ | ⟨t, p', verdict, rfl, ha, hputs, hplaced⟩⟩ :=
    puts_of_submission turn pools
  · rcases p.submit_cases offered with ⟨-, hsubmit⟩ | ⟨-, hsubmit⟩
    · rw [hsubmit] at hplaced hputs
      cases hplaced
      have had : w.At c (.offered id) := ⟨pool, job, hand, of⟩
      refine ⟨.offered id, had, hl.gone_of had (hback fun P t =>
        hputs.at_sub (fun _ he => he) (fun _ he => he) P t) ?_⟩
      rintro ⟨P, other, hother, -⟩
      rw [hand'] at hother
      cases hother
    · rw [hsubmit] at hplaced
      cases hplaced
  · have hsound := hs pool p hputs.before
    obtain ⟨moved, ⟨rfl, -⟩ | ⟨rfl, -⟩ | ⟨rfl, -, hperm, hqueue⟩⟩ := hsound.advance?_cases ha
    · cases hplaced
    · cases hplaced
    · cases hplaced
      have had : w.At c (.waiting pool t) :=
        ⟨p, job, hputs.before, hperm.mem_iff.mpr List.mem_cons_self, of⟩
      refine ⟨.waiting pool t, had, hl.gone_of had (hback fun P t => hputs.at_sub
        (fun e he => hperm.mem_iff.mpr (List.mem_cons_of_mem _ he)) (fun _ he => hqueue ▸ he)
        P t) fun hat => ?_⟩
      obtain ⟨-, other, hother, -⟩ := ((hputs.at_pools pool t).1.mp hat).resolve_right
        fun hne => hne.1 rfl
      exact hsound.not_waiting_of_perm hperm (List.mem_map_of_mem hother)

/-- A job that a pool hands back is refused by a script. -/
theorem hands_refuse {pool : PoolId} {s : Submission} {job : Job} (hl : w.Located)
    (hs : ∀ (P : Nat) p, w.pools[P]? = some p → p.Sound) (h : w.turn id = some w')
    (hand : w.hand? id = some (.submitting pool s))
    (turn : w.turnSubmission pool s = some (v, .handedBack job)) (pools : w'.pools = v.pools)
    (desk : w'.desk = w.desk) (bus : w'.bus = w.bus)
    (hand' : w'.hand? id = some (.running { job.run with script := .reject job.request.subject }))
    (silent : w.Silent (.task id) w') : w.Hands (.task id) w' :=
  hands_got h desk silent (request?_of_hand (by simp [hand])) (request?_task.mpr ⟨_, hand', rfl⟩)
    fun _ => gone_of_handedBack hl hs h hand turn pools bus hand'

/-- An executor that takes a job runs its script. -/
theorem hands_pick {P i : Nat} {p p' : WorkerPool Job} {job : Job} (hl : w.Located)
    (hs : ∀ (P : Nat) p, w.pools[P]? = some p → p.Sound) (h : w.turn id = some w')
    (program : w.program? id = some (.execute P i none))
    (taken : p.take? i = some (p', .job job)) (puts : Puts P p p' w w')
    (program' : w'.program? id = some (.execute P i (some job.run))) (bus : w'.bus = w.bus)
    (desk : w'.desk = w.desk) (silent : w.Silent (.task id) w') : w.Hands (.task id) w' := by
  have hbefore : w.hand? id = none := hand?_eq program
  have hafter : w'.hand? id = some (.running job.run) := hand?_eq program'
  refine hands_got h desk silent (request?_of_hand (by simp [hbefore]))
    (request?_task.mpr ⟨_, hafter, rfl⟩) fun c of => ?_
  obtain ⟨-, ⟨ticket, _, rest, hqueue, hfound, -⟩ | ⟨-, -, hfound, -⟩⟩ :=
    WorkerPool.take?_cases taken
  · cases hfound
    exact ⟨.queued P ticket, ⟨p, job, puts.before, by rw [hqueue]; exact List.mem_cons_self, of⟩,
      (not_at_of_pick hl (hs P p puts.before) h taken puts program' bus of).2⟩
  · cases hfound

/-- A script that goes on keeps its request, or replies to it. -/
theorem hands_run {run next : Run} (h : w.turn id = some w')
    (hand : w.hand? id = some (.running run)) (turn : w.turnRun id run = some (v, .going next))
    (hand' : w'.hand? id = some (.running next)) (bus : w'.bus = v.bus) (desk : w'.desk = w.desk) :
    w.Hands (.task id) w' := by
  by_cases hreply : ∃ headers payload after, run.script = .reply headers payload after
  · obtain ⟨headers, payload, after, hscript⟩ := hreply
    rw [turnRun, hscript] at turn
    cases turn
    exact .replies ⟨.task id, run.request, headers, payload⟩ (attempt?_reply hand hscript) bus
      (request?_task.mpr ⟨_, hand', rfl⟩) (others_hold h desk)
  · have hnot : ∀ headers payload after, run.script ≠ .reply headers payload after :=
      fun headers payload after heq => hreply ⟨headers, payload, after, heq⟩
    rcases turnRun_bus turn with ⟨-, -, hnone⟩ | ⟨headers, payload, after, -, hscript, -⟩ |
      ⟨hbus, -, _, heq, hrequest⟩
    · exact absurd rfl (hnone next)
    · exact absurd hscript (hnot headers payload after)
    · cases heq
      have hsilent : w.Silent (.task id) w' := by
        refine ⟨attempt?_eq_none fun run' headers payload after hrun => ?_,
          fun c i reply hs => (bus.trans hbus) ▸ hs⟩
        rw [hand] at hrun
        cases hrun
        exact hnot headers payload after
      refine .keeps hsilent fun x r hr => Or.inl ?_
      by_cases hx : x = .task id
      · rw [hx] at hr ⊢
        obtain ⟨run', hrun', rfl⟩ := request?_task.mp hr
        rw [hand'] at hrun'
        cases hrun'
        exact request?_task.mpr ⟨run, hand, hrequest.symm⟩
      · exact (others_hold h desk x hx).symm.trans hr

/-- A script that is over gives its request up. -/
theorem hands_finish {run : Run} {progress : Progress Run} (h : w.turn id = some w')
    (hand : w.hand? id = some (.running run)) (turn : w.turnRun id run = some (v, progress))
    (over' : ∀ next, progress ≠ .going next) (hand' : w'.hand? id = none) (desk : w'.desk = w.desk)
    (bus : w'.bus = v.bus ∨ ∃ d, w.program? id = some (.deliver d) ∧ w'.program? id = none ∧
      w'.bus = v.bus.discardInbox d.inbox) : w.Hands (.task id) w' := by
  obtain ⟨hscript, hdropped⟩ : (∀ headers payload next, run.script ≠ .reply headers payload next) ∧
      v.bus = w.bus.drop run.request := by
    rcases turnRun_bus turn with ⟨hscript, hbus, -⟩ | ⟨_, _, _, next, -, heq, -⟩ |
      ⟨-, -, next, heq, -⟩
    · exact ⟨fun _ _ _ heq => by rcases hscript with hs | hs <;> simp [heq] at hs, hbus⟩
    · exact absurd heq (over' next)
    · exact absurd heq (over' next)
  refine keeps_of_turn h ⟨attempt?_eq_none fun run' headers payload next hrun => ?_, ?_⟩
    (by simp [hand']) (by rw [desk])
  · rw [hand] at hrun
    cases hrun
    exact hscript headers payload next
  · intro c i reply hstage
    refine answered_of_releases (w.bus.releases_drop run.request) (hdropped ▸ ?_)
    rcases bus with bus | ⟨d, -, -, bus⟩
    · exact bus ▸ hstage
    · exact answered_of_releases (v.bus.releases_discardInbox d.inbox) (bus ▸ hstage)

/-- **What a turn does to those who hold requests.** -/
theorem hands_of_turn (hl : w.Located) (hs : ∀ (P : Nat) p, w.pools[P]? = some p → p.Sound)
    (h : w.turn id = some w') : w.Hands (.task id) w' := by
  -- who runs no script replies to nothing
  have hsilent : (∀ run, w.hand? id ≠ some (.running run)) →
      (∀ (c : Nat) i reply, w'.bus.stage? c = some (.answered i reply) →
        w.bus.stage? c = some (.answered i reply)) → w.Silent (.task id) w' := fun hnone hanswered =>
    ⟨attempt?_eq_none fun run _ _ _ hrun => absurd hrun (hnone run), hanswered⟩
  have hsame : w'.bus = w.bus → ∀ (c : Nat) i reply, w'.bus.stage? c = some (.answered i reply) →
      w.bus.stage? c = some (.answered i reply) := fun heq c i reply hs => heq ▸ hs
  have hreleases : ∀ {lost gone}, w.bus.Releases lost gone w'.bus →
      ∀ (c : Nat) i reply, w'.bus.stage? c = some (.answered i reply) →
        w.bus.stage? c = some (.answered i reply) := fun hr c i reply => answered_of_releases hr
  cases deed_of_turn h with
  | quiet _ hand hand' bus desk =>
    exact keeps_of_turn h (hsilent (by simp [hand]) (hsame bus)) (by simp [hand']) (by rw [desk])
  | exchange call _ _ _ _ program turn hand' desk =>
    refine keeps_of_turn h (hsilent (by simp [hand?_eq program, Program.handling?]) ?_)
      (by simp [hand']) (by rw [desk])
    exact fun c i reply => answered_of_advances (turnExchange_bus turn)
  | receive _ _ inbox program turn _ pools =>
    exact hands_receive hl h program turn pools
      (hsilent (by simp [hand?_eq program, Program.handling?]) fun c i reply => answered_of_receive turn)
  | drain d _ hand hand' bus desk =>
    have hanswered := hreleases (bus ▸ w.bus.releases_closeInbox d.inbox)
    exact keeps_of_turn h (hsilent (by simp [hand]) hanswered) (by simp [hand']) (by rw [desk])
  | leave d _ hand _ end' bus desk =>
    have hanswered := hreleases (bus ▸ w.bus.releases_discardInbox d.inbox)
    exact keeps_of_turn h (hsilent (by simp [hand]) hanswered) (by simp [hand?_eq_none end'])
      (by rw [desk])
  | take d request _ hand taken hand' desk pools =>
    exact hands_take hl h hand taken hand' desk pools
      (hsilent (by simp [hand]) (hreleases (MemoryBus.releases_take taken)))
  | submit v pool s placement hand turn pools desk next =>
    have hnot : ∀ run, w.hand? id ≠ some (.running run) := by simp [hand]
    cases next with
    | onward _ hand' bus =>
      exact keeps_of_turn h (hsilent hnot (hsame bus)) (by simp [hand']) (by rw [desk])
    | queued hand' bus =>
      exact keeps_of_turn h (hsilent hnot (hsame bus)) (by simp [hand']) (by rw [desk])
    | refused job bus hand' =>
      exact hands_refuse hl hs h hand turn pools desk bus hand' (hsilent hnot (hsame bus))
    | returned job hand' bus =>
      have hanswered := hreleases (bus ▸ w.bus.releases_drop job.request)
      exact keeps_of_turn h (hsilent hnot hanswered) (by simp [hand']) (by rw [desk])
  | run v run next hand turn hand' bus _ desk => exact hands_run h hand turn hand' bus desk
  | finish v run progress hand turn over' hand' desk bus =>
    exact hands_finish h hand turn over' hand' desk bus
  | pick P i p p' job program taken puts program' bus desk =>
    exact hands_pick hl hs h program taken puts program' bus desk
      (hsilent (by simp [hand?_eq program, Program.handling?]) (hsame bus))
  | exit P i p p' program taken puts end' bus desk =>
    exact keeps_of_turn h (hsilent (by simp [hand?_eq program, Program.handling?]) (hsame bus))
      (by simp [hand?_eq_none end']) (by rw [desk])

/-- A step from outside in which nobody replies answers no call. -/
theorem Step.answered_of_still (hs : w.Step w') (hstill : ∀ id, w.turn id ≠ some w')
    (hrequests : ∀ (name : String) (r : Request), w'.desk.requests[name]? = some r →
      w.desk.requests[name]? = some r) {i : Nat} {reply : Message}
    (hanswered : w'.bus.stage? c = some (.answered i reply)) :
    w.bus.stage? c = some (.answered i reply) := by
  rcases hs.cases_reply with ⟨id, h⟩ | ⟨name, request, headers, payload, h, rfl⟩ | h
  · exact absurd h (hstill id)
  · -- the request has no address, or it would be another one afterwards
    have hafter := hrequests name (w.reply request headers payload).2.1
      Std.TreeMap.getElem?_insert_self
    rw [h] at hafter
    obtain ⟨hnone, ⟨hbus, -⟩ | ⟨d, of, -⟩⟩ := w.reply_bus request headers payload
    · exact hbus ▸ hanswered
    · rw [← Option.some.inj hafter] at hnone
      rw [Request.IsOf, hnone] at of
      cases of
  · rcases h.bus with ⟨call, asking, hbus⟩ | ⟨lost, gone, hreleases⟩
    · rw [hbus, stage?_ask] at hanswered
      split at hanswered
      · rw [asking] at hanswered
        cases hanswered
      · exact hanswered
    · exact answered_of_releases hreleases hanswered

/-- What tasks have in hand after a step from outside they had before, or it is no request of a call. -/
theorem Step.hand_of_still (hs : w.Step w') (hstill : ∀ id, w.turn id ≠ some w') {j : Nat} {run : Run}
    (hand' : w'.hand? j = some (.running run)) : w.hand? j = some (.running run) ∨
      w.hand? j = none ∧ ∀ c, ¬ run.request.IsOf c := by
  cases hp : w.program? j with
  | some program =>
    have hp' := (hs.turn_or_program j).resolve_left (hstill j) program hp
    rw [hand?_eq hp'] at hand'
    exact Or.inl ((hand?_eq hp).trans hand')
  | none =>
    refine (?_ : _ ∨ _).imp_right fun hfree => ⟨hand?_eq_none hp, hfree⟩
    obtain ⟨id, h⟩ | ⟨call, context?, client?, conclude, name?, -, rfl⟩ | h := hs.cases_outside
    · exact absurd h (hstill id)
    · exact Or.inl ((hand?_exchange j).symm.trans hand')
    · exact (h.hands j _ hand').imp_right fun hfree c => hfree.1 c

/-- **Whoever takes a step, what it does to those who hold requests is one of these.** -/
theorem Moves.hands (hm : w.Moves m w') (hl : w.Located)
    (hs : ∀ (P : Nat) p, w.pools[P]? = some p → p.Sound) : w.Hands m w' := by
  cases hm with
  | turn id h => exact hands_of_turn hl hs h
  | respond name request headers payload h =>
    obtain ⟨_, _, _, _, _, hbeside⟩ := w.beside_reply request headers payload
    refine .replies ⟨.name name, request, headers, payload⟩ ?_ rfl
      Std.TreeMap.getElem?_insert_self fun z hz => ?_
    · rw [attempt?, h]
      rfl
    · cases z with
      | task j => simp only [request?, hand?, program?, hbeside]
      | name other =>
        have hne : other ≠ name := fun heq => hz (congrArg Holder.name heq)
        simp only [request?]
        rw [Std.TreeMap.getElem?_insert, if_neg fun heq =>
          hne (Std.compare_eq_iff_eq.mp heq).symm]
  | outside step still requests =>
    refine .keeps ⟨rfl, fun c i reply => step.answered_of_still still requests⟩ fun x r hr => ?_
    cases x with
    | task j =>
      obtain ⟨run, hand', rfl⟩ := request?_task.mp hr
      rcases step.hand_of_still still hand' with hand | ⟨hnone, hfree⟩
      · exact Or.inl (request?_task.mpr ⟨run, hand, rfl⟩)
      · exact Or.inr ⟨request?_of_hand (by simp [hnone]), hfree⟩
    | name name => exact Or.inl (requests name r hr)

end World

end ServiceBus.Bus
