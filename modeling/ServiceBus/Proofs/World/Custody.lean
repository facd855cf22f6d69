import ServiceBus.Proofs.World.Requests

/-! # Requests stay in custody

What somebody outside does with the requests of calls, and what therefore holds in every run.

* `World.Outside`: what a step from outside does, other than the beginning of a call.
* `Step.cases_outside`: what a step can be.
* `Step.custody`: every step keeps requests in custody. -/

namespace ServiceBus.Bus

/-- Whether a handling is at its beginning, and its request is not that of a call. -/
def Handling.IsFree : Handling → Prop
  | .submitting _ (.offered job) => ∀ c, ¬ job.request.IsOf c
  | .submitting _ (.placed _) => False
  | .running run => ∀ c, ¬ run.request.IsOf c

/-- Who begins has no request of a call and does not deliver. -/
theorem Program.Begins.isFree {program : Program} (hb : program.Begins) (h : Handling)
    (hh : program.handling? = some h) : h.IsFree ∧ program.role = .other := by
  cases program with
  | submit pool s =>
    cases hh
    refine ⟨?_, rfl⟩
    cases s with
    | offered job => exact fun c hc => hb ⟨c, hc⟩
    | placed t => exact hb
  | handle handling =>
    cases hh
    refine ⟨?_, rfl⟩
    cases h with
    | submitting pool s =>
      cases s with
      | offered job => exact fun c hc => hb ⟨c, hc⟩
      | placed t => exact hb
    | running run => exact fun c hc => hb ⟨c, hc⟩
  | deliver d => exact absurd hb fun h => h
  | execute pool i run? => exact absurd hb fun h => h
  | _ => cases hh

/-- Who begins sees no call through. -/
theorem Program.Begins.role_ne {program : Program} (hb : program.Begins) (c : CallId)
    (context? : Option Context) (conclude : Except TransportError Message → Logged Outcome) :
    program.role ≠ .exchange c context? conclude := by
  cases program with
  | exchange => exact absurd hb fun h => h
  | _ => exact fun h => by cases h

namespace World

variable {w w' v : World} {id c i P : Nat} {r : Request}

/-! ### Steps from outside -/

/-- A pool that is not changed is not marked. -/
theorem marks_refl (p : WorkerPool Job) : p.Marks p := ⟨_, _, _, _, rfl⟩

/-- **What a step from outside does**, other than a call that begins. Tasks go on with what they do, and
new ones have no request of a call; pools are marked, and new ones are empty. -/
structure Outside (w w' : World) : Prop where
  programs : ∀ (j : Nat) program, w.program? j = some program → w'.program? j = some program
  hands : ∀ (j : Nat) h, w'.hand? j = some h →
    w.hand? j = some h ∨ h.IsFree ∧ w'.role? j = some .other
  exchanges : ∀ j c : Nat, w'.Exchanges j c → w.Exchanges j c
  pools : ∀ (P : Nat) p, w.pools[P]? = some p → ∃ p', w'.pools[P]? = some p' ∧ p.Marks p'
  pools_back : ∀ (P : Nat) p', w'.pools[P]? = some p' →
    (∃ p, w.pools[P]? = some p ∧ p.Marks p') ∨ (∃ requested, p' = .new requested) ∧
      ∀ i ∈ p'.idle, ∃ id, w'.program? id = some (.execute P i none)
  named : ∀ (name : String) (r : Request) (c : CallId), r.IsOf c → w'.bus.Waits c →
    w.desk.requests[name]? = some r → w'.desk.requests[name]? = some r
  named_back : ∀ (name : String) (r : Request) (c : CallId), r.IsOf c →
    w'.desk.requests[name]? = some r → w.desk.requests[name]? = some r
  tells : w.Tells w'

/-- What a step from outside does with tasks. -/
structure Hires (w w' : World) : Prop where
  programs : ∀ (j : Nat) program, w.program? j = some program → w'.program? j = some program
  hands : ∀ (j : Nat) h, w'.hand? j = some h →
    w.hand? j = some h ∨ h.IsFree ∧ w'.role? j = some .other
  exchanges : ∀ j c : Nat, w'.Exchanges j c → w.Exchanges j c

/-- Tasks that stay as they are. -/
theorem Hires.same (h : w'.tasks = w.tasks) : w.Hires w' := by
  have hprogram : ∀ j : Nat, w'.program? j = w.program? j := fun j => by rw [program?, program?, h]
  refine ⟨fun j program hj => (hprogram j).trans hj, fun j handling hj => Or.inl ?_,
    fun j c hj => ?_⟩
  · rw [hand?, hprogram] at hj
    exact hj
  · rw [Exchanges, role?, hprogram] at hj
    exact hj

/-- A new task that has no request of a call. -/
theorem Hires.spawn {program : Program}
    (hfree : ∀ h, program.handling? = some h → h.IsFree ∧ program.role = .other)
    (hrole : ∀ c context? conclude, program.role ≠ .exchange c context? conclude)
    (name? : Option String) : w.Hires (w.spawn program name?) where
  programs j program' hj := program?_spawn_of_some hj program name?
  hands j handling hj := by
    rw [hand?, program?_spawn] at hj
    rw [role?, program?_spawn]
    split at hj
    · rename_i heq
      rw [if_pos heq]
      exact Or.inr ((hfree handling hj).imp_right (congrArg some))
    · exact Or.inl hj
  exchanges j c hj := by
    obtain ⟨context?, conclude, hj⟩ := hj
    rw [role?, program?_spawn] at hj
    split at hj
    · exact absurd (Option.some.inj hj) (hrole c context? conclude)
    · exact ⟨context?, conclude, hj⟩

/-- A step that leaves pools and named requests alone. -/
theorem Hires.outside (h : w.Hires w') (hpools : w'.pools = w.pools)
    (hrequests : w'.desk.requests = w.desk.requests) (htells : w.Tells w') : w.Outside w' where
  programs := h.programs
  hands := h.hands
  exchanges := h.exchanges
  pools _ p hp := ⟨p, hpools ▸ hp, marks_refl p⟩
  pools_back _ p' hp' := Or.inl ⟨p', hpools ▸ hp', marks_refl p'⟩
  named _ _ _ _ _ hr := hrequests ▸ hr
  named_back _ _ _ _ hr := hrequests ▸ hr
  tells := htells

/-- A step that has nothing to do with requests. -/
theorem Outside.same (htasks : w'.tasks = w.tasks) (hpools : w'.pools = w.pools)
    (hrequests : w'.desk.requests = w.desk.requests) (hbus : w'.bus = w.bus) : w.Outside w' :=
  (Hires.same htasks).outside hpools hrequests (.refl hbus)

/-- A pool that is marked. -/
theorem Outside.marks {pool : Nat} {p p' : WorkerPool Job} (hp : w.pools[pool]? = some p)
    (hm : p.Marks p') : w.Outside (w.setPool pool p') := by
  have hputs : Puts pool p p' w (w.setPool pool p') := ⟨hp, rfl⟩
  have ht : w.Hires (w.setPool pool p') := .same rfl
  refine ⟨ht.programs, ht.hands, ht.exchanges, fun P q hq => ?_, fun P q hq => Or.inl ?_,
    fun _ _ _ _ _ hr => hr, fun _ _ _ _ hr => hr, .refl rfl⟩
  · rcases hputs.forth hq with ⟨-, rfl, hq'⟩ | ⟨-, hq'⟩
    · exact ⟨p', hq', hm⟩
    · exact ⟨q, hq', marks_refl q⟩
  · rcases hputs.pools_iff.mp hq with ⟨rfl, rfl⟩ | ⟨-, hq⟩
    · exact ⟨p, hp, hm⟩
    · exact ⟨q, hq, marks_refl q⟩

/-- A new pool has no jobs, and its executors have nothing in hand. -/
theorem outside_openPool (w : World) (requested : Nat) : w.Outside (w.openPool requested) := by
  have hold : ∀ {α : Type} (f : Program → Option α), (∀ P i, f (.execute P i none) = none) →
      ∀ (j : Nat) a, ((w.openPool requested).program? j).bind f = some a →
        (w.program? j).bind f = some a := by
    intro α f hf j a hj
    obtain ⟨program, hp, ha⟩ := Option.bind_eq_some_iff.mp hj
    rcases program?_openPool.mp hp with hp | ⟨i, -, -, rfl⟩
    · exact Option.bind_eq_some_iff.mpr ⟨program, hp, ha⟩
    · rw [hf] at ha
      cases ha
  obtain ⟨log, hw⟩ := w.openPool_eq requested
  refine ⟨fun j program hj => program?_openPool.mpr (Or.inl hj), fun j h hj => Or.inl ?_,
    fun j c hj => ?_, fun P p hp => ⟨p, ?_, marks_refl p⟩, fun P p' hp' => ?_,
    fun _ _ _ _ _ hr => by rw [hw]; exact hr, fun _ _ _ _ hr => by rw [hw] at hr; exact hr,
    .refl (by rw [hw])⟩
  · exact hold (·.handling?) (fun _ _ => rfl) j h hj
  · obtain ⟨context?, conclude, hj⟩ := hj
    obtain ⟨program, hp, hrole⟩ := Option.map_eq_some_iff.mp hj
    rcases program?_openPool.mp hp with hp | ⟨i, -, -, rfl⟩
    · exact ⟨context?, conclude, (role?_eq hp).trans (congrArg some hrole)⟩
    · cases hrole
  · rw [hw, List.getElem?_append_left (List.getElem?_eq_some_iff.mp hp).1, hp]
  · have hpool := hp'
    rw [hw] at hpool
    rcases getElem?_concat_iff.mp hpool with hpool | ⟨rfl, rfl⟩
    · exact Or.inl ⟨p', hpool, marks_refl p'⟩
    · refine Or.inr ⟨⟨requested, rfl⟩, fun i hi => ⟨w.tasks.length + i, ?_⟩⟩
      exact program?_openPool.mpr (Or.inr ⟨i, List.mem_range.mp hi, rfl, rfl⟩)

/-- Naming a subscription may give up another. -/
theorem tells_nameSubscription {name : String} {inbox : InboxId} {bus : MemoryBus}
    (h : w.bus.Releases (fun _ => False) (fun _ _ => False) bus)
    (hw' : w'.bus = ((w.withBus bus).nameSubscription name inbox).bus) : w.Tells w' := by
  obtain ⟨bus', hw, hbus | ⟨old, hold, hbus⟩⟩ := (w.withBus bus).nameSubscription_cases name inbox
  · replace hw' : w'.bus = bus := hw'.trans ((congrArg World.bus hw).trans hbus)
    exact .releases _ _ (hw' ▸ h) (fun _ _ hf => absurd hf fun h => h)
      fun _ _ _ hf => absurd hf fun h => h
  · replace hw' : w'.bus = bus.discardInbox old := hw'.trans ((congrArg World.bus hw).trans hbus)
    have hr := h.trans (bus.releases_discardInbox old)
    refine .releases _ _ (hw' ▸ hr) (fun r c hr hc => ?_) fun j r c hr hc => ?_
    · rcases hr with hf | hr
      · exact absurd hf fun h => h
      · exact .subscription name old r hold (h.stores old r hr) hc
    · rcases hr with hf | hr
      · exact absurd hf fun h => h
      · exact Or.inl (Or.inr hr.2)

/-- Naming a subscription leaves pools and named requests alone. -/
theorem nameSubscription_frame (w : World) (name : String) (inbox : InboxId) :
    (w.nameSubscription name inbox).pools = w.pools ∧
      (w.nameSubscription name inbox).desk.requests = w.desk.requests := by
  obtain ⟨bus, hw, -⟩ := w.nameSubscription_cases name inbox
  rw [hw]
  exact ⟨rfl, rfl⟩

/-- A request of a name that is replied to. -/
theorem outside_respond {name : String} {request : Request} (headers : Headers) (payload : Bytes)
    (h : w.desk.requests[name]? = some request) :
    w.Outside { (w.reply request headers payload).1 with
      desk.requests := w.desk.requests.insert name (w.reply request headers payload).2.1 } := by
  obtain ⟨hnone, hbus⟩ := w.reply_bus request headers payload
  obtain ⟨_, _, _, _, _, hbeside⟩ := w.beside_reply request headers payload
  have ht : w.Hires { (w.reply request headers payload).1 with
      desk.requests := w.desk.requests.insert name (w.reply request headers payload).2.1 } :=
    .same (by rw [hbeside])
  refine ⟨ht.programs, ht.hands, ht.exchanges, fun P p hp => ⟨p, by rw [hbeside]; exact hp, marks_refl p⟩,
    fun P p hp => Or.inl ⟨p, by rw [hbeside] at hp; exact hp, marks_refl p⟩, ?_, ?_, ?_⟩
  · intro n r c hc hw hr
    refine names_insert.mpr (Or.inr ⟨?_, hr⟩)
    rintro rfl
    rw [h] at hr
    cases hr
    rcases hbus with ⟨-, hnot⟩ | ⟨d, hd, hbus⟩
    · exact hnot c hc
    · have hw : (w.bus.answer d (request.reply headers payload)).1.Waits c := hbus ▸ hw
      exact (MemoryBus.waits_answer hw).2 (hc.eq hd)
  · intro n r c hc hr
    rcases names_insert.mp hr with ⟨-, rfl⟩ | ⟨-, hr⟩
    · rw [Request.IsOf, hnone] at hc
      cases hc
    · exact hr
  · rcases hbus with ⟨hbus, -⟩ | ⟨d, hd, hbus⟩
    · exact .refl hbus
    · exact .answers d _ hbus (.named name request h hd)

/-- A request of a name that is given up. -/
theorem outside_dropRequest {name : String} {request : Request}
    (h : w.desk.requests[name]? = some request) :
    w.Outside { w.dropRequest request with desk.requests := w.desk.requests.erase name } := by
  have ht : w.Hires { w.dropRequest request with desk.requests := w.desk.requests.erase name } :=
    .same rfl
  refine ⟨ht.programs, ht.hands, ht.exchanges, fun P p hp => ⟨p, hp, marks_refl p⟩,
    fun P p hp => Or.inl ⟨p, hp, marks_refl p⟩, fun n r c hc hw hr => ?_,
    fun n r c _ hr => (names_erase.mp hr).2, .drop rfl fun c hc => .named name request h hc⟩
  refine names_erase.mpr ⟨?_, hr⟩
  rintro rfl
  rw [h] at hr
  cases hr
  exact (MemoryBus.waits_drop (show (w.bus.drop request).Waits c from hw)).2 hc

/-- **A step is a turn, the beginning of a call, or another step from outside.** -/
theorem Step.cases_outside (hs : w.Step w') : (∃ id : Nat, w.turn id = some w') ∨
    (∃ (call : Call) (context? : Option Context) (client? : Option ClientId)
      (conclude : Except TransportError Message → Logged Outcome) (name? : Option String),
      call.stage = .asking ∧ w' = (w.withBus (w.bus.ask call)).spawn
        (.exchange w.bus.calls.length context? false client? conclude) name?) ∨ w.Outside w' := by
  cases hs with
  | turn id hw => exact Or.inl ⟨id, hw⟩
  | ask call asking context? client? conclude name? =>
    exact Or.inr (Or.inl ⟨call, context?, client?, conclude, name?, asking, rfl⟩)
  | clock now => exact Or.inr (Or.inr (.same rfl rfl rfl rfl))
  | aside => exact Or.inr (Or.inr (.same rfl rfl rfl rfl))
  | names desk _ hrequests => exact Or.inr (Or.inr (.same rfl rfl hrequests rfl))
  | scopes => exact Or.inr (Or.inr (.same rfl rfl rfl rfl))
  | start program name? hb =>
    have ht : w.Hires (w.spawn program name?) := .spawn hb.isFree hb.role_ne name?
    exact Or.inr (Or.inr (ht.outside rfl rfl (.refl rfl)))
  | receive name request inbox name? h =>
    have ht : w.Hires (w.spawn (.receive name inbox request) name?) :=
      .spawn (fun h hh => by cases hh) (fun _ _ _ h => by cases h) name?
    exact Or.inr (Or.inr (Hires.outside ⟨ht.programs, ht.hands, ht.exchanges⟩ rfl rfl (.refl rfl)))
  | @subscribe name subject bus hbus =>
    have ht := tends_nameSubscription (w.withBus bus) name w.bus.inboxes.length
    have hframe := nameSubscription_frame (w.withBus bus) name w.bus.inboxes.length
    have hsame : w.Hires ((w.withBus bus).nameSubscription name w.bus.inboxes.length) :=
      .same ht.tasks
    refine Or.inr (Or.inr (hsame.outside hframe.1 hframe.2 ?_))
    exact tells_nameSubscription (MemoryBus.releases_subscribe hbus) rfl
  | closeSubscription name inbox h =>
    have ht : w.Hires (w.withBus (w.bus.closeInbox inbox)) := .same rfl
    refine Or.inr (Or.inr (ht.outside rfl rfl ?_))
    exact .releases _ _ (w.bus.releases_closeInbox inbox) (fun _ _ hf => absurd hf fun h => h)
      fun _ _ _ hf => absurd hf fun h => h
  | dropSubscription name inbox h =>
    have ht : w.Hires { w.withBus (w.bus.discardInbox inbox) with
        desk.subscriptions := w.desk.subscriptions.erase name } := .same rfl
    refine Or.inr (Or.inr (ht.outside rfl rfl ?_))
    exact .discard rfl fun r c hr hc => .subscription name inbox r h hr hc
  | closeBus =>
    have ht : w.Hires (w.withBus w.bus.close) := .same rfl
    refine Or.inr (Or.inr (ht.outside rfl rfl ?_))
    exact .releases _ _ w.bus.releases_close (fun _ _ hf => absurd hf fun h => h)
      fun _ _ _ hf => absurd hf fun h => h
  | respond name request headers payload h =>
    exact Or.inr (Or.inr (outside_respond headers payload h))
  | dropRequest name request h => exact Or.inr (Or.inr (outside_dropRequest h))
  | openPool requested => exact Or.inr (Or.inr (outside_openPool w requested))
  | closePool pool hp => exact Or.inr (Or.inr (.marks hp (WorkerPool.marks_close _)))
  | reapPool pool =>
    refine Or.inr (Or.inr ?_)
    obtain hw | ⟨p, hp, hw⟩ := w.reapPool_eq pool <;> rw [hw]
    · exact .same rfl rfl rfl rfl
    · exact .marks hp ⟨_, _, true, _, rfl⟩
  | openService config hw =>
    obtain ⟨log, rfl⟩ := openService_eq hw
    exact Or.inr (Or.inr (.same rfl rfl rfl rfl))
  | @openEndpoint s context config handler service _ hservice hw =>
    obtain ⟨-, bus, log, inbox, hbus, -, rfl⟩ := openEndpoint_cases hw
    have ht : w.Hires (w.spawn (.deliver { inbox, context, stop := service.stop, handler })) :=
      .spawn (fun h hh => by cases hh) (fun _ _ _ h => by cases h) none
    refine Or.inr (Or.inr (Hires.outside ⟨ht.programs, ht.hands, ht.exchanges⟩ rfl rfl ?_))
    exact .releases _ _ (MemoryBus.releases_subscribe hbus) (fun _ _ hf => absurd hf fun h => h)
      fun _ _ _ hf => absurd hf fun h => h
  | pair s pool hservice hpool =>
    obtain ⟨log, hw⟩ := pairService_eq hservice pool
    rw [hw]
    exact Or.inr (Or.inr (.same rfl rfl rfl rfl))

/-- **A task goes on with its program in a step that is not its turn.** -/
theorem Step.turn_or_program (hs : w.Step w') (t : Nat) : w.turn t = some w' ∨
    ∀ program, w.program? t = some program → w'.program? t = some program := by
  obtain ⟨id, h⟩ | ⟨call, context?, client?, conclude, name?, -, rfl⟩ | h := hs.cases_outside
  · by_cases ht : t = id
    · exact Or.inl (ht ▸ h)
    · exact Or.inr fun program hp => by rw [(others_of_turn h).2 t ht, hp]
  · exact Or.inr fun program hp => program?_spawn_of_some (w := w.withBus _) hp _ name?
  · exact Or.inr (h.programs t)

/-! ### Custody -/

/-- What the tasks have in hand after a step from outside. -/
theorem Outside.hand (h : w.Outside w') {j : Nat} {handling : Handling}
    (hj : w.hand? j = some handling) : w'.hand? j = some handling := by
  obtain ⟨program, hp, hh⟩ := Option.bind_eq_some_iff.mp hj
  exact Option.bind_eq_some_iff.mpr ⟨program, h.programs j program hp, hh⟩

/-- A step from outside keeps requests in custody. -/
theorem Outside.custody (h : w.Outside w') : w.Custody w' where
  stored c i r hc hr := h.tells.stored hc hr
  named c name r hc hr := Or.inl (h.named_back name r c hc hr)
  offered c j P job hc hj := Or.inl ((h.hands j _ hj).resolve_right fun hfree => hfree.1 c hc)
  pooled c P p' job _ hp' hj := by
    rcases h.pools_back P p' hp' with ⟨p, hp, hm⟩ | ⟨⟨requested, rfl⟩, -⟩
    · exact Or.inl ⟨p, hp, jobs_marks hm ▸ hj⟩
    · cases hj
  running c j run hc hj := Or.inl ((h.hands j _ hj).resolve_right fun hfree => hfree.1 c hc)
  stages c := Or.inr (h.tells.stages c)
  held c hheld hw := by
    cases hheld with
    | stored i r hr hc => exact h.tells.held_stored hr hc hw
    | named name r hr hc => exact .named name r (h.named name r c hc hw hr) hc
    | offered j pool job hj hc => exact .offered j pool job (h.hand hj) hc
    | pooled pool p job hp hj hc =>
      obtain ⟨p', hp', hm⟩ := h.pools pool p hp
      exact .pooled pool p' job hp' ((jobs_marks hm).symm ▸ hj) hc
    | running j run hj hc => exact .running j run (h.hand hj) hc

/-- What the tasks have in hand while a call begins. -/
theorem hand?_exchange {call : CallId} {context? : Option Context} {begun : Bool}
    {client? : Option ClientId} {conclude : Except TransportError Message → Logged Outcome}
    {name? : Option String} (j : Nat) :
    (w.spawn (.exchange call context? begun client? conclude) name?).hand? j = w.hand? j := by
  rw [hand?, program?_spawn]
  split
  · rename_i hj
    rw [hand?_eq_none (program?_eq_none (by omega))]
    rfl
  · rfl

/-- The calls after one more begins. -/
theorem stage?_ask (b : MemoryBus) (call : Call) (c : Nat) : (b.ask call).stage? c =
    if c = b.calls.length then some call.stage else b.stage? c := by
  rw [MemoryBus.stage?, MemoryBus.ask, List.getElem?_append, MemoryBus.stage?]
  split
  · rename_i hlt
    rw [if_neg (Nat.ne_of_lt hlt)]
  · rename_i hge
    split
    · rename_i heq
      rw [heq, Nat.sub_self]
      rfl
    · rename_i hne
      rw [List.getElem?_eq_none (by rw [List.length_singleton]; omega),
        List.getElem?_eq_none (by omega)]

/-- The beginning of a call keeps requests in custody. -/
theorem custody_ask {call : Call} (hasking : call.stage = .asking) (context? : Option Context)
    (client? : Option ClientId) (conclude : Except TransportError Message → Logged Outcome)
    (name? : Option String) : w.Custody ((w.withBus (w.bus.ask call)).spawn
      (.exchange w.bus.calls.length context? false client? conclude) name?) where
  stored _ _ _ _ hr := Or.inl hr
  named _ _ _ _ hr := Or.inl hr
  offered _ _ _ _ _ hj := Or.inl ((hand?_exchange _).symm.trans hj)
  pooled _ _ p' _ _ hp' hj := Or.inl ⟨p', hp', hj⟩
  running _ _ _ _ hj := Or.inl ((hand?_exchange _).symm.trans hj)
  stages c := by
    show _ ∨ (w.bus.ask call).stage? c = _ ∨ _
    rw [stage?_ask]
    by_cases hc : c = w.bus.calls.length
    · refine Or.inl ⟨?_, ?_⟩
      · rw [MemoryBus.stage?, List.getElem?_eq_none (by omega)]
        rfl
      · show (w.bus.ask call).stage? c = _
        rw [stage?_ask, if_pos hc, hasking]
    · exact Or.inr (Or.inl (if_neg hc))
  held c hheld _ := by
    cases hheld with
    | stored i r hr hc => exact .stored i r hr hc
    | named name r hr hc => exact .named name r hr hc
    | offered j pool job hj hc => exact .offered j pool job ((hand?_exchange _).trans hj) hc
    | pooled pool p job hp hj hc => exact .pooled pool p job hp hj hc
    | running j run hj hc => exact .running j run ((hand?_exchange _).trans hj) hc

/-- **Every step keeps requests in custody.** -/
theorem Step.custody (hp : ∀ (P : Nat) p, w.pools[P]? = some p → p.Sound) (hs : w.Step w') :
    w.Custody w' := by
  obtain ⟨id, h⟩ | ⟨call, context?, client?, conclude, name?, hasking, rfl⟩ | h := hs.cases_outside
  · exact custody_of_turn hp h
  · exact custody_ask hasking context? client? conclude name?
  · exact h.custody

end World

end ServiceBus.Bus
