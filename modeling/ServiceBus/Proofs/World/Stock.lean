import ServiceBus.Proofs.Bus.Buffers
import ServiceBus.Proofs.World.Readers

/-! # What inboxes hold

Who changes the buffer of an inbox: the call that stores its request in it, and the reader of the
inbox.

* `World.Stocks`: what a step does with the buffers.
* `Step.stocks`: every step does one of these things. -/

namespace ServiceBus.Bus

namespace World

variable {w w' v : World} {id j c i P : Nat} {r : Request}

/-! ### Steps -/

/-- **What a step does with the buffers** of inboxes. -/
inductive Stocks (w w' : World) : Prop
  /-- Readers take requests out of their inboxes at most. -/
  | thins (touched : InboxId → Prop) (h : MemoryBus.Thins touched w.bus w'.bus)
      (readers : ∀ i, touched i → ∃ x, w.Reads x i ∧ ∀ id, x = .task id → w.turn id = some w')
  /-- A call stores its request. -/
  | enters (id c k : Nat) (exchanges : w.Exchanges id c) (turn : w.turn id = some w')
      (h : MemoryBus.Enters c k w.bus w'.bus)

/-- A step in which no reader has a part. -/
theorem Stocks.quiet (h : MemoryBus.Thins (fun _ => False) w.bus w'.bus) : w.Stocks w' :=
  .thins _ h fun _ hi => absurd hi fun h => h

/-- A step that leaves the bus alone. -/
theorem Stocks.same (h : w'.bus = w.bus) : w.Stocks w' := .quiet (.same (by rw [h]))

/-- A task takes requests out of its inbox. -/
theorem Stocks.task (h : MemoryBus.Thins (· = i) w.bus w'.bus) (hr : w.Reads (.task id) i)
    (hturn : w.turn id = some w') : w.Stocks w' :=
  .thins _ h fun k hk => ⟨.task id, hk ▸ hr, fun id' heq => by
    cases heq
    exact hturn⟩

/-- A task that waits for a request takes one out of its inbox, and may give a subscription up. -/
theorem stocks_receive {subscription request : String} {inbox : InboxId}
    (hp : w.program? id = some (.receive subscription inbox request)) (hturn : w.turn id = some w')
    (h : w.turnReceive id subscription inbox request = some w') : w.Stocks w' := by
  obtain ⟨b, hb, hbus, -, -⟩ := turnReceive_effect h
  have htaken : MemoryBus.Thins (· = inbox) w.bus b := by
    rcases hb with ⟨r, b', htake, ⟨rfl, -⟩ | ⟨old, -, rfl⟩, -⟩ | ⟨rfl, -⟩
    · exact MemoryBus.thins_take htake
    · have hdrop : MemoryBus.Thins (· = inbox) b' (b'.drop old) := b'.thins_drop old
      exact ((MemoryBus.thins_take htake).trans hdrop).mono fun i hi => hi.elim (fun h => h) fun h => h
    · exact .same rfl
  have hself : ∀ id', Reader.task id = .task id' → w.turn id' = some w' := fun id' heq => by
    cases heq
    exact hturn
  rcases hbus with hbus | ⟨k, hk, hbus⟩
  · exact .task (hbus ▸ htaken) (reads_receive hp) hturn
  · refine .thins _ (hbus ▸ htaken.trans (b.thins_discardInbox k)) fun i hi => ?_
    rcases hi with rfl | rfl
    · exact ⟨.task id, reads_receive hp, hself⟩
    · exact ⟨.name subscription, hk, fun id' heq => nomatch heq⟩

/-- A call that has its turn stores its request at most. -/
theorem stocks_exchange {context? : Option Context} {begun : Bool} {client? : Option ClientId}
    {conclude : Except TransportError Message → Logged Outcome}
    (hp : w.program? id = some (.exchange c context? begun client? conclude))
    (hturn : w.turn id = some w')
    (h : w.turnExchange id c context? begun client? conclude = some w') : w.Stocks w' := by
  have hex : w.Exchanges id c := exchanges_of_program hp
  have hpoll : ∀ {v : World}, v.bus = (w.bus.poll c).1 → w'.bus = v.bus → w.Stocks w' := by
    intro v hv hw
    rcases w.bus.poll_cases c with hthin | ⟨k, hk⟩
    · exact .quiet (by rw [hw, hv]; exact hthin)
    · exact .enters id c k hex hturn (by rw [hw, hv]; exact hk)
  obtain ⟨v, result, rfl, hcase⟩ | ⟨-, -, rfl⟩ := turnExchange_cases h
  · have hbus := (alone_finish (v.absorb (conclude result)) id (conclude result).value).bus
    have hbus : ((v.absorb (conclude result)).finish id (conclude result).value).bus = v.bus := hbus
    rcases hcase with ⟨e, -, -, rfl, -⟩ | ⟨rfl, -⟩ | ⟨e, -, -, rfl, -⟩
    · refine .quiet ?_
      rw [hbus]
      exact w.bus.thins_abandon c
    · exact hpoll rfl hbus
    · have hafter : MemoryBus.Thins (fun _ => False) (w.bus.poll c).1
          ((w.bus.poll c).1.abandon c) := (w.bus.poll c).1.thins_abandon c
      rcases w.bus.poll_cases c with hthin | ⟨k, hk⟩
      · refine .quiet ?_
        rw [hbus]
        exact (hthin.trans hafter).mono fun i hi => hi.elim (fun h => h) fun h => h
      · refine .enters id c k hex hturn ?_
        rw [hbus]
        exact hk.abandon
  · exact hpoll (v := w.withBus (w.bus.poll c).1) rfl rfl

/-- What a step of a script does on the bus leaves the buffers alone. -/
theorem thins_turnRun {run : Run} {progress : Progress Run} {touched : InboxId → Prop}
    (h : w.turnRun id run = some (v, progress)) : MemoryBus.Thins touched w.bus v.bus := by
  rcases turnRun_bus h with ⟨-, hbus, -⟩ | ⟨_, _, _, _, -, -, -, ⟨hbus, -⟩ | ⟨d, -, hbus⟩⟩ |
    ⟨hbus, -⟩
  · rw [hbus]
    exact w.bus.thins_drop run.request
  · exact .same (by rw [hbus])
  · rw [hbus]
    exact w.bus.thins_answer d _
  · exact .same (by rw [hbus])

/-- What a turn does with the buffers. -/
theorem stocks_of_turn (h : w.turn id = some w') : w.Stocks w' := by
  cases deed_of_turn h with
  | quiet _ _ _ bus => exact .same bus
  | exchange call context? begun client? conclude program turn =>
    exact stocks_exchange program h turn
  | receive subscription request inbox program turn => exact stocks_receive program h turn
  | drain d _ _ _ bus => exact .quiet (bus ▸ w.bus.thins_closeInbox d.inbox)
  | leave d program _ _ _ bus =>
    exact .task (bus ▸ w.bus.thins_discardInbox d.inbox) (reads_deliver program) h
  | take d request program _ taken =>
    exact .task (MemoryBus.thins_take taken) (reads_deliver program) h
  | submit v pool s placement _ _ _ _ next =>
    cases next with
    | onward _ _ bus => exact .same bus
    | queued _ bus => exact .same bus
    | refused _ bus => exact .same bus
    | returned job _ bus => exact .quiet (bus ▸ w.bus.thins_drop job.request)
  | run v run next _ turn _ bus => exact .quiet (bus ▸ thins_turnRun turn)
  | finish v run progress _ turn _ _ _ bus =>
    rcases bus with bus | ⟨d, program, -, bus⟩
    · exact .quiet (bus ▸ thins_turnRun turn)
    · have hrun : MemoryBus.Thins (· = d.inbox) w.bus v.bus := thins_turnRun turn
      refine .task (bus ▸ (hrun.trans (v.bus.thins_discardInbox d.inbox)).mono fun i hi => ?_)
        (reads_deliver program) h
      exact hi.elim (fun h => h) fun h => h
  | pick _ _ _ _ _ _ _ _ _ bus => exact .same bus
  | exit _ _ _ _ _ _ _ _ bus => exact .same bus

/-- Naming a subscription gives up the one that had the name at most. -/
theorem stocks_nameSubscription {name : String} {inbox : InboxId} {bus : MemoryBus}
    (h : MemoryBus.Thins (fun _ => False) w.bus bus)
    (hw' : w'.bus = ((w.withBus bus).nameSubscription name inbox).bus) : w.Stocks w' := by
  obtain ⟨bus', hw, hbus | ⟨old, hold, hbus⟩⟩ := (w.withBus bus).nameSubscription_cases name inbox
  · replace hw' : w'.bus = bus := hw'.trans ((congrArg World.bus hw).trans hbus)
    exact .quiet (hw' ▸ h)
  · replace hw' : w'.bus = bus.discardInbox old := hw'.trans ((congrArg World.bus hw).trans hbus)
    refine .thins _ (hw' ▸ h.trans (bus.thins_discardInbox old)) fun i hi => ?_
    rcases hi with hi | rfl
    · exact absurd hi fun h => h
    · exact ⟨.name name, hold, by rintro id ⟨⟩⟩

/-- **Every step changes buffers in one of these ways.** -/
theorem Step.stocks (hs : w.Step w') : w.Stocks w' := by
  cases hs with
  | turn id h => exact stocks_of_turn h
  | subscribe name subject hbus => exact stocks_nameSubscription (MemoryBus.thins_subscribe hbus) rfl
  | closeSubscription name inbox => exact .quiet (w.bus.thins_closeInbox inbox)
  | dropSubscription name inbox h =>
    refine .thins _ (w.bus.thins_discardInbox inbox) fun i hi => ?_
    exact ⟨.name name, hi ▸ h, fun id heq => nomatch heq⟩
  | closeBus => exact .quiet w.bus.thins_close
  | respond name request headers payload =>
    rcases (w.reply_bus request headers payload).2 with ⟨hbus, -⟩ | ⟨d, -, hbus⟩
    · exact .same hbus
    · exact .quiet (hbus ▸ w.bus.thins_answer d _)
  | dropRequest name request => exact .quiet (w.bus.thins_drop request)
  | openPool requested =>
    obtain ⟨log, hw⟩ := w.openPool_eq requested
    exact .same (by rw [hw])
  | reapPool pool =>
    obtain hw | ⟨p, -, hw⟩ := w.reapPool_eq pool
    · exact .same (by rw [hw])
    · exact .same (by rw [hw]; rfl)
  | openService config hw =>
    obtain ⟨log, rfl⟩ := openService_eq hw
    exact .same rfl
  | @openEndpoint s context config handler service _ hservice hw =>
    obtain ⟨-, bus, log, inbox, hbus, -, rfl⟩ := openEndpoint_cases hw
    exact .quiet (MemoryBus.thins_subscribe hbus)
  | pair s pool hservice =>
    obtain ⟨log, hw⟩ := pairService_eq hservice pool
    exact .same (by rw [hw])
  | ask => exact .quiet (.same rfl)
  | clock | aside | names | scopes | start | receive | closePool => exact .same rfl

end World

end ServiceBus.Bus
