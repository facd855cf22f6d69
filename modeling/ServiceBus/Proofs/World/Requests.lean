import ServiceBus.Proofs.Pool.Jobs
import ServiceBus.Proofs.World.Deeds
import ServiceBus.Proofs.World.Services

/-! # Who has the request of a call

The request of a call is stored in an inbox, held by name, offered to a pool, held by a pool or run. It
passes from one to another, and none of them gives it up without the call being told.

* `World.Held`: whether somebody has the request of a call.
* `World.Custody`: what a step does with requests: where each may have come from, how calls are
  answered or lost, and that a call that waits keeps somebody who has its request. -/

namespace ServiceBus.Bus

/-! ### Names -/

section Names

variable {α : Type} {names : Names α} {k n : String} {a b : α}

/-- What has a name after something was named. -/
theorem names_insert : (names.insert k a)[n]? = some b ↔ n = k ∧ b = a ∨ n ≠ k ∧ names[n]? = some b := by
  rw [Std.TreeMap.getElem?_insert]
  by_cases h : n = k
  · rw [if_pos (Std.compare_eq_iff_eq.mpr h.symm)]
    simp [h, eq_comm]
  · rw [if_neg fun heq => h (Std.compare_eq_iff_eq.mp heq).symm]
    simp [h]

/-- What has a name after one was given up. -/
theorem names_erase : (names.erase k)[n]? = some b ↔ n ≠ k ∧ names[n]? = some b := by
  rw [Std.TreeMap.getElem?_erase]
  by_cases h : n = k
  · rw [if_pos (Std.compare_eq_iff_eq.mpr h.symm)]
    simp [h]
  · rw [if_neg fun heq => h (Std.compare_eq_iff_eq.mp heq).symm]
    simp [h]

end Names

namespace World

variable {w w' v : World} {id c i P : Nat} {r : Request}

/-! ### Who has a request -/

/-- Whether somebody has the request of a call. -/
inductive Held (w : World) (c : CallId) : Prop
  | stored (i : InboxId) (r : Request) (h : w.bus.Stores i r) (of : r.IsOf c)
  | named (name : String) (r : Request) (h : w.desk.requests[name]? = some r) (of : r.IsOf c)
  | offered (id : TaskId) (pool : PoolId) (job : Job)
      (h : w.hand? id = some (.submitting pool (.offered job))) (of : job.request.IsOf c)
  | pooled (pool : PoolId) (p : WorkerPool Job) (job : Job) (h : w.pools[pool]? = some p)
      (mem : job ∈ p.jobs) (of : job.request.IsOf c)
  | running (id : TaskId) (run : Run) (h : w.hand? id = some (.running run))
      (of : run.request.IsOf c)

/-- Whether there is a task that sees a call through. -/
def Exchanges (w : World) (id : TaskId) (c : CallId) : Prop :=
  ∃ context? conclude, w.role? id = some (.exchange c context? conclude)

/-- Where the run of a task may have come from. -/
inductive Resumes (w : World) (id : TaskId) (run : Run) : Prop
  /-- A delivery runs the request itself. -/
  | taken (d : Delivery) (h : w.program? id = some (.deliver d)) (pool : d.handler.pool? = none)
      (stored : w.bus.Stores d.inbox run.request)
      (script : run.script = d.handler.script run.request)
  /-- The pool is closed, and the request has to be refused. -/
  | refused (pool : PoolId) (p : WorkerPool Job) (job : Job) (h : w.pools[pool]? = some p)
      (shut : p.isShut = true) (request : run.request = job.request)
      (had : job ∈ p.jobs ∨ w.hand? id = some (.submitting pool (.offered job)))
      (script : run.script = .reject run.request.subject)
  /-- An executor took the job. -/
  | picked (pool : PoolId) (i : Nat) (p : WorkerPool Job) (job : Job)
      (h : w.pools[pool]? = some p) (role : w.role? id = some (.execute pool i))
      (mem : job ∈ p.jobs) (run_eq : run = job.run)
  /-- The script went on. -/
  | went (before : Run) (v : World) (h : w.hand? id = some (.running before))
      (turn : w.turnRun id before = some (v, .going run))

/-- Whether somebody replies to a call. -/
inductive Replies (w : World) (c : CallId) (reply : Message) : Prop
  | script (id : TaskId) (run : Run) (h : w.hand? id = some (.running run))
      (of : run.request.IsOf c) (headers : Headers) (payload : Bytes)
      (next : Except TransportError Unit → Script)
      (script : run.script = .reply headers payload next)
      (eq : reply = run.request.reply headers payload)
  | named (name : String) (r : Request) (h : w.desk.requests[name]? = some r) (of : r.IsOf c)

/-- Who may give the request of a call up, in a step to the world `w'`. -/
inductive Loses (w w' : World) (c : CallId) : Prop
  /-- The script ends, or crashes. -/
  | script (id : TaskId) (run : Run) (h : w.hand? id = some (.running run))
      (of : run.request.IsOf c) (end' : run.script = .stop ∨ run.script = .crash)
  /-- The delivery ends. -/
  | delivery (id : TaskId) (d : Delivery) (r : Request) (h : w.program? id = some (.deliver d))
      (end' : w'.program? id = none) (stored : w.bus.Stores d.inbox r) (of : r.IsOf c)
  /-- The subscription is given up. -/
  | subscription (name : String) (i : InboxId) (r : Request)
      (h : w.desk.subscriptions[name]? = some i) (stored : w.bus.Stores i r) (of : r.IsOf c)
  | named (name : String) (r : Request) (h : w.desk.requests[name]? = some r) (of : r.IsOf c)
  /-- The pool is closed. -/
  | shut (pool : PoolId) (p : WorkerPool Job) (job : Job) (h : w.pools[pool]? = some p)
      (closed : p.isShut = true)
      (had : job ∈ p.jobs ∨ ∃ id : Nat, w.hand? id = some (.submitting pool (.offered job)))
      (of : job.request.IsOf c)

/-- **What a step does with the requests of calls.** -/
structure Custody (w w' : World) : Prop where
  stored : ∀ (c i : Nat) r, r.IsOf c → w'.bus.Stores i r →
    w.bus.Stores i r ∨ ∃ id, w.Exchanges id c
  named : ∀ (c : Nat) name r, r.IsOf c → w'.desk.requests[name]? = some r →
    w.desk.requests[name]? = some r ∨ ∃ (id : Nat) (subscription : String) (i : Nat),
      w.program? id = some (.receive subscription i name) ∧ w.bus.Stores i r
  offered : ∀ (c id P : Nat) job, job.request.IsOf c →
    w'.hand? id = some (.submitting P (.offered job)) →
    w.hand? id = some (.submitting P (.offered job)) ∨
      ∃ d, w.program? id = some (.deliver d) ∧ d.handler.pool? = some P ∧
        w.bus.Stores d.inbox job.request ∧ job.script = d.handler.script job.request
  pooled : ∀ (c P : Nat) p' job, job.request.IsOf c → w'.pools[P]? = some p' → job ∈ p'.jobs →
    (∃ p, w.pools[P]? = some p ∧ job ∈ p.jobs) ∨
      ∃ id : Nat, w.hand? id = some (.submitting P (.offered job))
  running : ∀ (c id : Nat) run, run.request.IsOf c → w'.hand? id = some (.running run) →
    w.hand? id = some (.running run) ∨ w.Resumes id run
  stages : ∀ c : Nat, w.bus.stage? c = none ∧ w'.bus.stage? c = some .asking ∨
    w'.bus.stage? c = w.bus.stage? c ∨
    (∃ id, w.Exchanges id c ∧ w.turn id = some w') ∨
    (∃ i, w.bus.stage? c = some (.waiting i) ∧ (∃ reply,
      w'.bus.stage? c = some (.answered i reply) ∧ w.Replies c reply)) ∨
    ∃ i, w.bus.stage? c = some (.waiting i) ∧ w'.bus.stage? c = some (.lost i) ∧ w.Loses w' c
  held : ∀ c, w.Held c → w'.bus.Waits c → w'.Held c

/-! ### Turns of scripts -/

/-- What a reply does on the bus, and to the request. -/
theorem reply_bus (w : World) (request : Request) (headers : Headers) (payload : Bytes) :
    (w.reply request headers payload).2.1.replyTo? = none ∧
      ((w.reply request headers payload).1.bus = w.bus ∧ (∀ c, ¬ request.IsOf c) ∨
        ∃ c, request.IsOf c ∧ (w.reply request headers payload).1.bus =
          (w.bus.answer c (request.reply headers payload)).1) := by
  rw [reply]
  cases haddress : request.replyTo? with
  | none =>
    exact ⟨haddress, Or.inl ⟨rfl, fun c hc => by rw [Request.IsOf, haddress] at hc; cases hc⟩⟩
  | some address =>
    refine ⟨rfl, ?_⟩
    cases address with
    | call c => exact Or.inr ⟨c, haddress, rfl⟩
    | journal label =>
      exact Or.inl ⟨rfl, fun c hc => by rw [Request.IsOf, haddress] at hc; cases hc⟩
    | broken => exact Or.inl ⟨rfl, fun c hc => by rw [Request.IsOf, haddress] at hc; cases hc⟩

/-- What a step of a script does on the bus, and to the request. -/
theorem turnRun_bus {run : Run} {progress : Progress Run}
    (h : w.turnRun id run = some (v, progress)) :
    ((run.script = .stop ∨ run.script = .crash) ∧ v.bus = w.bus.drop run.request ∧
      ∀ next, progress ≠ .going next) ∨
    (∃ headers payload next next', run.script = .reply headers payload next ∧
      progress = .going next' ∧ next'.request.replyTo? = none ∧
      (v.bus = w.bus ∧ (∀ c, ¬ run.request.IsOf c) ∨ ∃ c, run.request.IsOf c ∧
        v.bus = (w.bus.answer c (run.request.reply headers payload)).1)) ∨
    (v.bus = w.bus ∧ (∀ headers payload next, run.script ≠ .reply headers payload next) ∧
      ∃ next, progress = .going next ∧ next.request = run.request) := by
  cases runStep_of_turnRun h with
  | stop script => exact Or.inl ⟨Or.inl script, rfl, by simp⟩
  | crash script => exact Or.inl ⟨Or.inr script, rfl, by simp⟩
  | reply headers payload next script replied =>
    obtain ⟨hnone, hbus⟩ := reply_bus w run.request headers payload
    rw [replied] at hnone hbus
    exact Or.inr (Or.inl ⟨headers, payload, next, _, script, rfl, hnone, hbus⟩)
  | pass payload next script hpass =>
    obtain ⟨g, rfl⟩ := pass?_eq hpass
    exact Or.inr (Or.inr ⟨rfl, by simp [script], _, rfl, by split <;> rfl⟩)
  | note _ _ script | report _ _ script | pauses _ _ script | wakes _ _ script
  | awaitEnd _ _ script | inspect _ script | keep _ _ _ _ script =>
    exact Or.inr (Or.inr ⟨rfl, by simp [script], _, rfl, rfl⟩)

/-- What a step does on the bus. -/
inductive Tells (w w' : World) : Prop
  | releases (lost : Request → Prop) (gone : InboxId → Request → Prop)
      (h : w.bus.Releases lost gone w'.bus) (loses : ∀ r c, lost r → r.IsOf c → w.Loses w' c)
      (kept : ∀ i r c, gone i r → r.IsOf c → lost r ∨ w'.Held c)
  | answers (c : CallId) (reply : Message) (h : w'.bus = (w.bus.answer c reply).1)
      (replies : w.Replies c reply)
  | advances (id c : Nat) (exchanges : w.Exchanges id c) (turn : w.turn id = some w')
      (h : MemoryBus.Advances c w.bus w'.bus)

/-- A step that does nothing on the bus. -/
theorem Tells.refl (h : w'.bus = w.bus) : w.Tells w' :=
  .releases (fun _ => False) (fun _ _ => False) (h ▸ .refl _) (fun _ _ hr => absurd hr fun h => h)
    fun _ _ _ hr => absurd hr fun h => h

/-- A step that gives one request up. -/
theorem Tells.drop (h : w'.bus = w.bus.drop r) (hl : ∀ c, r.IsOf c → w.Loses w' c) : w.Tells w' :=
  .releases (· = r) (fun _ _ => False) (h ▸ w.bus.releases_drop r)
    (fun _ c hq hc => hl c (hq ▸ hc)) fun _ _ _ hr => absurd hr fun h => h

/-- A step that gives one inbox up. -/
theorem Tells.discard (h : w'.bus = w.bus.discardInbox i)
    (hl : ∀ r c, w.bus.Stores i r → r.IsOf c → w.Loses w' c) : w.Tells w' :=
  .releases (w.bus.Stores i) _ (h ▸ w.bus.releases_discardInbox i) hl
    fun _ _ _ hr _ => Or.inl hr.2

/-- Where a request may be stored after a step. -/
theorem Tells.stored (h : w.Tells w') (hc : r.IsOf c) (hr : w'.bus.Stores i r) :
    w.bus.Stores i r ∨ ∃ id, w.Exchanges id c := by
  cases h with
  | releases lost gone h => exact Or.inl (h.stores i r hr)
  | answers d reply h =>
    rw [h, MemoryBus.Stores, MemoryBus.inboxes_answer] at hr
    exact Or.inl hr
  | advances id d hex _ h =>
    rcases h.stores i r hr with hr | hd
    · exact Or.inl hr
    · rw [hc.eq hd]
      exact Or.inr ⟨id, hex⟩

/-- How far a call may be after a step. -/
theorem Tells.stages (h : w.Tells w') (c : Nat) : w'.bus.stage? c = w.bus.stage? c ∨
    (∃ id, w.Exchanges id c ∧ w.turn id = some w') ∨
    (∃ i, w.bus.stage? c = some (.waiting i) ∧ (∃ reply,
      w'.bus.stage? c = some (.answered i reply) ∧ w.Replies c reply)) ∨
    ∃ i, w.bus.stage? c = some (.waiting i) ∧ w'.bus.stage? c = some (.lost i) ∧ w.Loses w' c := by
  cases h with
  | releases lost gone h loses =>
    rcases h.stages c with hs | ⟨⟨r, hr, hc⟩, i, hi, hi'⟩
    · exact Or.inl hs
    · exact Or.inr (Or.inr (Or.inr ⟨i, hi, hi', loses r c hr hc⟩))
  | answers d reply h hreplies =>
    rw [h, MemoryBus.stage?_answer]
    by_cases hd : c = d
    · rw [if_pos hd, ← hd]
      cases hs : w.bus.stage? c with
      | none => exact Or.inl rfl
      | some s =>
        cases s with
        | waiting i => exact Or.inr (Or.inr (Or.inl ⟨i, rfl, reply, rfl, hd ▸ hreplies⟩))
        | _ => exact Or.inl rfl
    · rw [if_neg hd]
      exact Or.inl rfl
  | advances id d hex hturn h =>
    by_cases hd : c = d
    · exact Or.inr (Or.inl ⟨id, hd ▸ hex, hturn⟩)
    · exact Or.inl (h.stages c hd)

/-- A stored request of a call that waits after a step is still with somebody. -/
theorem Tells.held_stored (h : w.Tells w') (hr : w.bus.Stores i r) (hc : r.IsOf c)
    (hw : w'.bus.Waits c) : w'.Held c := by
  cases h with
  | releases lost gone h _ kept =>
    rcases h.stored i r hr with hs | hgone
    · exact .stored i r hs hc
    · exact (kept i r c hgone hc).resolve_left fun hlost => h.waits c hw r hlost hc
  | answers d reply h =>
    refine .stored i r ?_ hc
    rw [h, MemoryBus.Stores, MemoryBus.inboxes_answer]
    exact hr
  | advances id d _ _ h => exact .stored i r (h.stored i r hr) hc

/-- What a task that waits for a request does. -/
theorem turnReceive_effect {subscription request : String} {inbox : InboxId}
    (h : w.turnReceive id subscription inbox request = some w') : ∃ b : MemoryBus,
      ((∃ r b', w.bus.take? inbox = some (r, b') ∧
          (b = b' ∧ w.desk.requests[request]? = none ∨
            ∃ old, w.desk.requests[request]? = some old ∧ b = b'.drop old) ∧
          w'.desk.requests = w.desk.requests.insert request r) ∨
        b = w.bus ∧ w'.desk.requests = w.desk.requests) ∧
      (w'.bus = b ∨ ∃ j, w.desk.subscriptions[subscription]? = some j ∧ w'.bus = b.discardInbox j) ∧
      w'.desk.subscriptions = w.desk.subscriptions.insert subscription inbox ∧
      w'.program? id = none := by
  obtain ⟨r, b', htake, hw⟩ | hw := turnReceive_cases h
  · obtain ⟨b₁, hnamed, hdrop⟩ := (w.withBus b').nameRequest_cases request r
    obtain ⟨b₂, hback, hgiven⟩ :=
      ((w.withBus b').nameRequest request r).nameSubscription_cases subscription inbox
    rw [hnamed] at hback hgiven
    rw [hnamed, hback] at hw
    have ha := hw ▸ alone_finish _ id _
    refine ⟨b₁, Or.inl ⟨r, b', htake, hdrop, ?_⟩, ?_, ?_, hw ▸ program?_finish_self _ _ _⟩
    · rw [ha.desk]
      rfl
    · rw [ha.bus]
      exact hgiven
    · rw [ha.desk]
      rfl
  · obtain ⟨b₂, hback, hgiven⟩ := w.nameSubscription_cases subscription inbox
    rw [hback] at hw
    have ha := hw ▸ alone_finish _ id _
    refine ⟨w.bus, Or.inr ⟨rfl, ?_⟩, ?_, ?_, hw ▸ program?_finish_self _ _ _⟩
    · rw [ha.desk]
    · rw [ha.bus]
      exact hgiven
    · rw [ha.desk]

/-- A call that has its turn does what is its own. -/
theorem turnExchange_bus {call : CallId} {context? : Option Context} {begun : Bool}
    {client? : Option ClientId} {conclude : Except TransportError Message → Logged Outcome}
    (h : w.turnExchange id call context? begun client? conclude = some w') :
    MemoryBus.Advances call w.bus w'.bus := by
  obtain ⟨v, result, rfl, hcase⟩ | ⟨-, -, rfl⟩ := turnExchange_cases h
  · rw [(alone_finish (v.absorb (conclude result)) id (conclude result).value).bus]
    rcases hcase with ⟨e, -, -, rfl, -⟩ | ⟨rfl, -⟩ | ⟨e, -, -, rfl, -⟩
    · exact MemoryBus.advances_abandon _ _
    · exact MemoryBus.advances_poll _ _
    · exact (MemoryBus.advances_poll _ _).trans (MemoryBus.advances_abandon _ _)
  · exact MemoryBus.advances_poll _ _

/-- A job that is handed back was with the task or with the pool, and the pool is closed. -/
theorem turnSubmission_handedBack {pool : PoolId} {s : Submission} {job : Job}
    (hs : ∀ (P : Nat) p, w.pools[P]? = some p → p.Sound)
    (h : w.turnSubmission pool s = some (v, .handedBack job)) : ∃ p, w.pools[pool]? = some p ∧
      p.isShut = true ∧ (s = .offered job ∨ job ∈ p.jobs) := by
  obtain ⟨p, hp, ⟨job', rfl, -, hv⟩ | ⟨t, p', verdict, rfl, ha, -, hv⟩⟩ := turnSubmission_cases h
  · refine ⟨p, hp, ?_⟩
    rcases WorkerPool.submit_cases p job' with ⟨hn, hsubmit⟩ | ⟨-, hsubmit⟩
    · rw [hsubmit] at hv
      cases hv
      exact ⟨by simp [WorkerPool.isShut, hn], Or.inl rfl⟩
    · rw [hsubmit] at hv
      cases hv
  · refine ⟨p, hp, ?_⟩
    obtain ⟨hverdict | hverdict, -⟩ | ⟨job', hverdict, hshut, hjobs⟩ :=
      (hs pool p hp).mem_jobs_advance ha
    · rw [hverdict] at hv
      cases hv
    · rw [hverdict] at hv
      cases hv
    · rw [hverdict] at hv
      cases hv
      exact ⟨hshut, Or.inr ((hjobs job).mpr (Or.inl rfl))⟩

/-- Who begins with a request has it. -/
theorem held_begin {handler : Handler} {context : Context}
    (h : w.hand? id = some (handler.begin context r)) (hc : r.IsOf c) : w.Held c := by
  rw [Handler.begin] at h
  cases hpool : handler.pool? with
  | none =>
    rw [hpool] at h
    exact .running id _ h hc
  | some pool =>
    rw [hpool] at h
    exact .offered id pool _ h hc

/-- The bus in a turn in which a task takes a request that it waited for. -/
theorem tells_receive {subscription request : String} {inbox : InboxId}
    (h : w.turnReceive id subscription inbox request = some w') : w.Tells w' := by
  obtain ⟨b, hb, hbus, -, -⟩ := turnReceive_effect h
  obtain ⟨lost, gone, hb, hlost, hgone⟩ : ∃ lost gone, w.bus.Releases lost gone b ∧
      (∀ r c, lost r → r.IsOf c → w.Loses w' c) ∧
      ∀ i r c, gone i r → r.IsOf c → w'.Held c := by
    rcases hb with ⟨r, b', htake, hdrop, hrequests⟩ | ⟨rfl, -⟩
    · have hnamed : w'.desk.requests[request]? = some r := by
        rw [hrequests, Std.TreeMap.getElem?_insert_self]
      have hr := MemoryBus.releases_take htake
      rcases hdrop with ⟨rfl, -⟩ | ⟨old, hold, rfl⟩
      · exact ⟨_, _, hr, fun _ _ hf => absurd hf fun h => h,
          fun _ q c hq hc => .named request r hnamed (hq.2 ▸ hc)⟩
      · refine ⟨_, _, hr.trans (b'.releases_drop old), fun q c hq hc => ?_, fun _ q c hq hc => ?_⟩
        · rcases hq with hf | rfl
          · exact absurd hf fun h => h
          · exact .named request q hold hc
        · rcases hq with hq | hf
          · exact .named request r hnamed (hq.2 ▸ hc)
          · exact absurd hf fun h => h
    · exact ⟨_, _, .refl _, fun _ _ hf => absurd hf fun h => h,
        fun _ _ _ hf => absurd hf fun h => h⟩
  rcases hbus with hbus | ⟨j, hj, hbus⟩
  · exact .releases lost gone (hbus ▸ hb) hlost fun i r c hr hc => Or.inr (hgone i r c hr hc)
  · refine .releases _ _ (hbus ▸ hb.trans (b.releases_discardInbox j)) (fun r c hr hc => ?_)
      fun i r c hr hc => ?_
    · rcases hr with hr | hr
      · exact hlost r c hr hc
      · exact .subscription subscription j r hj (hb.stores j r hr) hc
    · rcases hr with hr | hr
      · exact Or.inr (hgone i r c hr hc)
      · exact Or.inl (Or.inr hr.2)

/-- **What a turn does on the bus.** -/
theorem tells_of_turn (hs : ∀ (P : Nat) p, w.pools[P]? = some p → p.Sound)
    (h : w.turn id = some w') : w.Tells w' := by
  cases deed_of_turn h with
  | quiet _ _ _ bus => exact .refl bus
  | exchange call context? begun client? conclude program turn =>
    exact .advances id call ⟨context?, conclude, role?_eq program⟩ h (turnExchange_bus turn)
  | receive subscription request inbox program turn => exact tells_receive turn
  | drain d _ _ _ bus =>
    exact .releases _ _ (bus ▸ w.bus.releases_closeInbox d.inbox)
      (fun _ _ hr => absurd hr fun h => h) fun _ _ _ hr => absurd hr fun h => h
  | leave d program _ _ end' bus =>
    exact .discard bus fun r c hr hc => .delivery id d r program end' hr hc
  | take d request program _ taken hand' =>
    refine .releases _ _ (MemoryBus.releases_take taken) (fun _ _ hr => absurd hr fun h => h)
      fun i r c hr hc => Or.inr ?_
    rw [hr.2] at hc
    exact held_begin hand' hc
  | submit v pool s placement hand turn _ _ next =>
    cases next with
    | onward _ _ bus => exact .refl bus
    | queued _ bus => exact .refl bus
    | refused _ bus => exact .refl bus
    | returned job _ bus =>
      obtain ⟨p, hp, hshut, hjob⟩ := turnSubmission_handedBack hs turn
      refine .drop bus fun c hc => .shut pool p job hp hshut ?_ hc
      rcases hjob with rfl | hjob
      · exact Or.inr ⟨id, hand⟩
      · exact Or.inl hjob
  | run v run next hand turn _ bus =>
    rcases turnRun_bus turn with ⟨-, -, hnone⟩ | ⟨headers, payload, after, next', hscript, -, -, hbus⟩ |
      ⟨hbus, -⟩
    · exact absurd rfl (hnone next)
    · rcases hbus with ⟨hbus, -⟩ | ⟨c, hc, hbus⟩
      · exact .refl (bus.trans hbus)
      · exact .answers c _ (bus.trans hbus)
          (.script id run hand hc headers payload after hscript rfl)
    · exact .refl (bus.trans hbus)
  | finish v run progress hand turn over' _ _ bus =>
    rcases turnRun_bus turn with ⟨hend, hbus, -⟩ | ⟨_, _, _, next, -, hnext, -⟩ |
      ⟨-, -, next, hnext, -⟩
    · rcases bus with bus | ⟨d, hp, hend', bus⟩
      · exact .drop (bus.trans hbus) fun c hc => .script id run hand hc hend
      · rw [hbus] at bus
        have hr := (w.bus.releases_drop run.request).trans
          ((w.bus.drop run.request).releases_discardInbox d.inbox)
        refine .releases _ _ (bus ▸ hr) (fun r c hr hc => ?_) fun i r c hr hc => ?_
        · rcases hr with rfl | hr
          · exact .script id run hand hc hend
          · rw [MemoryBus.Stores, MemoryBus.inboxes_drop] at hr
            exact .delivery id d r hp hend' hr hc
        · exact Or.inl (hr.imp (fun h => absurd h fun h => h) And.right)
    · exact absurd hnext (over' next)
    · exact absurd hnext (over' next)
  | pick _ _ _ _ _ _ _ _ _ bus => exact .refl bus
  | exit _ _ _ _ _ _ _ _ bus => exact .refl bus

/-! ### What a turn does with requests -/

/-- What a step of a submission does with the jobs of the pool. -/
theorem turnSubmission_jobs {pool : PoolId} {s : Submission} {placement : Placement}
    (hs : ∀ (P : Nat) p, w.pools[P]? = some p → p.Sound)
    (h : w.turnSubmission pool s = some (v, placement)) : ∃ p p', Puts pool p p' w v ∧
      (∀ job, job ∈ p'.jobs → job ∈ p.jobs ∨ s = .offered job) ∧
      (∀ job, job ∈ p.jobs ∨ s = .offered job → job ∈ p'.jobs ∨ placement = .handedBack job) := by
  obtain ⟨p, hp, ⟨job, rfl, rfl, rfl⟩ | ⟨t, p', verdict, rfl, ha, rfl, rfl⟩⟩ :=
    turnSubmission_cases h
  · refine ⟨p, _, ⟨hp, rfl⟩, fun job' hj => ?_, fun job' hj => ?_⟩
    · rcases WorkerPool.mem_jobs_submit.mp hj with hj | ⟨-, rfl⟩
      · exact Or.inl hj
      · exact Or.inr rfl
    · rcases hj with hj | hj
      · exact Or.inl (WorkerPool.mem_jobs_submit.mpr (Or.inl hj))
      · cases hj
        rcases WorkerPool.submit_cases p job with ⟨-, hv⟩ | ⟨hn, -⟩
        · exact Or.inr (by rw [hv]; rfl)
        · exact Or.inl (WorkerPool.mem_jobs_submit.mpr (Or.inr ⟨hn, rfl⟩))
  · refine ⟨p, p', ⟨hp, rfl⟩, fun job hj => Or.inl ?_, fun job hj => ?_⟩
    · obtain ⟨-, hjobs⟩ | ⟨job', -, -, hjobs⟩ := (hs pool p hp).mem_jobs_advance ha
      · exact (hjobs job).mp hj
      · exact (hjobs job).mpr (Or.inr hj)
    · have hj := hj.resolve_right (by simp)
      obtain ⟨-, hjobs⟩ | ⟨job', rfl, -, hjobs⟩ := (hs pool p hp).mem_jobs_advance ha
      · exact Or.inl ((hjobs job).mpr hj)
      · rcases (hjobs job).mp hj with rfl | hj
        · exact Or.inr rfl
        · exact Or.inl hj

/-- Where the jobs of the pools come from, if one pool is put in the place of another. -/
theorem Puts.pooled {pool Q : Nat} {p p' q : WorkerPool Job} {job : Job}
    (hp : Puts pool p p' w w') (hq : w'.pools[Q]? = some q) (hj : job ∈ q.jobs)
    {P : Prop} (hjobs : Q = pool → job ∈ p'.jobs → job ∈ p.jobs ∨ P) :
    (∃ q, w.pools[Q]? = some q ∧ job ∈ q.jobs) ∨ P := by
  rcases hp.pools_iff.mp hq with ⟨hQ, rfl⟩ | ⟨-, hq⟩
  · exact (hjobs hQ hj).imp_left fun hj => ⟨p, hQ ▸ hp.before, hj⟩
  · exact Or.inl ⟨q, hq, hj⟩

/-- A job is still in its pool, if its pool is not the one that was changed or if that has it. -/
theorem Puts.held {pool Q : Nat} {p p' q : WorkerPool Job} {job : Job}
    (hp : Puts pool p p' w w') (hq : w.pools[Q]? = some q) (hj : job ∈ q.jobs)
    (hc : job.request.IsOf c) (hjobs : job ∈ p.jobs → job ∈ p'.jobs ∨ w'.Held c) : w'.Held c := by
  rcases hp.forth hq with ⟨rfl, rfl, hq'⟩ | ⟨-, hq'⟩
  · rcases hjobs hj with hj | hheld
    · exact .pooled Q p' job hq' hj hc
    · exact hheld
  · exact .pooled Q q job hq' hj hc

/-- Pools that are marked have the jobs that they had. -/
theorem jobs_marks {p p' : WorkerPool Job} (h : p.Marks p') : p'.jobs = p.jobs := by
  obtain ⟨_, _, _, _, rfl⟩ := h
  rfl

/-- What the other tasks have in hand. -/
theorem hand?_of_turn (h : w.turn id = some w') {j : Nat} (hj : j ≠ id) :
    w'.hand? j = w.hand? j := by
  rw [hand?, hand?, (others_of_turn h).2 j hj]

/-- Where a named request comes from in a turn. -/
theorem named_of_turn {name : String} (h : w.turn id = some w')
    (hr : w'.desk.requests[name]? = some r) : w.desk.requests[name]? = some r ∨
      ∃ (id : Nat) (subscription : String) (i : Nat),
        w.program? id = some (.receive subscription i name) ∧ w.bus.Stores i r := by
  rcases desk_of_turn h with hdesk | ⟨subscription, request, inbox, program, turn⟩
  · exact Or.inl (hdesk ▸ hr)
  · obtain ⟨b, ⟨q, b', htake, -, hrequests⟩ | ⟨-, hrequests⟩, -⟩ := turnReceive_effect turn
    · rw [hrequests] at hr
      rcases names_insert.mp hr with ⟨rfl, rfl⟩ | ⟨-, hr⟩
      · have hstored := (MemoryBus.stores_take (j := 0) (q := r) htake).2.2
        exact Or.inr ⟨id, subscription, inbox, program, hstored⟩
      · exact Or.inl hr
    · rw [hrequests] at hr
      exact Or.inl hr

/-- Where an offered job comes from in a turn. -/
theorem offered_of_turn {j : Nat} {job : Job} (h : w.turn id = some w')
    (hj : w'.hand? j = some (.submitting P (.offered job))) :
    w.hand? j = some (.submitting P (.offered job)) ∨
      ∃ d, w.program? j = some (.deliver d) ∧ d.handler.pool? = some P ∧
        w.bus.Stores d.inbox job.request ∧ job.script = d.handler.script job.request := by
  by_cases hne : j = id
  · rw [hne] at hj ⊢
    cases comesTo_of_turn h hj with
    | offers d request _ program _ taken bound =>
      exact Or.inr ⟨d, program, bound, (MemoryBus.stores_take (j := 0) (q := request) taken).2.2, rfl⟩
  · exact Or.inl ((hand?_of_turn h hne).symm.trans hj)

/-- Where a run comes from in a turn. -/
theorem running_of_turn {j : Nat} {run : Run} (hs : ∀ (P : Nat) p, w.pools[P]? = some p → p.Sound)
    (h : w.turn id = some w') (hj : w'.hand? j = some (.running run)) :
    w.hand? j = some (.running run) ∨ w.Resumes j run := by
  by_cases hne : j = id
  · rw [hne] at hj ⊢
    refine Or.inr ?_
    cases comesTo_of_turn h hj with
    | begins d request program _ taken unbound =>
      exact .taken d program unbound (MemoryBus.stores_take (j := 0) (q := request) taken).2.2 rfl
    | refuses v pool s job hand turn =>
      obtain ⟨p, hp, hshut, hjob⟩ := turnSubmission_handedBack hs turn
      refine .refused pool p job hp hshut rfl ?_ rfl
      rcases hjob with rfl | hjob
      · exact Or.inr hand
      · exact Or.inl hjob
    | goesOn v before _ hand turn => exact .went before v hand turn
    | picks pool i p p' job program taken puts =>
      exact .picked pool i p job puts.before (role?_eq program)
        ((WorkerPool.mem_jobs_take taken).mpr (Or.inl rfl)) rfl
  · exact Or.inl ((hand?_of_turn h hne).symm.trans hj)

/-- Where the job of a pool comes from in a turn. -/
theorem pooled_of_turn {p' : WorkerPool Job} {job : Job}
    (hs : ∀ (P : Nat) p, w.pools[P]? = some p → p.Sound)
    (h : w.turn id = some w') (hp : w'.pools[P]? = some p') (hj : job ∈ p'.jobs) :
    (∃ p, w.pools[P]? = some p ∧ job ∈ p.jobs) ∨
      ∃ id : Nat, w.hand? id = some (.submitting P (.offered job)) := by
  have hsame : w'.pools = w.pools → ∃ p, w.pools[P]? = some p ∧ job ∈ p.jobs := fun hpools =>
    ⟨p', hpools ▸ hp, hj⟩
  cases deed_of_turn h with
  | quiet _ _ _ _ _ pools =>
    rcases pools with pools | ⟨pool, p, q, hputs, hmarks⟩
    · exact Or.inl (hsame pools)
    · exact hputs.pooled hp hj fun _ hj => Or.inl (jobs_marks hmarks ▸ hj)
  | exchange _ _ _ _ _ _ _ _ _ pools => exact Or.inl (hsame pools)
  | receive _ _ _ _ _ _ pools => exact Or.inl (hsame pools)
  | drain _ _ _ _ _ _ pools => exact Or.inl (hsame pools)
  | leave _ _ _ _ _ _ _ pools => exact Or.inl (hsame pools)
  | take _ _ _ _ _ _ _ pools => exact Or.inl (hsame pools)
  | submit v pool s placement hand turn pools =>
    obtain ⟨p, q, hputs, hback, -⟩ := turnSubmission_jobs hs turn
    have hputs' : Puts pool p q w w' := ⟨hputs.before, pools.trans hputs.pools⟩
    refine hputs'.pooled hp hj fun hP hj => (hback job hj).imp_right fun hoffer => ⟨id, ?_⟩
    rw [hand, hoffer, hP]
  | run _ _ _ _ _ _ _ pools => exact Or.inl (hsame pools)
  | finish _ _ _ _ _ _ _ _ _ pools =>
    rcases pools with ⟨-, pools⟩ | ⟨pool, i, p, -, -, hputs⟩
    · exact Or.inl (hsame pools)
    · exact hputs.pooled hp hj fun _ hj => Or.inl (p.jobs_finish i ▸ hj)
  | pick pool i p q job' program taken puts =>
    exact puts.pooled hp hj fun _ hj => Or.inl ((WorkerPool.mem_jobs_take taken).mpr (Or.inr hj))
  | exit pool i p q program taken puts =>
    exact puts.pooled hp hj fun _ hj => Or.inl (WorkerPool.jobs_exit taken ▸ hj)

/-- A request that has a name keeps it in a turn, or is given up. -/
theorem held_named_of_turn {name : String} (h : w.turn id = some w')
    (hr : w.desk.requests[name]? = some r) (hc : r.IsOf c) (hw : w'.bus.Waits c) : w'.Held c := by
  rcases desk_of_turn h with hdesk | ⟨subscription, request, inbox, program, turn⟩
  · exact .named name r (hdesk ▸ hr) hc
  · obtain ⟨b, ⟨q, b', htake, hdrop, hrequests⟩ | ⟨-, hrequests⟩, hbus, -⟩ := turnReceive_effect turn
    · by_cases hname : name = request
      · -- The old request of the name is given up, so its call does not wait.
        have hwaits : b.Waits c := by
          rcases hbus with hbus | ⟨j, -, hbus⟩
          · rwa [hbus] at hw
          · rw [hbus] at hw
            exact (MemoryBus.waits_discardInbox hw).1
        rw [hname] at hr
        rcases hdrop with ⟨-, hnone⟩ | ⟨old, hold, rfl⟩
        · rw [hnone] at hr
          cases hr
        · rw [hold] at hr
          cases hr
          exact absurd hc (MemoryBus.waits_drop hwaits).2
      · refine .named name r ?_ hc
        rw [hrequests]
        exact names_insert.mpr (Or.inr ⟨hname, hr⟩)
    · exact .named name r (hrequests ▸ hr) hc

/-- A job that is handed back is refused by who offered it, or given up. -/
theorem Submitted.held {pool : Nat} {job : Job} (h : Submitted w id pool w' (.handedBack job))
    (hc : job.request.IsOf c) (hw : w'.bus.Waits c) : w'.Held c := by
  cases h with
  | refused _ _ hand => exact .running id _ hand hc
  | returned _ _ bus =>
    rw [bus] at hw
    exact absurd hc (MemoryBus.waits_drop hw).2

/-- An offered job stays with who offers it or passes to the pool in a turn, or is given up. -/
theorem held_offered_of_turn {j : Nat} {job : Job}
    (hs : ∀ (P : Nat) p, w.pools[P]? = some p → p.Sound) (h : w.turn id = some w')
    (hj : w.hand? j = some (.submitting P (.offered job))) (hc : job.request.IsOf c)
    (hw : w'.bus.Waits c) : w'.Held c := by
  by_cases hne : j = id
  · obtain ⟨v, placement, turn, pools, next⟩ := turn_submitting h (hne ▸ hj)
    obtain ⟨p, q, hputs, -, hjobs⟩ := turnSubmission_jobs hs turn
    have hputs' : Puts P p q w w' := ⟨hputs.before, pools.trans hputs.pools⟩
    rcases hjobs job (Or.inr rfl) with hmem | rfl
    · exact .pooled P q job hputs'.after hmem hc
    · exact next.held hc hw
  · exact .offered j P job ((hand?_of_turn h hne).trans hj) hc

/-- A job of a pool stays there, passes to an executor or is handed back in a turn, or is given up. -/
theorem held_pooled_of_turn {p : WorkerPool Job} {job : Job}
    (hs : ∀ (P : Nat) p, w.pools[P]? = some p → p.Sound) (h : w.turn id = some w')
    (hp : w.pools[P]? = some p) (hj : job ∈ p.jobs) (hc : job.request.IsOf c)
    (hw : w'.bus.Waits c) : w'.Held c := by
  have hsame : w'.pools = w.pools → w'.Held c := fun hpools => .pooled P p job (hpools ▸ hp) hj hc
  cases deed_of_turn h with
  | quiet _ _ _ _ _ pools =>
    rcases pools with pools | ⟨pool, q, q', hputs, hmarks⟩
    · exact hsame pools
    · exact hputs.held hp hj hc fun hj => Or.inl ((jobs_marks hmarks).symm ▸ hj)
  | exchange _ _ _ _ _ _ _ _ _ pools => exact hsame pools
  | receive _ _ _ _ _ _ pools => exact hsame pools
  | drain _ _ _ _ _ _ pools => exact hsame pools
  | leave _ _ _ _ _ _ _ pools => exact hsame pools
  | take _ _ _ _ _ _ _ pools => exact hsame pools
  | submit v pool s placement hand turn pools _ next =>
    obtain ⟨q, q', hputs, -, hjobs⟩ := turnSubmission_jobs hs turn
    have hputs' : Puts pool q q' w w' := ⟨hputs.before, pools.trans hputs.pools⟩
    refine hputs'.held hp hj hc fun hj => ?_
    rcases hjobs job (Or.inl hj) with hmem | rfl
    · exact Or.inl hmem
    · exact Or.inr (next.held hc hw)
  | run _ _ _ _ _ _ _ pools => exact hsame pools
  | finish _ _ _ _ _ _ _ _ _ pools =>
    rcases pools with ⟨-, pools⟩ | ⟨pool, i, q, -, -, hputs⟩
    · exact hsame pools
    · exact hputs.held hp hj hc fun hj => Or.inl ((q.jobs_finish i).symm ▸ hj)
  | pick pool i q q' job' program taken puts program' =>
    refine puts.held hp hj hc fun hj => ?_
    rcases (WorkerPool.mem_jobs_take taken).mp hj with rfl | hj
    · exact Or.inr (.running id _ (hand?_eq program') hc)
    · exact Or.inl hj
  | exit pool i q q' program taken puts =>
    exact puts.held hp hj hc fun hj => Or.inl ((WorkerPool.jobs_exit taken).symm ▸ hj)

/-- A run keeps its request in a turn, or answers it or gives it up. -/
theorem held_running_of_turn {j : Nat} {run : Run} (h : w.turn id = some w')
    (hj : w.hand? j = some (.running run)) (hc : run.request.IsOf c) (hw : w'.bus.Waits c) :
    w'.Held c := by
  by_cases hne : j = id
  · obtain ⟨v, progress, turn, hcase⟩ := turn_running h (hne ▸ hj)
    -- whatever becomes of the inbox, the call waited before
    have hbefore : v.bus.Waits c := by
      rcases hcase with ⟨-, -, -, bus⟩ | ⟨-, -, bus | ⟨i, bus⟩⟩
      · rwa [bus] at hw
      · rwa [bus] at hw
      · rw [bus] at hw
        exact (MemoryBus.waits_discardInbox hw).1
    rcases turnRun_bus turn with ⟨-, hbus, -⟩ | ⟨_, _, _, _, -, -, -, hbus⟩ |
      ⟨-, -, next, rfl, hrequest⟩
    · rw [hbus] at hbefore
      exact absurd hc (MemoryBus.waits_drop hbefore).2
    · rcases hbus with ⟨-, hnot⟩ | ⟨d, hd, hbus⟩
      · exact absurd hc (hnot c)
      · rw [hbus] at hbefore
        exact absurd (hc.eq hd) (MemoryBus.waits_answer hbefore).2
    · rcases hcase with ⟨next', hnext, hand', -⟩ | ⟨hover, -⟩
      · cases hnext
        exact .running id next hand' (hrequest.symm ▸ hc)
      · exact absurd rfl (hover next)
  · exact .running j run ((hand?_of_turn h hne).trans hj) hc

/-- **A turn keeps requests in custody.** -/
theorem custody_of_turn (hs : ∀ (P : Nat) p, w.pools[P]? = some p → p.Sound)
    (h : w.turn id = some w') : w.Custody w' where
  stored c i r hc hr := (tells_of_turn hs h).stored hc hr
  named c name r _ hr := named_of_turn h hr
  offered c j P job _ hj := offered_of_turn h hj
  pooled c P p' job _ hp hj := pooled_of_turn hs h hp hj
  running c j run _ hj := running_of_turn hs h hj
  stages c := Or.inr ((tells_of_turn hs h).stages c)
  held c hheld hw := by
    cases hheld with
    | stored i r hr hc => exact (tells_of_turn hs h).held_stored hr hc hw
    | named name r hr hc => exact held_named_of_turn h hr hc hw
    | offered j pool job hj hc => exact held_offered_of_turn hs h hj hc hw
    | pooled pool p job hp hj hc => exact held_pooled_of_turn hs h hp hj hc hw
    | running j run hj hc => exact held_running_of_turn h hj hc hw

end World

end ServiceBus.Bus
