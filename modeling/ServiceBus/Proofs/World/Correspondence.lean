import ServiceBus.Proofs.World.Holders

/-! # What becomes of requests in a run

A `Register` is kept beside a run: which requests were stored and on which a script was begun, which
replies were attempted, what calls returned, and what scripts kept. It also follows who holds which
request, because a request has lost its address after the first reply.

* `Register.after`: the register after one more step.
* `Correspondence`: a run with its register. Every run has one (`Steps.correspondence`).
* `Register.Tracks`, `Register.Counts`: what holds of the holders in a register, and of its entries.
  Every step keeps both, and so they hold in every run (`Correspondence.tracks`,
  `Correspondence.counts`). -/

namespace ServiceBus.Bus

/-! ### The register -/

/-- The call that a request is of, as long as nobody has replied. -/
def Request.call? (r : Request) : Option CallId :=
  match r.replyTo? with
  | some (.call c) => some c
  | some (.journal _) | some .broken | none => none

/-- The request of a call has the number of the call. -/
theorem Request.call?_eq_some {r : Request} {c : CallId} : r.call? = some c ↔ r.IsOf c := by
  rw [call?, IsOf]
  split <;> simp [*]

/-- The calls whose requests are in inboxes, and in which. -/
def MemoryBus.stock (b : MemoryBus) : List (CallId × InboxId) :=
  (List.range b.inboxes.length).flatMap fun i =>
    (b.buffer i).filterMap fun r => r.call?.map (·, i)

/-- A reply that was attempted, and what came of it. -/
structure Attempted where
  call : CallId
  reply : Message
  result : Except TransportError Unit

/-- What a script has kept, and on the request of which call it was run. -/
structure Kept where
  call? : Option CallId
  store : StoreId
  metadata : Greeter.Metadata

/-- **What became of requests** in a run, oldest first, and who holds them. -/
structure Register where
  /-- The call whose request somebody holds, also after he has replied. -/
  holds : Holder → Option CallId := fun _ => none
  stored : List (CallId × InboxId) := []
  begun : List (CallId × Run) := []
  attempted : List Attempted := []
  returned : List (CallId × Except TransportError Message) := []
  kept : List Kept := []

/-- The replies that were attempted to the request of a call. -/
def Register.attempts (g : Register) (c : CallId) : List Attempted :=
  g.attempted.filter (·.call == c)

namespace World

/-- The requests that are stored between two worlds. -/
def newlyStored (w w' : World) : List (CallId × InboxId) :=
  w'.bus.stock.filter (!w.bus.stock.contains ·)

/-- The run that a task begins between two worlds, if it had no request before. -/
def beginning? (w w' : World) (id : TaskId) : Option (CallId × Run) :=
  match w.request? (.task id), w'.hand? id with
  | none, some (.running run) => run.request.call?.map (·, run)
  | _, _ => none

/-- The runs that tasks begin between two worlds. -/
def beginnings (w w' : World) : List (CallId × Run) :=
  (List.range w'.tasks.length).filterMap (w.beginning? w')

/-- The result that a task returns from its call in its turn, if any. It ends in this turn, and in no
other (`turn_of_exchange`). -/
def result? (w : World) : Mover → Option (CallId × Except TransportError Message)
  | .task id =>
    match w.program? id with
    | some (.exchange call context? begun _ _) =>
      let poll (w : World) : World × Option (Except TransportError Message) :=
        (w.withBus (w.bus.poll call).1, (w.bus.poll call).2)
      match (Context.run (boundError? begun context?) poll begun w).2 with
      | .over (.ok result) => some (call, result)
      | .over (.error e) => some (call, .error (.ofContext e))
      | .pending => none
    | _ => none
  | .replier .. | .outside => none

/-- What a script keeps in a step, if anything, who runs it, and where it is kept. What is to be kept
where there is no store is lost. -/
def keeping? (w : World) : Mover → Option (Holder × StoreId × Greeter.Metadata)
  | .task id =>
    match w.hand? id with
    | some (.running { script := .keep store key value _, .. }) =>
      if store < w.stores.length then some (.task id, store, { key, value }) else none
    | _ => none
  | .replier .. | .outside => none

/-- Who holds which request after a step. Who held a request and now holds one without an address has
replied to it and still holds the same one. -/
def holding (w w' : World) (holds : Holder → Option CallId) (x : Holder) : Option CallId :=
  (w'.request? x).bind fun r =>
    match r.replyTo? with
    | some _ => r.call?
    | none => (w.request? x).bind fun _ => holds x

end World

/-- The register after one more step. -/
def Register.after (g : Register) (w : World) (m : Mover) (w' : World) : Register where
  holds := w.holding w' g.holds
  stored := g.stored ++ w.newlyStored w'
  begun := g.begun ++ w.beginnings w'
  attempted := g.attempted ++ ((w.attempt? m).bind fun a => (g.holds a.holder).map fun call =>
    { call, reply := a.message, result := (w.reply a.request a.headers a.payload).2.2 }).toList
  returned := g.returned ++ (w.result? m).toList
  kept := g.kept ++ ((w.keeping? m).map fun (x, store, metadata) =>
    { call? := g.holds x, store, metadata }).toList

/-- **A run with its register.** Every step of it keeps to a rule. -/
inductive Correspondence (rule : World → Mover → World → Prop) : World → Register → Prop
  | refl : Correspondence rule {} {}
  | tail {w w' : World} {g : Register} {m : Mover} (h : Correspondence rule w g)
      (moves : w.Moves m w') (keeps : rule w m w') : Correspondence rule w' (g.after w m w')

section Runs

variable {rule : World → Mover → World → Prop} {w : World} {g : Register}

/-- A correspondence is a run. -/
theorem Correspondence.steps (h : Correspondence rule w g) : World.Steps {} w := by
  induction h with
  | refl => exact .refl
  | tail _ hm _ ih => exact ih.tail hm.step

/-- **Every run has a register.** -/
theorem World.Steps.correspondence (h : World.Steps {} w) :
    ∃ g, Correspondence (fun _ _ _ => True) w g := by
  induction h with
  | refl => exact ⟨_, .refl⟩
  | tail _ hs ih =>
    obtain ⟨g, hg⟩ := ih
    obtain ⟨m, hm⟩ := hs.mover
    exact ⟨_, hg.tail hm trivial⟩

end Runs

namespace World

variable {w w' v : World} {id c : Nat} {m : Mover} {r : Request} {g : Register}

/-! ### What is stored -/

/-- A request is in the stock if it is in an inbox. -/
theorem mem_stock {b : MemoryBus} {i : Nat} : (c, i) ∈ b.stock ↔ ∃ r ∈ b.buffer i, r.IsOf c := by
  rw [MemoryBus.stock, List.mem_flatMap]
  constructor
  · rintro ⟨j, -, hmem⟩
    obtain ⟨r, hr, hmap⟩ := List.mem_filterMap.mp hmem
    obtain ⟨d, hd, heq⟩ := Option.map_eq_some_iff.mp hmap
    cases heq
    exact ⟨r, hr, Request.call?_eq_some.mp hd⟩
  · rintro ⟨r, hr, hc⟩
    refine ⟨i, List.mem_range.mpr (MemoryBus.lt_of_mem_buffer hr), List.mem_filterMap.mpr ⟨r, hr, ?_⟩⟩
    rw [Request.call?_eq_some.mpr hc]
    rfl

/-- No request is in the stock twice. -/
theorem Located.stock_nodup (h : w.Located) : (w.bus.stock.map Prod.fst).Nodup := by
  rw [MemoryBus.stock, List.map_flatMap, List.nodup_flatMap]
  have hmem : ∀ {c i : Nat}, c ∈ ((w.bus.buffer i).filterMap fun r => r.call?.map (·, i)).map
      Prod.fst → w.At c (.stored i) := by
    intro c i hc
    obtain ⟨⟨d, j⟩, he, rfl⟩ := List.mem_map.mp hc
    obtain ⟨r, hr, hmap⟩ := List.mem_filterMap.mp he
    obtain ⟨d, hd, heq⟩ := Option.map_eq_some_iff.mp hmap
    cases heq
    exact ⟨r, hr, Request.call?_eq_some.mp hd⟩
  constructor
  · -- the requests in one inbox are of different calls
    intro i _
    rw [List.map_filterMap, List.Nodup, List.pairwise_filterMap]
    refine (h.apart i).imp fun {r r'} hne c hc c' hc' => ?_
    have hof : ∀ {q : Request} {d : Nat}, (q.call?.map (·, i)).map Prod.fst = some d → q.IsOf d := by
      intro q d hd
      rw [Option.map_map] at hd
      obtain ⟨e, he, rfl⟩ := Option.map_eq_some_iff.mp hd
      exact Request.call?_eq_some.mp he
    rintro rfl
    exact hne c (hof hc) (hof hc')
  · -- those in different inboxes are too, because a request is at one place
    refine (List.pairwise_lt_range).imp fun {i j} hlt => ?_
    intro c hi hj
    have heq := h.unique c _ _ (hmem hi) (hmem hj)
    cases heq
    exact Nat.lt_irrefl _ hlt

/-- What is stored in a step had not been sent. -/
theorem Stocks.newlyStored (h : w.Stocks w') {e : CallId × InboxId} (he : e ∈ w.newlyStored w') :
    ¬ w.bus.Sent e.1 ∧ w'.bus.Sent e.1 := by
  obtain ⟨c, i⟩ := e
  obtain ⟨hmem, hnot⟩ := List.mem_filter.mp he
  rw [Bool.not_eq_true', List.contains_eq_mem, decide_eq_false_iff_not] at hnot
  rcases h.stored c with hback | ⟨hpending, hsent, -⟩
  · exact absurd (mem_stock.mpr (hback i (mem_stock.mp hmem))) hnot
  · exact ⟨hpending, hsent⟩

/-! ### What is begun -/

/-- Whether the request of a call was sent and has left all places. -/
def Gone (w : World) (c : CallId) : Prop := w.bus.Sent c ∧ ∀ y, ¬ w.At c y

/-- A task that had a request, or has none of a call, begins no run. -/
theorem beginning?_eq_none
    (h : ∀ c, ∀ r, w'.request? (.task id) = some r → r.IsOf c → w.request? (.task id) ≠ none) :
    w.beginning? w' id = none := by
  rw [beginning?]
  split
  · rename_i run hnone hand'
    have hrequest : w'.request? (.task id) = some run.request := request?_task.mpr ⟨run, hand', rfl⟩
    cases hcall : run.request.call? with
    | none => rfl
    | some c => exact absurd hnone (h c _ hrequest (Request.call?_eq_some.mp hcall))
  · rfl

/-- **What begins in a step**: a run on the request of a call, if any, that was somewhere and is nowhere
any more. -/
theorem Hands.beginnings (h : w.Hands m w') : w.beginnings w' = [] ∨
    ∃ c run y, w.beginnings w' = [(c, run)] ∧ w.At c y ∧ ∀ z, ¬ w'.At c z := by
  have hnone : (∀ j, w.beginning? w' j = none) → w.beginnings w' = [] := fun hj =>
    List.filterMap_eq_nil_iff.mpr fun j _ => hj j
  -- who holds what he held begins nothing
  have hsame : ∀ j, w'.request? (.task j) = w.request? (.task j) → w.beginning? w' j = none :=
    fun j heq => beginning?_eq_none fun c r hr _ hnone => by
      rw [heq, hnone] at hr
      cases hr
  cases h with
  | keeps _ hback =>
    refine Or.inl (hnone fun j => beginning?_eq_none fun c r hr hc hbefore => ?_)
    rcases hback (.task j) r hr with hr | ⟨-, hfree⟩
    · rw [hbefore] at hr
      cases hr
    · exact hfree c hc
  | replies a attempt _ _ others =>
    refine Or.inl (hnone fun j => ?_)
    by_cases hj : Holder.task j = a.holder
    · refine beginning?_eq_none fun c r _ _ hbefore => ?_
      rw [hj, request?_of_attempt attempt] at hbefore
      cases hbefore
    · exact hsame j (others _ hj)
  | hands _ x r c y of had gone holds new others =>
    cases x with
    | name name => exact Or.inl (hnone fun j => hsame j (others _ (by simp)))
    | task id =>
      obtain ⟨run, hand', rfl⟩ := request?_task.mp holds
      refine Or.inr ⟨c, run, y, ?_, had, gone⟩
      have hlt : id < w'.tasks.length := by
        obtain ⟨program, hp, -⟩ := Option.bind_eq_some_iff.mp hand'
        exact lt_of_program? hp
      refine filterMap_range_single hlt ?_ fun j hj => hsame j (others _ fun heq => hj ?_)
      · rw [beginning?, new id rfl, hand']
        exact congrArg (Option.map _) (Request.call?_eq_some.mpr of)
      · exact Holder.task.inj heq

/-! ### What is returned -/

/-- A call that comes to a reply was answered. -/
theorem answered_of_poll {b : MemoryBus} {reply : Message} (h : (b.poll c).2 = some (.ok reply)) :
    ∃ i, b.stage? c = some (.answered i reply) := by
  have hsteps : ∀ n (b : MemoryBus), (b.steps n c).2 = some (.ok reply) →
      ∃ i, b.stage? c = some (.answered i reply) := by
    intro n
    induction n with
    | zero =>
      intro b h
      cases h
    | succ n ih =>
      intro b h
      rw [MemoryBus.steps] at h
      split at h
      · cases h
      · rename_i b' result hstep
        obtain rfl : result = .ok reply := Option.some.inj h
        obtain ⟨call, hcall, hcase⟩ := MemoryBus.step_cases hstep
        generalize hresult : some (Except.ok reply : Except TransportError Message) = result? at hcase
        cases hcase with
        | answered i m hs =>
          cases hresult
          exact ⟨i, by rw [MemoryBus.stage?, hcall]; exact congrArg some hs⟩
        | _ => cases hresult
      · rename_i b' hstep
        obtain ⟨i, hi⟩ := ih b' h
        exact ⟨i, answered_of_advances (MemoryBus.advances_step hstep) hi⟩
  exact hsteps 4 b h

/-- **What a task returns** is what its call comes to, or that its context is over. -/
theorem result?_cases {result : Except TransportError Message}
    (h : w.result? (.task id) = some (c, result)) : w.Exchanges id c ∧
      ((∃ e, result = .error e) ∨ (w.bus.poll c).2 = some result) := by
  rw [result?] at h
  split at h
  · rename_i call context? begun client? conclude hp
    dsimp only at h
    rcases hrun : Context.run (boundError? begun context?)
      (fun w : World => (w.withBus (w.bus.poll call).1, (w.bus.poll call).2)) begun w with ⟨v, turn⟩
    rw [hrun] at h
    have hex := exchanges_of_program hp
    rcases Context.run_cases hrun with ⟨e, -, -, -, rfl⟩ | ⟨-, -, ⟨_, hpoll, rfl⟩ | ⟨-, hcase⟩⟩
    · cases h
      exact ⟨hex, Or.inl ⟨_, rfl⟩⟩
    · cases h
      exact ⟨hex, Or.inr hpoll⟩
    · rcases hcase with ⟨e, -, rfl⟩ | ⟨-, rfl⟩
      · cases h
        exact ⟨hex, Or.inl ⟨_, rfl⟩⟩
      · cases h
  · cases h

/-- **A task that sees a call through ends when it returns**, with what its caller makes of the result,
and goes on otherwise. -/
theorem turn_of_exchange {context? : Option Context} {begun : Bool} {client? : Option ClientId}
    {conclude : Except TransportError Message → Logged Outcome}
    (hp : w.program? id = some (.exchange c context? begun client? conclude))
    (h : w.turn id = some w') :
    (∃ result v, w.result? (.task id) = some (c, result) ∧
      w' = (World.absorb v (conclude result)).finish id (conclude result).value) ∨
    w.result? (.task id) = none ∧
      ∃ v, w' = World.setProgram v id (.exchange c context? true client? conclude) := by
  rw [turn, hp, Option.bind_eq_bind, Option.bind_some] at h
  dsimp only at h
  rw [turnExchange] at h
  rw [result?, hp]
  dsimp only at h ⊢
  split at h
  · rename_i v result hrun
    rw [hrun]
    cases h
    exact Or.inl ⟨result, v, rfl, rfl⟩
  · rename_i v e hrun
    rw [hrun]
    cases h
    exact Or.inl ⟨_, _, rfl, rfl⟩
  · rename_i v hrun
    rw [hrun]
    split at h
    · cases h
    · cases h
      exact Or.inr ⟨rfl, _, rfl⟩

/-- A call that is over stays over. -/
theorem Step.stays_over (hs : w.Step w') (hp : ∀ (P : Nat) p, w.pools[P]? = some p → p.Sound)
    (hcalls : w.Accounted) (h : w.bus.stage? c = some .over) : w'.bus.stage? c = some .over := by
  rcases (hs.custody hp).stages c with ⟨hnone, -⟩ | hsame | ⟨id, hex, -⟩ | ⟨i, hi, -⟩ | ⟨i, hi, -⟩
  · rw [h] at hnone
    cases hnone
  · exact hsame.trans h
  · exact absurd h (hcalls.going id c hex)
  · rw [h] at hi
    cases hi
  · rw [h] at hi
    cases hi

/-- The call of a task that returns is over afterwards, and was not before. -/
theorem over_of_result {result : Except TransportError Message} (hcalls : w.Accounted)
    (h : w.turn id = some w') (hresult : w.result? (.task id) = some (c, result)) :
    w.bus.stage? c ≠ some .over ∧ w'.bus.stage? c = some .over := by
  obtain ⟨hex, -⟩ := result?_cases hresult
  have hgoing := hcalls.going id c hex
  obtain ⟨s, hs⟩ := exists_stage (hcalls.exchanges_lt id c hex)
  rw [hs] at hgoing
  refine ⟨fun heq => hgoing (hs ▸ heq), ?_⟩
  obtain ⟨_, _, _, _, hp⟩ := hex.program
  rcases turn_of_exchange hp h with ⟨result', v, -, rfl⟩ | ⟨hnone, -⟩
  · rcases exchange_of_turn h hex hs fun heq => hgoing (congrArg some heq) with ⟨hex', -⟩ | ⟨-, hover⟩
    · exact absurd hex' (not_exchanges (program?_finish_self _ _ _))
    · exact hover
  · rw [hresult] at hnone
    cases hnone

/-! ### Who holds what -/

/-- Who holds the request of a call after a step. -/
theorem holding_of_isOf {holds : Holder → Option CallId} {x : Holder}
    (hr : w'.request? x = some r) (hc : r.IsOf c) : w.holding w' holds x = some c := by
  rw [holding, hr, Option.bind_some]
  split
  · exact Request.call?_eq_some.mpr hc
  · rename_i hnone
    rw [Request.IsOf, hnone] at hc
    cases hc

/-- Who replies still holds the same request. -/
theorem holding_of_none {holds : Holder → Option CallId} {x : Holder} {r' : Request}
    (hr : w.request? x = some r) (hr' : w'.request? x = some r') (hnone : r'.replyTo? = none) :
    w.holding w' holds x = holds x := by
  rw [holding, hr', Option.bind_some, hnone, hr]
  rfl

end World

namespace Register

/-- **What is known of those who hold requests**: each holds that of one call, which has left all
places, and has its address as long as nobody has replied. -/
structure Tracks (g : Register) (w : World) : Prop where
  request : ∀ x c, g.holds x = some c → ∃ r, w.request? x = some r ∧
    (r.IsOf c ∧ g.attempts c = [] ∨ r.replyTo? = none ∧ g.attempts c ≠ [])
  holds : ∀ x r c, w.request? x = some r → r.IsOf c → g.holds x = some c
  gone : ∀ x c, g.holds x = some c → w.Gone c
  unique : ∀ x y c, g.holds x = some c → g.holds y = some c → x = y
  attempted : ∀ a ∈ g.attempted, w.Gone a.call
  kept : ∀ k ∈ g.kept, ∀ c, k.call? = some c → w.Gone c

/-- What is known of a register besides: nothing happens twice, and the first reply is the one that is
returned. -/
structure Counts (g : Register) (w : World) : Prop where
  stored_nodup : (g.stored.map Prod.fst).Nodup
  stored : ∀ e ∈ g.stored, w.bus.Sent e.1
  begun_nodup : (g.begun.map Prod.fst).Nodup
  begun : ∀ e ∈ g.begun, w.Gone e.1
  later : ∀ c a rest, g.attempts c = a :: rest → ∀ b ∈ rest, b.result = .error .alreadyResponded
  answered : ∀ c i reply, w.bus.stage? c = some (.answered i reply) →
    ∃ rest, g.attempts c = ⟨c, reply, .ok ()⟩ :: rest
  returned_nodup : (g.returned.map Prod.fst).Nodup
  returned : ∀ e ∈ g.returned, w.bus.stage? e.1 = some .over
  first : ∀ c reply, (c, .ok reply) ∈ g.returned → ∃ rest, g.attempts c = ⟨c, reply, .ok ()⟩ :: rest

variable {g : Register} {w w' : World} {m : Mover} {c : Nat} {x : Holder}

/-- Somebody who holds the same request as before holds that of the same call. -/
theorem Tracks.holding_same (h : g.Tracks w) (heq : w'.request? x = w.request? x) :
    w.holding w' g.holds x = g.holds x := by
  cases hr : w.request? x with
  | none =>
    rw [World.holding, heq, hr, Option.bind_none]
    cases hx : g.holds x with
    | none => rfl
    | some c =>
      obtain ⟨r, hr', -⟩ := h.request x c hx
      rw [hr] at hr'
      cases hr'
  | some r =>
    cases haddress : r.replyTo? with
    | none => exact World.holding_of_none hr (heq.trans hr) haddress
    | some address =>
      rw [World.holding, heq, hr, Option.bind_some, haddress]
      cases hcall : r.call? with
      | some c => exact (h.holds x r c hr (Request.call?_eq_some.mp hcall)).symm
      | none =>
        cases hx : g.holds x with
        | none => rfl
        | some c =>
          -- a request that has an address which is no call is not held for one
          obtain ⟨r', hr', ⟨hof, -⟩ | ⟨hnone, -⟩⟩ := h.request x c hx
          · rw [hr] at hr'
            rw [← Option.some.inj hr', ← Request.call?_eq_some, hcall] at hof
            cases hof
          · rw [hr] at hr'
            rw [← Option.some.inj hr', haddress] at hnone
            cases hnone

/-- Nobody attempts a reply in a silent step. -/
theorem attempted_silent (h : w.attempt? m = none) : (g.after w m w').attempted = g.attempted := by
  rw [after, h]
  exact List.append_nil _

/-- The replies to the request of a call after a silent step. -/
theorem attempts_silent (h : w.attempt? m = none) (c : CallId) :
    (g.after w m w').attempts c = g.attempts c := by
  rw [attempts, attempted_silent h, attempts]

/-- The replies to the request of a call after somebody has replied to it. -/
theorem attempts_reply {a : Attempt} (h : w.attempt? m = some a) (hc : g.holds a.holder = some c) :
    (g.after w m w').attempts c = g.attempts c ++
      [⟨c, a.message, (w.reply a.request a.headers a.payload).2.2⟩] := by
  simp [attempts, after, h, hc]

/-- The replies to the request of a call after somebody has replied to another request. -/
theorem attempts_other {a : Attempt} (h : w.attempt? m = some a) (hc : g.holds a.holder ≠ some c) :
    (g.after w m w').attempts c = g.attempts c := by
  simp only [attempts, after, h, Option.bind_some, List.filter_append]
  cases hd : g.holds a.holder with
  | none => simp
  | some d =>
    have hne : d ≠ c := fun heq => hc (heq ▸ hd)
    simp [hne]

/-- What was attempted first stays first. -/
theorem attempts_mono {a : Attempted} (h : ∃ rest, g.attempts c = a :: rest) :
    ∃ rest, (g.after w m w').attempts c = a :: rest := by
  obtain ⟨rest, h⟩ := h
  rw [attempts, after, List.filter_append]
  rw [attempts] at h
  exact ⟨_, congrArg (· ++ _) h⟩

/-- A step in which nobody gets the request of a call leaves the holders what they hold. -/
theorem Tracks.holding_kept (h : g.Tracks w)
    (hback : ∀ x r, w'.request? x = some r →
      w.request? x = some r ∨ w.request? x = none ∧ ∀ c, ¬ r.IsOf c)
    (hx : w.holding w' g.holds x = some c) :
    w'.request? x = w.request? x ∧ g.holds x = some c := by
  cases hr' : w'.request? x with
  | none =>
    rw [World.holding, hr', Option.bind_none] at hx
    cases hx
  | some r =>
    rcases hback x r hr' with hr | ⟨hnone, hfree⟩
    · have heq := hr'.trans hr.symm
      exact ⟨hr.symm, h.holding_same heq ▸ hx⟩
    · rw [World.holding, hr', Option.bind_some, hnone] at hx
      split at hx
      · exact absurd (Request.call?_eq_some.mp hx) (hfree c)
      · cases hx

/-- What a script keeps is kept on a request that its task holds. -/
theorem Tracks.kept_after (h : g.Tracks w) (hgone : ∀ c, w.Gone c → w'.Gone c) :
    ∀ k ∈ (g.after w m w').kept, ∀ c, k.call? = some c → w'.Gone c := by
  intro k hk c hc
  rcases List.mem_append.mp hk with hk | hk
  · exact hgone c (h.kept k hk c hc)
  · obtain ⟨⟨x, store, metadata⟩, -, rfl⟩ := Option.map_eq_some_iff.mp (Option.mem_toList.mp hk)
    exact hgone c (h.gone x c hc)

/-- Whoever holds the request of a call after a step is known to. -/
theorem holds_after {x : Holder} {r : Request} (hr : w'.request? x = some r) (hc : r.IsOf c) :
    (g.after w m w').holds x = some c :=
  World.holding_of_isOf hr hc

/-- A step in which nobody gets the request of a call. -/
theorem Tracks.after_keeps (h : g.Tracks w) (hgone : ∀ c, w.Gone c → w'.Gone c) (silent : w.Silent m w')
    (hback : ∀ x r, w'.request? x = some r →
      w.request? x = some r ∨ w.request? x = none ∧ ∀ c, ¬ r.IsOf c) :
    (g.after w m w').Tracks w' where
  request x c hx := by
    obtain ⟨heq, hx⟩ := h.holding_kept hback hx
    rw [heq, attempts_silent silent.attempt]
    exact h.request x c hx
  holds x r c hr hc := holds_after hr hc
  gone x c hx := hgone c (h.gone x c (h.holding_kept hback hx).2)
  unique x y c hx hy := h.unique x y c (h.holding_kept hback hx).2 (h.holding_kept hback hy).2
  attempted a ha := by
    rw [attempted_silent silent.attempt] at ha
    exact hgone _ (h.attempted a ha)
  kept := h.kept_after hgone

/-- A step in which somebody gets the request of a call from the place where it was: nobody held it, nor
replied to it. -/
theorem Tracks.after_hands (h : g.Tracks w) (hgone : ∀ c, w.Gone c → w'.Gone c) (silent : w.Silent m w')
    {x₀ : Holder} {r₀ : Request} {c₀ : CallId} {y₀ : World.Place} (of : r₀.IsOf c₀) (had : w.At c₀ y₀)
    (hgone₀ : w'.Gone c₀) (holds : w'.request? x₀ = some r₀)
    (others : ∀ z, z ≠ x₀ → w'.request? z = w.request? z) : (g.after w m w').Tracks w' := by
  have hold : ∀ x, x ≠ x₀ → (g.after w m w').holds x = g.holds x := fun x hx =>
    h.holding_same (others x hx)
  have hnew : ∀ {c}, (g.after w m w').holds x₀ = some c → c = c₀ := fun hc =>
    (Option.some.inj ((holds_after holds of).symm.trans hc)).symm
  have hnone : ∀ x, g.holds x ≠ some c₀ := fun x hx => (h.gone x c₀ hx).2 y₀ had
  have hattempts : g.attempts c₀ = [] := by
    refine List.filter_eq_nil_iff.mpr fun a ha heq => (h.attempted a ha).2 y₀ ?_
    rw [beq_iff_eq.mp heq]
    exact had
  refine ⟨fun x c hx => ?_, fun x r c hr hc => holds_after hr hc, fun x c hx => ?_,
    fun x y c hx hy => ?_, fun a ha => ?_, h.kept_after hgone⟩
  · rw [attempts_silent silent.attempt]
    by_cases hne : x = x₀
    · subst hne
      obtain rfl := hnew hx
      exact ⟨r₀, holds, Or.inl ⟨of, hattempts⟩⟩
    · rw [others x hne]
      exact h.request x c (hold x hne ▸ hx)
  · by_cases hne : x = x₀
    · subst hne
      exact hnew hx ▸ hgone₀
    · exact hgone c (h.gone x c (hold x hne ▸ hx))
  · by_cases hxne : x = x₀ <;> by_cases hyne : y = x₀
    · exact hxne.trans hyne.symm
    · subst hxne
      obtain rfl := hnew hx
      exact absurd (hold y hyne ▸ hy) (hnone y)
    · subst hyne
      obtain rfl := hnew hy
      exact absurd (hold x hxne ▸ hx) (hnone x)
    · exact h.unique x y c (hold x hxne ▸ hx) (hold y hyne ▸ hy)
  · rw [attempted_silent silent.attempt] at ha
    exact hgone _ (h.attempted a ha)

/-- A step in which somebody replies: it holds the request of the call as before, without its address. -/
theorem Tracks.after_replies (h : g.Tracks w) (hgone : ∀ c, w.Gone c → w'.Gone c) {a : Attempt}
    (attempt : w.attempt? m = some a)
    (holds : w'.request? a.holder = some (w.reply a.request a.headers a.payload).2.1)
    (others : ∀ z, z ≠ a.holder → w'.request? z = w.request? z) : (g.after w m w').Tracks w' := by
  have haddress := (w.reply_bus a.request a.headers a.payload).1
  have hsame : ∀ x, (g.after w m w').holds x = g.holds x := by
    intro x
    by_cases hx : x = a.holder
    · rw [hx]
      exact World.holding_of_none (World.request?_of_attempt attempt) holds haddress
    · exact h.holding_same (others x hx)
  refine ⟨fun x c hx => ?_, fun x r c hr hc => holds_after hr hc,
    fun x c hx => hgone c (h.gone x c (hsame x ▸ hx)),
    fun x y c hx hy => h.unique x y c (hsame x ▸ hx) (hsame y ▸ hy), fun b hb => ?_,
    h.kept_after hgone⟩
  · rw [hsame] at hx
    by_cases hne : x = a.holder
    · rw [hne] at hx ⊢
      refine ⟨_, holds, Or.inr ⟨haddress, ?_⟩⟩
      rw [attempts_reply attempt hx]
      simp
    · have hother : g.holds a.holder ≠ some c := fun heq => hne (h.unique x _ c hx heq)
      rw [attempts_other attempt hother, others x hne]
      exact h.request x c hx
  · rcases List.mem_append.mp hb with hb | hb
    · exact hgone _ (h.attempted b hb)
    · rw [attempt, Option.bind_some, Option.mem_toList, Option.map_eq_some_iff] at hb
      obtain ⟨c, hc, rfl⟩ := hb
      exact hgone c (h.gone _ c hc)

/-- **Every step keeps track of those who hold requests.** -/
theorem Tracks.after (h : g.Tracks w) (hm : w.Moves m w') (hl : w.Located)
    (hp : ∀ (P : Nat) p, w.pools[P]? = some p → p.Sound) : (g.after w m w').Tracks w' := by
  have hgone : ∀ c, w.Gone c → w'.Gone c := fun c hc => hl.gone hp hm.step hc.1 hc.2
  cases hm.hands hl hp with
  | keeps silent hback => exact h.after_keeps hgone silent hback
  | hands silent x₀ r₀ c₀ y₀ of had gone holds new others =>
    exact h.after_hands hgone silent of had ⟨hm.step.sent hp (hl.sent c₀ y₀ had), gone⟩ holds others
  | replies a attempt bus holds others => exact h.after_replies hgone attempt holds others

/-- What is done once in a step, and had not been done, is done once in all. -/
theorem nodup_append_of_new {α : Type} {l l' : List (CallId × α)} (h : (l.map Prod.fst).Nodup)
    (h' : (l'.map Prod.fst).Nodup) (hnew : ∀ e ∈ l, ∀ e' ∈ l', e.1 ≠ e'.1) :
    ((l ++ l').map Prod.fst).Nodup := by
  rw [List.map_append, List.nodup_append]
  refine ⟨h, h', fun c hc c' hc' => ?_⟩
  obtain ⟨e, he, rfl⟩ := List.mem_map.mp hc
  obtain ⟨e', he', rfl⟩ := List.mem_map.mp hc'
  exact hnew e he e' he'

/-- The first reply to a call that waits is what answers it; later ones do not reach it. -/
theorem Counts.answered_after (h : g.Counts w) (ht : g.Tracks w) (hands : w.Hands m w')
    {i : Nat} {reply : Message} (hs : w'.bus.stage? c = some (.answered i reply)) :
    ∃ rest, (g.after w m w').attempts c = ⟨c, reply, .ok ()⟩ :: rest := by
  have hsame : w.bus.stage? c = some (.answered i reply) →
      ∃ rest, (g.after w m w').attempts c = ⟨c, reply, .ok ()⟩ :: rest := fun hs =>
    attempts_mono (h.answered c i reply hs)
  cases hands with
  | keeps silent => exact hsame (silent.answered c i reply hs)
  | hands silent => exact hsame (silent.answered c i reply hs)
  | replies a attempt bus =>
    have hbefore := World.request?_of_attempt attempt
    rw [bus] at hs
    obtain ⟨-, ⟨hbus, -⟩ | ⟨d, of, hbus⟩⟩ := w.reply_bus a.request a.headers a.payload
    · exact hsame (hbus ▸ hs)
    · rw [hbus, MemoryBus.stage?_answer] at hs
      split at hs
      · rename_i hcd
        obtain ⟨s, hstage, hanswer⟩ := Option.map_eq_some_iff.mp hs
        cases s with
        | waiting k =>
          -- the call waits, so this is the first reply
          obtain ⟨rfl, rfl⟩ := Call.Stage.answered.inj hanswer
          have hholds := ht.holds a.holder a.request d hbefore of
          obtain ⟨r, hr, ⟨-, hnil⟩ | ⟨hnone, -⟩⟩ := ht.request a.holder d hholds
          · refine ⟨[], ?_⟩
            rw [hcd, attempts_reply attempt hholds, hnil, List.nil_append]
            have hanswered : (w.bus.answer d (a.request.reply a.headers a.payload)).2 = .ok () := by
              rw [MemoryBus.answer, MemoryBus.waiting?_eq_some.mpr hstage]
            have hresult : (w.reply a.request a.headers a.payload).2.2 = .ok () := by
              rw [World.reply, show a.request.replyTo? = some (.call d) from of]
              exact hanswered
            rw [hresult]
            rfl
          · rw [hbefore] at hr
            rw [← Option.some.inj hr, show a.request.replyTo? = some (.call d) from of] at hnone
            cases hnone
        | answered k m =>
          obtain ⟨rfl, rfl⟩ := Call.Stage.answered.inj hanswer
          exact hsame (hcd ▸ hstage)
        | _ => cases hanswer
      · exact hsame hs

/-- Every reply but the first finds the request responded to. -/
theorem Counts.later_after (h : g.Counts w) (ht : g.Tracks w) (hands : w.Hands m w')
    {a : Attempted} {rest : List Attempted}
    (hattempts : (g.after w m w').attempts c = a :: rest) :
    ∀ b ∈ rest, b.result = .error .alreadyResponded := by
  have hsame : (g.after w m w').attempts c = g.attempts c →
      ∀ b ∈ rest, b.result = .error .alreadyResponded := fun heq =>
    h.later c a rest (heq ▸ hattempts)
  cases hands with
  | keeps silent => exact hsame (attempts_silent silent.attempt c)
  | hands silent => exact hsame (attempts_silent silent.attempt c)
  | replies attempt hattempt =>
    by_cases hholds : g.holds attempt.holder = some c
    · rw [attempts_reply hattempt hholds] at hattempts
      obtain ⟨r, hr, ⟨-, hnil⟩ | ⟨hnone, hne⟩⟩ := ht.request attempt.holder c hholds
      · rw [hnil, List.nil_append, List.cons.injEq] at hattempts
        rw [← hattempts.2]
        exact fun b hb => absurd hb List.not_mem_nil
      · obtain ⟨first, others, hcons⟩ := List.exists_cons_of_ne_nil hne
        rw [hcons, List.cons_append, List.cons.injEq] at hattempts
        rw [← hattempts.2]
        intro b hb
        rcases List.mem_append.mp hb with hb | hb
        · exact h.later c first others hcons b hb
        · rw [World.request?_of_attempt hattempt] at hr
          rw [List.mem_singleton.mp hb, World.reply, Option.some.inj hr, hnone]
    · exact hsame (attempts_other hattempt hholds)

/-- What is returned in a step is the result of the task that has its turn: the call was not over. -/
theorem over_of_returned (hm : w.Moves m w') (hcalls : w.Accounted)
    {result : Except TransportError Message} (hresult : w.result? m = some (c, result)) :
    w.bus.stage? c ≠ some .over ∧ w'.bus.stage? c = some .over ∧
      ∀ reply, result = .ok reply → ∃ i, w.bus.stage? c = some (.answered i reply) := by
  cases hm with
  | turn id hturn =>
    obtain ⟨hbefore, hover⟩ := World.over_of_result hcalls hturn hresult
    refine ⟨hbefore, hover, ?_⟩
    rintro reply rfl
    obtain ⟨-, ⟨e, he⟩ | hpoll⟩ := World.result?_cases hresult
    · cases he
    · exact World.answered_of_poll hpoll
  | respond => cases hresult
  | outside => cases hresult

/-- **Every step keeps the counts.** -/
theorem Counts.after (h : g.Counts w) (ht : g.Tracks w) (hm : w.Moves m w') (hl : w.Located)
    (hl' : w'.Located) (hcalls : w.Accounted)
    (hp : ∀ (P : Nat) p, w.pools[P]? = some p → p.Sound) : (g.after w m w').Counts w' where
  stored_nodup := by
    -- what is stored had not been sent, and what was stored was
    refine nodup_append_of_new h.stored_nodup ?_ fun e he e' he' heq => ?_
    · exact hl'.stock_nodup.sublist ((List.filter_sublist).map _)
    · exact (hm.step.stocks.newlyStored he').1 (heq ▸ h.stored e he)
  stored e he := by
    rcases List.mem_append.mp he with he | he
    · exact hm.step.sent hp (h.stored e he)
    · exact (hm.step.stocks.newlyStored he).2
  begun_nodup := by
    -- a run begins on a request that was at its place, and those begun on before have left all
    rcases (hm.hands hl hp).beginnings with hnil | ⟨c, run, y, hone, had, -⟩
    · rw [Register.after, hnil, List.append_nil]
      exact h.begun_nodup
    · rw [Register.after, hone]
      refine nodup_append_of_new h.begun_nodup (List.nodup_singleton _) fun e he e' he' heq => ?_
      rw [List.mem_singleton.mp he'] at heq
      exact (h.begun e he).2 y (heq ▸ had)
  begun e he := by
    rcases List.mem_append.mp he with he | he
    · exact hl.gone hp hm.step (h.begun e he).1 (h.begun e he).2
    · rcases (hm.hands hl hp).beginnings with hnil | ⟨c, run, y, hone, had, gone⟩
      · rw [hnil] at he
        cases he
      · rw [hone] at he
        rw [List.mem_singleton.mp he]
        exact ⟨hm.step.sent hp (hl.sent c y had), gone⟩
  later c a rest hattempts := h.later_after ht (hm.hands hl hp) hattempts
  answered c i reply hs := h.answered_after ht (hm.hands hl hp) hs
  returned_nodup := by
    -- a call that returns was not over, and those that returned before are
    refine nodup_append_of_new h.returned_nodup ?_ fun e he e' he' heq => ?_
    · cases w.result? m with
      | none => exact List.nodup_nil
      | some e => exact List.nodup_singleton _
    · exact (over_of_returned hm hcalls (Option.mem_toList.mp he')).1 (heq ▸ h.returned e he)
  returned e he := by
    rcases List.mem_append.mp he with he | he
    · exact hm.step.stays_over hp hcalls (h.returned e he)
    · exact (over_of_returned hm hcalls (Option.mem_toList.mp he)).2.1
  first c reply he := by
    rcases List.mem_append.mp he with he | he
    · exact attempts_mono (h.first c reply he)
    · obtain ⟨-, -, hanswered⟩ := over_of_returned hm hcalls (Option.mem_toList.mp he)
      obtain ⟨i, hi⟩ := hanswered reply rfl
      exact attempts_mono (h.answered c i reply hi)

/-- At the beginning nobody holds anything. -/
theorem tracks_empty : Tracks {} {} where
  request x c hx := nomatch hx
  holds x r c hr := by
    cases x with
    | task id =>
      rw [World.request?_of_hand fun run hand => ?_] at hr
      · cases hr
      · rw [World.hand?_eq_none (World.program?_empty id)] at hand
        cases hand
    | name name => cases (Std.TreeMap.getElem?_emptyc (a := name)).symm.trans hr
  gone x c hx := nomatch hx
  unique x y c hx := nomatch hx
  attempted a ha := nomatch ha
  kept k hk := nomatch hk

/-- At the beginning nothing has happened. -/
theorem counts_empty : Counts {} {} where
  stored_nodup := .nil
  stored e he := nomatch he
  begun_nodup := .nil
  begun e he := nomatch he
  later c a rest hattempts := nomatch hattempts
  answered c i reply hs := by
    rw [MemoryBus.stage?, show ({} : World).bus.calls[c]? = none from rfl] at hs
    cases hs
  returned_nodup := .nil
  returned e he := nomatch he
  first c reply he := nomatch he

end Register

namespace Correspondence

variable {rule : World → Mover → World → Prop} {w : World} {g : Register}

/-- **In every run the register keeps track of those who hold requests.** -/
theorem tracks (h : Correspondence rule w g) : g.Tracks w := by
  induction h with
  | refl => exact Register.tracks_empty
  | tail h hm _ ih =>
    exact ih.after hm (.of_steps h.steps) (World.Attended.of_steps h.steps).pools

/-- **In every run nothing happens to a request twice**, and what a call returns is the first reply. -/
theorem counts (h : Correspondence rule w g) : g.Counts w := by
  induction h with
  | refl => exact Register.counts_empty
  | tail h hm _ ih =>
    exact ih.after h.tracks hm (.of_steps h.steps) (.of_steps (h.steps.tail hm.step))
      (.of_steps h.steps) (World.Attended.of_steps h.steps).pools

end Correspondence

end ServiceBus.Bus
