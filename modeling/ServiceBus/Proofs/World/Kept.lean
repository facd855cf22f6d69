import ServiceBus.Proofs.World.Correspondence

/-! # What scripts keep

A store gets what scripts keep in it, one after the other, and changes in no other way but from
outside.

* `World.stored`: what is in a store; `Moves.stored` says what a step adds to it.
* `Script.Saves`: whether a script keeps some things, in their order, before it replies well.
* `Register.saved`: what was kept in a store in a run; `Register.keeps`: what was kept on the request
  of a call. -/

namespace ServiceBus.Bus

open Greeter (Metadata)

namespace World

variable {w w' v : World} {id c : Nat} {m : Mover} {store : StoreId}

/-! ### Stores in turns -/

/-- What is in a store. -/
def stored (w : World) (store : StoreId) : List Metadata := (w.stores[store]?).getD []

/-- The stores after the next step of what a task has in hand. -/
def storesAfter (w : World) : Option Handling → List (List Metadata)
  | some (.running { script := .keep store key value _, .. }) =>
    w.stores.modify store (· ++ [{ key, value }])
  | _ => w.stores

/-- Who replies keeps nothing. -/
theorem stores_reply (w : World) (request : Request) (headers : Headers) (payload : Bytes) :
    (w.reply request headers payload).1.stores = w.stores := by
  rw [reply]
  cases request.replyTo? with
  | none => rfl
  | some address => cases address <;> rfl

/-- What a step of a script does with the stores. -/
theorem stores_turnRun {run : Run} {progress : Progress Run}
    (h : w.turnRun id run = some (v, progress)) : v.stores = w.storesAfter (some (.running run)) := by
  have hquiet : (∀ s key value next, run.script ≠ .keep s key value next) →
      w.storesAfter (some (.running run)) = w.stores := by
    intro hkeep
    obtain ⟨context, request, script, wake?⟩ := run
    cases script with
    | keep s key value next => exact absurd rfl (hkeep s key value next)
    | _ => rfl
  cases runStep_of_turnRun h with
  | keep s key value next script =>
    obtain ⟨context, request, _, wake?⟩ := run
    cases script
    rfl
  | reply headers payload next script replied =>
    have hstores := w.stores_reply run.request headers payload
    rw [replied] at hstores
    rw [hstores, hquiet (by simp [script])]
  | pass payload next script hpass =>
    obtain ⟨g, rfl⟩ := pass?_eq hpass
    exact (hquiet (by simp [script])).symm
  | stop script | crash script | note _ _ script | report _ _ script | pauses _ _ script
  | wakes _ _ script | awaitEnd _ _ script | inspect _ script =>
    exact (hquiet (by simp [script])).symm

/-- What a step of the handling of a request does with the stores. -/
theorem stores_turnHandling {handling : Handling} {progress : Progress Handling}
    (h : w.turnHandling id handling = some (v, progress)) : v.stores = w.storesAfter (some handling) := by
  obtain ⟨run, p, rfl, hr, -⟩ | ⟨pool, s, placement, rfl, hs, -⟩ := turnHandling_cases h
  · exact stores_turnRun hr
  · obtain ⟨p, p', -, rfl⟩ := turnSubmission_frame hs
    rfl

/-- A task that finishes keeps nothing. -/
theorem stores_finish (w : World) (id : TaskId) (outcome : Outcome) :
    (w.finish id outcome).stores = w.stores := by
  obtain ⟨news, hw⟩ := w.finish_eq id outcome
  rw [hw]
  rfl

/-- Naming a subscription keeps nothing. -/
theorem stores_nameSubscription (w : World) (name : String) (inbox : InboxId) :
    (w.nameSubscription name inbox).stores = w.stores := by
  obtain ⟨bus, hw, -⟩ := w.nameSubscription_cases name inbox
  rw [hw]

/-- Naming a request keeps nothing. -/
theorem stores_nameRequest (w : World) (name : String) (request : Request) :
    (w.nameRequest name request).stores = w.stores := by
  obtain ⟨bus, hw, -⟩ := w.nameRequest_cases name request
  rw [hw]

/-- A step of a shutdown keeps nothing. -/
theorem stores_turnShutdown {pool : PoolId} {stage : Shutdown} {next? : Option Shutdown}
    (h : w.turnShutdown pool stage = some (v, next?)) : v.stores = w.stores := by
  obtain ⟨p, p', -, -, log, rfl⟩ := turnShutdown_cases h
  rfl

/-- A task that sleeps keeps nothing. -/
theorem stores_turnSleep {context : Context} {begun : Bool} {wake : Time}
    (h : w.turnSleep id context begun wake = some w') : w'.stores = w.stores := by
  obtain ⟨result, rfl⟩ | ⟨-, rfl⟩ := turnSleep_cases h
  · exact w.stores_finish id _
  · rfl

/-- A task that waits for a request keeps nothing. -/
theorem stores_turnReceive {subscription request : String} {inbox : InboxId}
    (h : w.turnReceive id subscription inbox request = some w') : w'.stores = w.stores := by
  obtain ⟨r, bus, -, rfl⟩ | rfl := turnReceive_cases h
  · rw [stores_finish, stores_nameSubscription, stores_nameRequest]
    rfl
  · rw [stores_finish, stores_nameSubscription]

/-- A call keeps nothing. -/
theorem stores_turnExchange {call : CallId} {context? : Option Context} {begun : Bool}
    {client? : Option ClientId} {conclude : Except TransportError Message → Logged Outcome}
    (h : w.turnExchange id call context? begun client? conclude = some w') :
    w'.stores = w.stores := by
  obtain ⟨v, result, rfl, hcase⟩ | ⟨-, -, rfl⟩ := turnExchange_cases h
  · refine (stores_finish _ id _).trans ?_
    rcases hcase with ⟨e, -, -, rfl, -⟩ | ⟨rfl, -⟩ | ⟨e, -, -, rfl, -⟩ <;> rfl
  · rfl

/-- A task that submits a job keeps nothing. -/
theorem stores_turnSubmit {pool : PoolId} {s : Submission}
    (h : w.turnSubmit id pool s = some w') : w'.stores = w.stores := by
  obtain ⟨⟨v, placement⟩, hv, h⟩ := Option.bind_eq_some_iff.mp h
  obtain ⟨q, q', -, rfl⟩ := turnSubmission_frame hv
  cases placement with
  | onward next =>
    cases h
    rfl
  | queued =>
    cases h
    exact stores_finish _ id _
  | handedBack job =>
    cases h
    exact stores_finish _ id _

/-- A task that stops a service keeps nothing. -/
theorem stores_turnStop {service : ServiceId} {stage : Stopping}
    (h : w.turnStop id service stage = some w') : w'.stores = w.stores := by
  obtain ⟨s, -, hcase⟩ := turnStop_cases h
  rcases hcase with ⟨rfl, rfl⟩ | ⟨t, rest, rfl, -, rfl⟩ | ⟨rfl, -, rfl⟩ | ⟨pool, rfl, -, rfl⟩ |
    ⟨pool, part, v, next?, rfl, -, hv, hnext⟩
  · rfl
  · obtain ⟨log, hlog⟩ := w.logs_reportCrash t
    rw [hlog]
    rfl
  · exact w.stores_finish id _
  · rfl
  · have hstores := stores_turnShutdown hv
    rcases hnext with ⟨next, rfl, rfl⟩ | ⟨rfl, u, outcome, ⟨log, rfl⟩, rfl⟩
    · exact hstores
    · exact (stores_finish _ id _).trans hstores

/-- A task that handles a request keeps what its script does. -/
theorem stores_turnHandle {handling : Handling} (h : w.turnHandle id handling = some w') :
    w'.stores = w.storesAfter (some handling) := by
  obtain ⟨⟨v, progress⟩, hv, h⟩ := Option.bind_eq_some_iff.mp h
  have hstores := stores_turnHandling hv
  cases progress with
  | going next =>
    cases h
    exact hstores
  | «over» =>
    cases h
    exact (stores_finish v id _).trans hstores
  | crashed =>
    cases h
    exact hstores

/-- A delivery keeps what the script in hand does. -/
theorem stores_turnDeliver {d : Delivery} (h : w.turnDeliver id d = some w') :
    w'.stores = w.storesAfter d.handling? := by
  obtain ⟨handling, v, progress, hh, hv, hcase⟩ | ⟨hh, -, -, rfl⟩ | ⟨hh, -, hcase⟩ :=
    turnDeliver_cases h
  · have hstores := stores_turnHandling hv
    rw [hh]
    rcases hcase with ⟨next, rfl, rfl⟩ | ⟨rfl, rfl⟩ | ⟨rfl, rfl⟩
    · exact hstores
    · exact hstores
    · exact hstores
  · rw [hh]
    rfl
  · rw [hh]
    rcases hcase with ⟨request, bus, htake, rfl⟩ | ⟨htake, -, v, ⟨log, rfl⟩, rfl⟩
    · rfl
    · rfl

/-- An executor keeps what the script of its job does. -/
theorem stores_turnExecute {pool : PoolId} {i : Nat} {run? : Option Run}
    (h : w.turnExecute id pool i run? = some w') :
    w'.stores = w.storesAfter (run?.map .running) := by
  obtain ⟨rfl, p, p', found, -, -, -, hcase⟩ | ⟨run, p, v, progress, rfl, -, hr, hcase⟩ :=
    turnExecute_cases h
  · rcases hcase with ⟨job, rfl, rfl⟩ | ⟨rfl, v, ⟨log, rfl⟩, rfl⟩
    · rfl
    · rfl
  · have hstores := stores_turnRun hr
    rcases hcase with ⟨next, rfl, rfl⟩ | ⟨hprogress, log, rfl⟩
    · exact hstores
    · exact hstores

/-- **A turn keeps what the script in hand keeps next**, and nothing else. -/
theorem stores_of_turn (h : w.turn id = some w') : w'.stores = w.storesAfter (w.hand? id) := by
  obtain ⟨program, hp⟩ := exists_program_of_turn h
  have hturn := h
  rw [turn, hp, Option.bind_eq_bind, Option.bind_some] at hturn
  rw [hand?_eq hp]
  cases program with
  | awaitCancelled c =>
    rw [turn_awaitCancelled hp h]
    exact w.stores_finish id _
  | awaitEnd c =>
    obtain ⟨e, rfl⟩ := turn_awaitEnd hp h
    exact w.stores_finish id _
  | sleep c begun wake => exact stores_turnSleep hturn
  | receive subscription inbox request => exact stores_turnReceive hturn
  | exchange call c? begun client? conclude => exact stores_turnExchange hturn
  | submit pool s => exact stores_turnSubmit hturn
  | shutdown pool stage =>
    obtain ⟨v, next?, hv, hcase⟩ := turnShutdown_of_turn hp h
    have hstores := stores_turnShutdown hv
    rcases hcase with ⟨next, rfl, rfl⟩ | ⟨rfl, outcome, rfl⟩
    · exact hstores
    · exact (stores_finish _ id _).trans hstores
  | handle handling => exact stores_turnHandle hturn
  | stop service stage => exact stores_turnStop hturn
  | deliver d => exact stores_turnDeliver hturn
  | execute pool i run? => exact stores_turnExecute hturn

/-! ### Stores in steps -/

/-- What is kept in a store in a step. -/
def keptIn (w : World) (m : Mover) (store : StoreId) : List Metadata :=
  ((w.keeping? m).toList.filter (·.2.1 == store)).map (·.2.2)

/-- A task keeps nothing unless its script does so next. -/
theorem keeping?_eq_none (h : ∀ run store key value next, w.hand? id = some (.running run) →
    run.script ≠ .keep store key value next) : w.keeping? (.task id) = none := by
  rw [keeping?]
  split
  · rename_i hand
    exact absurd rfl (h _ _ _ _ _ hand)
  · rfl

/-- A task keeps what its script keeps next, if the store is there. -/
theorem keeping?_keep {run : Run} {key value : String} {next : Script}
    (hand : w.hand? id = some (.running run)) (h : run.script = .keep store key value next)
    (hlt : store < w.stores.length) :
    w.keeping? (.task id) = some (.task id, store, { key, value }) := by
  obtain ⟨context, request, script, wake?⟩ := run
  obtain rfl : script = _ := h
  rw [keeping?, hand]
  exact if_pos hlt

/-- The lists of a list after one of them has got one element more, if it is there. -/
theorem getD_modify_concat {α : Type} (l : List (List α)) (i j : Nat) (x : α) :
    ((l.modify i (· ++ [x]))[j]?).getD [] =
      (l[j]?).getD [] ++ if i = j ∧ i < l.length then [x] else [] := by
  rw [List.getElem?_modify]
  by_cases hj : j < l.length
  · rw [List.getElem?_eq_getElem hj]
    by_cases h : i = j
    · rw [if_pos ⟨h, h ▸ hj⟩]
      simp [h]
    · rw [if_neg fun heq => h heq.1]
      simp [h]
  · have hnot : ¬ (i = j ∧ i < l.length) := fun heq => hj (heq.1 ▸ heq.2)
    rw [List.getElem?_eq_none (Nat.le_of_not_lt hj), if_neg hnot]
    rfl

/-- What a task keeps goes into the store. -/
theorem stored_of_turn (h : w.turn id = some w') (store : StoreId) :
    w'.stored store = w.stored store ++ w.keptIn (.task id) store ∧
      w'.stores.length = w.stores.length := by
  have hstores := stores_of_turn h
  by_cases hkeep : ∃ run other key value next, w.hand? id = some (.running run) ∧
    run.script = .keep other key value next
  · obtain ⟨⟨context, request, script, wake?⟩, other, key, value, next, hand, hscript⟩ := hkeep
    obtain rfl : script = _ := hscript
    rw [hand] at hstores
    replace hstores : w'.stores = w.stores.modify other (· ++ [({ key, value } : Metadata)]) := hstores
    rw [stored, hstores, stored, getD_modify_concat, List.length_modify]
    refine ⟨congrArg _ ?_, rfl⟩
    by_cases hlt : other < w.stores.length
    · rw [keptIn, keeping?_keep hand rfl hlt]
      by_cases heq : other = store
      · simp [heq, heq ▸ hlt]
      · simp [heq]
    · have hnone : w.keeping? (.task id) = none := by
        rw [keeping?, hand]
        exact if_neg hlt
      rw [keptIn, hnone, if_neg fun h => hlt h.2]
      rfl
  · have hnone : w.keeping? (.task id) = none :=
      keeping?_eq_none fun run other key value next hand hscript =>
        hkeep ⟨run, other, key, value, next, hand, hscript⟩
    have hsame : w'.stores = w.stores := by
      rw [hstores]
      unfold storesAfter
      split
      · rename_i hand
        exact absurd ⟨_, _, _, _, _, hand, rfl⟩ hkeep
      · rfl
    rw [stored, stored, keptIn, hnone, hsame]
    exact ⟨(List.append_nil _).symm, rfl⟩

/-- **A store gets what is kept in it in a step**, and stays where it is. -/
theorem Moves.stored (hm : w.Moves m w') (hinside : m ≠ .outside) (store : StoreId) :
    w'.stored store = w.stored store ++ w.keptIn m store ∧
      w'.stores.length = w.stores.length := by
  cases hm with
  | turn id h => exact stored_of_turn h store
  | respond name request headers payload h =>
    have hstores := w.stores_reply request headers payload
    refine ⟨?_, congrArg List.length hstores⟩
    show ((w.reply request headers payload).1.stores[store]?).getD [] = _
    rw [hstores]
    exact (List.append_nil _).symm
  | outside => exact absurd rfl hinside

end World

namespace Register

variable {g : Register} {w w' : World} {m : Mover} {c : Nat} {store : StoreId}

/-! ### What was kept -/

/-- What was kept in a store. -/
def saved (g : Register) (store : StoreId) : List Metadata :=
  (g.kept.filter (·.store == store)).map (·.metadata)

/-- What was kept on the request of a call, and where. -/
def keeps (g : Register) (c : CallId) : List (StoreId × Metadata) :=
  (g.kept.filter (·.call? == some c)).map fun k => (k.store, k.metadata)

/-- What was kept in a store after a step. -/
theorem saved_after (g : Register) (w : World) (m : Mover) (w' : World) (store : StoreId) :
    (g.after w m w').saved store = g.saved store ++ w.keptIn m store := by
  rw [saved, after, List.filter_append, List.map_append, saved, World.keptIn]
  cases w.keeping? m with
  | none => rfl
  | some e =>
    obtain ⟨x, other, metadata⟩ := e
    by_cases h : other = store
    · simp [h]
    · simp [h]

/-- What was kept on the request of a call after its holder has kept something. -/
theorem keeps_keeping {x : Holder} {metadata : Metadata}
    (h : w.keeping? m = some (x, store, metadata)) (hc : g.holds x = some c) :
    (g.after w m w').keeps c = g.keeps c ++ [(store, metadata)] := by
  simp [keeps, after, h, hc]

/-- What was kept on the request of a call after a step in which its holder keeps nothing. -/
theorem keeps_other (h : ∀ e, w.keeping? m = some e → g.holds e.1 ≠ some c) :
    (g.after w m w').keeps c = g.keeps c := by
  simp only [keeps, after, List.filter_append]
  cases hk : w.keeping? m with
  | none => simp
  | some e => simp [h e hk]

/-- What was kept on the request of a call is known only after the request has left all places. -/
theorem Tracks.keeps_eq_nil (h : g.Tracks w) (hc : ¬ w.Gone c) : g.keeps c = [] := by
  rw [keeps, List.filter_eq_nil_iff.mpr fun k hk heq => hc (h.kept k hk c (beq_iff_eq.mp heq))]
  rfl

end Register

/-- **A store holds what was kept in it** in a run, if outside the run nobody changes it. -/
theorem Correspondence.stored_eq {rule : World → Mover → World → Prop} {w : World} {g : Register}
    {store : StoreId} (h : Correspondence rule w g)
    (hrule : ∀ v m v', rule v m v' → m = .outside → v'.stored store = v.stored store) :
    w.stored store = g.saved store := by
  induction h with
  | refl => rfl
  | @tail w w' g m _ hm hkeeps ih =>
    rw [g.saved_after, ← ih]
    by_cases hinside : m = .outside
    · rw [hrule w m w' hkeeps hinside, hinside]
      exact (List.append_nil _).symm
    · exact (hm.stored hinside store).1

/-! ### Scripts that keep -/

/-- Whether a script keeps some things one after the other, and nothing else, and replies well only when
it has. A script that ends or replies with a failure may leave the rest. -/
def Script.Saves : Script → List (StoreId × Metadata) → Prop
  | .stop, _ | .crash, _ => True
  | .note _ next, todo | .report _ next, todo | .pass _ next, todo | .pause _ next, todo =>
    next.Saves todo
  | .reply headers _ next, todo =>
    (serviceError? headers = none → todo = []) ∧ ∀ result, (next result).Saves []
  | .awaitEnd next, todo => ∀ e, (next e).Saves todo
  | .inspect next, todo => ∀ e?, (next e?).Saves todo
  | .keep store key value next, todo =>
    ∃ rest, todo = (store, { key, value }) :: rest ∧ next.Saves rest

/-- How a script goes on that keeps some things. -/
inductive Script.GoesOn (w : World) (id : TaskId) (todo : List (StoreId × Metadata)) (next : Script) :
    Prop
  | on (attempt : w.attempt? (.task id) = none) (keeping : w.keeping? (.task id) = none)
      (saves : next.Saves todo)
  | keeps (e : StoreId × Metadata) (rest : List (StoreId × Metadata))
      (attempt : w.attempt? (.task id) = none)
      (keeping : w.keeping? (.task id) = some (.task id, e)) (eq : todo = e :: rest)
      (saves : next.Saves rest)
  | replies (a : Attempt) (attempt : w.attempt? (.task id) = some a) (holder : a.holder = .task id)
      (keeping : w.keeping? (.task id) = none) (well : serviceError? a.headers = none → todo = [])
      (saves : next.Saves [])

namespace World

variable {w w' v : World} {id c : Nat} {m : Mover} {run next run' : Run}
  {todo : List (StoreId × Metadata)}

/-- **A script that keeps some things keeps the rest later.** -/
theorem goesOn_of_turn (h : run.script.Saves todo) (hand : w.hand? id = some (.running run))
    (hstores : ∀ e ∈ todo, e.1 < w.stores.length)
    (turn : w.turnRun id run = some (v, .going next)) : next.script.GoesOn w id todo := by
  -- what neither replies nor keeps
  have hquiet : (∀ headers payload after, run.script ≠ .reply headers payload after) →
      (∀ store key value after, run.script ≠ .keep store key value after) →
      next.script.Saves todo → next.script.GoesOn w id todo := by
    intro hreply hkeep hsaves
    refine .on (attempt?_eq_none fun other headers payload after hother => ?_)
      (keeping?_eq_none fun other store key value after hother => ?_) hsaves
    · rw [hand] at hother
      cases hother
      exact hreply headers payload after
    · rw [hand] at hother
      cases hother
      exact hkeep store key value after
  cases runStep_of_turnRun turn with
  | note n after script | report r after script | wakes ms after script =>
    rw [script] at h
    exact hquiet (by simp [script]) (by simp [script]) h
  | reply headers payload after script =>
    rw [script] at h
    refine .replies ⟨.task id, run.request, headers, payload⟩ (attempt?_reply hand script) rfl
      (keeping?_eq_none fun other store key value after hother => ?_) h.1 (h.2 _)
    rw [hand] at hother
    cases hother
    simp [script]
  | @pass payload after _ passed script =>
    cases passed with
    | true =>
      rw [script] at h
      exact hquiet (by simp [script]) (by simp [script]) h
    | false => exact hquiet (by simp [script]) (by simp [script]) h
  | pauses ms after script => exact hquiet (by simp [script]) (by simp [script]) h
  | awaitEnd after e script =>
    rw [script] at h
    exact hquiet (by simp [script]) (by simp [script]) (h e)
  | inspect after script =>
    rw [script] at h
    exact hquiet (by simp [script]) (by simp [script]) (h _)
  | keep store key value after script =>
    rw [script] at h
    obtain ⟨rest, rfl, hrest⟩ := h
    refine .keeps (store, { key, value }) rest
      (attempt?_eq_none fun other headers payload after hother => ?_)
      (keeping?_keep hand script (hstores _ List.mem_cons_self)) rfl hrest
    rw [hand] at hother
    cases hother
    simp [script]

/-- **A run goes on in the turn of its task only.** -/
theorem Moves.run_cases (hm : w.Moves m w') (hand : w.hand? id = some (.running run))
    (hand' : w'.hand? id = some (.running run')) :
    m ≠ .task id ∧ run' = run ∨ m = .task id ∧ ∃ v, w.turnRun id run = some (v, .going run') := by
  have hsame : w'.hand? id = w.hand? id → run' = run := fun heq => by
    rw [heq, hand] at hand'
    cases hand'
    rfl
  cases hm with
  | turn j h =>
    by_cases hj : id = j
    · subst hj
      refine Or.inr ⟨rfl, ?_⟩
      cases comesTo_of_turn h hand' with
      | begins _ _ _ before => cases hand.symm.trans before
      | refuses _ _ _ _ before => cases hand.symm.trans before
      | goesOn v _ _ before turn =>
        cases hand.symm.trans before
        exact ⟨v, turn⟩
      | picks _ _ _ _ _ program => cases hand.symm.trans (hand?_eq program)
    · exact Or.inl ⟨fun heq => hj (Mover.task.inj heq).symm, hsame (hand?_of_turn h hj)⟩
  | respond name request headers payload h =>
    obtain ⟨_, _, _, _, _, hbeside⟩ := w.beside_reply request headers payload
    refine Or.inl ⟨by simp, hsame ?_⟩
    simp only [hand?, program?, hbeside]
  | outside step still =>
    refine Or.inl ⟨by simp, hsame ?_⟩
    obtain ⟨program, hp, -⟩ := Option.bind_eq_some_iff.mp hand
    rw [hand?_eq hp, hand?_eq ((step.turn_or_program id).resolve_left (still id) program hp)]

/-- Who attempts a reply in the turn of a task is the task, and its script does so. -/
theorem attempt?_task {a : Attempt} (h : w.attempt? m = some a) (ha : a.holder = .task id) :
    m = .task id ∧ ∃ run next, w.hand? id = some (.running run) ∧
      run.script = .reply a.headers a.payload next := by
  cases m with
  | task j =>
    rw [attempt?] at h
    split at h
    · rename_i hand
      cases h
      cases ha
      exact ⟨rfl, _, _, hand, rfl⟩
    · cases h
  | replier name headers payload =>
    obtain ⟨request, -, rfl⟩ := Option.map_eq_some_iff.mp h
    cases ha
  | outside => cases h

/-- Who keeps something is a task, and its script does so. -/
theorem keeping?_task {x : Holder} {e : StoreId × Metadata} (h : w.keeping? m = some (x, e)) :
    ∃ id run next, m = .task id ∧ x = .task id ∧ w.hand? id = some (.running run) ∧
      run.script = .keep e.1 e.2.key e.2.value next := by
  cases m with
  | task j =>
    rw [keeping?] at h
    split at h
    · rename_i hand
      split at h
      · cases h
        exact ⟨_, _, _, rfl, rfl, hand, rfl⟩
      · cases h
    · cases h
  | replier => cases h
  | outside => cases h

end World

/-! ### What is still to be kept -/

namespace Register

variable {g : Register} {w w' : World} {m : Mover} {id c : Nat} {e : StoreId × Metadata}

/-- Whether a script that is run on the request of a call keeps one thing in all, unless it fails. After
the first reply it keeps nothing more. -/
def Owes (g : Register) (c : CallId) (e : StoreId × Metadata) (script : Script) : Prop :=
  ∃ todo, script.Saves todo ∧
    (g.attempts c = [] ∧ g.keeps c ++ todo = [e] ∨ g.attempts c ≠ [] ∧ todo = [])

/-- Whether somebody runs such a script. -/
def OwedBy (g : Register) (w : World) (c : CallId) (e : StoreId × Metadata) (x : Holder) : Prop :=
  ∃ id run, x = .task id ∧ w.hand? id = some (.running run) ∧ g.Owes c e run.script

/-- What was attempted and kept on the request of a call does not change by the step of another task. -/
theorem Tracks.same_of_other (h : g.Tracks w) (hx : g.holds (.task id) = some c)
    (hm : m ≠ .task id) : (g.after w m w').attempts c = g.attempts c ∧
      (g.after w m w').keeps c = g.keeps c := by
  constructor
  · cases hattempt : w.attempt? m with
    | none => exact attempts_silent hattempt c
    | some a =>
      refine attempts_other hattempt fun hc => hm ?_
      exact (World.attempt?_task hattempt (h.unique _ _ c hc hx)).1
  · refine keeps_other fun e he hc => hm ?_
    obtain ⟨j, -, -, hmove, hj, -⟩ := World.keeping?_task he
    rw [hmove]
    exact congrArg Mover.task (Holder.task.inj (hj ▸ h.unique _ _ c hc hx))

/-- **A script goes on with what it is to keep.** -/
theorem Owes.step {run run' : Run} (h : g.Owes c e run.script) (ht : g.Tracks w)
    (hm : w.Moves m w') (hx : g.holds (.task id) = some c)
    (hand : w.hand? id = some (.running run)) (hand' : w'.hand? id = some (.running run'))
    (hstore : e.1 < w.stores.length) : (g.after w m w').Owes c e run'.script := by
  obtain ⟨todo, hsaves, htodo⟩ := h
  rcases hm.run_cases hand hand' with ⟨hother, rfl⟩ | ⟨rfl, v, turn⟩
  · -- only who holds the request adds to what is known of it
    obtain ⟨hattempts, hkeeps⟩ : (g.after w m w').attempts c = g.attempts c ∧
        (g.after w m w').keeps c = g.keeps c := ht.same_of_other hx hother
    exact ⟨todo, hsaves, by rwa [hattempts, hkeeps]⟩
  · have hstores : ∀ d ∈ todo, d.1 < w.stores.length := by
      intro d hd
      rcases htodo with ⟨-, hall⟩ | ⟨-, rfl⟩
      · have hmem : d ∈ g.keeps c ++ todo := List.mem_append_right _ hd
        rw [hall] at hmem
        rw [List.mem_singleton.mp hmem]
        exact hstore
      · cases hd
    have hnothing : w.keeping? (.task id) = none →
        (g.after w (.task id) w').keeps c = g.keeps c := fun hnone =>
      keeps_other fun d hd => by
        rw [hnone] at hd
        cases hd
    cases World.goesOn_of_turn hsaves hand hstores turn with
    | on attempt keeping saves =>
      exact ⟨todo, saves, by rwa [attempts_silent attempt, hnothing keeping]⟩
    | keeps d rest attempt keeping eq saves =>
      refine ⟨rest, saves, ?_⟩
      rw [attempts_silent attempt, keeps_keeping keeping hx, List.append_assoc]
      rcases htodo with ⟨hnil, hall⟩ | ⟨-, hnil⟩
      · exact Or.inl ⟨hnil, by rw [← hall, eq]; rfl⟩
      · rw [eq] at hnil
        cases hnil
    | replies a attempt holder keeping well saves =>
      refine ⟨[], saves, Or.inr ⟨?_, rfl⟩⟩
      rw [attempts_reply attempt (holder ▸ hx)]
      simp

/-- After the first reply nothing more is kept on the request of a call. -/
theorem Owes.keeps_after (hattempts : g.attempts c ≠ [])
    (h : ∀ x, g.holds x = some c → g.OwedBy w c e x) : (g.after w m w').keeps c = g.keeps c := by
  refine keeps_other fun d hd hc => ?_
  obtain ⟨id, run, next, -, hx, hand, hscript⟩ := World.keeping?_task hd
  obtain ⟨id', run', hx', hand', todo, hsaves, htodo⟩ := h _ hc
  rw [hx] at hx'
  cases hx'
  rw [hand] at hand'
  cases hand'
  obtain ⟨rest, hcons, -⟩ : ∃ rest, todo = _ :: rest ∧ _ := hscript ▸ hsaves
  rcases htodo with ⟨hnil, -⟩ | ⟨-, hnil⟩
  · exact hattempts hnil
  · rw [hnil] at hcons
    cases hcons

/-- **Who replies well has kept what was to be kept** on the request of the call. -/
theorem Owes.first
    (h : ∀ x, g.holds x = some c → g.OwedBy w c e x)
    (hfirst : ∀ a rest, g.attempts c = a :: rest → serviceError? a.reply.headers = none →
      g.keeps c = [e])
    {a : Attempted} {rest : List Attempted} (hattempts : (g.after w m w').attempts c = a :: rest)
    (hwell : serviceError? a.reply.headers = none) : (g.after w m w').keeps c = [e] := by
  cases hbefore : g.attempts c with
  | cons b others =>
    -- the first reply was there before, and so was what is kept
    rw [keeps_after (by simp [hbefore]) h]
    obtain ⟨rest', hsame⟩ : ∃ rest', (g.after w m w').attempts c = b :: rest' :=
      attempts_mono ⟨others, hbefore⟩
    rw [hattempts] at hsame
    cases hsame
    exact hfirst a others hbefore hwell
  | nil =>
    -- the first reply is that of this step, and a script that replies well has nothing left to keep
    cases hattempt : w.attempt? m with
    | none =>
      rw [attempts_silent hattempt, hbefore] at hattempts
      cases hattempts
    | some att =>
      by_cases hholds : g.holds att.holder = some c
      · obtain ⟨id, run, hx, hand, todo, hsaves, htodo⟩ := h _ hholds
        obtain ⟨rfl, run', next, hand', hscript⟩ := World.attempt?_task hattempt hx
        rw [hand] at hand'
        cases hand'
        rw [attempts_reply hattempt hholds, hbefore] at hattempts
        cases hattempts
        rw [hscript] at hsaves
        rcases htodo with ⟨-, hall⟩ | ⟨hne, -⟩
        · rw [hsaves.1 hwell, List.append_nil] at hall
          rw [← hall]
          refine keeps_other fun d hd => ?_
          obtain ⟨_, _, _, hmove, -, hother, hkeep⟩ := World.keeping?_task hd
          cases hmove
          rw [hand] at hother
          cases hother
          rw [hscript] at hkeep
          cases hkeep
        · exact absurd hbefore hne
      · rw [attempts_other hattempt hholds, hbefore] at hattempts
        cases hattempts

end Register

end ServiceBus.Bus
