import ServiceBus.Proofs.World.Deeds
import ServiceBus.Proofs.World.Services

/-! # Tasks keep their names

New tasks come after the old ones, and no task gets another name.

* `World.labels`: the names of all tasks.
* `Step.labels`: a step leaves them and may add some. -/

namespace ServiceBus.Bus

namespace World

variable {w w' v : World} {id : Nat}

/-- The names of all tasks. -/
def labels (w : World) : List (Option String) := w.tasks.map (·.name?)

/-- The name of a task. -/
theorem labels_getElem? (w : World) (id : TaskId) :
    w.labels[id]? = (w.tasks[id]?).map (·.name?) := List.getElem?_map

/-! ### Operations on tasks -/

/-- A change of one task that leaves its name. -/
theorem labels_modify (f : Task → Task) (hf : ∀ t : Task, (f t).name? = t.name?) (l : List Task)
    (id : Nat) : (l.modify id f).map (·.name?) = l.map (·.name?) := by
  refine List.ext_getElem? fun j => ?_
  rw [List.getElem?_map, List.getElem?_map, List.getElem?_modify]
  cases l[j]? with
  | none => rfl
  | some t =>
    show some ((if id = j then f t else t).name?) = _
    split
    · exact congrArg some (hf t)
    · rfl

/-- A task that goes on. -/
theorem labels_setProgram (w : World) (id : TaskId) (program : Program) :
    (w.setProgram id program).labels = w.labels :=
  labels_modify ({ · with program? := some program }) (fun _ => rfl) w.tasks id

/-- A task that ends. -/
theorem labels_endTask (w : World) (id : TaskId) (crashed : Bool) :
    (w.endTask id crashed).labels = w.labels :=
  labels_modify ({ · with program? := none, crashed }) (fun _ => rfl) w.tasks id

/-- A task that finishes. -/
theorem labels_finish (w : World) (id : TaskId) (outcome : Outcome) :
    (w.finish id outcome).labels = w.labels := by
  obtain ⟨news, hw⟩ := w.finish_eq id outcome
  rw [hw]
  exact w.labels_endTask id false

/-- The names depend on the tasks only. -/
theorem labels_congr (h : v.tasks = w.tasks) : v.labels = w.labels := congrArg (List.map _) h

/-! ### Turns -/

/-- A delivery in its turn. -/
theorem labels_deliver {d : Delivery} (h : w.turnDeliver id d = some w') : w'.labels = w.labels := by
  obtain ⟨handling, v, progress, -, hv, hcase⟩ | ⟨-, -, -, rfl⟩ | ⟨-, -, hcase⟩ :=
    turnDeliver_cases h
  · have hsame := labels_congr (tasks_turnHandling hv)
    rcases hcase with ⟨next, -, rfl⟩ | ⟨-, rfl⟩ | ⟨-, rfl⟩
    · exact (labels_setProgram v id _).trans hsame
    · exact (labels_setProgram v id _).trans hsame
    · exact (labels_endTask _ id true).trans hsame
  · exact labels_setProgram (w.withBus (w.bus.closeInbox d.inbox)) id _
  · rcases hcase with ⟨request, bus, -, rfl⟩ | ⟨-, -, v, ⟨log, rfl⟩, rfl⟩
    · exact labels_setProgram (w.withBus bus) id _
    · exact labels_endTask _ id false

/-- An executor in its turn. -/
theorem labels_execute {pool : PoolId} {i : Nat} {run? : Option Run}
    (h : w.turnExecute id pool i run? = some w') : w'.labels = w.labels := by
  obtain ⟨-, p, p', found, -, -, -, hcase⟩ | ⟨run, p, v, progress, -, -, hv, hcase⟩ :=
    turnExecute_cases h
  · rcases hcase with ⟨job, -, rfl⟩ | ⟨-, v, ⟨log, rfl⟩, rfl⟩
    · exact labels_setProgram (w.setPool pool p') id _
    · exact labels_endTask _ id false
  · have hsame := labels_congr (turnRun_frame hv).1
    rcases hcase with ⟨next, -, rfl⟩ | ⟨-, log, rfl⟩
    · exact (labels_setProgram v id _).trans hsame
    · exact (labels_setProgram v id (.execute pool i none)).trans hsame

/-- A task that stops a service, in its turn. -/
theorem labels_stop {s : ServiceId} {stage : Stopping} (h : w.turnStop id s stage = some w') :
    w'.labels = w.labels := by
  obtain ⟨service, -, hcase⟩ := turnStop_cases h
  rcases hcase with ⟨-, rfl⟩ | ⟨t, rest, -, -, rfl⟩ | ⟨-, -, rfl⟩ | ⟨pool, -, -, rfl⟩ |
    ⟨pool, part, v, next?, -, -, hv, hnext⟩
  · exact labels_setProgram _ id _
  · obtain ⟨log, hlog⟩ := w.logs_reportCrash t
    rw [hlog]
    exact labels_setProgram _ id _
  · exact labels_finish w id _
  · exact labels_setProgram w id _
  · have hsame := labels_congr (turnShutdown_marks hv).1
    rcases hnext with ⟨next, -, rfl⟩ | ⟨-, u, outcome, ⟨log, rfl⟩, rfl⟩
    · exact (labels_setProgram v id _).trans hsame
    · exact (labels_finish _ id outcome).trans hsame

/-- A call in its turn. -/
theorem labels_exchange {call : CallId} {context? : Option Context} {begun : Bool}
    {client? : Option ClientId} {conclude : Except TransportError Message → Logged Outcome}
    (h : w.turnExchange id call context? begun client? conclude = some w') :
    w'.labels = w.labels := by
  obtain ⟨v, result, rfl, hcase⟩ | ⟨-, -, rfl⟩ := turnExchange_cases h
  · refine (labels_finish (v.absorb (conclude result)) id _).trans ?_
    rcases hcase with ⟨e, -, -, rfl, -⟩ | ⟨rfl, -⟩ | ⟨e, -, -, rfl, -⟩ <;> rfl
  · exact labels_setProgram (w.withBus (w.bus.poll call).1) id _

/-- A task that waits for a request, in its turn. -/
theorem labels_receive {subscription request : String} {inbox : InboxId}
    (h : w.turnReceive id subscription inbox request = some w') : w'.labels = w.labels := by
  obtain ⟨r, bus, -, rfl⟩ | rfl := turnReceive_cases h
  · have hrequest := tends_nameRequest (w.withBus bus) request r
    have hsubscription := tends_nameSubscription ((w.withBus bus).nameRequest request r)
      subscription inbox
    exact (labels_finish _ id _).trans (labels_congr (hsubscription.tasks.trans hrequest.tasks))
  · have hsubscription := tends_nameSubscription w subscription inbox
    exact (labels_finish _ id _).trans (labels_congr hsubscription.tasks)

/-- **A turn leaves the names of tasks.** -/
theorem labels_of_turn (h : w.turn id = some w') : w'.labels = w.labels := by
  obtain ⟨program, hp⟩ := exists_program_of_turn h
  have hturn := h
  rw [turn, hp, Option.bind_eq_bind, Option.bind_some] at hturn
  cases program with
  | awaitCancelled c =>
    rw [turn_awaitCancelled hp h]
    exact labels_finish w id _
  | awaitEnd c =>
    obtain ⟨e, rfl⟩ := turn_awaitEnd hp h
    exact labels_finish w id _
  | sleep c begun wake =>
    obtain ⟨result, rfl⟩ | ⟨-, rfl⟩ := turnSleep_cases hturn
    · exact labels_finish w id _
    · exact labels_setProgram w id _
  | receive subscription inbox request => exact labels_receive hturn
  | exchange call c? begun client? conclude => exact labels_exchange hturn
  | submit pool s =>
    obtain ⟨⟨v, placement⟩, hv, hturn⟩ := Option.bind_eq_some_iff.mp hturn
    have hsame := labels_congr (tends_turnSubmission hv).tasks
    cases placement with
    | onward next =>
      cases hturn
      exact (labels_setProgram v id _).trans hsame
    | queued =>
      cases hturn
      exact (labels_finish v id _).trans hsame
    | handedBack job =>
      cases hturn
      exact (labels_finish (v.dropRequest job.request) id _).trans hsame
  | shutdown pool stage =>
    obtain ⟨v, next?, hv, hcase⟩ := turnShutdown_of_turn hp h
    have hsame := labels_congr (turnShutdown_marks hv).1
    rcases hcase with ⟨next, -, rfl⟩ | ⟨-, outcome, rfl⟩
    · exact (labels_setProgram v id _).trans hsame
    · exact (labels_finish v id outcome).trans hsame
  | handle handling =>
    obtain ⟨⟨v, progress⟩, hv, hturn⟩ := Option.bind_eq_some_iff.mp hturn
    have hsame := labels_congr (tasks_turnHandling hv)
    cases progress with
    | going next =>
      cases hturn
      exact (labels_setProgram v id _).trans hsame
    | «over» =>
      cases hturn
      exact (labels_finish v id _).trans hsame
    | crashed =>
      cases hturn
      exact (labels_endTask v id true).trans hsame
  | stop service stage => exact labels_stop hturn
  | deliver d => exact labels_deliver hturn
  | execute pool i run? => exact labels_execute hturn

/-! ### Steps -/

/-- A new task comes after the others. -/
theorem labels_spawn (w : World) (program : Program) (name? : Option String) :
    (w.spawn program name?).labels = w.labels ++ [name?] := List.map_append

/-- **A step leaves the names of tasks**, and may add some. -/
theorem Step.labels (hs : w.Step w') : w.labels <+: w'.labels := by
  have hsame : w'.tasks = w.tasks → w.labels <+: w'.labels := fun h =>
    labels_congr h ▸ List.prefix_refl _
  cases hs with
  | turn id h => exact labels_of_turn h ▸ List.prefix_refl _
  | start program name? => exact ⟨_, (w.labels_spawn program name?).symm⟩
  | ask call asking context? client? conclude name? => exact ⟨_, (labels_spawn _ _ name?).symm⟩
  | receive name request inbox name? => exact ⟨_, (labels_spawn _ _ name?).symm⟩
  | @subscribe name subject bus h =>
    exact hsame (tends_nameSubscription (w.withBus bus) name w.bus.inboxes.length).tasks
  | respond name request headers payload =>
    obtain ⟨_, _, _, _, _, hreply⟩ := w.beside_reply request headers payload
    refine hsame ?_
    rw [hreply]
  | openPool requested =>
    obtain ⟨log, hw⟩ := w.openPool_eq requested
    rw [hw]
    exact ⟨_, List.map_append.symm⟩
  | reapPool pool =>
    obtain hw | ⟨p, -, hw⟩ := w.reapPool_eq pool
    · exact hsame (by rw [hw])
    · exact hsame (by rw [hw]; rfl)
  | openService config h =>
    obtain ⟨log, rfl⟩ := openService_eq h
    exact hsame rfl
  | @openEndpoint s context config handler service _ hservice h =>
    obtain ⟨-, bus, log, inbox, -, -, rfl⟩ := openEndpoint_cases h
    exact ⟨_, (labels_spawn _ _ none).symm⟩
  | pair s pool hservice =>
    obtain ⟨log, hw⟩ := pairService_eq hservice pool
    exact hsame (by rw [hw])
  | clock | aside | names | scopes | closeSubscription | dropSubscription | closeBus | dropRequest |
    closePool => exact hsame rfl

end World

end ServiceBus.Bus
