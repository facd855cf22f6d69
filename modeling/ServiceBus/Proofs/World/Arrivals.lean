import ServiceBus.Proofs.World.Readers

/-! # Tasks that arrive

A task that was not there before a step is one that somebody outside starts, a call, one that waits for
a request, a loop, or an executor of a new pool; and it is at its beginning.

* `World.Arrival`: what a task begins with.
* `Step.arrivals`: where the programs of tasks come from. -/

namespace ServiceBus.Bus

namespace World

variable {w w' v : World} {id j : Nat} {program : Program}

/-- **What a task begins with** that arrives in a step. -/
inductive Arrival (w w' : World) (j : TaskId) : Program → Prop
  | begins {program : Program} (h : program.Begins) : Arrival w w' j program
  | exchange (call : CallId) (context? : Option Context) (client? : Option ClientId)
      (conclude : Except TransportError Message → Logged Outcome) :
      Arrival w w' j (.exchange call context? false client? conclude)
  | receive (subscription : String) (inbox : InboxId) (request : String) :
      Arrival w w' j (.receive subscription inbox request)
  | loop (d : Delivery) (draining : d.draining = false) (hand : d.handling? = none) :
      Arrival w w' j (.deliver d)
  /-- A pool comes with its executors. -/
  | executor (requested i : Nat) (lt : i < WorkerPool.capacityFor requested)
      (task : j = w.tasks.length + i) (pool : w'.pools[w.pools.length]? = some (.new requested)) :
      Arrival w w' j (.execute w.pools.length i none)

/-- The programs of tasks that stay as they are. -/
theorem program?_of_tasks (h : w'.tasks = w.tasks) (hj : w'.program? j = some program) :
    w.program? j = some program := by
  rw [program?, h] at hj
  exact hj

/-- The programs of tasks after one was started. -/
theorem program?_of_spawn {started : Program} {name? : Option String}
    (hj : (w.spawn started name?).program? j = some program) :
    w.program? j = some program ∨ program = started := by
  rw [program?_spawn] at hj
  split at hj
  · exact Or.inr (Option.some.inj hj).symm
  · exact Or.inl hj

/-- **Where the programs of tasks come from**: a task goes on with its program unless it has its turn, or
it arrives. -/
theorem Step.arrivals (hs : w.Step w') (h : w'.program? j = some program) :
    w.turn j = some w' ∨ w.program? j = some program ∨ w.Arrival w' j program := by
  have hsame : w'.tasks = w.tasks →
      w.turn j = some w' ∨ w.program? j = some program ∨ w.Arrival w' j program :=
    fun htasks => Or.inr (Or.inl (program?_of_tasks htasks h))
  cases hs with
  | turn id hturn =>
    by_cases hj : j = id
    · rw [hj]
      exact Or.inl hturn
    · rw [(others_of_turn hturn).2 j hj] at h
      exact Or.inr (Or.inl h)
  | clock => exact hsame rfl
  | aside => exact hsame rfl
  | names => exact hsame rfl
  | scopes => exact hsame rfl
  | start started name? hb =>
    rcases program?_of_spawn h with hold | rfl
    · exact Or.inr (Or.inl hold)
    · exact Or.inr (Or.inr (.begins hb))
  | ask =>
    rcases program?_of_spawn h with hold | rfl
    · exact Or.inr (Or.inl hold)
    · exact Or.inr (Or.inr (.exchange _ _ _ _))
  | receive =>
    rcases program?_of_spawn h with hold | rfl
    · exact Or.inr (Or.inl hold)
    · exact Or.inr (Or.inr (.receive _ _ _))
  | @subscribe name subject bus =>
    exact hsame (tends_nameSubscription (w.withBus bus) name w.bus.inboxes.length).tasks
  | closeSubscription => exact hsame rfl
  | dropSubscription => exact hsame rfl
  | closeBus => exact hsame rfl
  | respond name request headers payload =>
    obtain ⟨_, _, _, _, _, hbeside⟩ := w.beside_reply request headers payload
    exact hsame (by rw [hbeside])
  | dropRequest => exact hsame rfl
  | openPool requested =>
    rcases program?_openPool.mp h with hold | ⟨i, hi, hj, rfl⟩
    · exact Or.inr (Or.inl hold)
    · refine Or.inr (Or.inr (.executor requested i hi hj ?_))
      obtain ⟨log, hw⟩ := w.openPool_eq requested
      rw [hw]
      exact List.getElem?_concat_length
  | closePool => exact hsame rfl
  | reapPool pool =>
    obtain hw | ⟨p, -, hw⟩ := w.reapPool_eq pool
    · exact hsame (by rw [hw])
    · exact hsame (by rw [hw]; rfl)
  | openService config hw =>
    obtain ⟨log, rfl⟩ := openService_eq hw
    exact hsame rfl
  | openEndpoint s context config handler _ hw =>
    obtain ⟨-, bus, log, inbox, -, -, rfl⟩ := openEndpoint_cases hw
    rcases program?_of_spawn h with hold | rfl
    · exact Or.inr (Or.inl hold)
    · exact Or.inr (Or.inr (.loop _ rfl rfl))
  | pair s pool hservice =>
    obtain ⟨log, hw⟩ := pairService_eq hservice pool
    exact hsame (by rw [hw])

end World

end ServiceBus.Bus
