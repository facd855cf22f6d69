import ServiceBus.Proofs.World.Calls

/-! # Every inbox has one reader

Requests are taken out of an inbox by the subscription of a name, by a task that waits for the next
request of a subscription, or by a delivery. In every run each inbox has one of them at most.

* `World.Reads`: whether an inbox is that of a reader.
* `World.Passes`: how the inboxes of readers may change in a step.
* `World.ReadOnce.of_steps`: no inbox has two readers. -/

namespace ServiceBus.Bus

/-- The inbox that a task takes requests out of, if any. -/
def Role.inbox? : Role → Option InboxId
  | .deliver inbox .. | .receive _ inbox _ => some inbox
  | .execute .. | .exchange .. | .other => none

/-- Who may take requests out of an inbox. -/
inductive Reader where
  /-- Whoever holds the subscription of a name. -/
  | name (name : String)
  | task (id : TaskId)

/-- Who begins takes no requests out of an inbox. -/
theorem Program.Begins.inbox?_role {program : Program} (h : program.Begins) :
    program.role.inbox? = none := by
  cases program with
  | receive => exact absurd h fun h => h
  | deliver => exact absurd h fun h => h
  | _ => rfl

namespace World

variable {w w' v : World} {id j i : Nat} {x : Reader}

/-! ### Readers -/

/-- Whether an inbox is that of a reader. -/
def Reads (w : World) : Reader → InboxId → Prop
  | .name name, i => w.desk.subscriptions[name]? = some i
  | .task id, i => (w.role? id).bind (·.inbox?) = some i

/-- The inbox of a delivery. -/
theorem reads_deliver {d : Delivery} (h : w.program? id = some (.deliver d)) :
    w.Reads (.task id) d.inbox := by
  rw [Reads, role?_eq h]
  rfl

/-- The inbox of a task that waits for a request. -/
theorem reads_receive {subscription request : String} {inbox : InboxId}
    (h : w.program? id = some (.receive subscription inbox request)) :
    w.Reads (.task id) inbox := by
  rw [Reads, role?_eq h]
  rfl

/-- What a task is for after a task was started. -/
theorem role?_spawn (w : World) (program : Program) (name? : Option String) (j : Nat) :
    (w.spawn program name?).role? j = if j = w.tasks.length then some program.role else w.role? j := by
  rw [role?, program?_spawn]
  split <;> rfl

/-- **How the inboxes of readers may change** in a step. -/
inductive Passes (w w' : World) : Prop
  | keeps (h : ∀ (x : Reader) (i : Nat), w'.Reads x i → w.Reads x i)
  /-- There is a new inbox. -/
  | opens (x : Reader) (lt : w.bus.inboxes.length < w'.bus.inboxes.length)
      (h : ∀ (y : Reader) (i : Nat), w'.Reads y i →
        w.Reads y i ∨ y = x ∧ i = w.bus.inboxes.length)
  /-- One reader hands its inbox to another. -/
  | hands (x x' : Reader) (i : InboxId) (had : w.Reads x i)
      (h : ∀ (y : Reader) (k : Nat), w'.Reads y k → w.Reads y k ∧ y ≠ x ∨ y = x' ∧ k = i)

/-- The readers stay. -/
theorem Passes.same (hs : w'.desk.subscriptions = w.desk.subscriptions)
    (hr : ∀ j i : Nat, w'.Reads (.task j) i → w.Reads (.task j) i) : w.Passes w' :=
  .keeps fun x i h => match x with
    | .name _ => (congrArg (·[_]?) hs).symm.trans h
    | .task j => hr j i h

/-- The tasks stay. -/
theorem reads_of_tasks (h : w'.tasks = w.tasks) (hj : w'.Reads (.task j) i) :
    w.Reads (.task j) i := by
  rw [Reads, role?, program?, h] at hj
  exact hj

/-- A new task that takes no requests. -/
theorem reads_spawn {program : Program} {name? : Option String} (h : program.role.inbox? = none)
    (hj : (w.spawn program name?).Reads (.task j) i) : w.Reads (.task j) i := by
  rw [Reads, role?_spawn] at hj
  split at hj
  · rw [Option.bind_some, h] at hj
    cases hj
  · exact hj

/-! ### Steps -/

/-- A task in its turn takes requests out of the inbox that it had. -/
theorem reads_of_turn (h : w.turn id = some w') (hj : w'.Reads (.task j) i) :
    w.Reads (.task j) i := by
  obtain ⟨role, hrole, hi⟩ := Option.bind_eq_some_iff.mp hj
  rw [Reads, role_of_turn h hrole]
  exact hi

/-- A task that waited for a request hands the inbox back in its turn; the other tasks hand none on. -/
theorem passes_of_turn (h : w.turn id = some w') : w.Passes w' := by
  rcases desk_of_turn h with hdesk | ⟨subscription, request, inbox, program, turn⟩
  · exact .same (by rw [hdesk]) fun j i => reads_of_turn h
  · obtain ⟨b, -, -, hsubscriptions, hnone⟩ := turnReceive_effect turn
    refine .hands (.task id) (.name subscription) inbox (reads_receive program) fun y k hy => ?_
    cases y with
    | name n =>
      rw [Reads, hsubscriptions] at hy
      rcases names_insert.mp hy with ⟨rfl, rfl⟩ | ⟨-, hy⟩
      · exact Or.inr ⟨rfl, rfl⟩
      · exact Or.inl ⟨hy, fun heq => nomatch heq⟩
    | task j =>
      refine Or.inl ⟨reads_of_turn h hy, fun heq => ?_⟩
      cases heq
      rw [Reads, role?, hnone] at hy
      cases hy

/-- The number of inboxes after one more was opened. -/
theorem length_subscribe {b b' : MemoryBus} {subject : String} (h : b.subscribe subject = .ok b') :
    b'.inboxes.length = b.inboxes.length + 1 := by
  rw [MemoryBus.subscribe_eq h]
  exact List.length_append

/-- The number of inboxes and the subscriptions after one was named. -/
theorem nameSubscription_inboxes (w : World) (name : String) (inbox : InboxId) :
    (w.nameSubscription name inbox).bus.inboxes.length = w.bus.inboxes.length ∧
      (w.nameSubscription name inbox).desk.subscriptions =
        w.desk.subscriptions.insert name inbox := by
  obtain ⟨bus, hw, rfl | ⟨old, -, rfl⟩⟩ := w.nameSubscription_cases name inbox <;> rw [hw]
  · exact ⟨rfl, rfl⟩
  · exact ⟨(w.bus.discardInbox_frame old).2, rfl⟩

/-- Who waits for a request of a subscription has its inbox meanwhile. -/
theorem passes_receive {name : String} {inbox : InboxId}
    (h : w.desk.subscriptions[name]? = some inbox) (request : String) (name? : Option String) :
    w.Passes ({ w with desk.subscriptions := w.desk.subscriptions.erase name }.spawn
      (.receive name inbox request) name?) := by
  refine .hands (.name name) (.task w.tasks.length) inbox h fun y k hy => ?_
  cases y with
  | name n =>
    obtain ⟨hne, hy⟩ := names_erase.mp hy
    exact Or.inl ⟨hy, fun heq => hne (Reader.name.inj heq)⟩
  | task j =>
    rw [Reads, role?_spawn] at hy
    split at hy
    · rename_i hj
      cases hy
      exact Or.inr ⟨congrArg Reader.task hj, rfl⟩
    · exact Or.inl ⟨hy, fun heq => nomatch heq⟩

/-- A new inbox gets a name. -/
theorem passes_subscribe {subject : String} {bus : MemoryBus}
    (hbus : w.bus.subscribe subject = .ok bus) (name : String) :
    w.Passes ((w.withBus bus).nameSubscription name w.bus.inboxes.length) := by
  obtain ⟨hlength, hsubscriptions⟩ :=
    nameSubscription_inboxes (w.withBus bus) name w.bus.inboxes.length
  refine .opens (.name name) ?_ fun y k hy => ?_
  · rw [hlength, show (w.withBus bus).bus = bus from rfl, length_subscribe hbus]
    exact Nat.lt_succ_self _
  · cases y with
    | name n =>
      rw [Reads, hsubscriptions] at hy
      rcases names_insert.mp hy with ⟨rfl, rfl⟩ | ⟨-, hy⟩
      · exact Or.inr ⟨rfl, rfl⟩
      · exact Or.inl hy
    | task j =>
      have ht := tends_nameSubscription (w.withBus bus) name w.bus.inboxes.length
      exact Or.inl (reads_of_tasks (w := w) ht.tasks hy)

/-- The delivery of a new endpoint has a new inbox. -/
theorem passes_openEndpoint {s : Nat} {service : Service} {context : Context}
    {config : EndpointConfig} {handler : Handler}
    (hw : w.openEndpoint s service context config handler = .ok w') : w.Passes w' := by
  obtain ⟨-, bus, log, inbox, hbus, hinbox, rfl⟩ := openEndpoint_cases hw
  refine .opens (.task w.tasks.length) ?_ fun y k hy => ?_
  · show _ < bus.inboxes.length
    rw [length_subscribe hbus]
    exact Nat.lt_succ_self _
  · cases y with
    | name n => exact Or.inl hy
    | task j =>
      rw [Reads, role?_spawn] at hy
      split at hy
      · rename_i hj
        cases hy
        exact Or.inr ⟨congrArg Reader.task hj, hinbox⟩
      · exact Or.inl hy

/-- The executors of a new pool have no inbox. -/
theorem passes_openPool (w : World) (requested : Nat) : w.Passes (w.openPool requested) := by
  obtain ⟨log, hw⟩ := w.openPool_eq requested
  refine .same (by rw [hw]) fun j i hj => ?_
  obtain ⟨role, hrole, hi⟩ := Option.bind_eq_some_iff.mp hj
  obtain ⟨program, hp, rfl⟩ := Option.map_eq_some_iff.mp hrole
  rcases program?_openPool.mp hp with hp | ⟨k, -, -, rfl⟩
  · rw [Reads, role?_eq hp]
    exact hi
  · cases hi

/-- **Inboxes have one reader after the other.** -/
theorem Step.passes (hs : w.Step w') : w.Passes w' := by
  cases hs with
  | turn id h => exact passes_of_turn h
  | clock now => exact .same rfl fun _ _ => reads_of_tasks rfl
  | aside => exact .same rfl fun _ _ => reads_of_tasks rfl
  | names desk hsubscriptions _ => exact .same hsubscriptions fun _ _ => reads_of_tasks rfl
  | scopes => exact .same rfl fun _ _ => reads_of_tasks rfl
  | start program name? hb => exact .same rfl fun _ _ => reads_spawn hb.inbox?_role
  | ask => exact .same rfl fun _ _ hj => reads_spawn (w := w.withBus _) rfl hj
  | receive name request inbox name? h => exact passes_receive h request name?
  | subscribe name subject hbus => exact passes_subscribe hbus name
  | closeSubscription => exact .same rfl fun _ _ => reads_of_tasks rfl
  | dropSubscription name inbox h =>
    refine .keeps fun y k hy => ?_
    cases y with
    | name n => exact (names_erase.mp hy).2
    | task j => exact hy
  | closeBus => exact .same rfl fun _ _ => reads_of_tasks rfl
  | respond name request headers payload h =>
    obtain ⟨_, _, _, _, _, hbeside⟩ := w.beside_reply request headers payload
    rw [hbeside]
    exact .same rfl fun _ _ => reads_of_tasks rfl
  | dropRequest => exact .same rfl fun _ _ => reads_of_tasks rfl
  | openPool requested => exact passes_openPool w requested
  | closePool => exact .same rfl fun _ _ => reads_of_tasks rfl
  | reapPool pool =>
    obtain hw | ⟨p, -, hw⟩ := w.reapPool_eq pool <;>
    · rw [hw]
      exact .same rfl fun _ _ => reads_of_tasks rfl
  | openService config hw =>
    obtain ⟨log, rfl⟩ := openService_eq hw
    exact .same rfl fun _ _ => reads_of_tasks rfl
  | openEndpoint s context config handler hservice hw => exact passes_openEndpoint hw
  | pair s pool hservice hpool =>
    obtain ⟨log, hw⟩ := pairService_eq hservice pool
    rw [hw]
    exact .same rfl fun _ _ => reads_of_tasks rfl

/-! ### The invariant -/

/-- **Every inbox has one reader** at most. -/
structure ReadOnce (w : World) : Prop where
  lt : ∀ (x : Reader) (i : Nat), w.Reads x i → i < w.bus.inboxes.length
  unique : ∀ (x y : Reader) (i : Nat), w.Reads x i → w.Reads y i → x = y

/-- At the beginning there are no readers. -/
theorem ReadOnce.empty : ReadOnce {} := by
  have hnot : ∀ (x : Reader) (i : Nat), ¬ Reads {} x i := by
    intro x i h
    cases x with
    | name n =>
      rw [Reads, show ({} : World).desk.subscriptions = ∅ from rfl,
        Std.TreeMap.getElem?_emptyc] at h
      cases h
    | task j =>
      rw [Reads, role?, program?_empty] at h
      cases h
  exact ⟨fun x i h => absurd h (hnot x i), fun x y i h => absurd h (hnot x i)⟩

/-- How many inboxes there are after a step. -/
theorem Step.inboxes (hp : ∀ (P : Nat) p, w.pools[P]? = some p → p.Sound) (hs : w.Step w') :
    w.bus.inboxes.length ≤ w'.bus.inboxes.length := by
  obtain ⟨id, h⟩ | ⟨call, context?, client?, conclude, name?, -, rfl⟩ | h := hs.cases_outside
  · exact (tells_of_turn hp h).inboxes
  · exact le_refl _
  · exact h.tells.inboxes

/-- A step keeps readers apart. -/
theorem ReadOnce.step (h : w.ReadOnce) (ha : w.Attended) (hs : w.Step w') : w'.ReadOnce := by
  have hlength := hs.inboxes ha.pools
  cases hs.passes with
  | keeps hkeeps =>
    exact ⟨fun x i hx => (h.lt x i (hkeeps x i hx)).trans_le hlength,
      fun x y i hx hy => h.unique x y i (hkeeps x i hx) (hkeeps y i hy)⟩
  | opens z lt hopens =>
    refine ⟨fun x i hx => ?_, fun x y i hx hy => ?_⟩
    · rcases hopens x i hx with hx | ⟨-, rfl⟩
      · exact (h.lt x i hx).trans_le hlength
      · exact lt
    · rcases hopens x i hx with hx | ⟨rfl, hi⟩
      · rcases hopens y i hy with hy | ⟨-, hi⟩
        · exact h.unique x y i hx hy
        · exact absurd hi (Nat.ne_of_lt (h.lt x i hx))
      · rcases hopens y i hy with hy | ⟨rfl, -⟩
        · exact absurd hi (Nat.ne_of_lt (h.lt y i hy))
        · rfl
  | hands z z' k had hhands =>
    refine ⟨fun x i hx => ?_, fun x y i hx hy => ?_⟩
    · rcases hhands x i hx with ⟨hx, -⟩ | ⟨-, rfl⟩
      · exact (h.lt x i hx).trans_le hlength
      · exact (h.lt z i had).trans_le hlength
    · rcases hhands x i hx with ⟨hx, hne⟩ | ⟨rfl, rfl⟩
      · rcases hhands y i hy with ⟨hy, -⟩ | ⟨-, rfl⟩
        · exact h.unique x y i hx hy
        · exact absurd (h.unique x z i hx had) hne
      · rcases hhands y i hy with ⟨hy, hne⟩ | ⟨rfl, -⟩
        · exact absurd (h.unique y z i hy had) hne
        · rfl

/-- **In every run every inbox has one reader** at most. -/
theorem ReadOnce.of_steps (h : Steps {} w) : w.ReadOnce := by
  induction h with
  | refl => exact .empty
  | tail h hs ih => exact ih.step (.of_steps h) hs

end World

end ServiceBus.Bus
