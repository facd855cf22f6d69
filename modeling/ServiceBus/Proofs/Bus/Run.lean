import ServiceBus.Proofs.Bus.Served

/-! # Runs of a bus

A `BusRun` is a bus with the record of what became of the requests on it. Subscribers, callers and those
who have requests make a `Move` at a time, in any order: a call goes on step by step, and an inbox may
be closed between any two of its steps.

* `BusRun.step?`, `BusRun.follow`: one move, and a list of them.
* `BusRun.moments`: all that a run comes through, from its start to its end.
* `BusRun.Effect`: all that a move can be.
* `MemoryBus.pick_of_step`: where a call is sent, and in whose turn. -/

namespace ServiceBus.Bus

/-- What happens to requests and inboxes. -/
inductive BusEvent where
  /-- An inbox was picked for the request of a call, in its turn. -/
  | routed (call : CallId) (subject : String) (inbox : InboxId) (turn : Nat)
  | stored (call : CallId) (inbox : InboxId)
  /-- The subscriber closed its inbox or gave it up. -/
  | shut (inbox : InboxId)
  | ended (call : CallId) (result : Except TransportError Message)
  /-- Whoever waited for the result of the call stopped to. -/
  | abandoned (call : CallId)

/-- The call that something happens to. -/
def BusEvent.call? : BusEvent → Option CallId
  | .routed c .. | .stored c _ | .ended c _ | .abandoned c => some c
  | .shut _ => none

/-- A bus and the record of its requests. -/
structure BusRun where
  bus : MemoryBus := {}
  events : List BusEvent := []

namespace BusRun

variable {r r' s : BusRun} {c d i : Nat} {event : BusEvent} {event? : Option BusEvent}

/-! ### Moves -/

/-- One thing that somebody does with a bus. -/
inductive Move where
  | subscribe (subject : String)
  | closeInbox (i : InboxId)
  | discardInbox (i : InboxId)
  | take (i : InboxId)
  | ask (subject : String) (headers : Headers) (payload : Bytes)
  /-- A call goes on by a step. -/
  | advance (c : CallId)
  | abandon (c : CallId)
  | answer (c : CallId) (reply : Message)
  | drop (request : Request)
  | close

/-- The run with another bus and at most one more event. -/
def become (r : BusRun) (b : MemoryBus) (event? : Option BusEvent) : BusRun :=
  { bus := b, events := r.events ++ event?.toList }

/-- What a step of a call is for its request. -/
def stepEvent? (b : MemoryBus) (c : CallId) (b' : MemoryBus) :
    Option (Except TransportError Message) → Option BusEvent
  | some result => some (.ended c result)
  | none =>
    match b'.calls[c]? with
    | some { subject, stage := .picked i, .. } => some (.routed c subject i b.cursor.toNat)
    | some { stage := .waiting i, .. } => some (.stored c i)
    | _ => none

/-- The run after a move, or `none` if nobody can make that move now. -/
def step? (r : BusRun) : Move → Option BusRun
  | .subscribe subject =>
    match r.bus.subscribe subject with
    | .ok b => some (r.become b none)
    | .error _ => none
  | .closeInbox i =>
    if i < r.bus.inboxes.length then some (r.become (r.bus.closeInbox i) (some (.shut i))) else none
  | .discardInbox i =>
    if i < r.bus.inboxes.length then some (r.become (r.bus.discardInbox i) (some (.shut i))) else none
  | .take i => (r.bus.take? i).map fun (_, b) => r.become b none
  | .ask subject headers payload => some (r.become (r.bus.ask { subject, headers, payload }) none)
  | .advance c => (r.bus.step c).map fun (b, result?) => r.become b (stepEvent? r.bus c b result?)
  | .abandon c =>
    if (r.bus.stage? c).any (· != .over) then
      some (r.become (r.bus.abandon c) (some (.abandoned c)))
    else none
  | .answer c reply => some (r.become (r.bus.answer c reply).1 none)
  | .drop request => some (r.become (r.bus.drop request) none)
  | .close => some (r.become r.bus.close none)

/-- The run after some moves. -/
def follow : List Move → BusRun → Option BusRun
  | [], r => some r
  | m :: moves, r => (r.step? m).bind (follow moves)

/-- All that a run comes through as long as the moves can be made, from where it starts. -/
def moments : List Move → BusRun → List BusRun
  | [], r => [r]
  | m :: moves, r => r :: (r.step? m).elim [] (moments moves)

variable {m : Move} {moves : List Move}

/-- A run comes through its start. -/
theorem mem_moments_start (moves : List Move) (r : BusRun) : r ∈ moments moves r := by
  cases moves <;> exact List.mem_cons_self

/-- What a run comes through after its first move. -/
theorem mem_moments_cons (hm : r.step? m = some r') :
    s ∈ moments (m :: moves) r ↔ s = r ∨ s ∈ moments moves r' := by
  rw [moments, hm, List.mem_cons]
  rfl

/-- **What every move keeps, every run keeps**, where a move is one of the run's. -/
@[elab_as_elim]
theorem follow_induction {holds : BusRun → Prop} (hf : follow moves r = some r') (start : holds r)
    (step : ∀ m s s', s ∈ moments moves r → s' ∈ moments moves r → holds s →
      s.step? m = some s' → holds s') : holds r' := by
  induction moves generalizing r with
  | nil =>
    rw [← Option.some.inj hf]
    exact start
  | cons m moves ih =>
    obtain ⟨next, hm, hf⟩ := Option.bind_eq_some_iff.mp hf
    have hlater : ∀ s, s ∈ moments moves next → s ∈ moments (m :: moves) r :=
      fun s hs => (mem_moments_cons hm).mpr (Or.inr hs)
    have hnext : holds next :=
      step m r next (mem_moments_start _ r) (hlater next (mem_moments_start _ next)) start hm
    exact ih hf hnext fun m s s' hs hs' => step m s s' (hlater s hs) (hlater s' hs')

/-- **A moment of a run is the end of one**, which comes through nothing else. -/
theorem exists_follow_of_mem_moments (hs : s ∈ moments moves r) :
    ∃ first, follow first r = some s ∧ ∀ s' ∈ moments first r, s' ∈ moments moves r := by
  induction moves generalizing r with
  | nil =>
    rw [List.mem_singleton.mp hs]
    exact ⟨[], rfl, fun _ h => h⟩
  | cons m moves ih =>
    cases hm : r.step? m with
    | none =>
      rw [moments, hm] at hs
      rw [List.mem_singleton.mp hs]
      refine ⟨[], rfl, fun s' hs' => ?_⟩
      rw [List.mem_singleton.mp hs']
      exact mem_moments_start _ r
    | some next =>
      rcases (mem_moments_cons hm).mp hs with rfl | hs
      · refine ⟨[], rfl, fun s' hs' => ?_⟩
        rw [List.mem_singleton.mp hs']
        exact mem_moments_start _ s
      · obtain ⟨first, hfirst, hsub⟩ := ih hs
        refine ⟨m :: first, ?_, fun s' hs' => ?_⟩
        · rw [follow, hm]
          exact hfirst
        · rcases (mem_moments_cons hm).mp hs' with rfl | hs'
          · exact mem_moments_start _ s'
          · exact (mem_moments_cons hm).mpr (Or.inr (hsub s' hs'))

/-- A run comes through its end. -/
theorem mem_moments_end (hf : follow moves r = some r') : r' ∈ moments moves r := by
  induction moves generalizing r with
  | nil =>
    rw [← Option.some.inj hf]
    exact mem_moments_start [] r
  | cons m moves ih =>
    obtain ⟨next, hm, hf⟩ := Option.bind_eq_some_iff.mp hf
    exact (mem_moments_cons hm).mpr (Or.inr (ih hf))

/-- Some moves and then further ones. -/
theorem follow_append (hf : follow moves r = some r') (more : List Move) :
    follow (moves ++ more) r = follow more r' ∧
      ∀ s ∈ moments (moves ++ more) r, s ∈ moments moves r ∨ s ∈ moments more r' := by
  induction moves generalizing r with
  | nil =>
    obtain rfl := Option.some.inj hf
    exact ⟨rfl, fun s => Or.inr⟩
  | cons m moves ih =>
    obtain ⟨next, hm, hf⟩ := Option.bind_eq_some_iff.mp hf
    obtain ⟨hfollow, hmoments⟩ := ih hf
    refine ⟨?_, fun s hs => ?_⟩
    · rw [List.cons_append, follow, hm]
      exact hfollow
    · rcases (mem_moments_cons hm).mp hs with rfl | hs
      · exact Or.inl (mem_moments_start _ s)
      · rw [mem_moments_cons hm]
        exact (hmoments s hs).imp_left Or.inr

/-- A call goes on by a step. -/
theorem step?_advance {b : MemoryBus} {result? : Option (Except TransportError Message)}
    (h : r.bus.step c = some (b, result?)) :
    r.step? (.advance c) = some (r.become b (stepEvent? r.bus c b result?)) := by
  rw [step?, h]
  rfl

/-! ### Effects -/

/-- **All that a move can be**: what becomes of the bus, and what goes on record. -/
inductive Effect (b : MemoryBus) : MemoryBus → Option BusEvent → Prop
  | subscribed (subject : String) {b' : MemoryBus} (h : b.subscribe subject = .ok b') :
      Effect b b' none
  | closedInbox (i : InboxId) (h : i < b.inboxes.length) : Effect b (b.closeInbox i) (some (.shut i))
  | discarded (i : InboxId) (h : i < b.inboxes.length) : Effect b (b.discardInbox i) (some (.shut i))
  | taken (i : InboxId) (request : Request) {b' : MemoryBus} (h : b.take? i = some (request, b')) :
      Effect b b' none
  | asked (subject : String) (headers : Headers) (payload : Bytes) :
      Effect b (b.ask { subject, headers, payload }) none
  | advanced (c : CallId) {b' : MemoryBus} {result? : Option (Except TransportError Message)}
      (h : b.step c = some (b', result?)) : Effect b b' (stepEvent? b c b' result?)
  | abandoned (c : CallId) (s : Call.Stage) (h : b.stage? c = some s) (on : s ≠ .over) :
      Effect b (b.abandon c) (some (.abandoned c))
  | answered (c : CallId) (reply : Message) : Effect b (b.answer c reply).1 none
  | dropped (request : Request) : Effect b (b.drop request) none
  | closed : Effect b b.close none

/-- A move is one of these. -/
theorem effect_of_step? (hm : r.step? m = some r') :
    ∃ b event?, r' = r.become b event? ∧ Effect r.bus b event? := by
  cases m with
  | subscribe subject =>
    rw [step?] at hm
    split at hm
    · rename_i b hb
      cases hm
      exact ⟨_, _, rfl, .subscribed subject hb⟩
    · cases hm
  | closeInbox i =>
    rw [step?] at hm
    split at hm
    · rename_i hi
      cases hm
      exact ⟨_, _, rfl, .closedInbox i hi⟩
    · cases hm
  | discardInbox i =>
    rw [step?] at hm
    split at hm
    · rename_i hi
      cases hm
      exact ⟨_, _, rfl, .discarded i hi⟩
    · cases hm
  | take i =>
    obtain ⟨⟨request, b⟩, hb, hm⟩ := Option.map_eq_some_iff.mp hm
    exact ⟨_, _, hm.symm, .taken i request hb⟩
  | ask subject headers payload =>
    cases hm
    exact ⟨_, _, rfl, .asked subject headers payload⟩
  | advance c =>
    obtain ⟨⟨b, result?⟩, hb, hm⟩ := Option.map_eq_some_iff.mp hm
    exact ⟨_, _, hm.symm, .advanced c hb⟩
  | abandon c =>
    rw [step?] at hm
    split at hm
    · rename_i hon
      obtain ⟨s, hs, hne⟩ := Option.any_eq_true _ _ |>.mp hon
      cases hm
      exact ⟨_, _, rfl, .abandoned c s hs (bne_iff_ne.mp hne)⟩
    · cases hm
  | answer c reply =>
    cases hm
    exact ⟨_, _, rfl, .answered c reply⟩
  | drop request =>
    cases hm
    exact ⟨_, _, rfl, .dropped request⟩
  | close =>
    cases hm
    exact ⟨_, _, rfl, .closed⟩

/-- What is on record at a moment of a run stays there. -/
theorem prefix_of_mem_moments (hf : follow moves r = some r') (hs : s ∈ moments moves r) :
    s.events <+: r'.events := by
  induction moves generalizing r s with
  | nil =>
    obtain rfl := List.mem_singleton.mp hs
    obtain rfl := Option.some.inj hf
    exact List.prefix_refl _
  | cons m moves ih =>
    obtain ⟨next, hm, hf⟩ := Option.bind_eq_some_iff.mp hf
    rcases (mem_moments_cons hm).mp hs with rfl | hs
    · obtain ⟨v, event?, rfl, -⟩ := effect_of_step? hm
      have hmore : s.events <+: (s.become v event?).events := List.prefix_append _ _
      exact hmore.trans (ih hf (mem_moments_start moves _))
    · exact ih hf hs

/-! ### Steps of calls -/

/-- What a step that leaves a call in a stage is for its request. -/
theorem stepEvent?_setStage {b v : MemoryBus} {call : Call} (h : v.calls[c]? = some call)
    (stage : Call.Stage) : stepEvent? b c (v.setStage c stage) none =
      match stage with
      | .picked i => some (.routed c call.subject i b.cursor.toNat)
      | .waiting i => some (.stored c i)
      | _ => none := by
  have hcall : (v.setStage c stage).calls[c]? = some { call with stage } := by
    rw [MemoryBus.setStage, List.getElem?_modify_eq, h]
    rfl
  rw [stepEvent?, hcall]
  cases stage <;> rfl

end BusRun

namespace MemoryBus

variable {b b' : MemoryBus} {c : Nat} {call : Call} {subject : String}

/-- Nobody is picked if nobody takes requests on the subject. -/
theorem pick?_eq_none : b.pick? subject = none ↔ b.route subject = [] := by
  rw [pick?, Option.map_eq_none_iff, List.getElem?_eq_none_iff]
  constructor
  · intro h
    rcases Nat.eq_zero_or_pos (b.route subject).length with hnil | hpos
    · exact List.length_eq_zero_iff.mp hnil
    · exact absurd (Nat.mod_lt _ hpos) (Nat.not_lt.mpr h)
  · intro h
    rw [h]
    exact Nat.zero_le _

/-- **Where a call is sent** that is sent at all: to whose turn it is. -/
theorem pick_of_step (hcall : b.calls[c]? = some call) (hs : call.stage = .asking)
    (h : b.step c = some (b', none)) : ∃ i,
      (b.route call.subject)[b.cursor.toNat % (b.route call.subject).length]? = some i ∧
        b' = { b with cursor := b.cursor + 1 }.setStage c (.picked i) := by
  rw [step, hcall, Option.bind_eq_bind, Option.bind_some, hs] at h
  dsimp only at h
  split at h
  · cases h
  · split at h
    · cases h
    · rename_i i v hpick
      obtain ⟨j, hj, hv⟩ := Option.map_eq_some_iff.mp hpick
      cases hv
      cases h
      exact ⟨i, hj, rfl⟩

end MemoryBus

end ServiceBus.Bus
