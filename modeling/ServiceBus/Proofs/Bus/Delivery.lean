import ServiceBus.Proofs.Bus.Buffers
import ServiceBus.Proofs.Bus.Run

/-! # Delivery

A request is sent to one inbox, which is picked before the request is stored: if the inbox is full the
call waits, and the inbox may be shut meanwhile. The request is then not sent to another inbox, even if
somebody takes requests on the subject all the time.

* `MemoryBus.Retains`: what an operation leaves of the inboxes.
* `BusRun.Progress`: all that a move can do to a call.
* `BusRun.CutOff`: an inbox that was shut while a request was on its way there.
* `BusRun.Course`: what is on record of a call, by its stage.
* `BusRun.delivery_of_follow`: where a request gets that somebody could take all the time. -/

namespace ServiceBus.Bus

/-- A reply is for a call that waits for it. -/
theorem Call.Stage.answer_cases (s : Call.Stage) (reply : Message) :
    s.answer reply = s ∨ ∃ i, s = .waiting i ∧ s.answer reply = .answered i reply := by
  cases s with
  | waiting i => exact Or.inr ⟨i, rfl, rfl⟩
  | _ => exact Or.inl rfl

namespace MemoryBus

variable {b b' b'' : MemoryBus} {i c : Nat} {call : Call} {r : Request} {subject : String}

/-- What calls send is the same after a reply. -/
theorem letters_answer (b : MemoryBus) (c : CallId) (reply : Message) :
    (b.answer c reply).1.letters = b.letters := by
  rw [answer]
  split
  · exact letters_setStage _ _ _
  · rfl

/-! ### Subscribers -/

/-- Whether an inbox is that of a subscriber of a subject. -/
def Subscribes (b : MemoryBus) (i : InboxId) (subject : String) : Prop :=
  ∃ inbox, b.inboxes[i]? = some inbox ∧ inbox.subject = subject

/-- Whether somebody takes requests on a subject, on an open bus. -/
def HasListener (b : MemoryBus) (subject : String) : Prop :=
  b.closed = false ∧ b.route subject ≠ []

instance : Decidable (b.HasListener subject) := inferInstanceAs (Decidable (_ ∧ _))

/-- Who gets requests on a subject subscribes to it and takes them. -/
theorem subscribes_of_mem_route (h : i ∈ b.route subject) :
    b.Subscribes i subject ∧ b.Accepts i := by
  obtain ⟨inbox, hinbox, -, haccepting, hsubject⟩ := mem_route.mp h
  exact ⟨⟨inbox, hinbox, hsubject⟩, inbox, hinbox, haccepting⟩

/-- **What an operation leaves of the inboxes**: all stay, on their subjects, and take requests as long
as they are not shut. -/
def Retains (shut : InboxId → Prop) (b b' : MemoryBus) : Prop :=
  ∀ (i : Nat) inbox, b.inboxes[i]? = some inbox → ∃ inbox', b'.inboxes[i]? = some inbox' ∧
    inbox'.subject = inbox.subject ∧ (inbox'.accepting = true ↔ inbox.accepting = true ∧ ¬ shut i)

/-- Whether nothing is shut. -/
abbrev Intact (b b' : MemoryBus) : Prop := Retains (fun _ => False) b b'

section Retains

variable {shut : InboxId → Prop}

/-- A subscriber stays one. -/
theorem Retains.subscribes (h : Retains shut b b') (hi : b.Subscribes i subject) :
    b'.Subscribes i subject := by
  obtain ⟨inbox, hinbox, rfl⟩ := hi
  obtain ⟨inbox', hinbox', hsubject, -⟩ := h i inbox hinbox
  exact ⟨inbox', hinbox', hsubject⟩

/-- An inbox that there is takes requests if it did and was not shut. -/
theorem Retains.accepts_iff (h : Retains shut b b') (hi : b.Subscribes i subject) :
    b'.Accepts i ↔ b.Accepts i ∧ ¬ shut i := by
  obtain ⟨inbox, hinbox, -⟩ := hi
  obtain ⟨inbox', hinbox', -, hiff⟩ := h i inbox hinbox
  rw [Accepts, Accepts, hinbox, hinbox']
  simpa using hiff

/-- An operation that leaves the inboxes alone. -/
theorem Retains.same (h : b'.inboxes = b.inboxes) : Intact b b' := by
  intro i inbox hinbox
  exact ⟨inbox, h ▸ hinbox, rfl, (and_iff_left fun h => h).symm⟩

/-- One operation after another. -/
theorem Retains.trans (h : Intact b b') (h' : Retains shut b' b'') : Retains shut b b'' := by
  intro i inbox hinbox
  obtain ⟨inbox', hinbox', hsubject, hiff⟩ := h i inbox hinbox
  obtain ⟨inbox'', hinbox'', hsubject', hiff'⟩ := h' i inbox' hinbox'
  exact ⟨inbox'', hinbox'', hsubject'.trans hsubject,
    hiff'.trans (and_congr_left' (hiff.trans (and_iff_left fun h => h)))⟩

/-- A change of one inbox. -/
theorem Retains.modifyInbox {f : Inbox → Inbox} (hsubject : ∀ inbox, (f inbox).subject = inbox.subject)
    (haccepting : ∀ inbox, (f inbox).accepting = true ↔ inbox.accepting = true ∧ ¬ shut i)
    (hothers : ∀ j, j ≠ i → ¬ shut j) : Retains shut b (b.modifyInbox i f) := by
  intro j inbox hinbox
  refine ⟨_, inbox_modify.mpr ⟨inbox, hinbox, rfl⟩, ?_⟩
  split
  · rename_i hj
    rw [hj]
    exact ⟨hsubject inbox, haccepting inbox⟩
  · rename_i hj
    exact ⟨rfl, (and_iff_left (hothers j hj)).symm⟩

/-- A change of one inbox that does not shut it. -/
theorem Intact.modifyInbox (f : Inbox → Inbox) (hf : ∀ inbox, (f inbox).subject = inbox.subject ∧
    (f inbox).accepting = inbox.accepting) : Intact b (b.modifyInbox i f) :=
  Retains.modifyInbox (fun inbox => (hf inbox).1)
    (fun inbox => by rw [(hf inbox).2]; exact (and_iff_left fun h => h).symm) fun _ _ h => h

/-- An inbox that is closed is shut. -/
theorem retains_closeInbox (b : MemoryBus) (i : InboxId) : Retains (· = i) b (b.closeInbox i) :=
  .modifyInbox (fun _ => rfl) (fun _ => ⟨nofun, fun h => absurd rfl h.2⟩) fun _ h => h

/-- An inbox that is given up is shut. -/
theorem retains_discardInbox (b : MemoryBus) (i : InboxId) (hi : i < b.inboxes.length) :
    Retains (· = i) b (b.discardInbox i) := by
  have hshut : Retains (· = i) b (b.modifyInbox i ({ · with accepting := false, buffer := [] })) :=
    .modifyInbox (fun _ => rfl) (fun _ => ⟨nofun, fun h => absurd rfl h.2⟩) fun _ h => h
  rw [discardInbox, List.getElem?_eq_getElem hi]
  intro j inbox hinbox
  show ∃ inbox', (List.foldl drop _ _).inboxes[j]? = some inbox' ∧ _
  rw [inboxes_foldl_drop]
  exact hshut j inbox hinbox

/-- The end of the bus shuts no inbox. -/
theorem intact_close (b : MemoryBus) : Intact b b.close := by
  intro i inbox hinbox
  refine ⟨{ inbox with registered := false }, ?_, rfl, (and_iff_left fun h => h).symm⟩
  rw [close, List.getElem?_map, hinbox]
  rfl

/-- A new inbox leaves the others alone. -/
theorem intact_subscribe (h : b.subscribe subject = .ok b') : Intact b b' := by
  intro i inbox hinbox
  refine ⟨inbox, ?_, rfl, (and_iff_left fun h => h).symm⟩
  rw [subscribe_eq h, List.getElem?_append_left (List.getElem?_eq_some_iff.mp hinbox).1, hinbox]

/-- A request that is taken leaves its inbox open. -/
theorem intact_take (h : b.take? i = some (r, b')) : Intact b b' := by
  obtain ⟨inbox, -, h⟩ := Option.bind_eq_some_iff.mp h
  split at h
  · cases h
  · cases h
    exact .modifyInbox _ fun _ => ⟨rfl, rfl⟩

/-- A call that is given up shuts no inbox. -/
theorem intact_abandon (b : MemoryBus) (c : CallId) : Intact b (b.abandon c) := by
  rw [abandon]
  split
  · exact .modifyInbox (b := b) _ fun _ => ⟨rfl, rfl⟩
  · exact .same rfl

/-- A step of a call shuts no inbox. -/
theorem intact_step {result? : Option (Except TransportError Message)}
    (h : b.step c = some (b', result?)) : Intact b b' := by
  have hleave : ∀ i : Nat, Intact b (b.leaveLine i c) :=
    fun i => .modifyInbox _ fun _ => ⟨rfl, rfl⟩
  obtain ⟨call, -, hstep⟩ := step_cases h
  cases hstep with
  | closed | unrouted | routed | refused | answered | lost => exact .same rfl
  | enqueued i => exact .modifyInbox (b := b) _ fun _ => ⟨rfl, rfl⟩
  | stored i => exact (hleave i).trans (Intact.modifyInbox _ fun _ => ⟨rfl, rfl⟩)
  | dismissed i => exact hleave i

end Retains

end MemoryBus

namespace BusRun

variable {b b' : MemoryBus} {c : Nat} {call : Call} {event? : Option BusEvent}

/-- A step of a call shuts no inbox. -/
theorem stepEvent?_ne_shut (b : MemoryBus) (c : CallId) (b' : MemoryBus)
    (result? : Option (Except TransportError Message)) (i : InboxId) :
    stepEvent? b c b' result? ≠ some (.shut i) := by
  unfold stepEvent?
  split
  · exact nofun
  · split <;> exact nofun

/-- **What a move leaves of the inboxes**: it shuts the one that it is on record to shut. -/
theorem Effect.retains (h : Effect b b' event?) :
    MemoryBus.Retains (fun i => event? = some (.shut i)) b b' := by
  have hopen : ∀ {event? : Option BusEvent}, (∀ i, event? ≠ some (.shut i)) →
      MemoryBus.Intact b b' → MemoryBus.Retains (fun i => event? = some (.shut i)) b b' := by
    intro event? hnot h i inbox hinbox
    obtain ⟨inbox', hinbox', hsubject, hiff⟩ := h i inbox hinbox
    refine ⟨inbox', hinbox', hsubject, hiff.trans (and_congr_right' ?_)⟩
    exact not_congr ⟨False.elim, hnot i⟩
  have hshut : ∀ {i : InboxId}, MemoryBus.Retains (· = i) b b' →
      MemoryBus.Retains (fun j => some (BusEvent.shut i) = some (.shut j)) b b' := by
    intro i h j inbox hinbox
    obtain ⟨inbox', hinbox', hsubject, hiff⟩ := h j inbox hinbox
    refine ⟨inbox', hinbox', hsubject, hiff.trans (and_congr_right' (not_congr ?_))⟩
    dsimp only
    rw [Option.some.injEq, BusEvent.shut.injEq, eq_comm]
  cases h with
  | subscribed _ h => exact hopen nofun (MemoryBus.intact_subscribe h)
  | closedInbox i => exact hshut (b.retains_closeInbox i)
  | discarded i hi => exact hshut (b.retains_discardInbox i hi)
  | taken _ _ h => exact hopen nofun (MemoryBus.intact_take h)
  | asked => exact hopen nofun (.same rfl)
  | advanced c h => exact hopen (stepEvent?_ne_shut b c b' _) (MemoryBus.intact_step h)
  | abandoned c => exact hopen nofun (b.intact_abandon c)
  | answered c reply => exact hopen nofun (.same (b.inboxes_answer c reply))
  | dropped request => exact hopen nofun (.same (b.inboxes_drop request))
  | closed => exact hopen nofun b.intact_close

/-! ### Calls -/

/-- **All that a move can do to a call**: the stage in which it is then, and what goes on record. -/
inductive Progress (b : MemoryBus) (c : CallId) (call : Call) :
    Call.Stage → Option BusEvent → Prop
  | aside {noted? : Option BusEvent} (other : noted?.bind BusEvent.call? ≠ some c) :
      Progress b c call call.stage noted?
  | settled (i : InboxId) (s : Call.Stage) {noted? : Option BusEvent} (stage : call.stage = .waiting i)
      (settled : s = .lost i ∨ ∃ reply, s = .answered i reply)
      (other : noted?.bind BusEvent.call? ≠ some c) : Progress b c call s noted?
  | unrouted (result : Except TransportError Message) (stage : call.stage = .asking)
      (deaf : ¬ b.HasListener call.subject) : Progress b c call .over (some (.ended c result))
  | routed (i : InboxId) (turn : Nat) (stage : call.stage = .asking)
      (subscriber : i ∈ b.route call.subject) :
      Progress b c call (.picked i) (some (.routed c call.subject i turn))
  | enqueued (i : InboxId) (stage : call.stage = .picked i) : Progress b c call (.inLine i) none
  | stored (i : InboxId) (stage : call.stage = .inLine i) (accepts : b.Accepts i) :
      Progress b c call (.waiting i) (some (.stored c i))
  | refused (i : InboxId) (stage : call.stage = .picked i ∨ call.stage = .inLine i)
      (shut : ¬ b.Accepts i) :
      Progress b c call .over (some (.ended c (.error (.noResponders call.subject))))
  | ended (i : InboxId) (result : Except TransportError Message)
      (stage : call.stage = .lost i ∨ ∃ reply, call.stage = .answered i reply)
      (result_ne : result ≠ .error (.noResponders call.subject)) :
      Progress b c call .over (some (.ended c result))
  | abandoned (on : call.stage ≠ .over) : Progress b c call .over (some (.abandoned c))

/-- A call that is where a move may have brought it. -/
theorem progress_of_stage {s : Call.Stage} (hletters : b'.letters[c]? = b.letters[c]?)
    (hcall : b.calls[c]? = some call) (hs : b'.stage? c = some s)
    (hp : Progress b c call s event?) : ∃ call', b'.calls[c]? = some call' ∧
      call'.subject = call.subject ∧ Progress b c call call'.stage event? := by
  rw [MemoryBus.letters, MemoryBus.letters, List.getElem?_map, List.getElem?_map, hcall] at hletters
  obtain ⟨call', hcall', hletter⟩ := Option.map_eq_some_iff.mp hletters
  rw [MemoryBus.stage?, hcall', Option.map_some, Option.some.injEq] at hs
  exact ⟨call', hcall', congrArg Message.subject hletter, hs ▸ hp⟩

/-- What a call goes through on its own. -/
theorem progress_of_step {result? : Option (Except TransportError Message)}
    (hcall : b.calls[c]? = some call) (h : b.step c = some (b', result?)) :
    ∃ call', b'.calls[c]? = some call' ∧ call'.subject = call.subject ∧
      Progress b c call call'.stage (stepEvent? b c b' result?) := by
  suffices ∃ s event?, b'.stage? c = some s ∧ stepEvent? b c b' result? = event? ∧
      Progress b c call s event? by
    obtain ⟨s, event?, hs, rfl, hp⟩ := this
    exact progress_of_stage (by rw [(MemoryBus.advances_step h).letters]) hcall hs hp
  obtain ⟨call', hcall', hstep⟩ := MemoryBus.step_cases h
  rw [hcall] at hcall'
  obtain rfl := Option.some.inj hcall'
  have hset : ∀ (v : MemoryBus) stage, v.calls = b.calls →
      (v.setStage c stage).stage? c = some stage := by
    intro v stage hv
    rw [MemoryBus.stage?_setStage, if_pos rfl, MemoryBus.stage?, hv, hcall]
    rfl
  have hshut : ∀ {i : Nat} {inbox : Inbox}, b.inboxes[i]? = some inbox →
      inbox.accepting = false → ¬ b.Accepts i := by
    rintro i inbox hinbox hshut ⟨inbox', hinbox', haccepting⟩
    rw [hinbox] at hinbox'
    rw [← Option.some.inj hinbox', hshut] at haccepting
    cases haccepting
  cases hstep with
  | closed hs hclosed =>
    refine ⟨_, _, hset _ _ rfl, rfl, .unrouted _ hs fun hlive => ?_⟩
    rw [hlive.1] at hclosed
    cases hclosed
  | unrouted hs hnone =>
    exact ⟨_, _, hset _ _ rfl, rfl, .unrouted _ hs fun hlive =>
      hlive.2 (MemoryBus.pick?_eq_none.mp hnone)⟩
  | routed i hs hmem =>
    exact ⟨_, _, hset _ _ rfl, stepEvent?_setStage hcall _, .routed i _ hs hmem⟩
  | enqueued i hs => exact ⟨_, _, hset _ _ rfl, stepEvent?_setStage hcall _, .enqueued i hs⟩
  | refused i hs hinbox hnot =>
    exact ⟨_, _, hset _ _ rfl, rfl, .refused i (Or.inl hs) (hshut hinbox hnot)⟩
  | stored i hs =>
    exact ⟨_, _, hset _ _ rfl, stepEvent?_setStage hcall _,
      .stored i hs (MemoryBus.accepts_of_step hcall hs h)⟩
  | dismissed i hs hinbox hnot =>
    exact ⟨_, _, hset _ _ rfl, rfl, .refused i (Or.inr hs) (hshut hinbox hnot)⟩
  | answered i reply hs =>
    refine ⟨_, _, hset _ _ rfl, rfl, .ended i _ (Or.inr ⟨reply, hs⟩) ?_⟩
    rintro ⟨⟩
  | lost i hs =>
    refine ⟨_, _, hset _ _ rfl, rfl, .ended i _ (Or.inl hs) ?_⟩
    rintro ⟨⟩

/-- What becomes of a call while those who have requests do something. -/
theorem progress_of_releases {lost : Request → Prop} {gone : InboxId → Request → Prop}
    (hcall : b.calls[c]? = some call) (h : MemoryBus.Releases lost gone b b')
    (other : event?.bind BusEvent.call? ≠ some c) :
    ∃ call', b'.calls[c]? = some call' ∧ call'.subject = call.subject ∧
      Progress b c call call'.stage event? := by
  have hstage : b.stage? c = some call.stage := by
    rw [MemoryBus.stage?, hcall]
    rfl
  have hletters : b'.letters[c]? = b.letters[c]? := by rw [h.letters]
  rcases h.stages c with hs | ⟨-, i, hi, hi'⟩
  · exact progress_of_stage hletters hcall (hs.trans hstage) (.aside other)
  · rw [hstage, Option.some.injEq] at hi
    exact progress_of_stage hletters hcall hi' (.settled i _ hi (Or.inl rfl) other)

/-- What a step of a call is, it is for that call. -/
theorem eq_of_call?_stepEvent? {d : Nat} {result? : Option (Except TransportError Message)}
    (h : (stepEvent? b d b' result?).bind BusEvent.call? = some c) : c = d := by
  unfold stepEvent? at h
  split at h
  · cases h
    rfl
  · split at h <;> cases h <;> rfl

/-- **What a move does to a call.** -/
theorem Effect.progress (h : Effect b b' event?) (hcall : b.calls[c]? = some call) :
    ∃ call', b'.calls[c]? = some call' ∧ call'.subject = call.subject ∧
      Progress b c call call'.stage event? := by
  have hstage : b.stage? c = some call.stage := by
    rw [MemoryBus.stage?, hcall]
    rfl
  have hquiet : none ≠ some c := (Option.some_ne_none c).symm
  cases h with
  | subscribed _ h => exact progress_of_releases hcall (MemoryBus.releases_subscribe h) hquiet
  | closedInbox i => exact progress_of_releases hcall (b.releases_closeInbox i) hquiet
  | discarded i => exact progress_of_releases hcall (b.releases_discardInbox i) hquiet
  | taken _ _ h => exact progress_of_releases hcall (MemoryBus.releases_take h) hquiet
  | asked =>
    refine ⟨call, ?_, rfl, .aside hquiet⟩
    rw [MemoryBus.ask, List.getElem?_append_left (List.getElem?_eq_some_iff.mp hcall).1, hcall]
  | advanced d h =>
    by_cases hd : d = c
    · subst hd
      exact progress_of_step hcall h
    · have hadvances := MemoryBus.advances_step h
      refine progress_of_stage (by rw [hadvances.letters]) hcall
        ((hadvances.stages c (Ne.symm hd)).trans hstage) (.aside fun hc => hd ?_)
      exact (eq_of_call?_stepEvent? hc).symm
  | abandoned d s hs hon =>
    have hadvances := b.advances_abandon d
    by_cases hd : d = c
    · subst hd
      rw [hstage, Option.some.injEq] at hs
      exact progress_of_stage (by rw [hadvances.letters]) hcall (MemoryBus.stage?_abandon hstage)
        (.abandoned (hs ▸ hon))
    · refine progress_of_stage (by rw [hadvances.letters]) hcall
        ((hadvances.stages c (Ne.symm hd)).trans hstage) (.aside fun hc => hd ?_)
      exact Option.some.inj hc
  | answered d reply =>
    have hletters := b.letters_answer d reply
    by_cases hd : c = d
    · subst hd
      have hs := b.stage?_answer c c reply
      rw [if_pos rfl, hstage, Option.map_some] at hs
      rcases call.stage.answer_cases reply with hsame | ⟨i, hwaits, hanswered⟩
      · rw [hsame] at hs
        exact progress_of_stage (by rw [hletters]) hcall hs (.aside hquiet)
      · rw [hanswered] at hs
        exact progress_of_stage (by rw [hletters]) hcall hs
          (.settled i _ hwaits (Or.inr ⟨reply, rfl⟩) hquiet)
    · have hs := b.stage?_answer d c reply
      rw [if_neg hd, hstage] at hs
      exact progress_of_stage (by rw [hletters]) hcall hs (.aside hquiet)
  | dropped request => exact progress_of_releases hcall (b.releases_drop request) hquiet
  | closed => exact progress_of_releases hcall b.releases_close hquiet

/-- A call that a move begins has only been asked, and nothing else is on record of it. -/
theorem Effect.begins (h : Effect b b' event?) (hcall : b.calls[c]? = none) :
    event?.bind BusEvent.call? ≠ some c ∧
      ∀ call, b'.calls[c]? = some call → call.stage = .asking := by
  -- there are no more calls than before, so there still is none
  have hnone : b'.letters = b.letters → ∀ call, b'.calls[c]? = some call → call.stage = .asking := by
    intro hletters call hcall'
    have hletter := congrArg (·[c]?) hletters
    simp only [MemoryBus.letters, List.getElem?_map, hcall, hcall'] at hletter
    cases hletter
  have hstage : b.stage? c = none := by
    rw [MemoryBus.stage?, hcall]
    rfl
  have hquiet : none ≠ some c := (Option.some_ne_none c).symm
  cases h with
  | subscribed _ h => exact ⟨hquiet, hnone (MemoryBus.releases_subscribe h).letters⟩
  | closedInbox i => exact ⟨hquiet, hnone (b.releases_closeInbox i).letters⟩
  | discarded i => exact ⟨hquiet, hnone (b.releases_discardInbox i).letters⟩
  | taken _ _ h => exact ⟨hquiet, hnone (MemoryBus.releases_take h).letters⟩
  | asked =>
    refine ⟨hquiet, fun call hcall' => ?_⟩
    rw [MemoryBus.ask, List.getElem?_append] at hcall'
    split at hcall'
    · rw [hcall] at hcall'
      cases hcall'
    · rw [List.mem_singleton.mp (List.mem_of_getElem? hcall')]
  | advanced d h =>
    refine ⟨fun hc => ?_, hnone (MemoryBus.advances_step h).letters⟩
    obtain ⟨call, hcall', -⟩ := MemoryBus.step_cases h
    rw [← eq_of_call?_stepEvent? hc, hcall] at hcall'
    cases hcall'
  | abandoned d s hs =>
    refine ⟨fun hc => ?_, hnone (b.advances_abandon d).letters⟩
    rw [Option.some.inj hc, hstage] at hs
    cases hs
  | answered d reply => exact ⟨hquiet, hnone (b.letters_answer d reply)⟩
  | dropped request => exact ⟨hquiet, hnone (b.releases_drop request).letters⟩
  | closed => exact ⟨hquiet, hnone b.releases_close.letters⟩

/-! ### Records -/

variable {r r' s : BusRun} {i j : Nat} {subject : String} {event : BusEvent} {rest : List BusEvent}

/-- What is on record of a call, in order. -/
def record (r : BusRun) (c : CallId) : List BusEvent :=
  r.events.filter (·.call? == some c)

/-- **Whether an inbox was shut while a request was on its way there**: it had been picked, and the
request was not stored yet. -/
def CutOff (r : BusRun) (c : CallId) (i : InboxId) : Prop :=
  ∃ before after, r.events = before ++ .shut i :: after ∧
    (∃ subject turn, .routed c subject i turn ∈ before) ∧ .stored c i ∉ before

/-- What is on record of a call is about it. -/
theorem mem_record : event ∈ r.record c ↔ event ∈ r.events ∧ event.call? = some c := by
  rw [record, List.mem_filter, beq_iff_eq]

/-- What happens to others is not on record of a call. -/
theorem record_of_other (h : event?.bind BusEvent.call? ≠ some c) :
    (r.become b event?).record c = r.record c := by
  rw [record, become, List.filter_append, ← record]
  cases event? with
  | none => exact List.append_nil _
  | some event =>
    have hnot : (event.call? == some c) = false := beq_eq_false_iff_ne.mpr h
    rw [Option.toList_some, List.filter_cons_of_neg (by rw [hnot]; decide), List.filter_nil,
      List.append_nil]

/-- What happens to a call goes on its record. -/
theorem record_of_own (h : event.call? = some c) :
    (r.become b (some event)).record c = r.record c ++ [event] := by
  have hown : (event.call? == some c) = true := beq_iff_eq.mpr h
  rw [record, become, List.filter_append, ← record]
  simp only [Option.toList_some, List.filter_cons, hown, if_true, List.filter_nil]

/-- An inbox is shut on the way of a request now, or was before. -/
theorem cutOff_become : (r.become b event?).CutOff c i ↔ r.CutOff c i ∨
    event? = some (.shut i) ∧ (∃ subject turn, .routed c subject i turn ∈ r.events) ∧
      .stored c i ∉ r.events := by
  constructor
  · rintro ⟨before, after, hsplit, hrouted, hnot⟩
    have hevents : r.events ++ event?.toList = before ++ .shut i :: after := hsplit
    cases event? with
    | none =>
      rw [Option.toList_none, List.append_nil] at hevents
      exact Or.inl ⟨before, after, hevents, hrouted, hnot⟩
    | some event =>
      rcases List.eq_nil_or_concat after with rfl | ⟨after, last, rfl⟩
      · obtain ⟨rfl, hlast⟩ := List.append_inj' hevents rfl
        cases hlast
        exact Or.inr ⟨rfl, hrouted, hnot⟩
      · rw [List.concat_eq_append, ← List.cons_append, ← List.append_assoc] at hevents
        exact Or.inl ⟨before, after, (List.append_inj' hevents rfl).1, hrouted, hnot⟩
  · rintro (⟨before, after, hsplit, hrouted, hnot⟩ | ⟨rfl, hrouted, hnot⟩)
    · refine ⟨before, after ++ event?.toList, ?_, hrouted, hnot⟩
      rw [become, hsplit, List.append_assoc, List.cons_append]
    · exact ⟨r.events, [], rfl, hrouted, hnot⟩

/-- A request that was stored is cut off no more. -/
theorem cutOff_become_of_stored (h : .stored c i ∈ r.events) :
    (r.become b event?).CutOff c i ↔ r.CutOff c i :=
  cutOff_become.trans (or_iff_left fun hnow => hnow.2.2 h)

/-- A request is not cut off by what happens to a call. -/
theorem cutOff_become_of_own (h : event.call? = some c) :
    (r.become b (some event)).CutOff c i ↔ r.CutOff c i := by
  refine cutOff_become.trans (or_iff_left fun hnow => ?_)
  rw [Option.some.inj hnow.1] at h
  cases h

/-! ### Courses -/

/-- Whether a request is on its way to an inbox: it is cut off if the inbox takes no more requests. -/
def OnWay (r : BusRun) (c : CallId) (subject : String) (i : InboxId) : Prop :=
  ∃ turn, r.bus.Subscribes i subject ∧ r.record c = [.routed c subject i turn] ∧
    (r.CutOff c i ↔ ¬ r.bus.Accepts i)

/-- Whether a request was stored in an inbox, before all the rest that is on record of it. -/
def Placed (r : BusRun) (c : CallId) (subject : String) (i : InboxId) (rest : List BusEvent) : Prop :=
  ∃ turn, r.bus.Subscribes i subject ∧
    r.record c = .routed c subject i turn :: .stored c i :: rest ∧ ¬ r.CutOff c i

/-- Whether a request failed because it was cut off. -/
def TurnedAway (r : BusRun) (c : CallId) (subject : String) (i : InboxId) : Prop :=
  ∃ turn, r.bus.Subscribes i subject ∧ r.record c =
    [.routed c subject i turn, .ended c (.error (.noResponders subject))] ∧ r.CutOff c i

/-- How the record of a request may end that was stored. -/
def IsEnd (c : CallId) (subject : String) (rest : List BusEvent) : Prop :=
  rest = [] ∨ rest = [.abandoned c] ∨
    ∃ result, result ≠ .error (.noResponders subject) ∧ rest = [.ended c result]

/-- **What is on record of a call**, by its stage, if somebody could take its request all the time. -/
def Course (r : BusRun) (c : CallId) (subject : String) : Call.Stage → Prop
  | .asking => r.record c = []
  | .picked i | .inLine i => r.OnWay c subject i
  | .waiting i | .answered i _ | .lost i => r.Placed c subject i []
  | .over => r.record c = [.abandoned c] ∨
      (∃ i turn, r.record c = [.routed c subject i turn, .abandoned c]) ∨
      (∃ i, r.TurnedAway c subject i) ∨
      ∃ i rest, IsEnd c subject rest ∧ r.Placed c subject i rest

/-- A request on its way stays there while others do something. -/
theorem OnWay.aside (h : r.OnWay c subject i) (heffect : Effect r.bus b event?)
    (other : event?.bind BusEvent.call? ≠ some c) : (r.become b event?).OnWay c subject i := by
  obtain ⟨turn, hsubscribes, hrecord, hcut⟩ := h
  refine ⟨turn, heffect.retains.subscribes hsubscribes, (record_of_other other).trans hrecord, ?_⟩
  have hrouted : .routed c subject i turn ∈ r.events :=
    (mem_record.mp (hrecord ▸ List.mem_singleton_self _)).1
  have hnot : .stored c i ∉ r.events := by
    intro hstored
    have hmem : .stored c i ∈ r.record c := mem_record.mpr ⟨hstored, rfl⟩
    rw [hrecord] at hmem
    cases List.mem_singleton.mp hmem
  rw [cutOff_become, hcut, show (r.become b event?).bus.Accepts i ↔ _ from
    heffect.retains.accepts_iff hsubscribes, Classical.not_and_iff_not_or_not,
    Classical.not_not]
  exact or_congr_right (and_iff_left ⟨⟨subject, turn, hrouted⟩, hnot⟩)

/-- What was stored is on record. -/
theorem Placed.stored_mem (h : r.Placed c subject i rest) : .stored c i ∈ r.events := by
  obtain ⟨turn, -, hrecord, -⟩ := h
  refine (mem_record.mp (?_ : _ ∈ r.record c)).1
  rw [hrecord]
  exact List.mem_cons_of_mem _ List.mem_cons_self

/-- A request that was stored was not cut off, whatever others do. -/
theorem Placed.aside (h : r.Placed c subject i rest) (heffect : Effect r.bus b event?)
    (other : event?.bind BusEvent.call? ≠ some c) : (r.become b event?).Placed c subject i rest := by
  have hstored := h.stored_mem
  obtain ⟨turn, hsubscribes, hrecord, hcut⟩ := h
  exact ⟨turn, heffect.retains.subscribes hsubscribes, (record_of_other other).trans hrecord,
    fun hnow => hcut ((cutOff_become_of_stored hstored).mp hnow)⟩

/-- A request that failed stays so. -/
theorem TurnedAway.aside (h : r.TurnedAway c subject i) (heffect : Effect r.bus b event?)
    (other : event?.bind BusEvent.call? ≠ some c) : (r.become b event?).TurnedAway c subject i := by
  obtain ⟨turn, hsubscribes, hrecord, hcut⟩ := h
  exact ⟨turn, heffect.retains.subscribes hsubscribes, (record_of_other other).trans hrecord,
    cutOff_become.mpr (Or.inl hcut)⟩

/-- The course of a call goes on while others do something. -/
theorem Course.aside {stage : Call.Stage} (h : r.Course c subject stage)
    (heffect : Effect r.bus b event?) (other : event?.bind BusEvent.call? ≠ some c) :
    (r.become b event?).Course c subject stage := by
  cases stage with
  | asking => exact (record_of_other other).trans h
  | picked i | inLine i => exact OnWay.aside h heffect other
  | waiting i | answered i | lost i => exact Placed.aside h heffect other
  | «over» =>
    rcases h with hgone | ⟨i, turn, hgone⟩ | ⟨i, haway⟩ | ⟨i, rest, hend, hplaced⟩
    · exact Or.inl ((record_of_other other).trans hgone)
    · exact Or.inr (Or.inl ⟨i, turn, (record_of_other other).trans hgone⟩)
    · exact Or.inr (Or.inr (Or.inl ⟨i, haway.aside heffect other⟩))
    · exact Or.inr (Or.inr (Or.inr ⟨i, rest, hend, hplaced.aside heffect other⟩))

/-- A request that was stored goes on to its end. -/
theorem Placed.own (h : r.Placed c subject i []) (heffect : Effect r.bus b (some event))
    (hown : event.call? = some c) : (r.become b (some event)).Placed c subject i [event] := by
  obtain ⟨turn, hsubscribes, hrecord, hcut⟩ := h
  refine ⟨turn, heffect.retains.subscribes hsubscribes, ?_, ?_⟩
  · rw [record_of_own hown, hrecord]
    rfl
  · rw [cutOff_become_of_own hown]
    exact hcut

/-- A request for which an inbox is picked is on its way there. -/
theorem onWay_of_routed {turn : Nat} (hnone : r.record c = []) (hmem : i ∈ r.bus.route subject)
    (heffect : Effect r.bus b (some (.routed c subject i turn))) :
    (r.become b (some (.routed c subject i turn))).OnWay c subject i := by
  obtain ⟨hsubscribes, haccepts⟩ := MemoryBus.subscribes_of_mem_route hmem
  have haccepts' := (heffect.retains.accepts_iff hsubscribes).mpr ⟨haccepts, nofun⟩
  refine ⟨turn, heffect.retains.subscribes hsubscribes, ?_, ?_⟩
  · rw [record_of_own rfl, hnone, List.nil_append]
  · rw [cutOff_become_of_own rfl]
    refine iff_of_false ?_ fun hshut => hshut haccepts'
    rintro ⟨before, after, hsplit, ⟨subject', turn', hrouted⟩, -⟩
    have hmem : .routed c subject' i turn' ∈ r.record c :=
      mem_record.mpr ⟨hsplit ▸ List.mem_append_left _ hrouted, rfl⟩
    rw [hnone] at hmem
    cases hmem

/-- A request on its way is placed if its inbox still takes requests. -/
theorem OnWay.stored (h : r.OnWay c subject i) (haccepts : r.bus.Accepts i)
    (heffect : Effect r.bus b (some (.stored c i))) :
    (r.become b (some (.stored c i))).Placed c subject i [] := by
  obtain ⟨turn, hsubscribes, hrecord, hcut⟩ := h
  refine ⟨turn, heffect.retains.subscribes hsubscribes, ?_, ?_⟩
  · rw [record_of_own rfl, hrecord]
    rfl
  · rw [cutOff_become_of_own rfl, hcut]
    exact fun hshut => hshut haccepts

/-- A request on its way to an inbox that takes no more requests is turned away. -/
theorem OnWay.refused (h : r.OnWay c subject i) (hshut : ¬ r.bus.Accepts i)
    (heffect : Effect r.bus b (some (.ended c (.error (.noResponders subject))))) :
    (r.become b (some (.ended c (.error (.noResponders subject))))).TurnedAway c subject i := by
  obtain ⟨turn, hsubscribes, hrecord, hcut⟩ := h
  refine ⟨turn, heffect.retains.subscribes hsubscribes, ?_, ?_⟩
  · rw [record_of_own rfl, hrecord]
    rfl
  · rw [cutOff_become_of_own rfl, hcut]
    exact hshut

/-- **The course of a call goes on with every move** if somebody takes requests on its subject while it
is asked. -/
theorem Course.step {stage : Call.Stage} (h : r.Course c call.subject call.stage)
    (heffect : Effect r.bus b event?) (hp : Progress r.bus c call stage event?)
    (hlive : call.stage = .asking → r.bus.HasListener call.subject) :
    (r.become b event?).Course c call.subject stage := by
  cases hp with
  | aside other => exact h.aside heffect other
  | settled i s hs hsettled other =>
    rw [hs] at h
    rcases hsettled with rfl | ⟨reply, rfl⟩ <;> exact Placed.aside h heffect other
  | unrouted result hs hdeaf => exact absurd (hlive hs) hdeaf
  | routed i turn hs hmem =>
    rw [hs] at h
    exact onWay_of_routed h hmem heffect
  | enqueued i hs =>
    rw [hs] at h
    exact OnWay.aside h heffect nofun
  | stored i hs haccepts =>
    rw [hs] at h
    exact OnWay.stored h haccepts heffect
  | refused i hs hshut =>
    have hway : r.OnWay c call.subject i := by
      rcases hs with hs | hs <;> (rw [hs] at h; exact h)
    exact Or.inr (Or.inr (Or.inl ⟨i, hway.refused hshut heffect⟩))
  | ended i result hs hresult =>
    have hplaced : r.Placed c call.subject i [] := by
      rcases hs with hs | ⟨reply, hs⟩ <;> (rw [hs] at h; exact h)
    exact Or.inr (Or.inr (Or.inr
      ⟨i, _, Or.inr (Or.inr ⟨result, hresult, rfl⟩), hplaced.own heffect rfl⟩))
  | abandoned hon =>
    cases hs : call.stage with
    | asking =>
      rw [hs] at h
      refine Or.inl ?_
      rw [record_of_own rfl, show r.record c = [] from h, List.nil_append]
    | picked i | inLine i =>
      rw [hs] at h
      obtain ⟨turn, -, hrecord, -⟩ := h
      refine Or.inr (Or.inl ⟨i, turn, ?_⟩)
      rw [record_of_own rfl, hrecord]
      rfl
    | waiting i | answered i | lost i =>
      rw [hs] at h
      exact Or.inr (Or.inr (Or.inr ⟨i, _, Or.inr (Or.inl rfl), Placed.own h heffect rfl⟩))
    | «over» => exact absurd hs hon

/-! ### Runs -/

variable {m : Move} {moves : List Move} {k : Nat} {request : Request} {stage : Call.Stage}

/-- Whether somebody takes requests on the subject of a call as long as its request is not stored. -/
def Attended (s : BusRun) (c : CallId) : Prop :=
  ∀ call ∈ s.bus.calls[c]?, call.stage.IsPending → s.bus.HasListener call.subject

instance : Decidable (s.Attended c) :=
  inferInstanceAs (Decidable (∀ call ∈ s.bus.calls[c]?, _ → _))

/-- **Every call of a run takes its course** if somebody could take its request all the time. -/
theorem course_of_follow (hf : follow moves {} = some r)
    (hlive : ∀ s ∈ moments moves {}, s.Attended c) (hcall : r.bus.calls[c]? = some call) :
    r.Course c call.subject call.stage := by
  suffices (r.bus.calls[c]? = none → r.record c = []) ∧
      ∀ call, r.bus.calls[c]? = some call → r.Course c call.subject call.stage from
    this.2 call hcall
  refine follow_induction hf ?_ ?_
  · exact ⟨fun _ => rfl, fun call hcall => nomatch hcall⟩
  · rintro m s s' hs - ⟨hnone, hsome⟩ hm
    obtain ⟨b, event?, rfl, heffect⟩ := effect_of_step? hm
    cases hbefore : s.bus.calls[c]? with
    | none =>
      obtain ⟨hother, hasking⟩ := heffect.begins hbefore
      have hrecord : (s.become b event?).record c = [] :=
        (record_of_other hother).trans (hnone hbefore)
      refine ⟨fun _ => hrecord, fun call hcall => ?_⟩
      rw [hasking call hcall]
      exact hrecord
    | some before =>
      obtain ⟨after, hafter, hsubject, hprogress⟩ := heffect.progress hbefore
      refine ⟨fun hgone => ?_, fun call hcall => ?_⟩
      · rw [show (s.become b event?).bus = b from rfl, hafter] at hgone
        cases hgone
      · rw [show (s.become b event?).bus = b from rfl, hafter] at hcall
        rw [← Option.some.inj hcall, hsubject]
        refine (hsome before hbefore).step heffect hprogress fun hasking => ?_
        exact hlive s hs before hbefore (by rw [hasking]; trivial)

/-! ### Buffers -/

/-- **What a move stores** goes on record with its call. -/
theorem Effect.stores (h : Effect b b' event?) (hr : b'.Stores k request) :
    b.Stores k request ∨ ∃ d, request.IsOf d ∧ event? = some (.stored d k) := by
  have hthin : ∀ {v : MemoryBus}, MemoryBus.Thins (fun _ => False) b v → v.Stores k request →
      b.Stores k request := fun h hr =>
    MemoryBus.stores_iff.mpr ((h.sublist k).subset (MemoryBus.stores_iff.mp hr))
  cases h with
  | subscribed _ h => exact Or.inl ((MemoryBus.releases_subscribe h).stores k request hr)
  | closedInbox i => exact Or.inl ((b.releases_closeInbox i).stores k request hr)
  | discarded i => exact Or.inl ((b.releases_discardInbox i).stores k request hr)
  | taken _ _ h => exact Or.inl ((MemoryBus.releases_take h).stores k request hr)
  | asked => exact Or.inl hr
  | advanced d h =>
    obtain ⟨call, hcall, hstep⟩ := MemoryBus.step_cases h
    cases hstep with
    | closed | unrouted | routed | refused | answered | lost => exact Or.inl hr
    | @enqueued i inbox =>
      exact Or.inl ((MemoryBus.stores_modifyInbox ({ · with line := inbox.line ++ [d] })
        fun _ => rfl).mp hr)
    | stored i hs hinbox =>
      rcases (MemoryBus.stores_store hinbox).mp hr with hr | ⟨rfl, rfl⟩
      · exact Or.inl hr
      · exact Or.inr ⟨d, call.isOf_request d, stepEvent?_setStage hcall _⟩
    | dismissed i => exact Or.inl (hthin (b.thins_leaveLine i d) hr)
  | abandoned d => exact Or.inl (hthin (b.thins_abandon d) hr)
  | answered d reply =>
    rw [MemoryBus.Stores, b.inboxes_answer] at hr
    exact Or.inl hr
  | dropped q => exact Or.inl ((b.releases_drop q).stores k request hr)
  | closed => exact Or.inl (b.releases_close.stores k request hr)

/-- What goes on record as stored is in the inbox. -/
theorem Effect.stores_of_stored (h : Effect b b' event?) (hevent : event? = some (.stored c k)) :
    ∃ request, b'.Stores k request ∧ request.IsOf c := by
  cases h with
  | advanced d h =>
    obtain ⟨call, hcall, hstep⟩ := MemoryBus.step_cases h
    cases hstep with
    | closed | unrouted | refused | dismissed | answered | lost => cases hevent
    | routed i =>
      have hrouted : some (BusEvent.stored c k) = some (.routed d call.subject i _) :=
        hevent.symm.trans (stepEvent?_setStage hcall (.picked i))
      cases hrouted
    | enqueued i =>
      have hnone : some (BusEvent.stored c k) = none :=
        hevent.symm.trans (stepEvent?_setStage hcall (.inLine i))
      cases hnone
    | stored i hs hinbox =>
      have hstored : some (BusEvent.stored c k) = some (.stored d i) :=
        hevent.symm.trans (stepEvent?_setStage hcall (.waiting i))
      cases hstored
      exact ⟨_, (MemoryBus.stores_store hinbox).mpr (Or.inr ⟨rfl, rfl⟩), call.isOf_request c⟩
  | _ => cases hevent

/-- Whether an inbox holds the request of a call at some moment of a run. -/
def HeldIn (moves : List Move) (r : BusRun) (c : CallId) (i : InboxId) : Prop :=
  ∃ s ∈ moments moves r, ∃ request, s.bus.Stores i request ∧ request.IsOf c

/-- **An inbox holds a request at some moment** exactly if it was stored there. -/
theorem heldIn_iff (hf : follow moves {} = some r) :
    HeldIn moves {} c k ↔ .stored c k ∈ r.events := by
  constructor
  · rintro ⟨s, hs, request, hstores, hof⟩
    obtain ⟨first, hfirst, -⟩ := exists_follow_of_mem_moments hs
    have hrecorded : ∀ k request, s.bus.Stores k request → request.IsOf c →
        .stored c k ∈ s.events := by
      refine follow_induction hfirst ?_ ?_
      · rintro k request ⟨inbox, hinbox, -⟩
        cases hinbox
      · rintro m s s' - - ih hm k request hstores hof
        obtain ⟨b, event?, rfl, heffect⟩ := effect_of_step? hm
        rcases heffect.stores hstores with hbefore | ⟨d, hof', rfl⟩
        · exact List.mem_append_left _ (ih k request hbefore hof)
        · rw [hof.eq hof']
          exact List.mem_append_right _ (List.mem_singleton_self _)
    exact (prefix_of_mem_moments hf hs).subset (hrecorded k request hstores hof)
  · refine follow_induction hf ?_ ?_
    · exact nofun
    · intro m s s' _ hs' ih hm hmem
      obtain ⟨b, event?, rfl, heffect⟩ := effect_of_step? hm
      rcases List.mem_append.mp hmem with hbefore | hnow
      · exact ih hbefore
      · obtain ⟨request, hstores, hof⟩ := heffect.stores_of_stored (Option.mem_toList.mp hnow)
        exact ⟨_, hs', request, hstores, hof⟩

/-! ### Delivery -/

/-- The inbox on the way to which a request was cut off is the one that was picked for it. -/
theorem CutOff.routed_mem (h : r.CutOff c i) :
    ∃ subject turn, .routed c subject i turn ∈ r.record c := by
  obtain ⟨before, after, hsplit, ⟨subject, turn, hrouted⟩, -⟩ := h
  exact ⟨subject, turn, mem_record.mpr ⟨hsplit ▸ List.mem_append_left _ hrouted, rfl⟩⟩

/-- A request on its way is cut off if the inbox that was picked takes no more requests. -/
theorem OnWay.not_accepts (h : r.OnWay c subject i) (hcut : r.CutOff c j) : ¬ r.bus.Accepts i := by
  obtain ⟨turn, -, hrecord, hiff⟩ := h
  obtain ⟨subject', turn', hrouted⟩ := hcut.routed_mem
  rw [hrecord] at hrouted
  cases List.mem_singleton.mp hrouted
  exact hiff.mp hcut

/-- What was stored was not cut off on the way to any inbox. -/
theorem Placed.not_cutOff (h : r.Placed c subject i rest) (hend : IsEnd c subject rest) :
    ¬ r.CutOff c j := by
  intro hcut
  obtain ⟨turn, -, hrecord, hnot⟩ := h
  obtain ⟨subject', turn', hrouted⟩ := hcut.routed_mem
  rw [hrecord] at hrouted
  rcases hend with rfl | rfl | ⟨result, -, rfl⟩ <;> simp at hrouted <;>
    exact hnot (hrouted.2.1 ▸ hcut)

/-- **All that a course can be**, whatever the stage: the request has not been sent, is on its way, was
given up there, was turned away, or was placed. -/
theorem Course.cases (h : r.Course c subject stage) :
    (r.record c = [] ∨ r.record c = [.abandoned c]) ∨
    (∃ i, r.OnWay c subject i) ∨
    (∃ i turn, r.record c = [.routed c subject i turn, .abandoned c]) ∨
    (∃ i, r.TurnedAway c subject i) ∨
    ∃ i rest, IsEnd c subject rest ∧ r.Placed c subject i rest := by
  cases stage with
  | asking => exact Or.inl (Or.inl h)
  | picked i | inLine i => exact Or.inr (Or.inl ⟨i, h⟩)
  | waiting i | answered i | lost i =>
    exact Or.inr (Or.inr (Or.inr (Or.inr ⟨i, [], Or.inl rfl, h⟩)))
  | «over» =>
    rcases h with hgone | hrest
    · exact Or.inl (Or.inr hgone)
    · exact Or.inr (Or.inr hrest)

/-- **What was stored was placed**: it was stored there only, and how its record goes on. -/
theorem Course.placed (h : r.Course c subject stage) (hmem : .stored c i ∈ r.record c) :
    ∃ rest, IsEnd c subject rest ∧ r.Placed c subject i rest := by
  rcases h.cases with (hnone | hgone) | ⟨j, turn, -, hway, -⟩ | ⟨j, turn, hgone⟩ |
    ⟨j, turn, -, haway, -⟩ | ⟨j, rest, hend, hj⟩
  · rw [hnone] at hmem
    cases hmem
  · rw [hgone] at hmem
    cases List.mem_singleton.mp hmem
  · rw [hway] at hmem
    cases List.mem_singleton.mp hmem
  · rw [hgone] at hmem
    simp at hmem
  · rw [haway] at hmem
    simp at hmem
  · obtain ⟨turn, -, hrecord, -⟩ := id hj
    rw [hrecord] at hmem
    have hij : i = j := by
      rcases hend with rfl | rfl | ⟨result, -, rfl⟩ <;> simpa using hmem
    exact ⟨rest, hend, hij ▸ hj⟩

/-- **A request that failed for want of subscribers was turned away.** -/
theorem Course.turnedAway (h : r.Course c subject stage)
    (hmem : .ended c (.error (.noResponders subject)) ∈ r.record c) :
    ∃ i, r.TurnedAway c subject i := by
  rcases h.cases with (hnone | hgone) | ⟨j, turn, -, hway, -⟩ | ⟨j, turn, hgone⟩ | haway |
    ⟨j, rest, hend, turn, -, hrecord, -⟩
  · rw [hnone] at hmem
    cases hmem
  · rw [hgone] at hmem
    cases List.mem_singleton.mp hmem
  · rw [hway] at hmem
    cases List.mem_singleton.mp hmem
  · rw [hgone] at hmem
    simp at hmem
  · exact haway
  · rw [hrecord] at hmem
    rcases hend with rfl | rfl | ⟨result, hresult, rfl⟩
    · simp at hmem
    · simp at hmem
    · have hsame : .error (.noResponders subject) = result := by simpa using hmem
      exact absurd hsame.symm hresult

/-- A call in line that can not go on waits for room in an inbox that takes requests. -/
theorem waits_in_line {inbox : Inbox} (hcall : b.calls[c]? = some call) (hs : call.stage = .inLine i)
    (hinbox : b.inboxes[i]? = some inbox) (h : b.step c = none) :
    inbox.accepting = true ∧ inbox.hasRoomFor c = false := by
  rw [MemoryBus.step, hcall, Option.bind_eq_bind, Option.bind_some, hs] at h
  dsimp only at h
  rw [hinbox, Option.bind_eq_bind, Option.bind_some] at h
  split at h
  · cases h
  · rename_i haccepting
    split at h
    · cases h
    · rename_i hroom
      exact ⟨by simpa using haccepting, Bool.eq_false_iff.mpr hroom⟩

/-- **Where a call ends up** that goes no further by itself: it was turned away, or its request was
stored, or it waits for room. -/
theorem Course.at_rest (h : r.Course c call.subject call.stage) (hcall : r.bus.calls[c]? = some call)
    (hrest : r.bus.step c = none) (hkept : .abandoned c ∉ r.events) :
    (∃ i, r.TurnedAway c call.subject i) ∨
    (∃ i rest, IsEnd c call.subject rest ∧ r.Placed c call.subject i rest) ∨
    ∃ i inbox, r.OnWay c call.subject i ∧ call.stage = .inLine i ∧
      r.bus.inboxes[i]? = some inbox ∧ inbox.subject = call.subject ∧
        inbox.accepting = true ∧ inbox.hasRoomFor c = false := by
  have hstage : r.bus.stage? c = some call.stage := by
    rw [MemoryBus.stage?, hcall]
    rfl
  have hgiven : ∀ before, r.record c = before ++ [.abandoned c] → False := by
    intro before hrecord
    have hmem : .abandoned c ∈ r.record c := by
      rw [hrecord]
      exact List.mem_append_right _ (List.mem_singleton_self _)
    exact hkept (mem_record.mp hmem).1
  rcases MemoryBus.step_eq_none hstage hrest with ⟨i, hs⟩ | hs | ⟨i, hs, hnone⟩ | ⟨i, hs, -⟩
  · rw [hs] at h
    exact Or.inr (Or.inl ⟨i, [], Or.inl rfl, h⟩)
  · rw [hs] at h
    rcases h with hgone | ⟨i, turn, hgone⟩ | haway | hplaced
    · exact (hgiven [] hgone).elim
    · exact (hgiven [_] hgone).elim
    · exact Or.inl haway
    · exact Or.inr (Or.inl hplaced)
  · rw [hs] at h
    obtain ⟨turn, ⟨inbox, hinbox, -⟩, -⟩ := h
    rw [hnone] at hinbox
    cases hinbox
  · rw [hs] at h
    have hway : r.OnWay c call.subject i := h
    obtain ⟨turn, ⟨inbox, hinbox, hsubject⟩, -⟩ := id hway
    obtain ⟨haccepting, hroom⟩ := waits_in_line hcall hs hinbox hrest
    exact Or.inr (Or.inr ⟨i, inbox, hway, hs, hinbox, hsubject, haccepting, hroom⟩)

/-- **Where a request gets that somebody could take all the time**, from when it was asked until it was
stored. One inbox of its subject holds it at most. It fails for want of subscribers only if the inbox
that was picked for it was shut while it was on its way there, and is stored nowhere then. If its call
goes no further by itself and was not given up, it has failed so if it was cut off, and if it was not
it has been stored or waits for room in an inbox that takes requests. -/
theorem delivery_of_follow (hf : follow moves {} = some r)
    (hlive : ∀ s ∈ moments moves {}, s.Attended c) (hcall : r.bus.calls[c]? = some call) :
    (∀ i, HeldIn moves {} c i → r.bus.Subscribes i call.subject ∧
      ∀ j, HeldIn moves {} c j → j = i) ∧
    (.ended c (.error (.noResponders call.subject)) ∈ r.events →
      ∃ i, r.bus.Subscribes i call.subject ∧ r.CutOff c i) ∧
    (∀ i, r.CutOff c i → ∀ j, ¬ HeldIn moves {} c j) ∧
    (r.bus.step c = none → .abandoned c ∉ r.events →
      (∀ i, r.CutOff c i → .ended c (.error (.noResponders call.subject)) ∈ r.events) ∧
      ((∀ i, ¬ r.CutOff c i) → (∃ i, HeldIn moves {} c i) ∨
        ∃ i inbox, call.stage = .inLine i ∧ r.bus.inboxes[i]? = some inbox ∧
          inbox.subject = call.subject ∧ inbox.accepting = true ∧ inbox.hasRoomFor c = false)) := by
  have hcourse := course_of_follow hf hlive hcall
  have hplaced : ∀ i, HeldIn moves {} c i →
      ∃ rest, IsEnd c call.subject rest ∧ r.Placed c call.subject i rest := fun i hi =>
    hcourse.placed (mem_record.mpr ⟨(heldIn_iff hf).mp hi, rfl⟩)
  refine ⟨fun i hi => ?_, fun hended => ?_, fun i hcut j hj => ?_, fun hrest hkept => ⟨?_, ?_⟩⟩
  · obtain ⟨rest, hend, turn, hsubscribes, hrecord, -⟩ := hplaced i hi
    refine ⟨hsubscribes, fun j hj => ?_⟩
    obtain ⟨rest', -, turn', -, hrecord', -⟩ := hplaced j hj
    rw [hrecord] at hrecord'
    cases hrecord'
    rfl
  · obtain ⟨i, turn, hsubscribes, -, hcut⟩ :=
      hcourse.turnedAway (mem_record.mpr ⟨hended, rfl⟩)
    exact ⟨i, hsubscribes, hcut⟩
  · obtain ⟨rest, hend, hj⟩ := hplaced j hj
    exact hj.not_cutOff hend hcut
  · intro i hcut
    rcases hcourse.at_rest hcall hrest hkept with haway | ⟨j, rest, hend, hj⟩ |
      ⟨j, inbox, hway, -, hinbox, -, haccepting, -⟩
    · obtain ⟨j, turn, -, hrecord, -⟩ := haway
      refine (mem_record.mp (?_ : _ ∈ r.record c)).1
      rw [hrecord]
      exact List.mem_cons_of_mem _ (List.mem_singleton_self _)
    · exact absurd hcut (hj.not_cutOff hend)
    · exact absurd ⟨inbox, hinbox, haccepting⟩ (hway.not_accepts hcut)
  · intro hwhole
    rcases hcourse.at_rest hcall hrest hkept with ⟨j, turn, -, -, hcut⟩ | ⟨j, rest, -, hj⟩ |
      ⟨j, inbox, -, hs, hinbox, hsubject, haccepting, hroom⟩
    · exact absurd hcut (hwhole j)
    · exact Or.inl ⟨j, (heldIn_iff hf).mpr hj.stored_mem⟩
    · exact Or.inr ⟨j, inbox, hs, hinbox, hsubject, haccepting, hroom⟩

/-- Two subscribers, and a request that is stored. -/
def delivered : List Move :=
  [.subscribe "news", .subscribe "news", .ask "news" [] [], .advance 0, .advance 0, .advance 0]

/-- The request is stored in one inbox and does not fail. -/
theorem delivery_of_delivered : ∃ r, follow delivered {} = some r ∧
    (∃ i, HeldIn delivered {} 0 i ∧ ∀ j, HeldIn delivered {} 0 j → j = i) ∧
      .ended 0 (.error (.noResponders "news")) ∉ r.events := by
  obtain ⟨r, hf⟩ : ∃ r, follow delivered {} = some r := ⟨_, rfl⟩
  have hend : r.events = [.routed 0 "news" 0 0, .stored 0 0] ∧ r.bus.step 0 = none ∧
      r.bus.calls[0]? = some { subject := "news", stage := .waiting 0 } := by
    cases hf
    exact ⟨rfl, rfl, rfl⟩
  obtain ⟨hevents, hrest, hcall⟩ := hend
  obtain ⟨hone, hfails, -, hdone⟩ := delivery_of_follow hf (by decide) hcall
  have hwhole : ∀ i, ¬ r.CutOff 0 i := by
    rintro i ⟨before, after, hsplit, -⟩
    have hshut : .shut i ∈ r.events := hsplit ▸ List.mem_append_right _ List.mem_cons_self
    rw [hevents] at hshut
    simp at hshut
  have hkept : .abandoned 0 ∉ r.events := by
    rw [hevents]
    simp
  refine ⟨r, hf, ?_, fun hended => ?_⟩
  · rcases (hdone hrest hkept).2 hwhole with ⟨i, hi⟩ | ⟨i, inbox, hs, -⟩
    · exact ⟨i, hi, (hone i hi).2⟩
    · cases hs
  · obtain ⟨i, -, hcut⟩ := hfails hended
    exact hwhole i hcut

/-- Two subscribers, and a request that is on its way to the first when that one closes its inbox. -/
def interrupted : List Move :=
  [.subscribe "news", .subscribe "news", .ask "news" [] [], .advance 0, .closeInbox 0, .advance 0]

/-- **A request that nobody gets**: it fails for want of subscribers, although the second is there all
the time. -/
theorem not_delivered_if_interrupted : ∃ r, follow interrupted {} = some r ∧
    (∀ s ∈ moments interrupted {}, s.Attended 0) ∧ r.bus.HasListener "news" ∧
      .ended 0 (.error (.noResponders "news")) ∈ r.events ∧
        ∀ i, ¬ HeldIn interrupted {} 0 i := by
  obtain ⟨r, hf⟩ : ∃ r, follow interrupted {} = some r := ⟨_, rfl⟩
  have hend : r.bus.HasListener "news" ∧ r.events =
      [.routed 0 "news" 0 0, .shut 0, .ended 0 (.error (.noResponders "news"))] := by
    cases hf
    exact ⟨by decide, rfl⟩
  obtain ⟨hlistener, hevents⟩ := hend
  refine ⟨r, hf, by decide, hlistener, ?_, fun i hheld => ?_⟩
  · rw [hevents]
    simp
  · rw [heldIn_iff hf, hevents] at hheld
    simp at hheld

end BusRun

end ServiceBus.Bus
