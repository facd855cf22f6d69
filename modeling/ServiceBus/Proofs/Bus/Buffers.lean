import ServiceBus.Proofs.Bus.Requests

/-! # Buffers on a bus

What every operation of the bus does to the buffer of an inbox as a list. A call stores its request
once and at the end; all else takes requests out, of the inbox that it is about.

* `MemoryBus.Thins`: an operation that stores nothing, and the inboxes it takes requests out of.
* `MemoryBus.Enters`: the one inbox in which a call stores its request.
* `MemoryBus.poll_cases`: a call that is taken as far as it gets does one or the other. -/

namespace ServiceBus.Bus

/-- Whether a call has its request still to store. -/
def Call.Stage.IsPending : Call.Stage → Prop
  | .asking | .picked _ | .inLine _ => True
  | .waiting _ | .answered .. | .lost _ | .over => False

instance (s : Call.Stage) : Decidable s.IsPending :=
  match s with
  | .asking | .picked _ | .inLine _ => .isTrue trivial
  | .waiting _ | .answered .. | .lost _ | .over => .isFalse id

namespace MemoryBus

variable {b b' b'' : MemoryBus} {i j k c d : Nat} {r : Request}

/-! ### What is where -/

/-- The requests that an inbox holds, oldest first. -/
def buffer (b : MemoryBus) (i : InboxId) : List Request := (b.inboxes[i]?).elim [] (·.buffer)

/-- Whether there is an inbox that takes new requests. -/
def Accepts (b : MemoryBus) (i : InboxId) : Prop :=
  ∃ inbox, b.inboxes[i]? = some inbox ∧ inbox.accepting = true

/-- Whether a call has nothing to store any more. -/
def Sent (b : MemoryBus) (c : CallId) : Prop := ∃ s, b.stage? c = some s ∧ ¬ s.IsPending

/-- The buffer of an inbox that there is. -/
theorem buffer_eq {inbox : Inbox} (h : b.inboxes[i]? = some inbox) : b.buffer i = inbox.buffer := by
  rw [buffer, h]
  rfl

/-- An inbox that is not there holds nothing. -/
theorem buffer_eq_nil (h : b.inboxes[i]? = none) : b.buffer i = [] := by
  rw [buffer, h]
  rfl

/-- An inbox that holds something is there. -/
theorem lt_of_mem_buffer (h : r ∈ b.buffer i) : i < b.inboxes.length := by
  rcases Nat.lt_or_ge i b.inboxes.length with hlt | hge
  · exact hlt
  · rw [buffer_eq_nil (List.getElem?_eq_none hge)] at h
    cases h

/-- An inbox holds what is in its buffer. -/
theorem stores_iff : b.Stores i r ↔ r ∈ b.buffer i := by
  rw [Stores]
  cases h : b.inboxes[i]? with
  | none => simp [buffer_eq_nil h]
  | some inbox => simp [buffer_eq h]

/-- The buffers depend on the inboxes only. -/
theorem buffer_congr (h : b'.inboxes = b.inboxes) (i : Nat) : b'.buffer i = b.buffer i := by
  rw [buffer, h, buffer]

/-- The buffers after one inbox was changed. -/
theorem buffer_modifyInbox (b : MemoryBus) (i j : Nat) (f : Inbox → Inbox) :
    (b.modifyInbox i f).buffer j =
      if j = i then (b.inboxes[j]?).elim [] (fun inbox => (f inbox).buffer) else b.buffer j := by
  rw [buffer, modifyInbox, List.getElem?_modify]
  by_cases h : j = i
  · rw [if_pos h, h]
    cases b.inboxes[i]? with
    | none => rfl
    | some inbox => simp
  · rw [if_neg h, buffer]
    cases b.inboxes[j]? with
    | none => rfl
    | some inbox => simp [Ne.symm h]

/-- A change of an inbox that leaves what it holds. -/
theorem buffer_modifyInbox_of (f : Inbox → Inbox) (hf : ∀ inbox, (f inbox).buffer = inbox.buffer)
    (j : Nat) : (b.modifyInbox i f).buffer j = b.buffer j := by
  rw [buffer_modifyInbox]
  split
  · simp only [hf]
    rfl
  · rfl

/-- A change of an inbox after which it takes no more requests than before. -/
theorem accepts_modifyInbox {f : Inbox → Inbox} (h : (b.modifyInbox i f).Accepts j)
    (hf : ∀ inbox, (f inbox).accepting = true → inbox.accepting = true) : b.Accepts j := by
  obtain ⟨inbox, hinbox, hacc⟩ := h
  obtain ⟨old, hold, rfl⟩ := inbox_modify.mp hinbox
  refine ⟨old, hold, ?_⟩
  split at hacc
  · exact hf old hacc
  · exact hacc

/-! ### Operations that store nothing -/

/-- **An operation that stores nothing**, and takes requests out of some inboxes at most. -/
structure Thins (touched : InboxId → Prop) (b b' : MemoryBus) : Prop where
  length : b.inboxes.length ≤ b'.inboxes.length
  buffer : ∀ i : Nat, ¬ touched i → b'.buffer i = b.buffer i
  sublist : ∀ i : Nat, (b'.buffer i).Sublist (b.buffer i)
  accepts : ∀ i : Nat, b'.Accepts i → b.Accepts i ∨ b.inboxes.length ≤ i

section Thins

variable {touched touched' : InboxId → Prop}

/-- An operation that leaves the inboxes alone. -/
theorem Thins.same (h : b'.inboxes = b.inboxes) : Thins touched b b' where
  length := Nat.le_of_eq (congrArg List.length h).symm
  buffer i _ := buffer_congr h i
  sublist i := buffer_congr h i ▸ List.Sublist.refl _
  accepts i hi := Or.inl (by rwa [Accepts, h] at hi)

/-- One operation after another. -/
theorem Thins.trans (h : Thins touched b b') (h' : Thins touched' b' b'') :
    Thins (fun i => touched i ∨ touched' i) b b'' where
  length := Nat.le_trans h.length h'.length
  buffer i hi := by
    rw [not_or] at hi
    exact (h'.buffer i hi.2).trans (h.buffer i hi.1)
  sublist i := (h'.sublist i).trans (h.sublist i)
  accepts i hi := by
    rcases h'.accepts i hi with hi | hi
    · exact h.accepts i hi
    · exact Or.inr (Nat.le_trans h.length hi)

/-- An operation that touches fewer inboxes. -/
theorem Thins.mono (h : Thins touched b b') (hsub : ∀ i, touched i → touched' i) :
    Thins touched' b b' :=
  ⟨h.length, fun i hi => h.buffer i fun ht => hi (hsub i ht), h.sublist, h.accepts⟩

/-- A change of an inbox that leaves what it holds. -/
theorem Thins.modifyInbox {f : Inbox → Inbox} (hf : ∀ inbox, (f inbox).buffer = inbox.buffer)
    (hacc : ∀ inbox, (f inbox).accepting = true → inbox.accepting = true) :
    Thins touched b (b.modifyInbox i f) where
  length := Nat.le_of_eq (List.length_modify _ _ _).symm
  buffer j _ := buffer_modifyInbox_of f hf j
  sublist j := (buffer_modifyInbox_of f hf j : _ = b.buffer j) ▸ List.Sublist.refl _
  accepts _ hj := Or.inl (accepts_modifyInbox hj hacc)

/-- An inbox that is closed keeps what it holds. -/
theorem thins_closeInbox (b : MemoryBus) (i : InboxId) : Thins touched b (b.closeInbox i) :=
  .modifyInbox (fun _ => rfl) fun _ h => nomatch h

/-- A closed inbox takes no more requests. -/
theorem not_accepts_closeInbox (b : MemoryBus) (i : InboxId) : ¬ (b.closeInbox i).Accepts i := by
  rintro ⟨inbox, hinbox, hacc⟩
  obtain ⟨old, -, rfl⟩ := inbox_modify.mp hinbox
  rw [if_pos rfl] at hacc
  cases hacc

/-- The end of the bus leaves the buffers alone. -/
theorem thins_close (b : MemoryBus) : Thins touched b b.close := by
  have hbuffer : ∀ j : Nat, b.close.buffer j = b.buffer j := by
    intro j
    rw [MemoryBus.buffer, close, List.getElem?_map, MemoryBus.buffer]
    cases b.inboxes[j]? <;> rfl
  refine ⟨Nat.le_of_eq (List.length_map _).symm, fun j _ => hbuffer j,
    fun j => hbuffer j ▸ List.Sublist.refl _, ?_⟩
  rintro j ⟨inbox, hinbox, hacc⟩
  left
  rw [close, List.getElem?_map] at hinbox
  obtain ⟨old, hold, rfl⟩ := Option.map_eq_some_iff.mp hinbox
  exact ⟨old, hold, hacc⟩

/-- A new inbox is empty. -/
theorem thins_subscribe {subject : String} (h : b.subscribe subject = .ok b') :
    Thins touched b b' := by
  obtain rfl := subscribe_eq h
  have hbuffer : ∀ j : Nat, ({ b with inboxes := b.inboxes ++ [{ subject }] } : MemoryBus).buffer j =
      b.buffer j := by
    intro j
    rw [MemoryBus.buffer, List.getElem?_append, MemoryBus.buffer]
    split
    · rfl
    · rename_i hj
      rw [List.getElem?_eq_none (Nat.le_of_not_lt hj), List.getElem?_singleton]
      split <;> rfl
  refine ⟨?_, fun j _ => hbuffer j, fun j => hbuffer j ▸ List.Sublist.refl _, ?_⟩
  · rw [List.length_append]
    exact Nat.le_add_right _ _
  · rintro j ⟨inbox, hinbox, hacc⟩
    rcases Nat.lt_or_ge j b.inboxes.length with hj | hj
    · rw [List.getElem?_append_left hj] at hinbox
      exact Or.inl ⟨inbox, hinbox, hacc⟩
    · exact Or.inr hj

/-- **What is taken out of an inbox** was at the head of its buffer. -/
theorem buffer_take (h : b.take? i = some (r, b')) :
    b.buffer i = r :: b'.buffer i ∧ ∀ j : Nat, j ≠ i → b'.buffer j = b.buffer j := by
  obtain ⟨inbox, hinbox, h⟩ := Option.bind_eq_some_iff.mp h
  split at h
  · cases h
  · rename_i rest hbuffer
    cases h
    refine ⟨?_, fun j hj => by rw [buffer_modifyInbox, if_neg hj]⟩
    rw [buffer_eq hinbox, hbuffer, buffer_modifyInbox, if_pos rfl, hinbox]
    rfl

/-- An inbox out of which nothing can be taken is empty. -/
theorem buffer_of_take_none (h : b.take? i = none) : b.buffer i = [] := by
  cases hi : b.inboxes[i]? with
  | none => exact buffer_eq_nil hi
  | some inbox =>
    rw [take?, hi] at h
    rw [buffer_eq hi]
    cases hbuffer : inbox.buffer with
    | nil => rfl
    | cons request rest =>
      simp [hbuffer] at h

/-- What is taken out of an inbox is taken out of that inbox. -/
theorem thins_take (h : b.take? i = some (r, b')) : Thins (· = i) b b' := by
  obtain ⟨hi, hj⟩ := buffer_take h
  refine ⟨Nat.le_of_eq (take?_frame h).2.1.symm, fun j => hj j, fun j => ?_, fun j hacc => Or.inl ?_⟩
  · by_cases hji : j = i
    · rw [hji, hi]
      exact List.sublist_cons_self _ _
    · exact hj j hji ▸ List.Sublist.refl _
  · obtain ⟨inbox, hinbox, h⟩ := Option.bind_eq_some_iff.mp h
    split at h
    · cases h
    · cases h
      exact accepts_modifyInbox hacc fun _ h => h

/-- A request that is given up is in no inbox. -/
theorem thins_drop (b : MemoryBus) (r : Request) : Thins touched b (b.drop r) :=
  .same (b.inboxes_drop r)

/-- A reply leaves the inboxes alone. -/
theorem thins_answer (b : MemoryBus) (c : CallId) (reply : Message) :
    Thins touched b (b.answer c reply).1 :=
  .same (b.inboxes_answer c reply)

/-- An inbox that is given up is empty and takes no more requests. -/
theorem thins_discardInbox (b : MemoryBus) (i : InboxId) :
    Thins (· = i) b (b.discardInbox i) := by
  rw [discardInbox]
  cases hi : b.inboxes[i]? with
  | none => exact .same rfl
  | some inbox =>
    have hdrop := inboxes_foldl_drop inbox.buffer
      (b.modifyInbox i ({ · with accepting := false, buffer := [] }))
    refine ⟨?_, fun j hj => ?_, fun j => ?_, fun j hacc => Or.inl ?_⟩
    · show _ ≤ (List.foldl drop _ _).inboxes.length
      rw [hdrop]
      exact Nat.le_of_eq (List.length_modify _ _ _).symm
    · rw [buffer_congr hdrop, buffer_modifyInbox, if_neg hj]
    · rw [buffer_congr hdrop, buffer_modifyInbox]
      split
      · cases b.inboxes[j]? <;> exact List.nil_sublist _
      · exact List.Sublist.refl _
    · rw [Accepts, hdrop] at hacc
      exact accepts_modifyInbox hacc fun _ h => absurd h Bool.false_ne_true

/-- A call that leaves a line takes nothing out of the inbox. -/
theorem thins_leaveLine (b : MemoryBus) (i : InboxId) (c : CallId) :
    Thins touched b (b.leaveLine i c) :=
  .modifyInbox (fun _ => rfl) fun _ h => h

/-- The stages of the calls have nothing to do with the inboxes. -/
theorem Thins.setStage (h : Thins touched b b') (c : CallId) (stage : Call.Stage) :
    Thins touched b (b'.setStage c stage) :=
  ⟨h.length, h.buffer, h.sublist, h.accepts⟩

/-- A call that is given up leaves what it stored. -/
theorem thins_abandon (b : MemoryBus) (c : CallId) : Thins touched b (b.abandon c) := by
  rw [abandon]
  split
  · exact (b.thins_leaveLine _ c).setStage c .over
  · exact .same rfl

end Thins

/-! ### Calls that store their requests -/

/-- **A call stores its request** in one inbox, which takes new requests. -/
structure Enters (c : CallId) (k : InboxId) (b b' : MemoryBus) : Prop where
  call : ∃ call, b.calls[c]? = some call ∧ call.stage.IsPending ∧
    b'.buffer k = b.buffer k ++ [call.request c]
  accepts : b.Accepts k
  length : b'.inboxes.length = b.inboxes.length
  others : ∀ i : Nat, i ≠ k → b'.buffer i = b.buffer i
  accepts' : ∀ i : Nat, b'.Accepts i → b.Accepts i
  sent : b'.Sent c

/-- A call that stores its request in a step is in line of an inbox that takes requests. -/
theorem accepts_of_step {call : Call} (hcall : b.calls[c]? = some call)
    (hs : call.stage = .inLine i) (h : b.step c = some (b', none)) : b.Accepts i := by
  rw [step, hcall, Option.bind_eq_bind, Option.bind_some, hs] at h
  obtain ⟨inbox, hinbox, h⟩ := Option.bind_eq_some_iff.mp h
  refine ⟨inbox, hinbox, ?_⟩
  split at h
  · cases h
  · rename_i hacc
    simpa using hacc

/-- What a step of a call does to the buffers: if it stores its request the call waits. -/
theorem step_buffer {result? : Option (Except TransportError Message)}
    (h : b.step c = some (b', result?)) : Thins (fun _ => False) b b' ∧
      (result? = none → ∀ call', b'.calls[c]? = some call' → ∃ call, b.calls[c]? = some call ∧
        call.stage.IsPending ∧ call'.request c = call.request c) ∨
    ∃ k, Enters c k b b' ∧ b'.stage? c = some (.waiting k) := by
  obtain ⟨call, hcall, hstep⟩ := step_cases h
  have hrequest : ∀ {v : MemoryBus} {stage : Call.Stage}, v.calls = b.calls →
      call.stage.IsPending → ∀ call', (v.setStage c stage).calls[c]? = some call' →
        ∃ call, b.calls[c]? = some call ∧ call.stage.IsPending ∧
          call'.request c = call.request c := by
    intro v stage hv hp call' hcall'
    rw [setStage, List.getElem?_modify_eq, hv, hcall] at hcall'
    cases hcall'
    exact ⟨call, hcall, hp, rfl⟩
  have hended : ∀ result : Except TransportError Message, some result = none → ∀ call',
      b'.calls[c]? = some call' → ∃ call, b.calls[c]? = some call ∧ call.stage.IsPending ∧
        call'.request c = call.request c := fun _ h => absurd h (Option.some_ne_none _)
  cases hstep with
  | closed => exact Or.inl ⟨.same rfl, hended _⟩
  | unrouted => exact Or.inl ⟨.same rfl, hended _⟩
  | routed i hs =>
    exact Or.inl ⟨.same rfl, fun _ => hrequest rfl (by rw [hs]; trivial)⟩
  | @enqueued i inbox hs hi =>
    have hline : Thins (fun _ => False) b
        (b.modifyInbox i ({ · with line := inbox.line ++ [c] })) :=
      .modifyInbox (fun _ => rfl) fun _ h => h
    exact Or.inl ⟨hline.setStage c _, fun _ => hrequest rfl (by rw [hs]; trivial)⟩
  | refused i => exact Or.inl ⟨.same rfl, hended _⟩
  | @stored i inbox hs hi =>
    have hleave : Thins (fun _ => False) b (b.leaveLine i c) := b.thins_leaveLine i c
    refine Or.inr ⟨i, ⟨⟨call, hcall, by rw [hs]; trivial, ?_⟩, accepts_of_step hcall hs h, ?_, ?_, ?_,
      .waiting i, ?_, fun h => h⟩, ?_⟩
    · show ((b.leaveLine i c).modifyInbox i _).buffer i = _
      rw [buffer_modifyInbox, if_pos rfl, buffer_eq hi]
      obtain ⟨new, hnew⟩ : ∃ new, (b.leaveLine i c).inboxes[i]? = some new :=
        ⟨_, inbox_modify.mpr ⟨inbox, hi, rfl⟩⟩
      rw [hnew]
      rfl
    · exact (List.length_modify _ _ _).trans (List.length_modify _ _ _)
    · intro j hj
      show ((b.leaveLine i c).modifyInbox i _).buffer j = _
      rw [buffer_modifyInbox, if_neg hj]
      exact hleave.buffer j fun h => h
    · intro j hj
      have hj' : (b.leaveLine i c).Accepts j := accepts_modifyInbox hj fun _ h => h
      exact accepts_modifyInbox hj' fun _ h => h
    · rw [stage?_setStage, if_pos rfl, show ((b.leaveLine i c).modifyInbox i _).stage? c =
        b.stage? c from rfl, stage?, hcall]
      rfl
    · rw [stage?_setStage, if_pos rfl, show ((b.leaveLine i c).modifyInbox i _).stage? c =
        b.stage? c from rfl, stage?, hcall]
      rfl
  | dismissed i => exact Or.inl ⟨(b.thins_leaveLine i c).setStage c _, hended _⟩
  | answered i => exact Or.inl ⟨.same rfl, hended _⟩
  | lost i => exact Or.inl ⟨.same rfl, hended _⟩

/-- A call that waits goes no further by itself. -/
theorem step_of_waiting (h : b.stage? c = some (.waiting i)) : b.step c = none := by
  obtain ⟨call, hcall, hs⟩ := Option.map_eq_some_iff.mp h
  rw [step, hcall, Option.bind_eq_bind, Option.bind_some, hs]

/-- **A call that is taken as far as it gets** stores its request in one inbox, or stores nothing. -/
theorem poll_cases (b : MemoryBus) (c : CallId) :
    Thins (fun _ => False) b (b.poll c).1 ∨ ∃ k, Enters c k b (b.poll c).1 := by
  have hsteps : ∀ n b, Thins (fun _ => False) b (steps n b c).1 ∨
      ∃ k, Enters c k b (steps n b c).1 := by
    intro n
    induction n with
    | zero => exact fun b => Or.inl (.same rfl)
    | succ n ih =>
      intro b
      rw [steps]
      split
      · exact Or.inl (.same rfl)
      · rename_i v result hstep
        rcases step_buffer hstep with ⟨hthin, -⟩ | ⟨k, hk, -⟩
        · exact Or.inl hthin
        · exact Or.inr ⟨k, hk⟩
      · rename_i v hstep
        rcases step_buffer hstep with ⟨hthin, hback⟩ | ⟨k, hk, hw⟩
        · rcases ih v with hv | ⟨k, hk⟩
          · exact Or.inl ((hthin.trans hv).mono fun _ hi => hi.elim id id)
          · -- the call was already the same when it was not yet routed
            obtain ⟨call', hcall', -, hbuffer⟩ := hk.call
            obtain ⟨call, hcall, hp, hrequest⟩ := hback rfl call' hcall'
            have hlen := hthin.length
            have hacc := fun i hi => hthin.accepts i hi
            have hlt : ∀ {i : Nat}, v.Accepts i → i < v.inboxes.length := by
              rintro i ⟨inbox, hi, -⟩
              exact (List.getElem?_eq_some_iff.mp hi).1
            have hsame : v.inboxes.length = b.inboxes.length := (advances_step hstep).inboxes
            have hold : ∀ i : Nat, v.Accepts i → b.Accepts i := fun i hi =>
              (hacc i hi).resolve_right fun hge => by
                have := hlt hi
                omega
            refine Or.inr ⟨k, ⟨call, hcall, hp, ?_⟩, hold k hk.accepts, hk.length.trans hsame,
              fun i hi => (hk.others i hi).trans (hthin.buffer i fun h => h),
              fun i hi => hold i (hk.accepts' i hi), hk.sent⟩
            rw [hbuffer, hthin.buffer k fun h => h, hrequest]
        · have hnone := step_of_waiting hw
          have hstop : ∀ m, steps m v c = (v, none) := by
            intro m
            cases m with
            | zero => rfl
            | succ m => rw [steps, hnone]
          rw [hstop]
          exact Or.inr ⟨k, hk⟩
  exact hsteps 4 b

/-! ### Calls that have stored their requests -/

/-- A call whose request is stored has nothing to store after a step. -/
theorem sent_step {result? : Option (Except TransportError Message)}
    (h : b.step c = some (b', result?)) (hs : b.Sent c) : b'.Sent c := by
  obtain ⟨call, hcall, hstep⟩ := step_cases h
  obtain ⟨s, hstage, hnot⟩ := hs
  rw [stage?, hcall] at hstage
  cases hstage
  have hat : ∀ s, call.stage = s → ¬ s.IsPending := fun s hs => hs ▸ hnot
  have hover : (b.setStage c .over).Sent c :=
    ⟨.over, by rw [stage?_setStage, if_pos rfl, stage?, hcall]; rfl, fun h => h⟩
  cases hstep with
  | closed hs => exact hover
  | unrouted hs => exact hover
  | refused i hs => exact hover
  | answered i => exact hover
  | lost i => exact hover
  | routed i hs => exact absurd trivial (hat _ hs)
  | enqueued i hs => exact absurd trivial (hat _ hs)
  | stored i hs => exact absurd trivial (hat _ hs)
  | dismissed i hs => exact absurd trivial (hat _ hs)

/-- A call whose request is stored has nothing to store, however far it is taken. -/
theorem sent_poll (hs : b.Sent c) : (b.poll c).1.Sent c := by
  have hsteps : ∀ n b, b.Sent c → (steps n b c).1.Sent c := by
    intro n
    induction n with
    | zero => exact fun b h => h
    | succ n ih =>
      intro b hb
      rw [steps]
      split
      · exact hb
      · rename_i hstep
        exact sent_step hstep hb
      · rename_i hstep
        exact ih _ (sent_step hstep hb)
  exact hsteps 4 b hs

/-- A call that is given up has nothing to store. -/
theorem sent_abandon (hs : b.Sent c) : (b.abandon c).Sent c := by
  obtain ⟨s, hstage, -⟩ := hs
  exact ⟨.over, stage?_abandon hstage, fun h => h⟩

/-- A call that stored its request and is given up leaves it where it is. -/
theorem Enters.abandon (h : Enters c k b b') : Enters c k b (b'.abandon c) := by
  have hthin : Thins (fun _ => False) b' (b'.abandon c) := b'.thins_abandon c
  obtain ⟨call, hcall, hp, hbuffer⟩ := h.call
  have hlength : (b'.abandon c).inboxes.length = b'.inboxes.length :=
    (b'.advances_abandon c).inboxes
  refine ⟨⟨call, hcall, hp, (hthin.buffer k fun h => h).trans hbuffer⟩, h.accepts,
    hlength.trans h.length, fun i hi => (hthin.buffer i fun h => h).trans (h.others i hi),
    fun i hi => ?_, sent_abandon h.sent⟩
  rcases hthin.accepts i hi with hi' | hge
  · exact h.accepts' i hi'
  · obtain ⟨inbox, hinbox, -⟩ := hi
    have hlt := (List.getElem?_eq_some_iff.mp hinbox).1
    omega

end MemoryBus

end ServiceBus.Bus
