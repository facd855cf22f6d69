import ServiceBus.Bus.Memory

/-! # Requests on a bus

What every operation of the bus does to the requests that are stored, to the lines of the inboxes and
to the stages of the calls.

* `MemoryBus.Stores`, `MemoryBus.Queues`, `MemoryBus.stage?`: what is where.
* `MemoryBus.Advances`: what a call does that goes on by itself; it stores its own request at most.
* `MemoryBus.stage?_drop`, `MemoryBus.stage?_discardInbox`: a call whose request is given up loses it. -/

namespace ServiceBus.Bus

/-- Whether a request is that of a call. -/
def Request.IsOf (r : Request) (c : CallId) : Prop := r.replyTo? = some (.call c)

/-- A request belongs to one call at most. -/
theorem Request.IsOf.eq {r : Request} {c d : Nat} (h : r.IsOf c) (h' : r.IsOf d) : c = d := by
  rw [Request.IsOf, h] at h'
  cases h'
  rfl

/-- The request of a call is that of the call. -/
theorem Call.isOf_request (call : Call) (c : CallId) : (call.request c).IsOf c := rfl

/-- What a call sends. -/
def Call.letter (call : Call) : Message :=
  { subject := call.subject, headers := call.headers, payload := call.payload }

namespace Call.Stage

/-- The stage of a call that is answered while it waits. -/
def answer (reply : Message) : Call.Stage → Call.Stage
  | .waiting i => .answered i reply
  | s => s

/-- The stage of a call whose request is given up. -/
def lose : Call.Stage → Call.Stage
  | .waiting i => .lost i
  | s => s

variable {s : Call.Stage}

/-- A call whose request was given up does not wait. -/
theorem lose_ne_waiting (s : Call.Stage) (i : InboxId) : s.lose ≠ .waiting i := by
  cases s <;> simp [lose]

/-- A call whose request is given up once more is where it was. -/
theorem lose_lose : s.lose.lose = s.lose := by
  cases s <;> rfl

end Call.Stage

namespace MemoryBus

variable {b b' b'' : MemoryBus} {i j c d : Nat} {r : Request}

/-- Whether an inbox holds a request. -/
def Stores (b : MemoryBus) (i : InboxId) (r : Request) : Prop :=
  ∃ inbox, b.inboxes[i]? = some inbox ∧ r ∈ inbox.buffer

/-- Whether a call stands in the line of an inbox. -/
def Queues (b : MemoryBus) (i : InboxId) (c : CallId) : Prop :=
  ∃ inbox, b.inboxes[i]? = some inbox ∧ c ∈ inbox.line

/-- How far a call is. -/
def stage? (b : MemoryBus) (c : CallId) : Option Call.Stage := (b.calls[c]?).map (·.stage)

/-- What the calls send. -/
def letters (b : MemoryBus) : List Message := b.calls.map (·.letter)

/-- Whether a call awaits its reply. -/
def Waits (b : MemoryBus) (c : CallId) : Prop := ∃ i, b.stage? c = some (.waiting i)

/-! ### Parts of operations -/

/-- What calls send is the same in every stage. -/
theorem letters_setStage (b : MemoryBus) (c : CallId) (stage : Call.Stage) :
    (b.setStage c stage).letters = b.letters := by
  refine List.ext_getElem? fun d => ?_
  rw [letters, letters, List.getElem?_map, List.getElem?_map, setStage, List.getElem?_modify]
  cases b.calls[d]? with
  | none => rfl
  | some call =>
    show some (Call.letter (if c = d then _ else call)) = _
    split <;> rfl

/-- A call in another stage. -/
theorem stage?_setStage (b : MemoryBus) (c d : Nat) (stage : Call.Stage) :
    (b.setStage c stage).stage? d = if d = c then (b.stage? c).map fun _ => stage else b.stage? d := by
  by_cases h : d = c
  · rw [if_pos h, h, stage?, setStage, List.getElem?_modify_eq, stage?]
    cases b.calls[c]? with
    | none => rfl
    | some call => rfl
  · rw [if_neg h, stage?, setStage, List.getElem?_modify_ne _ _ (Ne.symm h), stage?]

/-- The stage into which a call was put. -/
theorem eq_of_setStage {stage s : Call.Stage} (h : (b.setStage c stage).stage? c = some s) :
    s = stage := by
  rw [stage?_setStage, if_pos rfl] at h
  obtain ⟨_, -, rfl⟩ := Option.map_eq_some_iff.mp h
  rfl

/-- The inboxes after one is changed. -/
theorem inbox_modify {f : Inbox → Inbox} {inbox : Inbox} :
    (b.modifyInbox i f).inboxes[j]? = some inbox ↔ ∃ old, b.inboxes[j]? = some old ∧
      inbox = if j = i then f old else old := by
  rw [modifyInbox, List.getElem?_modify]
  cases b.inboxes[j]? with
  | none => simp
  | some old =>
    simp only [Option.map_eq_map, Option.map_some, Option.some.injEq, exists_eq_left', eq_comm]

/-- A change of inboxes that leaves what they hold. -/
theorem stores_modifyInbox (f : Inbox → Inbox) (hf : ∀ inbox, (f inbox).buffer = inbox.buffer) :
    (b.modifyInbox i f).Stores j r ↔ b.Stores j r := by
  simp only [Stores, inbox_modify]
  constructor
  · rintro ⟨_, ⟨old, hold, rfl⟩, hr⟩
    refine ⟨old, hold, ?_⟩
    split at hr
    · rwa [hf] at hr
    · exact hr
  · rintro ⟨old, hold, hr⟩
    refine ⟨_, ⟨old, hold, rfl⟩, ?_⟩
    split
    · rwa [hf]
    · exact hr

/-- A change of inboxes that leaves their lines. -/
theorem queues_modifyInbox (f : Inbox → Inbox) (hf : ∀ inbox, (f inbox).line = inbox.line) :
    (b.modifyInbox i f).Queues j c ↔ b.Queues j c := by
  simp only [Queues, inbox_modify]
  constructor
  · rintro ⟨_, ⟨old, hold, rfl⟩, hr⟩
    refine ⟨old, hold, ?_⟩
    split at hr
    · rwa [hf] at hr
    · exact hr
  · rintro ⟨old, hold, hr⟩
    refine ⟨_, ⟨old, hold, rfl⟩, ?_⟩
    split
    · rwa [hf]
    · exact hr

/-- Those in line after a call has left. -/
theorem queues_leaveLine : (b.leaveLine i c).Queues j d ↔ b.Queues j d ∧ ¬ (j = i ∧ d = c) := by
  simp only [Queues, leaveLine, inbox_modify]
  constructor
  · rintro ⟨_, ⟨old, hold, rfl⟩, hd⟩
    split at hd
    · rw [List.mem_filter, bne_iff_ne] at hd
      exact ⟨⟨old, hold, hd.1⟩, fun h => hd.2 h.2⟩
    · rename_i hj
      exact ⟨⟨old, hold, hd⟩, fun h => hj h.1⟩
  · rintro ⟨⟨old, hold, hd⟩, hne⟩
    refine ⟨_, ⟨old, hold, rfl⟩, ?_⟩
    split
    · rename_i hj
      rw [List.mem_filter, bne_iff_ne]
      exact ⟨hd, fun h => hne ⟨hj, h⟩⟩
    · exact hd

/-! ### Operations of those who have requests -/

/-- Whether a call awaits its reply. -/
theorem waiting?_eq_some : b.waiting? c = some i ↔ b.stage? c = some (.waiting i) := by
  rw [waiting?, stage?]
  cases b.calls[c]? with
  | none => simp
  | some call =>
    obtain ⟨subject, headers, payload, stage⟩ := call
    cases stage <;> simp

/-- A call that does not await its reply is neither answered nor lost. -/
theorem waiting?_eq_none (h : b.waiting? c = none) (f : Call.Stage → Call.Stage)
    (hf : ∀ s, (∀ i, s ≠ .waiting i) → f s = s) : (b.stage? c).map f = b.stage? c := by
  cases hs : b.stage? c with
  | none => rfl
  | some s =>
    refine congrArg some (hf s fun i hi => ?_)
    rw [hi, ← waiting?_eq_some, h] at hs
    cases hs

/-- A reply leaves the inboxes alone. -/
theorem inboxes_answer (b : MemoryBus) (c : CallId) (reply : Message) :
    (b.answer c reply).1.inboxes = b.inboxes := by
  rw [answer]
  split <;> rfl

/-- The stages after a call has got its stage, if it awaits its reply, and was left alone else. -/
theorem stage?_settle {b' : MemoryBus} {f : Call.Stage → Call.Stage}
    (hf : ∀ s, (∀ i, s ≠ .waiting i) → f s = s)
    (hwaits : ∀ i, b.waiting? c = some i → b' = b.setStage c (f (.waiting i)))
    (hnone : b.waiting? c = none → b' = b) (d : Nat) :
    b'.stage? d = if d = c then (b.stage? c).map f else b.stage? d := by
  cases hw : b.waiting? c with
  | some i =>
    rw [hwaits i hw, stage?_setStage, waiting?_eq_some.mp hw]
    rfl
  | none =>
    rw [hnone hw, waiting?_eq_none hw f hf]
    split
    · rename_i hd
      rw [hd]
    · rfl

/-- The stages after a reply. -/
theorem stage?_answer (b : MemoryBus) (c d : Nat) (reply : Message) :
    (b.answer c reply).1.stage? d =
      if d = c then (b.stage? c).map (·.answer reply) else b.stage? d := by
  refine stage?_settle (fun s hs => ?_) (fun i hi => ?_) (fun hnone => ?_) d
  · cases s <;> first | rfl | exact absurd rfl (hs _)
  · rw [answer, hi]
    rfl
  · rw [answer, hnone]

/-- The stages after a loss. -/
theorem stage?_lose (b : MemoryBus) (c d : Nat) :
    (b.lose c).stage? d = if d = c then (b.stage? c).map (·.lose) else b.stage? d := by
  refine stage?_settle (fun s hs => ?_) (fun i hi => ?_) (fun hnone => ?_) d
  · cases s <;> first | rfl | exact absurd rfl (hs _)
  · rw [lose, hi]
    rfl
  · rw [lose, hnone]

/-- A loss leaves the inboxes alone. -/
theorem inboxes_drop (b : MemoryBus) (r : Request) : (b.drop r).inboxes = b.inboxes := by
  rw [drop]
  split
  · rw [lose]
    split <;> rfl
  · rfl

/-- A request that is given up loses its call. -/
theorem stage?_drop (b : MemoryBus) (r : Request) (c : CallId) :
    (r.IsOf c → (b.drop r).stage? c = (b.stage? c).map (·.lose)) ∧
      (¬ r.IsOf c → (b.drop r).stage? c = b.stage? c) := by
  rw [drop]
  split
  · rename_i d hd
    rw [stage?_lose]
    constructor
    · intro h
      have hc : c = d := Request.IsOf.eq h hd
      rw [if_pos hc, hc]
    · intro h
      rw [if_neg]
      rintro rfl
      exact h hd
  · rename_i hnone
    exact ⟨fun h => absurd h (hnone c), fun _ => rfl⟩

/-- Some requests that are given up lose their calls. -/
theorem stage?_foldl_drop (rs : List Request) (b : MemoryBus) (c : CallId) :
    ((∃ r ∈ rs, r.IsOf c) → (rs.foldl drop b).stage? c = (b.stage? c).map (·.lose)) ∧
      ((∀ r ∈ rs, ¬ r.IsOf c) → (rs.foldl drop b).stage? c = b.stage? c) := by
  induction rs generalizing b with
  | nil => exact ⟨fun ⟨_, h, _⟩ => absurd h List.not_mem_nil, fun _ => rfl⟩
  | cons r rs ih =>
    obtain ⟨hof, hnot⟩ := stage?_drop b r c
    obtain ⟨ihof, ihnot⟩ := ih (b.drop r)
    rw [List.foldl_cons]
    constructor
    · rintro ⟨q, hq, hc⟩
      by_cases hr : r.IsOf c
      · by_cases hrs : ∃ q ∈ rs, q.IsOf c
        · rw [ihof hrs, hof hr, Option.map_map]
          exact congrArg (Option.map · _) (funext fun s => Call.Stage.lose_lose)
        · rw [ihnot fun q hq hc => hrs ⟨q, hq, hc⟩, hof hr]
      · rcases List.mem_cons.mp hq with rfl | hq
        · exact absurd hc hr
        · rw [ihof ⟨q, hq, hc⟩, hnot hr]
    · intro hall
      rw [ihnot fun q hq => hall q (List.mem_cons_of_mem _ hq), hnot (hall r List.mem_cons_self)]

/-- Requests that are given up leave the inboxes alone. -/
theorem inboxes_foldl_drop (rs : List Request) (b : MemoryBus) :
    (rs.foldl drop b).inboxes = b.inboxes := by
  induction rs generalizing b with
  | nil => rfl
  | cons r rs ih => rw [List.foldl_cons, ih, inboxes_drop]

/-- An inbox that is given up holds nothing any more. -/
theorem stores_discardInbox : (b.discardInbox i).Stores j r ↔ b.Stores j r ∧ j ≠ i := by
  rw [discardInbox]
  cases h : b.inboxes[i]? with
  | none =>
    refine ⟨fun hr => ⟨hr, ?_⟩, And.left⟩
    rintro rfl
    obtain ⟨inbox, hinbox, -⟩ := hr
    rw [h] at hinbox
    cases hinbox
  | some inbox =>
    rw [Stores, inboxes_foldl_drop]
    simp only [inbox_modify]
    constructor
    · rintro ⟨_, ⟨old, hold, rfl⟩, hr⟩
      split at hr
      · cases hr
      · rename_i hj
        exact ⟨⟨old, hold, hr⟩, hj⟩
    · rintro ⟨⟨old, hold, hr⟩, hj⟩
      exact ⟨_, ⟨old, hold, rfl⟩, by rwa [if_neg hj]⟩

/-- An inbox that is given up keeps its line. -/
theorem queues_discardInbox : (b.discardInbox i).Queues j c ↔ b.Queues j c := by
  rw [discardInbox]
  cases b.inboxes[i]? with
  | none => rfl
  | some inbox =>
    rw [Queues, inboxes_foldl_drop]
    exact queues_modifyInbox _ fun _ => rfl

/-- The calls of the requests in an inbox that is given up are lost. -/
theorem stage?_discardInbox (hr : b.Stores i r) (hc : r.IsOf c) :
    (b.discardInbox i).stage? c = (b.stage? c).map (·.lose) := by
  obtain ⟨inbox, hinbox, hmem⟩ := hr
  rw [discardInbox, hinbox]
  exact (stage?_foldl_drop _ _ c).1 ⟨r, hmem, hc⟩

/-- The other calls stay where they are. -/
theorem stage?_discardInbox_of_not (h : ∀ r, b.Stores i r → ¬ r.IsOf c) :
    (b.discardInbox i).stage? c = b.stage? c := by
  rw [discardInbox]
  cases hi : b.inboxes[i]? with
  | none => rfl
  | some inbox => exact (stage?_foldl_drop _ _ c).2 fun r hr => h r ⟨inbox, hi, hr⟩

/-- A call that is lost was waiting. -/
theorem map_lose_cases (s? : Option Call.Stage) : s?.map (·.lose) = s? ∨
    ∃ i, s? = some (.waiting i) ∧ s?.map (·.lose) = some (.lost i) := by
  rcases s? with _ | s
  · exact Or.inl rfl
  · cases s <;> first | exact Or.inl rfl | exact Or.inr ⟨_, rfl, rfl⟩

/-- A request that is given up is the loss of its call at most. -/
theorem drop_cases (b : MemoryBus) (r : Request) (c : CallId) :
    (b.drop r).stage? c = b.stage? c ∨ r.IsOf c ∧
      ∃ i, b.stage? c = some (.waiting i) ∧ (b.drop r).stage? c = some (.lost i) := by
  by_cases hr : r.IsOf c
  · rw [(stage?_drop b r c).1 hr]
    exact (map_lose_cases _).imp_right fun h => ⟨hr, h⟩
  · exact Or.inl ((stage?_drop b r c).2 hr)

/-- An inbox that is given up is the loss of the calls of what it holds at most. -/
theorem discardInbox_cases (b : MemoryBus) (i c : Nat) :
    (b.discardInbox i).stage? c = b.stage? c ∨ (∃ r, b.Stores i r ∧ r.IsOf c) ∧
      ∃ j, b.stage? c = some (.waiting j) ∧ (b.discardInbox i).stage? c = some (.lost j) := by
  by_cases hr : ∃ r, b.Stores i r ∧ r.IsOf c
  · obtain ⟨r, hs, hc⟩ := hr
    rw [stage?_discardInbox hs hc]
    exact (map_lose_cases _).imp_right fun h => ⟨⟨r, hs, hc⟩, h⟩
  · exact Or.inl (stage?_discardInbox_of_not fun r hs hc => hr ⟨r, hs, hc⟩)

/-- Who waits after a request was given up waited before, and it was not its request. -/
theorem waits_drop (h : (b.drop r).Waits c) : b.Waits c ∧ ¬ r.IsOf c := by
  obtain ⟨i, hi⟩ := h
  by_cases hr : r.IsOf c
  · rw [(stage?_drop b r c).1 hr] at hi
    obtain ⟨s, -, hs⟩ := Option.map_eq_some_iff.mp hi
    exact absurd hs (s.lose_ne_waiting i)
  · rw [(stage?_drop b r c).2 hr] at hi
    exact ⟨⟨i, hi⟩, hr⟩

/-- Who waits after an inbox was given up waited before, and the inbox did not hold its request. -/
theorem waits_discardInbox (h : (b.discardInbox i).Waits c) :
    b.Waits c ∧ ∀ r, b.Stores i r → ¬ r.IsOf c := by
  obtain ⟨j, hj⟩ := h
  by_cases hr : ∃ r, b.Stores i r ∧ r.IsOf c
  · obtain ⟨r, hs, hc⟩ := hr
    rw [stage?_discardInbox hs hc] at hj
    obtain ⟨s, -, hs⟩ := Option.map_eq_some_iff.mp hj
    exact absurd hs (s.lose_ne_waiting j)
  · have hnot := fun r hs hc => hr ⟨r, hs, hc⟩
    rw [stage?_discardInbox_of_not hnot] at hj
    exact ⟨⟨j, hj⟩, hnot⟩

/-- Who waits after a reply waited before, and it was not its reply. -/
theorem waits_answer {reply : Message} (h : (b.answer d reply).1.Waits c) : b.Waits c ∧ c ≠ d := by
  obtain ⟨i, hi⟩ := h
  rw [stage?_answer] at hi
  split at hi
  · obtain ⟨s, -, hs⟩ := Option.map_eq_some_iff.mp hi
    cases s <;> cases hs
  · rename_i hne
    exact ⟨⟨i, hi⟩, hne⟩

/-- A request that is taken was stored; the others still are. -/
theorem stores_take (h : b.take? i = some (r, b')) {q : Request} :
    (b'.Stores j q → b.Stores j q) ∧ (b.Stores j q → b'.Stores j q ∨ j = i ∧ q = r) ∧
      b.Stores i r := by
  obtain ⟨inbox, hinbox, h⟩ := Option.bind_eq_some_iff.mp h
  split at h
  · cases h
  · rename_i rest hbuffer
    cases h
    refine ⟨?_, ?_, inbox, hinbox, hbuffer ▸ List.mem_cons_self⟩
    · rintro ⟨after, hafter, hq⟩
      obtain ⟨old, hold, rfl⟩ := inbox_modify.mp hafter
      refine ⟨old, hold, ?_⟩
      split at hq
      · rename_i hj
        rw [hj, hinbox] at hold
        rw [← Option.some.inj hold, hbuffer]
        exact List.mem_cons_of_mem _ hq
      · exact hq
    · rintro ⟨old, hold, hq⟩
      by_cases hj : j = i
      · rw [hj, hinbox] at hold
        rw [← Option.some.inj hold, hbuffer] at hq
        rcases List.mem_cons.mp hq with rfl | hq
        · exact Or.inr ⟨hj, rfl⟩
        · refine Or.inl ⟨_, inbox_modify.mpr ⟨inbox, hj ▸ hinbox, rfl⟩, ?_⟩
          rw [if_pos hj]
          exact hq
      · exact Or.inl ⟨_, inbox_modify.mpr ⟨old, hold, rfl⟩, by rwa [if_neg hj]⟩

/-- Taking a request leaves the lines and the calls alone. -/
theorem take?_frame (h : b.take? i = some (r, b')) : b'.calls = b.calls ∧
    b'.inboxes.length = b.inboxes.length ∧ ∀ j c : Nat, b'.Queues j c ↔ b.Queues j c := by
  obtain ⟨inbox, hinbox, h⟩ := Option.bind_eq_some_iff.mp h
  split at h
  · cases h
  · cases h
    exact ⟨rfl, List.length_modify _ _ _, fun _ _ => queues_modifyInbox _ fun _ => rfl⟩

/-- **What those who have requests do**: they take some out of inboxes (`gone`) and give some up
(`lost`). -/
structure Releases (lost : Request → Prop) (gone : InboxId → Request → Prop)
    (b b' : MemoryBus) : Prop where
  letters : b'.letters = b.letters
  inboxes : b.inboxes.length ≤ b'.inboxes.length
  stores : ∀ (i : Nat) r, b'.Stores i r → b.Stores i r
  stored : ∀ (i : Nat) r, b.Stores i r → b'.Stores i r ∨ gone i r
  queues : ∀ i c : Nat, b'.Queues i c ↔ b.Queues i c
  stages : ∀ c : Nat, b'.stage? c = b.stage? c ∨ (∃ r, lost r ∧ r.IsOf c) ∧
    ∃ i, b.stage? c = some (.waiting i) ∧ b'.stage? c = some (.lost i)
  waits : ∀ c : Nat, b'.Waits c → ∀ r, lost r → ¬ r.IsOf c

section Releases

variable {lost lost' : Request → Prop} {gone gone' : InboxId → Request → Prop}

/-- Who does nothing takes and gives up nothing. -/
theorem Releases.refl (b : MemoryBus) : Releases (fun _ => False) (fun _ _ => False) b b :=
  ⟨rfl, Nat.le_refl _, fun _ _ h => h, fun _ _ h => Or.inl h, fun _ _ => Iff.rfl, fun _ => Or.inl rfl,
    fun _ _ _ h => absurd h fun h => h⟩

/-- A call that waits afterwards waited before. -/
theorem Releases.waits_before (h : Releases lost gone b b') (hw : b'.Waits c) : b.Waits c := by
  obtain ⟨i, hi⟩ := hw
  rcases h.stages c with hs | ⟨-, j, -, hs⟩
  · exact ⟨i, hs ▸ hi⟩
  · rw [hs] at hi
    cases hi

/-- One thing after another. -/
theorem Releases.trans (h : Releases lost gone b b') (h' : Releases lost' gone' b' b'') :
    Releases (fun r => lost r ∨ lost' r) (fun i r => gone i r ∨ gone' i r) b b'' where
  letters := h'.letters.trans h.letters
  inboxes := Nat.le_trans h.inboxes h'.inboxes
  stores i r hr := h.stores i r (h'.stores i r hr)
  stored i r hr := by
    rcases h.stored i r hr with hr | hr
    · exact (h'.stored i r hr).imp_right Or.inr
    · exact Or.inr (Or.inl hr)
  queues i c := (h'.queues i c).trans (h.queues i c)
  stages c := by
    rcases h'.stages c with hs | ⟨⟨r, hr, hc⟩, i, hi, hi'⟩
    · rw [hs]
      exact (h.stages c).imp_right fun ⟨⟨r, hr, hc⟩, hi⟩ => ⟨⟨r, Or.inl hr, hc⟩, hi⟩
    · rcases h.stages c with hs | ⟨-, j, -, hj⟩
      · exact Or.inr ⟨⟨r, Or.inr hr, hc⟩, i, hs ▸ hi, hi'⟩
      · rw [hj] at hi
        cases hi
  waits c hw r hr := hr.elim (h.waits c (h'.waits_before hw) r) (h'.waits c hw r)

/-- A request that is taken. -/
theorem releases_take (h : b.take? i = some (r, b')) :
    Releases (fun _ => False) (fun j q => j = i ∧ q = r) b b' where
  letters := congrArg (List.map _) (take?_frame h).1
  inboxes := Nat.le_of_eq (take?_frame h).2.1.symm
  stores j q := (stores_take h).1
  stored j q := (stores_take h).2.1
  queues := (take?_frame h).2.2
  stages c := Or.inl (by rw [stage?, (take?_frame h).1, stage?])
  waits _ _ _ hr := absurd hr fun h => h

/-- The number of calls after a request was given up. -/
theorem letters_drop (b : MemoryBus) (r : Request) : (b.drop r).letters = b.letters := by
  rw [drop]
  split
  · rw [lose]
    split
    · exact letters_setStage _ _ _
    · rfl
  · rfl

/-- A request that is given up. -/
theorem releases_drop (b : MemoryBus) (r : Request) :
    Releases (· = r) (fun _ _ => False) b (b.drop r) where
  letters := b.letters_drop r
  inboxes := Nat.le_of_eq (congrArg List.length (b.inboxes_drop r)).symm
  stores j q hq := by rwa [Stores, inboxes_drop] at hq
  stored j q hq := Or.inl (by rwa [Stores, inboxes_drop])
  queues j c := by rw [Queues, inboxes_drop, Queues]
  stages c := (b.drop_cases r c).imp_right fun ⟨hr, hi⟩ => ⟨⟨r, rfl, hr⟩, hi⟩
  waits c hw q hq := hq ▸ (waits_drop hw).2

/-- What calls send, and how many inboxes there are, after an inbox was given up. -/
theorem discardInbox_frame (b : MemoryBus) (i : InboxId) :
    (b.discardInbox i).letters = b.letters ∧
      (b.discardInbox i).inboxes.length = b.inboxes.length := by
  have hdrop : ∀ (rs : List Request) b, (rs.foldl drop b).letters = b.letters := by
    intro rs
    induction rs with
    | nil => exact fun _ => rfl
    | cons r rs ih => exact fun b => (ih _).trans (b.letters_drop r)
  rw [discardInbox]
  cases b.inboxes[i]? with
  | none => exact ⟨rfl, rfl⟩
  | some inbox => exact ⟨hdrop _ _, by rw [inboxes_foldl_drop]; exact List.length_modify _ _ _⟩

/-- An inbox that is given up. -/
theorem releases_discardInbox (b : MemoryBus) (i : InboxId) :
    Releases (b.Stores i) (fun j r => j = i ∧ b.Stores i r) b (b.discardInbox i) where
  letters := (b.discardInbox_frame i).1
  inboxes := Nat.le_of_eq (b.discardInbox_frame i).2.symm
  stores j q hq := (stores_discardInbox.mp hq).1
  stored j q hq := by
    by_cases hj : j = i
    · exact Or.inr ⟨hj, hj ▸ hq⟩
    · exact Or.inl (stores_discardInbox.mpr ⟨hq, hj⟩)
  queues j c := queues_discardInbox
  stages c := b.discardInbox_cases i c
  waits c hw := (waits_discardInbox hw).2

/-- An inbox that is closed. -/
theorem releases_closeInbox (b : MemoryBus) (i : InboxId) :
    Releases (fun _ => False) (fun _ _ => False) b (b.closeInbox i) where
  letters := rfl
  inboxes := Nat.le_of_eq (List.length_modify _ _ _).symm
  stores _ _ := (stores_modifyInbox ({ · with accepting := false }) fun _ => rfl).mp
  stored _ _ hq := Or.inl ((stores_modifyInbox ({ · with accepting := false }) fun _ => rfl).mpr hq)
  queues _ _ := queues_modifyInbox ({ · with accepting := false }) fun _ => rfl
  stages _ := Or.inl rfl
  waits _ _ _ hr := absurd hr fun h => h

/-- A bus that is not closed gets one more inbox. -/
theorem subscribe_eq {subject : String} (h : b.subscribe subject = .ok b') :
    b' = { b with inboxes := b.inboxes ++ [{ subject }] } := by
  rw [subscribe] at h
  split at h
  · cases h
  · exact (Except.ok.inj h).symm

/-- A new inbox. -/
theorem releases_subscribe {subject : String} (h : b.subscribe subject = .ok b') :
    Releases (fun _ => False) (fun _ _ => False) b b' := by
  have hinbox : ∀ {j : Nat} {inbox : Inbox}, b'.inboxes[j]? = some inbox →
      b.inboxes[j]? = some inbox ∨ inbox.buffer = [] ∧ inbox.line = [] := by
    intro j inbox hj
    rw [subscribe_eq h, List.getElem?_append] at hj
    split at hj
    · exact Or.inl hj
    · rw [List.mem_singleton.mp (List.mem_of_getElem? hj)]
      exact Or.inr ⟨rfl, rfl⟩
  have hkept : ∀ {j : Nat} {inbox : Inbox}, b.inboxes[j]? = some inbox →
      b'.inboxes[j]? = some inbox := by
    intro j inbox hj
    rw [subscribe_eq h, List.getElem?_append_left (List.getElem?_eq_some_iff.mp hj).1, hj]
  have hcalls : b'.calls = b.calls := by rw [subscribe_eq h]
  refine ⟨congrArg (List.map _) hcalls, ?_, ?_, ?_, ?_, fun c => Or.inl ?_,
    fun _ _ _ hr => absurd hr fun h => h⟩
  · rw [subscribe_eq h]
    exact (List.prefix_append _ _).length_le
  · rintro j r ⟨inbox, hj, hr⟩
    rcases hinbox hj with hj | ⟨hnil, -⟩
    · exact ⟨inbox, hj, hr⟩
    · rw [hnil] at hr
      cases hr
  · rintro j r ⟨inbox, hj, hr⟩
    exact Or.inl ⟨inbox, hkept hj, hr⟩
  · intro j c
    constructor
    · rintro ⟨inbox, hj, hc⟩
      rcases hinbox hj with hj | ⟨-, hnil⟩
      · exact ⟨inbox, hj, hc⟩
      · rw [hnil] at hc
        cases hc
    · rintro ⟨inbox, hj, hc⟩
      exact ⟨inbox, hkept hj, hc⟩
  · rw [stage?, hcalls, stage?]

/-- The end of the bus. -/
theorem releases_close (b : MemoryBus) :
    Releases (fun _ => False) (fun _ _ => False) b b.close := by
  have hinbox : ∀ {j : Nat} {inbox : Inbox}, b.close.inboxes[j]? = some inbox ↔
      ∃ old, b.inboxes[j]? = some old ∧ inbox = { old with registered := false } := by
    intro j inbox
    rw [close, List.getElem?_map, Option.map_eq_some_iff]
    simp only [eq_comm]
  refine ⟨rfl, Nat.le_of_eq (List.length_map _).symm, ?_, ?_, ?_, fun _ => Or.inl rfl,
    fun _ _ _ hr => absurd hr fun h => h⟩
  · rintro j r ⟨inbox, hj, hr⟩
    obtain ⟨old, hold, rfl⟩ := hinbox.mp hj
    exact ⟨old, hold, hr⟩
  · rintro j r ⟨old, hold, hr⟩
    exact Or.inl ⟨_, hinbox.mpr ⟨old, hold, rfl⟩, hr⟩
  · intro j c
    constructor
    · rintro ⟨inbox, hj, hc⟩
      obtain ⟨old, hold, rfl⟩ := hinbox.mp hj
      exact ⟨old, hold, hc⟩
    · rintro ⟨old, hold, hc⟩
      exact ⟨_, hinbox.mpr ⟨old, hold, rfl⟩, hc⟩

end Releases

/-! ### Operations of calls -/

/-- All that a step of a call can be. -/
inductive CallStep (b : MemoryBus) (c : CallId) (call : Call) :
    MemoryBus → Option (Except TransportError Message) → Prop
  | closed (stage : call.stage = .asking) (h : b.closed = true) :
      CallStep b c call (b.setStage c .over) (some (.error .connectionClosed))
  | unrouted (stage : call.stage = .asking) (h : b.pick? call.subject = none) :
      CallStep b c call (b.setStage c .over) (some (.error (.noResponders call.subject)))
  | routed (i : InboxId) (stage : call.stage = .asking) (h : i ∈ b.route call.subject) :
      CallStep b c call ({ b with cursor := b.cursor + 1 }.setStage c (.picked i)) none
  | enqueued (i : InboxId) {inbox : Inbox} (stage : call.stage = .picked i)
      (h : b.inboxes[i]? = some inbox) :
      CallStep b c call
        ((b.modifyInbox i ({ · with line := inbox.line ++ [c] })).setStage c (.inLine i)) none
  | refused (i : InboxId) {inbox : Inbox} (stage : call.stage = .picked i)
      (h : b.inboxes[i]? = some inbox) (shut : inbox.accepting = false) :
      CallStep b c call (b.setStage c .over) (some (.error (.noResponders call.subject)))
  | stored (i : InboxId) {inbox : Inbox} (stage : call.stage = .inLine i)
      (h : b.inboxes[i]? = some inbox) :
      CallStep b c call (((b.leaveLine i c).modifyInbox i
        ({ · with buffer := inbox.buffer ++ [call.request c] })).setStage c (.waiting i)) none
  | dismissed (i : InboxId) {inbox : Inbox} (stage : call.stage = .inLine i)
      (h : b.inboxes[i]? = some inbox) (shut : inbox.accepting = false) :
      CallStep b c call ((b.leaveLine i c).setStage c .over)
        (some (.error (.noResponders call.subject)))
  | answered (i : InboxId) (reply : Message) (stage : call.stage = .answered i reply) :
      CallStep b c call (b.setStage c .over) (some (.ok reply))
  | lost (i : InboxId) (stage : call.stage = .lost i) :
      CallStep b c call (b.setStage c .over)
        (some (.error (.droppedWithoutReply call.subject)))

/-- A step of a call is one of these. -/
theorem step_cases {result? : Option (Except TransportError Message)}
    (h : b.step c = some (b', result?)) :
    ∃ call, b.calls[c]? = some call ∧ CallStep b c call b' result? := by
  obtain ⟨call, hcall, h⟩ := Option.bind_eq_some_iff.mp h
  refine ⟨call, hcall, ?_⟩
  cases hstage : call.stage with
  | asking =>
    rw [hstage] at h
    dsimp only at h
    split at h
    · rename_i hclosed
      cases h
      exact .closed hstage hclosed
    · split at h
      · rename_i hnone
        cases h
        exact .unrouted hstage hnone
      · rename_i i v hpick
        obtain ⟨j, hj, hv⟩ := Option.map_eq_some_iff.mp hpick
        cases hv
        cases h
        exact .routed i hstage (List.mem_of_getElem? hj)
  | picked i =>
    rw [hstage] at h
    obtain ⟨inbox, hinbox, h⟩ := Option.bind_eq_some_iff.mp h
    split at h
    · cases h
      exact .enqueued i hstage hinbox
    · rename_i hshut
      cases h
      exact .refused i hstage hinbox (Bool.eq_false_iff.mpr hshut)
  | inLine i =>
    rw [hstage] at h
    obtain ⟨inbox, hinbox, h⟩ := Option.bind_eq_some_iff.mp h
    split at h
    · rename_i hshut
      cases h
      exact .dismissed i hstage hinbox (Bool.not_eq_true' _ ▸ hshut)
    · split at h
      · cases h
        exact .stored i hstage hinbox
      · cases h
  | waiting i =>
    rw [hstage] at h
    cases h
  | answered i reply =>
    rw [hstage] at h
    cases h
    exact .answered i reply hstage
  | lost i =>
    rw [hstage] at h
    cases h
    exact .lost i hstage
  | «over» =>
    rw [hstage] at h
    cases h

/-- **What a call does by itself**: it goes on, gets in line and out of it, and stores its request. -/
structure Advances (c : CallId) (b b' : MemoryBus) : Prop where
  letters : b'.letters = b.letters
  inboxes : b'.inboxes.length = b.inboxes.length
  stages : ∀ d : Nat, d ≠ c → b'.stage? d = b.stage? d
  stored : ∀ (i : Nat) r, b.Stores i r → b'.Stores i r
  stores : ∀ (i : Nat) r, b'.Stores i r → b.Stores i r ∨ r.IsOf c
  waits : ∀ i, b'.stage? c = some (.waiting i) → b.stage? c = some (.waiting i) ∨
    ∃ r, r.IsOf c ∧ b'.Stores i r
  answered : ∀ i reply, b'.stage? c = some (.answered i reply) →
    b.stage? c = some (.answered i reply)
  lost : ∀ i, b'.stage? c = some (.lost i) → b.stage? c = some (.lost i)
  queues : ∀ i d : Nat, d ≠ c → (b'.Queues i d ↔ b.Queues i d)
  lined : (∀ i, b.Queues i c → b.stage? c = some (.inLine i)) →
    ∀ i, b'.Queues i c → b'.stage? c = some (.inLine i)

/-- A call that does nothing. -/
theorem Advances.refl (c : CallId) (b : MemoryBus) : Advances c b b :=
  ⟨rfl, rfl, fun _ _ => rfl, fun _ _ h => h, fun _ _ h => Or.inl h, fun _ h => Or.inl h, fun _ _ h => h,
    fun _ h => h, fun _ _ _ => Iff.rfl, fun h => h⟩

/-- One thing after another. -/
theorem Advances.trans (h : Advances c b b') (h' : Advances c b' b'') : Advances c b b'' where
  letters := h'.letters.trans h.letters
  inboxes := h'.inboxes.trans h.inboxes
  stages d hd := (h'.stages d hd).trans (h.stages d hd)
  stored i r hr := h'.stored i r (h.stored i r hr)
  stores i r hr := (h'.stores i r hr).elim (h.stores i r) Or.inr
  waits i hi := by
    rcases h'.waits i hi with hw | hw
    · exact (h.waits i hw).imp_right fun ⟨r, hr, hs⟩ => ⟨r, hr, h'.stored i r hs⟩
    · exact Or.inr hw
  answered i reply hi := h.answered i reply (h'.answered i reply hi)
  lost i hi := h.lost i (h'.lost i hi)
  queues i d hd := (h'.queues i d hd).trans (h.queues i d hd)
  lined hl := h'.lined (h.lined hl)

/-- A call that stands in no line and waits no more, or not yet. -/
theorem advances_setStage {stage : Call.Stage} (hline : ∀ i, b.stage? c ≠ some (.inLine i))
    (h : stage = .over ∨ ∃ i, stage = .picked i) : Advances c b (b.setStage c stage) := by
  have hnot : ∀ s : Call.Stage, (s ≠ .over ∧ ∀ i, s ≠ .picked i) →
      (b.setStage c stage).stage? c ≠ some s := by
    rintro s ⟨hover, hpicked⟩ hs
    rw [eq_of_setStage hs] at hover hpicked
    exact h.elim hover fun ⟨i, hi⟩ => hpicked i hi
  refine ⟨letters_setStage _ _ _, rfl, fun d hd => by rw [stage?_setStage, if_neg hd], fun _ _ hr => hr,
    fun _ _ hr => Or.inl hr, fun i hi => absurd hi (hnot _ (by simp)),
    fun i reply hi => absurd hi (hnot _ (by simp)), fun i hi => absurd hi (hnot _ (by simp)),
    fun _ _ _ => Iff.rfl, fun hl i hi => absurd (hl i hi) (hline i)⟩

/-- A call that leaves its line for good. -/
theorem advances_leave (h : b.stage? c = some (.inLine i)) :
    Advances c b ((b.leaveLine i c).setStage c .over) := by
  have hstored : ∀ (j : Nat) r, (b.leaveLine i c).Stores j r ↔ b.Stores j r := fun j r =>
    stores_modifyInbox _ fun _ => rfl
  refine ⟨letters_setStage _ _ _, List.length_modify _ _ _,
    fun d hd => by rw [stage?_setStage, if_neg hd]; rfl,
    fun j r hr => (hstored j r).mpr hr, fun j r hr => Or.inl ((hstored j r).mp hr),
    fun j hj => (nomatch eq_of_setStage hj), fun j reply hj => (nomatch eq_of_setStage hj),
    fun j hj => (nomatch eq_of_setStage hj), fun j d hd => ?_, fun hl j hj => ?_⟩
  · exact queues_leaveLine.trans (and_iff_left fun hjd => hd hjd.2)
  · obtain ⟨hq, hne⟩ := queues_leaveLine.mp hj
    have hj' := hl j hq
    rw [h] at hj'
    cases hj'
    exact absurd ⟨rfl, rfl⟩ hne

/-- A call that gets in line. -/
theorem advances_enqueue {inbox : Inbox} (hs : b.stage? c = some (.picked i))
    (h : b.inboxes[i]? = some inbox) : Advances c b
      ((b.modifyInbox i ({ · with line := inbox.line ++ [c] })).setStage c (.inLine i)) := by
  have hstored : ∀ (j : Nat) r,
      (b.modifyInbox i ({ · with line := inbox.line ++ [c] })).Stores j r ↔ b.Stores j r :=
    fun j r => stores_modifyInbox _ fun _ => rfl
  refine ⟨letters_setStage _ _ _, List.length_modify _ _ _,
    fun d hd => by rw [stage?_setStage, if_neg hd]; rfl,
    fun j r hr => (hstored j r).mpr hr, fun j r hr => Or.inl ((hstored j r).mp hr),
    fun j hj => (nomatch eq_of_setStage hj), fun j reply hj => (nomatch eq_of_setStage hj),
    fun j hj => (nomatch eq_of_setStage hj), fun j d hd => ?_, fun hl j hj => ?_⟩
  · constructor
    · rintro ⟨_, hafter, hmem⟩
      obtain ⟨old, hold, rfl⟩ := inbox_modify.mp hafter
      refine ⟨old, hold, ?_⟩
      split at hmem
      · rename_i hji
        rw [hji, h] at hold
        rw [← Option.some.inj hold]
        exact (List.mem_append.mp hmem).resolve_right fun hd' => hd (List.mem_singleton.mp hd')
      · exact hmem
    · rintro ⟨old, hold, hmem⟩
      refine ⟨_, inbox_modify.mpr ⟨old, hold, rfl⟩, ?_⟩
      split
      · rename_i hji
        rw [hji, h] at hold
        rw [← Option.some.inj hold] at hmem
        exact List.mem_append_left _ hmem
      · exact hmem
  · obtain ⟨_, hafter, hmem⟩ := hj
    obtain ⟨old, hold, rfl⟩ := inbox_modify.mp hafter
    split at hmem
    · rename_i hji
      rw [stage?_setStage, if_pos rfl, hji]
      show (b.stage? c).map _ = _
      rw [hs]
      rfl
    · have hline := hl j ⟨old, hold, hmem⟩
      rw [hs] at hline
      cases hline

/-- What is stored after a call has left its line for the inbox. -/
theorem stores_store {inbox : Inbox} {q : Request} {stage : Call.Stage}
    (h : b.inboxes[i]? = some inbox) :
    (((b.leaveLine i c).modifyInbox i ({ · with buffer := inbox.buffer ++ [q] })).setStage c
      stage).Stores j r ↔ b.Stores j r ∨ j = i ∧ r = q := by
  have hline : ∀ (j : Nat) r, (b.leaveLine i c).Stores j r ↔ b.Stores j r := fun j r =>
    stores_modifyInbox _ fun _ => rfl
  constructor
  · rintro ⟨_, hafter, hr⟩
    obtain ⟨old, hold, rfl⟩ := inbox_modify.mp hafter
    split at hr
    · rename_i hj
      rcases List.mem_append.mp hr with hr | hr
      · exact Or.inl ⟨inbox, hj ▸ h, hr⟩
      · exact Or.inr ⟨hj, List.mem_singleton.mp hr⟩
    · exact Or.inl ((hline j r).mp ⟨old, hold, hr⟩)
  · intro hr
    by_cases hj : j = i
    · have hold : ∃ old, (b.leaveLine i c).inboxes[i]? = some old :=
        ⟨_, inbox_modify.mpr ⟨inbox, h, rfl⟩⟩
      obtain ⟨old, hold⟩ := hold
      refine ⟨_, inbox_modify.mpr ⟨old, hj ▸ hold, rfl⟩, ?_⟩
      rw [if_pos hj]
      rcases hr with ⟨inbox', hinbox', hr⟩ | ⟨-, rfl⟩
      · rw [hj, h] at hinbox'
        rw [← Option.some.inj hinbox'] at hr
        exact List.mem_append_left _ hr
      · exact List.mem_append_right _ (List.mem_singleton_self _)
    · obtain ⟨old, hold, hr⟩ := (hline j r).mpr (hr.resolve_right fun h => hj h.1)
      exact ⟨_, inbox_modify.mpr ⟨old, hold, rfl⟩, by rwa [if_neg hj]⟩

/-- A call that leaves its line for the inbox. -/
theorem advances_store {inbox : Inbox} {call : Call} (hs : b.stage? c = some (.inLine i))
    (h : b.inboxes[i]? = some inbox) : Advances c b (((b.leaveLine i c).modifyInbox i
      ({ · with buffer := inbox.buffer ++ [call.request c] })).setStage c (.waiting i)) := by
  have hqueues : ∀ j d : Nat, ((b.leaveLine i c).modifyInbox i
      ({ · with buffer := inbox.buffer ++ [call.request c] })).Queues j d ↔
        b.Queues j d ∧ ¬ (j = i ∧ d = c) := fun j d =>
    (queues_modifyInbox ({ · with buffer := inbox.buffer ++ [call.request c] })
      fun _ => rfl).trans queues_leaveLine
  refine ⟨letters_setStage _ _ _, (List.length_modify _ _ _).trans (List.length_modify _ _ _),
    fun d hd => by rw [stage?_setStage, if_neg hd]; rfl,
    fun j r hr => (stores_store h).mpr (Or.inl hr), fun j r hr => ?_, fun j hj => Or.inr ?_,
    fun j reply hj => (nomatch eq_of_setStage hj), fun j hj => (nomatch eq_of_setStage hj),
    fun j d hd => ?_, fun hl j hj => ?_⟩
  · exact ((stores_store h).mp hr).imp_right fun ⟨_, hq⟩ => hq ▸ call.isOf_request c
  · cases eq_of_setStage hj
    exact ⟨_, call.isOf_request c, (stores_store h).mpr (Or.inr ⟨rfl, rfl⟩)⟩
  · exact (hqueues j d).trans (and_iff_left fun hjd => hd hjd.2)
  · obtain ⟨hq, hne⟩ := (hqueues j c).mp hj
    have hj' := hl j hq
    rw [hs] at hj'
    cases hj'
    exact absurd ⟨rfl, rfl⟩ hne

/-- A step of a call. -/
theorem advances_step {result? : Option (Except TransportError Message)}
    (h : b.step c = some (b', result?)) : Advances c b b' := by
  obtain ⟨call, hcall, hstep⟩ := step_cases h
  have hat : ∀ s, call.stage = s → b.stage? c = some s := fun s hs => by
    rw [stage?, hcall, ← hs]
    rfl
  have hout : ∀ s, call.stage = s → (∀ i, s ≠ .inLine i) → ∀ i, b.stage? c ≠ some (.inLine i) := by
    intro s hs hne i hi
    rw [hat s hs] at hi
    exact hne i (Option.some.inj hi)
  cases hstep with
  | closed hs => exact advances_setStage (hout _ hs (by simp)) (Or.inl rfl)
  | unrouted hs => exact advances_setStage (hout _ hs (by simp)) (Or.inl rfl)
  | routed i hs =>
    have ha := advances_setStage (b := { b with cursor := b.cursor + 1 }) (hout _ hs (by simp))
      (Or.inr ⟨i, rfl⟩)
    exact ⟨ha.letters, ha.inboxes, ha.stages, ha.stored, ha.stores, ha.waits, ha.answered, ha.lost, ha.queues,
      ha.lined⟩
  | enqueued i hs hi => exact advances_enqueue (hat _ hs) hi
  | refused i hs => exact advances_setStage (hout _ hs (by simp)) (Or.inl rfl)
  | stored i hs hi => exact advances_store (hat _ hs) hi
  | dismissed i hs => exact advances_leave (hat _ hs)
  | answered i reply hs => exact advances_setStage (hout _ hs (by simp)) (Or.inl rfl)
  | lost i hs => exact advances_setStage (hout _ hs (by simp)) (Or.inl rfl)

/-- **A call that is taken as far as it gets** does what is its own. -/
theorem advances_poll (b : MemoryBus) (c : CallId) : Advances c b (b.poll c).1 := by
  have hsteps : ∀ n b, Advances c b (steps n b c).1 := by
    intro n
    induction n with
    | zero => exact fun b => .refl c b
    | succ n ih =>
      intro b
      rw [steps]
      split
      · exact .refl c b
      · rename_i hstep
        exact advances_step hstep
      · rename_i hstep
        exact (advances_step hstep).trans (ih _)
  exact hsteps 4 b

/-- A step of a call brings it on: it is over with its result and not before. -/
theorem stage?_step {result? : Option (Except TransportError Message)}
    (h : b.step c = some (b', result?)) :
    ∃ s, b'.stage? c = some s ∧ (s = .over ↔ result?.isSome = true) := by
  obtain ⟨call, hcall, hstep⟩ := step_cases h
  have hset : ∀ (v : MemoryBus) stage, v.calls = b.calls →
      (v.setStage c stage).stage? c = some stage := by
    intro v stage hv
    rw [stage?_setStage, if_pos rfl, stage?, hv, hcall]
    rfl
  cases hstep with
  | closed => exact ⟨_, hset _ _ rfl, by simp⟩
  | unrouted => exact ⟨_, hset _ _ rfl, by simp⟩
  | routed i => exact ⟨_, hset _ _ rfl, by simp⟩
  | enqueued i => exact ⟨_, hset _ _ rfl, by simp⟩
  | refused i => exact ⟨_, hset _ _ rfl, by simp⟩
  | stored i => exact ⟨_, hset _ _ rfl, by simp⟩
  | dismissed i => exact ⟨_, hset _ _ rfl, by simp⟩
  | answered i reply => exact ⟨_, hset _ _ rfl, by simp⟩
  | lost i => exact ⟨_, hset _ _ rfl, by simp⟩

/-- **A call is over with its result** and not before, however far it is taken. -/
theorem stage?_poll {s : Call.Stage} (h : b.stage? c = some s) (hs : s ≠ .over) :
    ∃ s', (b.poll c).1.stage? c = some s' ∧ (s' = .over ↔ (b.poll c).2.isSome = true) := by
  have hsteps : ∀ n b s, b.stage? c = some s → s ≠ .over →
      ∃ s', (steps n b c).1.stage? c = some s' ∧ (s' = .over ↔ (steps n b c).2.isSome = true) := by
    intro n
    induction n with
    | zero => exact fun b s h hs => ⟨s, h, by simp [steps, hs]⟩
    | succ n ih =>
      intro b s h hs
      rw [steps]
      split
      · exact ⟨s, h, by simp [hs]⟩
      · rename_i hstep
        exact stage?_step hstep
      · rename_i hstep
        obtain ⟨s', hs', hover⟩ := stage?_step hstep
        exact ih _ s' hs' fun h => nomatch hover.mp h
  exact hsteps 4 b s h hs

/-- A call that is given up is over. -/
theorem stage?_abandon {s : Call.Stage} (h : b.stage? c = some s) :
    (b.abandon c).stage? c = some .over := by
  rw [abandon]
  split
  · show ((b.leaveLine _ c).setStage c .over).stage? c = _
    rw [stage?_setStage, if_pos rfl, show (b.leaveLine _ c).stage? c = some s from h]
    rfl
  · rw [stage?_setStage, if_pos rfl, h]
    rfl

/-- A call that is given up does what is its own. -/
theorem advances_abandon (b : MemoryBus) (c : CallId) : Advances c b (b.abandon c) := by
  rw [abandon]
  split
  · rename_i i hcall
    exact advances_leave (by rw [stage?, hcall]; rfl)
  · rename_i hnot
    refine advances_setStage (fun i hi => ?_) (Or.inl rfl)
    rw [stage?, Option.map_eq_some_iff] at hi
    obtain ⟨⟨subject, headers, payload, stage⟩, hcall, rfl⟩ := hi
    exact hnot _ _ _ _ hcall

end MemoryBus

end ServiceBus.Bus
