import ServiceBus.Proofs.Bus.Answers
import ServiceBus.Proofs.Bus.Requests

/-! # Calls to a served subject

On an open bus on which one inbox only gets the requests on a subject, a call on that subject is sent
there, and its result is what those who had the request did with it.

* `MemoryBus.Serves`: one inbox gets the requests on a subject.
* `MemoryBus.Leads`: how far a call on the subject may be, and where its request may be stored.
* `MemoryBus.Leads.poll`: what the call comes to when it is taken as far as it gets. -/

namespace ServiceBus.Bus

/-- How far a call may be whose request goes to an inbox and is answered in one way. -/
def Call.Stage.Heads (i : InboxId) (subject : String) (answer : Answer) : Call.Stage → Prop
  | .asking | .over => True
  | .picked j | .inLine j | .waiting j => j = i
  | .answered _ reply => answer.delivered subject = .ok reply
  | .lost _ => answer = none

namespace MemoryBus

variable {b b' : MemoryBus} {i j c : Nat} {r : Request} {subject : String} {answer : Answer}

/-! ### Routes -/

/-- A change of an inbox that sends requests no other way. -/
theorem route_modifyInbox (b : MemoryBus) (i : InboxId) (f : Inbox → Inbox)
    (hf : ∀ inbox, (f inbox).registered = inbox.registered ∧
      (f inbox).accepting = inbox.accepting ∧ (f inbox).subject = inbox.subject)
    (subject : String) : (b.modifyInbox i f).route subject = b.route subject := by
  rw [route, route, modifyInbox, List.length_modify]
  refine List.filter_congr fun j _ => ?_
  rw [List.getElem?_modify]
  cases b.inboxes[j]? with
  | none => rfl
  | some inbox =>
    obtain ⟨hregistered, haccepting, hsubject⟩ := hf inbox
    show _ = (inbox.registered && inbox.accepting && inbox.subject == subject)
    by_cases h : i = j
    · simp [h, hregistered, haccepting, hsubject]
    · simp [h]

/-- The inboxes that get the requests on a subject. -/
theorem mem_route : i ∈ b.route subject ↔ ∃ inbox, b.inboxes[i]? = some inbox ∧
    inbox.registered = true ∧ inbox.accepting = true ∧ inbox.subject = subject := by
  rw [route, List.mem_filter, List.mem_range]
  constructor
  · rintro ⟨-, h⟩
    obtain ⟨inbox, hinbox, h⟩ := Option.any_eq_true _ _ |>.mp h
    rw [Bool.and_eq_true, Bool.and_eq_true, beq_iff_eq] at h
    exact ⟨inbox, hinbox, h.1.1, h.1.2, h.2⟩
  · rintro ⟨inbox, hinbox, hregistered, haccepting, hsubject⟩
    refine ⟨(List.getElem?_eq_some_iff.mp hinbox).1, ?_⟩
    rw [hinbox, Option.any_some, hregistered, haccepting, hsubject]
    simp

/-- **Whether one inbox only gets the requests on a subject**, on an open bus. -/
structure Serves (b : MemoryBus) (i : InboxId) (subject : String) : Prop where
  up : b.closed = false
  routed : b.route subject = [i]

instance : Decidable (b.Serves i subject) :=
  decidable_of_iff (b.closed = false ∧ b.route subject = [i])
    ⟨fun h => ⟨h.1, h.2⟩, fun h => ⟨h.up, h.routed⟩⟩

/-- The inbox that gets the requests. -/
theorem Serves.inbox (h : b.Serves i subject) : ∃ inbox, b.inboxes[i]? = some inbox ∧
    inbox.registered = true ∧ inbox.accepting = true := by
  have hmem : i ∈ b.route subject := by
    rw [h.routed]
    exact List.mem_singleton_self i
  obtain ⟨inbox, hinbox, hregistered, haccepting, -⟩ := mem_route.mp hmem
  exact ⟨inbox, hinbox, hregistered, haccepting⟩

/-- A request on the subject is routed. -/
theorem Serves.pick (h : b.Serves i subject) : b.pick? subject ≠ none := by
  rw [pick?, h.routed, List.length_singleton, Nat.mod_one]
  simp

/-- The inbox is not empty for good. -/
theorem Serves.hasEnded (h : b.Serves i subject) : b.hasEnded i = false := by
  obtain ⟨inbox, hinbox, hregistered, haccepting⟩ := h.inbox
  have hsender : b.hasSender i = true := by
    rw [hasSender, hinbox, Option.any_some, hregistered, Bool.true_or]
  rw [MemoryBus.hasEnded, hinbox, Option.all_some, haccepting, hsender]
  simp

/-- A call sends requests no other way. -/
theorem Serves.step {result? : Option (Except TransportError Message)} (h : b.Serves i subject)
    (hstep : b.step c = some (b', result?)) : b'.Serves i subject := by
  obtain ⟨call, -, hcall⟩ := step_cases hstep
  have hleave : ∀ j : Nat, (b.leaveLine j c).route subject = [i] := by
    intro j
    rw [leaveLine, route_modifyInbox]
    · exact h.routed
    · exact fun _ => ⟨rfl, rfl, rfl⟩
  cases hcall with
  | closed | unrouted | routed | refused | answered | lost => exact ⟨h.up, h.routed⟩
  | @enqueued j inbox =>
    refine ⟨h.up, ?_⟩
    exact (b.route_modifyInbox j ({ · with line := inbox.line ++ [c] })
      (fun _ => ⟨rfl, rfl, rfl⟩) subject).trans h.routed
  | @stored j inbox =>
    refine ⟨h.up, ?_⟩
    exact ((b.leaveLine j c).route_modifyInbox j
      ({ · with buffer := inbox.buffer ++ [call.request c] }) (fun _ => ⟨rfl, rfl, rfl⟩)
        subject).trans (hleave j)
  | dismissed j => exact ⟨h.up, hleave j⟩

/-! ### Calls -/

/-- **Why a call goes no further by itself**: it waits for its reply or for room, or is over. -/
theorem step_eq_none {s : Call.Stage} (hstage : b.stage? c = some s) (h : b.step c = none) :
    (∃ i, s = .waiting i) ∨ s = .over ∨ (∃ i, s = .picked i ∧ b.inboxes[i]? = none) ∨
      ∃ i, s = .inLine i ∧ ∀ inbox, b.inboxes[i]? = some inbox → inbox.hasRoomFor c = false := by
  obtain ⟨call, hcall, rfl⟩ := Option.map_eq_some_iff.mp hstage
  rw [MemoryBus.step, hcall, Option.bind_eq_bind, Option.bind_some] at h
  cases hs : call.stage with
  | asking =>
    rw [hs] at h
    dsimp only at h
    split at h
    · cases h
    · split at h <;> cases h
  | picked i =>
    refine Or.inr (Or.inr (Or.inl ⟨i, rfl, ?_⟩))
    cases hinbox : b.inboxes[i]? with
    | none => rfl
    | some inbox =>
      rw [hs] at h
      dsimp only at h
      rw [hinbox, Option.bind_eq_bind, Option.bind_some] at h
      split at h <;> cases h
  | inLine i =>
    refine Or.inr (Or.inr (Or.inr ⟨i, rfl, fun inbox hinbox => ?_⟩))
    rw [hs] at h
    dsimp only at h
    rw [hinbox, Option.bind_eq_bind, Option.bind_some] at h
    split at h
    · cases h
    · split at h
      · cases h
      · rename_i hroom
        exact Bool.eq_false_iff.mpr hroom
  | waiting i => exact Or.inl ⟨i, rfl⟩
  | answered i reply =>
    rw [hs] at h
    cases h
  | lost i =>
    rw [hs] at h
    cases h
  | «over» => exact Or.inr (Or.inl rfl)

/-- **Where a call on the subject of an inbox may be**, and its request, which is answered in one
way. -/
structure Leads (b : MemoryBus) (c : CallId) (i : InboxId) (request : Request) (answer : Answer) :
    Prop where
  letter : ∃ call, b.calls[c]? = some call ∧ call.request c = request
  stage : ∀ s, b.stage? c = some s → s.Heads i request.subject answer
  stored : ∀ (k : Nat) r, b.Stores k r → r.IsOf c → k = i ∧ r = request

variable {request : Request}

/-- A call sends the same request as long as what it sends is the same. -/
theorem exists_request (hletters : b'.letters[c]? = b.letters[c]?)
    (h : ∃ call, b.calls[c]? = some call ∧ call.request c = request) :
    ∃ call, b'.calls[c]? = some call ∧ call.request c = request := by
  obtain ⟨call, hcall, rfl⟩ := h
  rw [letters, letters, List.getElem?_map, List.getElem?_map, hcall] at hletters
  obtain ⟨call', hcall', hsame⟩ := Option.map_eq_some_iff.mp hletters
  refine ⟨call', hcall', ?_⟩
  obtain ⟨hsubject, hheaders, hpayload⟩ := Message.mk.inj hsame
  rw [Call.request, Call.request, hsubject, hheaders, hpayload]

/-- A call on the subject of an inbox sends its request. -/
theorem Leads.request_eq {call : Call} (h : b.Leads c i request answer)
    (hcall : b.calls[c]? = some call) : call.request c = request := by
  obtain ⟨call', hcall', hrequest⟩ := h.letter
  rw [hcall] at hcall'
  exact Option.some.inj hcall' ▸ hrequest

/-- A call comes to another stage that is on its way, and nothing new is stored. -/
theorem Leads.setStage {v : MemoryBus} {stage : Call.Stage} (h : b.Leads c i request answer)
    (hv : v.calls = b.calls) (hstores : ∀ k r, v.Stores k r → b.Stores k r)
    (hstage : stage.Heads i request.subject answer) :
    (v.setStage c stage).Leads c i request answer := by
  obtain ⟨call, hcall, hrequest⟩ := h.letter
  refine ⟨⟨{ call with stage }, ?_, hrequest⟩, fun s hs => ?_, fun k r hr hc => ?_⟩
  · rw [MemoryBus.setStage, List.getElem?_modify_eq, hv, hcall]
    rfl
  · rw [eq_of_setStage hs]
    exact hstage
  · exact h.stored k r (hstores k r hr) hc

/-- A call stores its request in its inbox. -/
theorem Leads.stores {call : Call} {inbox : Inbox} (h : b.Leads c i request answer)
    (hcall : b.calls[c]? = some call) (hinbox : b.inboxes[i]? = some inbox) :
    (((b.leaveLine i c).modifyInbox i ({ · with buffer := inbox.buffer ++ [call.request c] })).setStage
      c (.waiting i)).Leads c i request answer := by
  have hrequest := h.request_eq hcall
  refine ⟨⟨{ call with stage := .waiting i }, ?_, hrequest⟩, fun s hs => ?_, fun k r hr hc => ?_⟩
  · rw [MemoryBus.setStage, List.getElem?_modify_eq]
    show Option.map _ (b.calls[c]?) = _
    rw [hcall]
    rfl
  · rw [eq_of_setStage hs]
    rfl
  · rcases (stores_store hinbox).mp hr with hr | ⟨hk, hr⟩
    · exact h.stored k r hr hc
    · exact ⟨hk, hr.trans hrequest⟩

/-- An inbox that serves takes requests. -/
theorem Serves.accepting_ne {inbox : Inbox} {subject : String} (h : b.Serves i subject)
    (hinbox : b.inboxes[i]? = some inbox) : inbox.accepting ≠ false := by
  intro hshut
  obtain ⟨found, hfound, -, haccepting⟩ := h.inbox
  rw [hinbox] at hfound
  rw [Option.some.inj hfound, haccepting] at hshut
  cases hshut

/-- A call goes on towards its inbox, and its result is what was done with the request. -/
theorem Leads.step {result? : Option (Except TransportError Message)}
    (h : b.Leads c i request answer) (hserves : b.Serves i request.subject)
    (hstep : b.step c = some (b', result?)) : b'.Leads c i request answer ∧
      ∀ result, result? = some result → result = answer.delivered request.subject := by
  obtain ⟨call, hcall, hcases⟩ := step_cases hstep
  have hsubject : call.subject = request.subject := congrArg Request.subject (h.request_eq hcall)
  have hheads : call.stage.Heads i request.subject answer := by
    refine h.stage call.stage ?_
    rw [stage?, hcall]
    rfl
  have hnone : ∀ result, none = some result → result = answer.delivered request.subject :=
    fun result h => absurd h.symm (Option.some_ne_none result)
  cases hcases with
  | closed _ hclosed =>
    rw [hserves.up] at hclosed
    cases hclosed
  | unrouted _ hdeaf => exact absurd (hsubject ▸ hdeaf) hserves.pick
  | routed j _ hmem =>
    rw [hsubject, hserves.routed] at hmem
    exact ⟨h.setStage rfl (fun k r hr => hr) (List.mem_singleton.mp hmem), hnone⟩
  | @enqueued j inbox hs =>
    rw [hs] at hheads
    refine ⟨h.setStage rfl (fun k r => ?_) hheads, hnone⟩
    exact (stores_modifyInbox ({ · with line := inbox.line ++ [c] }) fun _ => rfl).mp
  | refused j hs hinbox hshut | dismissed j hs hinbox hshut =>
    -- the inbox of the call takes requests
    rw [hs] at hheads
    obtain rfl : j = i := hheads
    exact absurd hshut (hserves.accepting_ne hinbox)
  | @stored j inbox hs hinbox =>
    rw [hs] at hheads
    obtain rfl : j = i := hheads
    exact ⟨h.stores hcall hinbox, hnone⟩
  | answered j reply hs =>
    rw [hs] at hheads
    refine ⟨h.setStage rfl (fun k r hr => hr) trivial, fun result hresult => ?_⟩
    cases hresult
    exact Eq.symm hheads
  | lost j hs =>
    rw [hs] at hheads
    refine ⟨h.setStage rfl (fun k r hr => hr) trivial, fun result hresult => ?_⟩
    cases hresult
    rw [show answer = none from hheads, hsubject]
    rfl

/-- **A call that is taken as far as it gets** comes to what was done with its request. -/
theorem Leads.poll (h : b.Leads c i request answer) (hserves : b.Serves i request.subject) :
    (b.poll c).1.Leads c i request answer ∧
      ∀ result, (b.poll c).2 = some result → result = answer.delivered request.subject := by
  have hnone : ∀ result, none = some result → result = answer.delivered request.subject :=
    fun result h => absurd h.symm (Option.some_ne_none result)
  have hsteps : ∀ n b, b.Leads c i request answer → b.Serves i request.subject →
      (steps n b c).1.Leads c i request answer ∧
        ∀ result, (steps n b c).2 = some result → result = answer.delivered request.subject := by
    intro n
    induction n with
    | zero => exact fun b h _ => ⟨h, hnone⟩
    | succ n ih =>
      intro b h hserves
      rw [steps]
      split
      · exact ⟨h, hnone⟩
      · rename_i hstep
        exact h.step hserves hstep
      · rename_i hstep
        exact ih _ (h.step hserves hstep).1 (hserves.step hstep)
  exact hsteps 4 b h hserves

end MemoryBus

end ServiceBus.Bus
