import Mathlib.Algebra.BigOperators.Group.Finset.Basic
import Mathlib.Data.Prod.Lex
import Mathlib.Logic.Hydra
import ServiceBus.Bus.Memory
import ServiceBus.Bus.Script
import ServiceBus.Proofs.Bus.Requests

/-! # What is left to do on a bus

All that is under way is counted as a multiset of `Chore`s. Where something goes on, one chore makes
way for others that are lighter.

* `Script.Part`: what a script goes on with.
* `Lighter`: the order on multisets of chores; it is well-founded (`wellFounded_lighter`).
* `MemoryBus.chores`: what is left to do for calls and with stored requests; a step of a call leaves
  less (`MemoryBus.lighter_step`). -/

namespace ServiceBus.Bus

open Relation

/-! ### Scripts -/

/-- What a script goes on with. -/
inductive Script.Part : Script → Script → Prop where
  | note (n : Note) (next : Script) : Part next (.note n next)
  | report (r : Log.Record) (next : Script) : Part next (.report r next)
  | reply (headers : Headers) (payload : Bytes) (next : Except TransportError Unit → Script)
      (result : Except TransportError Unit) : Part (next result) (.reply headers payload next)
  | pass (gate : Bytes) (next : Script) : Part next (.pass gate next)
  | pause (ms : Time) (next : Script) : Part next (.pause ms next)
  | awaitEnd (next : ContextError → Script) (e : ContextError) : Part (next e) (.awaitEnd next)
  | inspect (next : Option ContextError → Script) (e? : Option ContextError) :
      Part (next e?) (.inspect next)
  | keep (store : StoreId) (key value : String) (next : Script) :
      Part next (.keep store key value next)

/-- A script comes to an end. -/
theorem Script.wellFounded_part : WellFounded Script.Part := by
  refine ⟨fun s => ?_⟩
  induction s with
  | stop => exact ⟨_, fun _ h => by cases h⟩
  | crash => exact ⟨_, fun _ h => by cases h⟩
  | note n next ih => exact ⟨_, fun _ h => by cases h; exact ih⟩
  | report r next ih => exact ⟨_, fun _ h => by cases h; exact ih⟩
  | reply headers payload next ih => exact ⟨_, fun _ h => by cases h; exact ih _⟩
  | pass gate next ih => exact ⟨_, fun _ h => by cases h; exact ih⟩
  | pause ms next ih => exact ⟨_, fun _ h => by cases h; exact ih⟩
  | awaitEnd next ih => exact ⟨_, fun _ h => by cases h; exact ih _⟩
  | inspect next ih => exact ⟨_, fun _ h => by cases h; exact ih _⟩
  | keep store key value next ih => exact ⟨_, fun _ h => by cases h; exact ih⟩

/-! ### Chores -/

/-- Something left to do: a kind, a script and a count. -/
structure Chore where
  kind : Nat
  script : Script := .stop
  count : Nat := 0

namespace Chore

/-- The order of chores: by kind, then by script, then by count. -/
def Below (a b : Chore) : Prop :=
  Prod.Lex (· < ·) (Prod.Lex Script.Part (· < ·)) (a.kind, a.script, a.count)
    (b.kind, b.script, b.count)

/-- There is no endless descent among chores. -/
theorem wellFounded_below : WellFounded Below :=
  InvImage.wf (fun a : Chore => (a.kind, a.script, a.count))
    (WellFounded.prod_lex Nat.lt_wfRel.wf
      (WellFounded.prod_lex Script.wellFounded_part Nat.lt_wfRel.wf))

/-- A chore of a lower kind is below. -/
theorem below_of_kind {a b : Chore} (h : a.kind < b.kind) : Below a b := .left _ _ h

/-- A chore with a part of the script is below. -/
theorem below_of_part {kind n m : Nat} {s s' : Script} (h : Script.Part s' s) :
    Below ⟨kind, s', n⟩ ⟨kind, s, m⟩ := .right _ (.left _ _ h)

/-- A chore with a lower count is below. -/
theorem below_of_count {kind n m : Nat} {s : Script} (h : n < m) :
    Below ⟨kind, s, n⟩ ⟨kind, s, m⟩ := .right _ (.right _ h)

end Chore

/-- Whether chores come of others where some make way for lighter ones. -/
def Lighter : Multiset Chore → Multiset Chore → Prop := TransGen (CutExpand Chore.Below)

/-- Whether chores are the same or lighter. -/
def NoHeavier : Multiset Chore → Multiset Chore → Prop := ReflTransGen (CutExpand Chore.Below)

/-- **Chores cannot become lighter for ever.** -/
theorem wellFounded_lighter : WellFounded Lighter :=
  (WellFounded.cutExpand Chore.wellFounded_below).transGen

section Lighter

variable {s s' t t' : Multiset Chore} {a : Chore}

/-- One chore makes way for others. -/
theorem lighter_of_below (h : ∀ b ∈ s, Chore.Below b a) : Lighter s {a} :=
  .single (cutExpand_singleton h)

/-- One chore makes way for another. -/
theorem lighter_singleton {b : Chore} (h : Chore.Below b a) : Lighter {b} {a} :=
  lighter_of_below fun c hc => by rwa [Multiset.mem_singleton.mp hc]

/-- One chore is seen to. -/
theorem lighter_zero (a : Chore) : Lighter 0 {a} :=
  lighter_of_below fun b hb => absurd hb (Multiset.notMem_zero b)

/-- What else there is does not matter. -/
theorem Lighter.add_left (h : Lighter s' s) (t : Multiset Chore) : Lighter (t + s') (t + s) := by
  induction h with
  | single hcut => exact .single ((cutExpand_add_left t).mpr hcut)
  | tail _ hcut ih => exact ih.tail ((cutExpand_add_left t).mpr hcut)

/-- What else there is does not matter. -/
theorem Lighter.add_right (h : Lighter s' s) (t : Multiset Chore) : Lighter (s' + t) (s + t) := by
  rw [add_comm s', add_comm s]
  exact h.add_left t

/-- The same chores are no heavier. -/
theorem noHeavier_of_eq (h : s' = s) : NoHeavier s' s := by
  rw [h]
  exact .refl

/-- Lighter chores are no heavier. -/
theorem Lighter.noHeavier (h : Lighter s' s) : NoHeavier s' s := h.to_reflTransGen

/-- What else there is does not matter. -/
theorem NoHeavier.add_right (h : NoHeavier s' s) (t : Multiset Chore) :
    NoHeavier (s' + t) (s + t) := by
  induction h with
  | refl => exact .refl
  | tail _ hcut ih => exact ih.tail ((cutExpand_add_right t).mpr hcut)

/-- What else there is does not matter. -/
theorem NoHeavier.add_left (h : NoHeavier s' s) (t : Multiset Chore) :
    NoHeavier (t + s') (t + s) := by
  rw [add_comm t, add_comm t]
  exact h.add_right t

/-- One change after another. -/
theorem NoHeavier.trans (h : NoHeavier s t) (h' : NoHeavier t s') : NoHeavier s s' :=
  ReflTransGen.trans h h'

/-- One change after another. -/
theorem Lighter.trans_noHeavier (h : Lighter s t) (h' : NoHeavier t s') : Lighter s s' :=
  TransGen.trans_left h h'

/-- One change after another. -/
theorem NoHeavier.trans_lighter (h : NoHeavier s t) (h' : Lighter t s') : Lighter s s' :=
  TransGen.trans_right h h'

/-- Fewer chores are lighter. -/
theorem noHeavier_add (s t : Multiset Chore) : NoHeavier s (s + t) := by
  induction t using Multiset.induction_on with
  | empty =>
    rw [add_zero]
    exact .refl
  | cons a t ih =>
    rw [← Multiset.singleton_add, ← add_assoc, add_right_comm]
    refine ih.trans ?_
    have h := (lighter_zero a).add_left (s + t)
    rw [add_zero] at h
    exact h.noHeavier

/-- One chore fewer is lighter. -/
theorem lighter_add (s : Multiset Chore) (a : Chore) (t : Multiset Chore) :
    Lighter s (s + ({a} + t)) := by
  have h := (lighter_zero a).add_left s
  rw [add_zero] at h
  rw [← add_assoc]
  exact h.trans_noHeavier (noHeavier_add _ t)

/-- Fewer chores of one kind are no heavier. -/
theorem noHeavier_replicate {n m : Nat} (h : n ≤ m) (a : Chore) :
    NoHeavier (.replicate n a) (.replicate m a) := by
  obtain ⟨k, rfl⟩ := Nat.exists_eq_add_of_le h
  rw [Multiset.replicate_add]
  exact noHeavier_add _ _

end Lighter

/-! ### Chores of the bus -/

open Finset (range)

/-- One of several changes. -/
theorem exists_sum_eq {n i : Nat} {f g : Nat → Multiset Chore} (hi : i < n)
    (h : ∀ j, j ≠ i → g j = f j) :
    ∃ rest, ∑ j ∈ range n, f j = rest + f i ∧ ∑ j ∈ range n, g j = rest + g i := by
  have hmem := Finset.mem_range.mpr hi
  refine ⟨∑ j ∈ (range n).erase i, f j, ?_, ?_⟩
  · exact (Finset.sum_erase_add _ f hmem).symm
  · rw [← Finset.sum_erase_add _ g hmem]
    refine congrArg (· + g i) (Finset.sum_congr rfl fun j hj => ?_)
    exact h j (Finset.ne_of_mem_erase hj)

/-- What is left to do for a call. -/
def Call.Stage.chores : Call.Stage → Multiset Chore
  | .asking => {⟨9, .stop, 0⟩}
  | .picked _ => {⟨8, .stop, 0⟩}
  | .inLine _ => {⟨7, .stop, 0⟩}
  | .waiting _ | .answered .. | .lost _ => {⟨0, .stop, 0⟩}
  | .over => 0

/-- What is left to do with a stored request. -/
def storedChore : Chore := ⟨6, .stop, 0⟩

namespace MemoryBus

variable {b b' : MemoryBus} {i : Nat}

/-- What is left to do for a call. -/
def callChores (b : MemoryBus) (id : CallId) : Multiset Chore :=
  (b.calls[id]?).elim 0 (·.stage.chores)

/-- What is left to do with the requests of an inbox. -/
def inboxChores (b : MemoryBus) (i : InboxId) : Multiset Chore :=
  (b.inboxes[i]?).elim 0 fun inbox => .replicate inbox.buffer.length storedChore

/-- What is left to do on the bus. -/
def chores (b : MemoryBus) : Multiset Chore :=
  ∑ id ∈ range b.calls.length, b.callChores id + ∑ i ∈ range b.inboxes.length, b.inboxChores i

/-- The chores of a call depend on how far it is, those of an inbox on how many requests it holds. -/
theorem chores_congr (hcalls : b'.calls.length = b.calls.length)
    (hinboxes : b'.inboxes.length = b.inboxes.length)
    (hc : ∀ id, b'.callChores id = b.callChores id)
    (hi : ∀ i, b'.inboxChores i = b.inboxChores i) : b'.chores = b.chores := by
  rw [chores, chores, hcalls, hinboxes]
  simp only [hc, hi]

/-- A change of an inbox that leaves the number of its requests. -/
theorem chores_modifyInbox (f : Inbox → Inbox)
    (hf : ∀ inbox, (f inbox).buffer.length = inbox.buffer.length) :
    (b.modifyInbox i f).chores = b.chores := by
  refine chores_congr rfl (List.length_modify _ _ _) (fun _ => rfl) fun j => ?_
  rw [inboxChores, modifyInbox, inboxChores, List.getElem?_modify]
  cases b.inboxes[j]? with
  | none => rfl
  | some inbox =>
    show Multiset.replicate (if i = j then f inbox else inbox).buffer.length _ = _
    split
    · rw [hf]
      rfl
    · rfl

/-- A change of an inbox that holds more or fewer requests afterwards. -/
theorem chores_buffer {inbox : Inbox} (h : b.inboxes[i]? = some inbox) (f : Inbox → Inbox) :
    ∃ rest, b.chores = rest + .replicate inbox.buffer.length storedChore ∧
      (b.modifyInbox i f).chores = rest + .replicate (f inbox).buffer.length storedChore := by
  have hlt := (List.getElem?_eq_some_iff.mp h).1
  obtain ⟨rest, hold, hnew⟩ := exists_sum_eq (f := b.inboxChores)
    (g := (b.modifyInbox i f).inboxChores) hlt fun j hj => by
      rw [inboxChores, modifyInbox, inboxChores]
      rw [List.getElem?_modify_ne _ _ (Ne.symm hj)]
  refine ⟨∑ id ∈ range b.calls.length, b.callChores id + rest, ?_, ?_⟩
  · rw [chores, hold, inboxChores, h, ← add_assoc]
    rfl
  · rw [chores]
    have hlen : (b.modifyInbox i f).inboxes.length = b.inboxes.length := List.length_modify _ _ _
    rw [hlen, hnew, inboxChores, modifyInbox, List.getElem?_modify_eq, h, ← add_assoc]
    rfl

/-- A call in another stage. -/
theorem chores_setStage {call : Call} {id : Nat} (h : b.calls[id]? = some call)
    (stage : Call.Stage) : ∃ rest, b.chores = rest + call.stage.chores ∧
      (b.setStage id stage).chores = rest + stage.chores := by
  have hlt := (List.getElem?_eq_some_iff.mp h).1
  obtain ⟨rest, hold, hnew⟩ := exists_sum_eq (f := b.callChores)
    (g := (b.setStage id stage).callChores) hlt fun j hj => by
      rw [callChores, setStage, callChores]
      rw [List.getElem?_modify_ne _ _ (Ne.symm hj)]
  refine ⟨rest + ∑ i ∈ range b.inboxes.length, b.inboxChores i, ?_, ?_⟩
  · rw [chores, hold, callChores, h, add_right_comm]
    rfl
  · rw [chores]
    have hlen : (b.setStage id stage).calls.length = b.calls.length := List.length_modify _ _ _
    rw [hlen, hnew, callChores, setStage, List.getElem?_modify_eq, h, add_right_comm]
    rfl

/-- A call that was not there is in no other stage. -/
theorem setStage_of_none {id : Nat} (h : b.calls[id]? = none) (stage : Call.Stage) :
    b.setStage id stage = b := by
  rw [setStage, List.modify_eq_self (List.getElem?_eq_none_iff.mp h)]

/-- A call that goes on has less left to do. -/
theorem lighter_setStage {call : Call} {id : Nat} (h : b.calls[id]? = some call)
    {stage : Call.Stage} (hl : Lighter stage.chores call.stage.chores) :
    Lighter (b.setStage id stage).chores b.chores := by
  obtain ⟨rest, hold, hnew⟩ := chores_setStage h stage
  rw [hold, hnew]
  exact hl.add_left rest

/-- A call that is over has nothing left to do. -/
theorem noHeavier_over (b : MemoryBus) (id : CallId) :
    NoHeavier (b.setStage id .over).chores b.chores := by
  cases h : b.calls[id]? with
  | none =>
    rw [setStage_of_none h]
    exact .refl
  | some call =>
    obtain ⟨rest, hold, hnew⟩ := chores_setStage h .over
    rw [hold, hnew, show Call.Stage.chores .over = 0 from rfl, add_zero]
    exact noHeavier_add _ _

/-- A call that concludes has less left to do. -/
theorem lighter_over {call : Call} {id : Nat} (h : b.calls[id]? = some call)
    (hs : call.stage ≠ .over) : Lighter (b.setStage id .over).chores b.chores := by
  refine lighter_setStage h ?_
  cases hstage : call.stage with
  | «over» => exact absurd hstage hs
  | _ => exact lighter_zero _

/-- Who leaves a line leaves no chore. -/
theorem chores_leaveLine (b : MemoryBus) (i : InboxId) (id : CallId) :
    (b.leaveLine i id).chores = b.chores :=
  chores_modifyInbox _ fun _ => rfl

/-- Storing a request makes a chore of it. -/
theorem chores_store {inbox : Inbox} (h : b.inboxes[i]? = some inbox) (f : Inbox → Inbox)
    (hf : (f inbox).buffer.length = inbox.buffer.length + 1) :
    (b.modifyInbox i f).chores = b.chores + {storedChore} := by
  obtain ⟨rest, hold, hnew⟩ := chores_buffer h f
  rw [hnew, hold, hf, Multiset.replicate_add, Multiset.replicate_one, add_assoc]

/-- A call that stores its request makes way for the request and for a call that waits. -/
theorem lighter_stored {call : Call} {id : Nat} {inbox : Inbox} (hcall : b.calls[id]? = some call)
    (hstage : call.stage = .inLine i) (hinbox : b.inboxes[i]? = some inbox) :
    Lighter (((b.leaveLine i id).modifyInbox i
      ({ · with buffer := inbox.buffer ++ [call.request id] })).setStage id (.waiting i)).chores
        b.chores := by
  have hline : ((b.leaveLine i id).setStage id (.waiting i)).inboxes[i]? =
      some { inbox with line := inbox.line.filter (· != id) } := by
    show (b.inboxes.modify i _)[i]? = _
    rw [List.getElem?_modify_eq, hinbox]
    rfl
  have hstore := chores_store hline
    ({ · with buffer := inbox.buffer ++ [call.request id] }) List.length_append
  obtain ⟨rest, hold, hnew⟩ := chores_setStage (b := b.leaveLine i id) hcall (.waiting i)
  rw [chores_leaveLine, hstage] at hold
  rw [hnew, add_assoc] at hstore
  show Lighter (((b.leaveLine i id).setStage id (.waiting i)).modifyInbox i
    ({ · with buffer := inbox.buffer ++ [call.request id] })).chores _
  rw [hold, hstore]
  refine Lighter.add_left (lighter_of_below fun a ha => Chore.below_of_kind ?_) rest
  rcases Multiset.mem_add.mp ha with ha | ha
  · rw [Multiset.mem_singleton.mp ha]
    decide
  · rw [Multiset.mem_singleton.mp ha]
    decide

/-- **A step of a call** leaves less to do. -/
theorem lighter_step {id : Nat} {result? : Option (Except TransportError Message)}
    (h : b.step id = some (b', result?)) : Lighter b'.chores b.chores := by
  obtain ⟨call, hcall, hstep⟩ := step_cases h
  cases hstep with
  | closed hstage | unrouted hstage => exact lighter_over hcall (by simp [hstage])
  | routed i hstage =>
    have hb : Lighter (b.setStage id (.picked i)).chores b.chores := by
      refine lighter_setStage hcall ?_
      rw [hstage]
      exact lighter_singleton (Chore.below_of_kind (by decide))
    exact hb
  | @enqueued i inbox hstage =>
    rw [← chores_modifyInbox (b := b) (i := i) ({ · with line := inbox.line ++ [id] }) fun _ => rfl]
    refine lighter_setStage (b := b.modifyInbox i _) hcall ?_
    rw [hstage]
    exact lighter_singleton (Chore.below_of_kind (by decide))
  | stored i hstage hinbox => exact lighter_stored hcall hstage hinbox
  | dismissed i hstage =>
    rw [← chores_leaveLine b i id]
    exact lighter_over hcall (by simp [hstage])
  | refused i hstage => exact lighter_over hcall (by simp [hstage])
  | answered i reply hstage => exact lighter_over hcall (by simp [hstage])
  | lost i hstage => exact lighter_over hcall (by simp [hstage])

/-- Taking a call further leaves nothing more to do. -/
theorem noHeavier_steps (n : Nat) (b : MemoryBus) (id : CallId) :
    NoHeavier (b.steps n id).1.chores b.chores := by
  induction n generalizing b with
  | zero => exact .refl
  | succ n ih =>
    rw [steps]
    split
    · exact .refl
    · rename_i hstep
      exact (lighter_step hstep).noHeavier
    · rename_i hstep
      exact (ih _).trans (lighter_step hstep).noHeavier

/-- Taking a call further leaves nothing more to do. -/
theorem noHeavier_poll (b : MemoryBus) (id : CallId) : NoHeavier (b.poll id).1.chores b.chores :=
  noHeavier_steps 4 b id

/-- Taking a call further that does not wait leaves less to do. -/
theorem lighter_poll {id : Nat} (h : b.step id ≠ none) : Lighter (b.poll id).1.chores b.chores := by
  rw [poll, steps]
  split
  · contradiction
  · rename_i hstep
    exact lighter_step hstep
  · rename_i hstep
    exact (noHeavier_steps 3 _ id).trans_lighter (lighter_step hstep)

/-- Giving a call up leaves nothing more to do. -/
theorem noHeavier_abandon (b : MemoryBus) (id : CallId) :
    NoHeavier (b.abandon id).chores b.chores := by
  rw [abandon]
  split
  · rename_i i _
    rw [← chores_leaveLine b i id]
    exact noHeavier_over _ id
  · exact noHeavier_over b id

/-- A call that no longer waits, for a reply or because its request is lost, has as much to do. -/
theorem chores_setStage_of_waiting {id i : Nat} {stage : Call.Stage} (h : b.waiting? id = some i)
    (hs : stage.chores = {⟨0, .stop, 0⟩}) : (b.setStage id stage).chores = b.chores := by
  rw [waiting?] at h
  split at h
  · rename_i call j hcall
    obtain ⟨rest, hold, hnew⟩ := chores_setStage hcall stage
    rw [hold, hnew, hs]
    rfl
  · cases h

/-- A reply leaves as much to do. -/
theorem chores_answer (b : MemoryBus) (id : CallId) (reply : Message) :
    (b.answer id reply).1.chores = b.chores := by
  rw [answer]
  split
  · rename_i i hi
    exact chores_setStage_of_waiting hi rfl
  · rfl

/-- Giving a request up leaves as much to do. -/
theorem chores_drop (b : MemoryBus) (request : Request) : (b.drop request).chores = b.chores := by
  rw [drop]
  split
  · rw [lose]
    split
    · rename_i i hi
      exact chores_setStage_of_waiting hi rfl
    · rfl
  · rfl

/-- Giving some requests up leaves as much to do. -/
theorem chores_foldl_drop (requests : List Request) (b : MemoryBus) :
    (requests.foldl drop b).chores = b.chores := by
  induction requests generalizing b with
  | nil => rfl
  | cons request requests ih => rw [List.foldl_cons, ih, chores_drop]

/-- Giving an inbox up leaves nothing more to do. -/
theorem noHeavier_discardInbox (b : MemoryBus) (i : InboxId) :
    NoHeavier (b.discardInbox i).chores b.chores := by
  rw [discardInbox]
  cases h : b.inboxes[i]? with
  | none => exact .refl
  | some inbox =>
    obtain ⟨rest, hold, hnew⟩ := chores_buffer h ({ · with accepting := false, buffer := [] })
    rw [chores_foldl_drop, hnew, hold]
    exact (noHeavier_replicate (Nat.zero_le _) _).add_left rest

/-- Closing an inbox leaves as much to do. -/
theorem chores_closeInbox (b : MemoryBus) (i : InboxId) : (b.closeInbox i).chores = b.chores :=
  chores_modifyInbox _ fun _ => rfl

/-- A request that is taken is a chore less on the bus. -/
theorem chores_take {request : Request} (h : b.take? i = some (request, b')) :
    b.chores = b'.chores + {storedChore} := by
  obtain ⟨inbox, hinbox, h⟩ := Option.bind_eq_some_iff.mp h
  split at h
  · cases h
  · rename_i rest hbuffer
    cases h
    obtain ⟨others, hold, hnew⟩ := chores_buffer hinbox ({ · with buffer := rest })
    rw [hold, hnew, hbuffer, List.length_cons, Multiset.replicate_succ, add_assoc,
      ← Multiset.singleton_add]
    exact congrArg (others + ·) (add_comm _ _)

end MemoryBus

end ServiceBus.Bus
