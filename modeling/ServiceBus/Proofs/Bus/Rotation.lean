import Mathlib.Algebra.BigOperators.Ring.Finset
import Mathlib.Algebra.Order.BigOperators.Group.Finset
import Mathlib.Data.Nat.Count
import Mathlib.Data.Nat.ModEq
import ServiceBus.Proofs.Bus.Run

/-! # Rotation

Whose turn it is tells one counter for all subjects. As long as a subject keeps its subscribers, each of
them gets the requests on it that are routed in turns of its own, and so it depends on what is routed
on other subjects in between whether all get the same.

* `EvenShares`: none of some shares is more than one ahead of another.
* `InRotation`: turns of which every round serves everybody once.
* `BusRun.shares_of_follow`: what everybody gets, and when all shares stay even.
* `BusRun.exists_drift`: two subscribers, one of which gets all requests, round by round. -/

namespace ServiceBus.Bus

/-! ### Shares -/

section Shares

open Finset

variable {f p : Nat → Nat} {k n q j : Nat}

/-- **Whether some shares are even**: none is more than one ahead of another. -/
def EvenShares (k : Nat) (f : Nat → Nat) : Prop := ∀ i < k, ∀ j < k, f i ≤ f j + 1

/-- An even share has what everybody has if they have the same. -/
theorem EvenShares.le (h : EvenShares k f) (hj : j < k) (hq : k * q ≤ ∑ i ∈ range k, f i) :
    q ≤ f j := by
  by_contra hless
  have hsum : ∑ i ∈ range k, f i < ∑ _i ∈ range k, q := by
    refine sum_lt_sum (fun i hi => ?_) ⟨j, mem_range.mpr hj, by omega⟩
    have := h i (mem_range.mp hi) j hj
    omega
  rw [sum_const_nat fun _ _ => rfl, card_range] at hsum
  omega

/-- An even share has no more than everybody would have of enough. -/
theorem EvenShares.ge (h : EvenShares k f) (hj : j < k) (hq : ∑ i ∈ range k, f i ≤ k * q) :
    f j ≤ q := by
  by_contra hmore
  have hsum : ∑ _i ∈ range k, q < ∑ i ∈ range k, f i := by
    refine sum_lt_sum (fun i hi => ?_) ⟨j, mem_range.mpr hj, by omega⟩
    have := h j hj i (mem_range.mp hi)
    omega
  rw [sum_const_nat fun _ _ => rfl, card_range] at hsum
  omega

/-- All shares together are all that there is. -/
theorem sum_count (hp : ∀ a, p a < k) (n : Nat) :
    ∑ j ∈ range k, Nat.count (p · = j) n = n := by
  induction n with
  | zero => simp
  | succ n ih =>
    have hstep : ∀ j ∈ range k,
        Nat.count (p · = j) (n + 1) = Nat.count (p · = j) n + if p n = j then 1 else 0 :=
      fun j _ => Nat.count_succ _ _
    rw [sum_congr rfl hstep, sum_add_distrib, ih, sum_ite_eq, if_pos (mem_range.mpr (hp n))]

/-- In a round of even shares nobody has one twice. -/
theorem eq_of_evenShares {a b total : Nat} (hp : ∀ a, p a < k)
    (heven : ∀ n ≤ total, EvenShares k fun j => Nat.count (p · = j) n) (hab : a ≤ b)
    (hb : b < total) (hround : a / k = b / k) (hsame : p a = p b) : a = b := by
  have hk : 0 < k := Nat.lt_of_le_of_lt (Nat.zero_le _) (hp 0)
  -- the later of two would be two ahead of what everybody has
  by_contra hne
  have hfull : k * (a / k) ≤ a := Nat.mul_div_le a k
  have hnext : b < k * (a / k + 1) := hround ▸ Nat.lt_mul_div_succ b hk
  have hstart : a / k ≤ Nat.count (p · = p a) (k * (a / k)) := by
    refine (heven _ (by omega)).le (hp a) ?_
    rw [sum_count hp]
  have hfirst : Nat.count (p · = p a) (k * (a / k)) + 1 ≤ Nat.count (p · = p a) b := by
    refine Nat.le_trans (Nat.add_le_add_right (Nat.count_monotone _ hfull) 1) ?_
    have hstep : Nat.count (p · = p a) (a + 1) = Nat.count (p · = p a) a + 1 := by
      rw [Nat.count_succ, if_pos rfl]
    rw [← hstep]
    exact Nat.count_monotone _ (by omega)
  have hsecond : Nat.count (p · = p a) (b + 1) = Nat.count (p · = p a) b + 1 := by
    rw [Nat.count_succ, if_pos hsame.symm]
  have hmost : Nat.count (p · = p a) (b + 1) ≤ a / k + 1 := by
    refine (heven (b + 1) hb).ge (hp a) ?_
    rw [sum_count hp]
    omega
  omega

section Rounds

variable {total : Nat}
  (hrounds : ∀ a b, a < total → b < total → a / k = b / k → p a = p b → a = b)

include hrounds

/-- Within a round, a share that nobody has twice grows by one at most. -/
theorem count_round_le {m : Nat} (hk : 0 < k) (hm : m ≤ k) (htotal : k * q + m ≤ total) (j : Nat) :
    Nat.count (p · = j) (k * q + m) ≤ Nat.count (p · = j) (k * q) + 1 := by
  have hdiv : ∀ x < m, (k * q + x) / k = q := fun x hx => by
    rw [Nat.mul_add_div hk, Nat.div_eq_of_lt (by omega), Nat.add_zero]
  rw [Nat.count_add, Nat.count_eq_card_filter_range (fun a => p (k * q + a) = j)]
  refine Nat.add_le_add_left (card_le_one.mpr fun a ha b hb => ?_) _
  rw [mem_filter, mem_range] at ha hb
  have hsame := hrounds (k * q + a) (k * q + b) (by omega) (by omega)
    (by rw [hdiv a ha.1, hdiv b hb.1]) (ha.2.trans hb.2.symm)
  omega

/-- After a full round all have the same. -/
theorem count_full_rounds (hp : ∀ a, p a < k) (q : Nat) (htotal : k * q ≤ total) :
    ∀ j < k, Nat.count (p · = j) (k * q) = q := by
  have hk : 0 < k := Nat.lt_of_le_of_lt (Nat.zero_le _) (hp 0)
  induction q with
  | zero => intro j _; simp
  | succ q ih =>
    intro j hj
    rw [Nat.mul_succ] at htotal
    have hmost : ∀ i ∈ range k, Nat.count (p · = i) (k * (q + 1)) ≤ q + 1 := by
      intro i hi
      have hgrow := count_round_le hrounds hk le_rfl htotal i
      rwa [ih (by omega) i (mem_range.mp hi), ← Nat.mul_succ] at hgrow
    have hsum : ∑ i ∈ range k, Nat.count (p · = i) (k * (q + 1)) = ∑ _i ∈ range k, (q + 1) := by
      rw [sum_count hp, sum_const_nat fun _ _ => rfl, card_range]
    exact (sum_eq_sum_iff_of_le hmost).mp hsum j (mem_range.mpr hj)

/-- Shares of which nobody has one twice in a round are even. -/
theorem evenShares_of_rounds (hp : ∀ a, p a < k) (hn : n ≤ total) :
    EvenShares k fun j => Nat.count (p · = j) n := by
  have hk : 0 < k := Nat.lt_of_le_of_lt (Nat.zero_le _) (hp 0)
  intro i hi j hj
  show Nat.count (p · = i) n ≤ Nat.count (p · = j) n + 1
  have hsplit : k * (n / k) + n % k = n := Nat.div_add_mod n k
  have hfull := count_full_rounds hrounds hp (n / k) (Nat.le_trans (Nat.mul_div_le n k) hn)
  have hmost := count_round_le hrounds hk (Nat.mod_lt n hk).le (by rwa [hsplit]) i
  rw [hsplit, hfull i hi] at hmost
  have hleast : Nat.count (p · = j) (k * (n / k)) ≤ Nat.count (p · = j) n :=
    Nat.count_monotone _ (Nat.mul_div_le n k)
  rw [hfull j hj] at hleast
  omega

end Rounds

/-- **Shares are even all the time** exactly if in every round nobody has one twice. -/
theorem evenShares_iff (hp : ∀ a, p a < k) (total : Nat) :
    (∀ n ≤ total, EvenShares k fun j => Nat.count (p · = j) n) ↔
      ∀ a b, a < total → b < total → a / k = b / k → p a = p b → a = b := by
  constructor
  · intro heven a b ha hb hround hsame
    rcases Nat.le_total a b with hab | hba
    · exact eq_of_evenShares hp heven hab hb hround hsame
    · exact (eq_of_evenShares hp heven hba ha hround.symm hsame.symm).symm
  · exact fun hrounds n hn => evenShares_of_rounds hrounds hp hn

end Shares

/-! ### The counter -/

/-- The turn in which a request was routed. -/
def BusEvent.turn? : BusEvent → Option Nat
  | .routed _ _ _ turn => some turn
  | _ => none

/-- The turn in which a request on a subject was routed. -/
def BusEvent.turnOn? (subject : String) : BusEvent → Option Nat
  | .routed _ asked _ turn => if asked = subject then some turn else none
  | _ => none

/-- Whether a request on a subject was routed to an inbox. -/
def BusEvent.assigns (subject : String) (i : InboxId) : BusEvent → Bool
  | .routed _ asked inbox _ => asked == subject && inbox == i
  | _ => false

/-- **Whether turns serve everybody once in every round**: of any `k` turns from a multiple of `k` on no
two are for the same. -/
def InRotation (k : Nat) (turns : List Nat) : Prop :=
  ∀ n m t u, turns[n]? = some t → turns[m]? = some u → n / k = m / k → t % k = u % k → n = m

namespace MemoryBus

variable {b b' : MemoryBus} {i c : Nat} {subject : String}

/-- A request that is given up is not routed again. -/
theorem cursor_drop (b : MemoryBus) (r : Request) : (b.drop r).cursor = b.cursor := by
  rw [drop]
  split
  · rw [lose]
    split <;> rfl
  · rfl

/-- An inbox that is given up leaves the counter alone. -/
theorem cursor_discardInbox (b : MemoryBus) (i : InboxId) :
    (b.discardInbox i).cursor = b.cursor := by
  have hdrop : ∀ (rs : List Request) (v : MemoryBus), (rs.foldl drop v).cursor = v.cursor := by
    intro rs
    induction rs with
    | nil => exact fun _ => rfl
    | cons r rs ih => exact fun v => (ih _).trans (v.cursor_drop r)
  rw [discardInbox]
  cases b.inboxes[i]? with
  | none => rfl
  | some inbox => exact hdrop _ _

/-- A reply leaves the counter alone. -/
theorem cursor_answer (b : MemoryBus) (c : CallId) (reply : Message) :
    (b.answer c reply).1.cursor = b.cursor := by
  rw [answer]
  split <;> rfl

/-- A call that is given up leaves the counter alone. -/
theorem cursor_abandon (b : MemoryBus) (c : CallId) : (b.abandon c).cursor = b.cursor := by
  rw [abandon]
  split <;> rfl

/-- A request that is taken leaves the counter alone. -/
theorem cursor_take {r : Request} (h : b.take? i = some (r, b')) : b'.cursor = b.cursor := by
  obtain ⟨inbox, -, h⟩ := Option.bind_eq_some_iff.mp h
  split at h
  · cases h
  · cases h
    rfl

/-- A new inbox leaves the counter alone. -/
theorem cursor_subscribe (h : b.subscribe subject = .ok b') : b'.cursor = b.cursor := by
  rw [subscribe_eq h]

/-- A call whose turn it is goes to an inbox. -/
theorem step_of_turn {call : Call} (hcall : b.calls[c]? = some call) (hs : call.stage = .asking)
    (hopen : b.closed = false)
    (hi : (b.route call.subject)[b.cursor.toNat % (b.route call.subject).length]? = some i) :
    b.step c = some ({ b with cursor := b.cursor + 1 }.setStage c (.picked i), none) := by
  have hpick : b.pick? call.subject = some (i, { b with cursor := b.cursor + 1 }) := by
    rw [pick?, hi]
    rfl
  have hnot : ¬ b.closed = true := by
    rw [hopen]
    decide
  rw [step, hcall, Option.bind_eq_bind, Option.bind_some, hs]
  dsimp only
  rw [hpick, if_neg hnot]

/-- **A step of a call is a turn** if it sends the request to an inbox, and else leaves the counter
alone. -/
theorem step_turn {result? : Option (Except TransportError Message)}
    (h : b.step c = some (b', result?)) :
    (∃ subject i, (b.route subject)[b.cursor.toNat % (b.route subject).length]? = some i ∧
      b'.cursor = b.cursor + 1 ∧
        BusRun.stepEvent? b c b' result? = some (.routed c subject i b.cursor.toNat)) ∨
    b'.cursor = b.cursor ∧ ∀ event, BusRun.stepEvent? b c b' result? = some event →
      event.turn? = none := by
  obtain ⟨call, hcall, hstep⟩ := step_cases h
  have hnot : ∀ {event? : Option BusEvent}, BusRun.stepEvent? b c b' result? = event? →
      (∀ event, event? = some event → event.turn? = none) →
        ∀ event, BusRun.stepEvent? b c b' result? = some event → event.turn? = none := by
    rintro _ rfl hnone
    exact hnone
  have hended : ∀ result event, some (BusEvent.ended c result) = some event → event.turn? = none := by
    rintro result _ ⟨⟩
    rfl
  cases hstep with
  | closed | unrouted | refused | dismissed | answered | lost =>
    exact Or.inr ⟨rfl, hended _⟩
  | routed _ hs =>
    obtain ⟨i, hi, hb⟩ := pick_of_step hcall hs h
    rw [hb]
    exact Or.inl ⟨call.subject, i, hi, rfl, BusRun.stepEvent?_setStage hcall (.picked i)⟩
  | enqueued i =>
    exact Or.inr ⟨rfl, hnot (BusRun.stepEvent?_setStage hcall (.inLine i)) nofun⟩
  | stored i =>
    refine Or.inr ⟨rfl, hnot (BusRun.stepEvent?_setStage hcall (.waiting i)) ?_⟩
    rintro _ ⟨⟩
    rfl

end MemoryBus

namespace BusRun

variable {r r' s : BusRun} {b b' : MemoryBus} {m : Move} {moves : List Move} {subject : String}
  {subs : List InboxId}

/-- The turns in which requests were routed. -/
def turns (r : BusRun) : List Nat := r.events.filterMap BusEvent.turn?

/-- Those in which requests on a subject were. -/
def turnsOn (r : BusRun) (subject : String) : List Nat :=
  r.events.filterMap (BusEvent.turnOn? subject)

/-- How many requests on a subject were routed to an inbox. -/
def assigned (r : BusRun) (subject : String) (i : InboxId) : Nat :=
  r.events.countP (BusEvent.assigns subject i)

/-- **Every move is a turn or none.** -/
theorem effect_turn {event? : Option BusEvent} (h : Effect b b' event?) :
    (∃ c subject i, (b.route subject)[b.cursor.toNat % (b.route subject).length]? = some i ∧
      b'.cursor = b.cursor + 1 ∧ event? = some (.routed c subject i b.cursor.toNat)) ∨
    b'.cursor = b.cursor ∧ ∀ event, event? = some event → event.turn? = none := by
  have hshut : ∀ (i : InboxId) event, some (BusEvent.shut i) = some event → event.turn? = none := by
    rintro i _ ⟨⟩
    rfl
  cases h with
  | subscribed _ h => exact Or.inr ⟨MemoryBus.cursor_subscribe h, nofun⟩
  | closedInbox i => exact Or.inr ⟨rfl, hshut i⟩
  | discarded i => exact Or.inr ⟨b.cursor_discardInbox i, hshut i⟩
  | taken i request h => exact Or.inr ⟨MemoryBus.cursor_take h, nofun⟩
  | asked => exact Or.inr ⟨rfl, nofun⟩
  | advanced c h =>
    rcases MemoryBus.step_turn h with ⟨subject, i, hi, hcursor, hevent⟩ | hnone
    · exact Or.inl ⟨c, subject, i, hi, hcursor, hevent⟩
    · exact Or.inr hnone
  | abandoned c =>
    refine Or.inr ⟨b.cursor_abandon c, ?_⟩
    rintro _ ⟨⟩
    rfl
  | answered c reply => exact Or.inr ⟨b.cursor_answer c reply, nofun⟩
  | dropped request => exact Or.inr ⟨b.cursor_drop request, nofun⟩
  | closed => exact Or.inr ⟨rfl, nofun⟩

/-- The turns follow each other. -/
theorem turns_of_follow (hf : follow moves { bus := b } = some r) : ∃ n,
    r.turns = (List.range n).map (fun k => (b.cursor.toNat + k) % 2 ^ 64) ∧
      r.bus.cursor.toNat = (b.cursor.toNat + n) % 2 ^ 64 := by
  refine follow_induction hf ?_ ?_
  · exact ⟨0, rfl, (Nat.mod_eq_of_lt b.cursor.toNat_lt).symm⟩
  · rintro m s s' - - ⟨n, hturns, hcursor⟩ hm
    obtain ⟨v, event?, rfl, heffect⟩ := effect_of_step? hm
    rcases effect_turn heffect with ⟨c, asked, i, -, hnext, rfl⟩ | ⟨hsame, hnone⟩
    · refine ⟨n + 1, ?_, ?_⟩
      · rw [turns, become, List.filterMap_append, List.range_succ, List.map_append, ← hturns,
          List.map_singleton, ← hcursor]
        rfl
      · show v.cursor.toNat = _
        rw [hnext, UInt64.toNat_add, hcursor, ← Nat.add_assoc, UInt64.toNat_one, Nat.mod_add_mod]
    · refine ⟨n, ?_, ?_⟩
      · rw [← hturns, turns, become, List.filterMap_append, turns]
        cases event? with
        | none => simp
        | some event => simp [hnone event rfl]
      · show v.cursor.toNat = _
        rw [hsame, hcursor]

/-- An event that is no turn is none on a subject, and gives nobody a request. -/
theorem quiet_of_turn?_eq_none {event : BusEvent} (h : event.turn? = none) (subject : String) :
    event.turnOn? subject = none ∧ ∀ i, event.assigns subject i = false := by
  cases event <;> first | exact ⟨rfl, fun _ => rfl⟩ | cases h

/-- **Who gets a request**: on a subject that keeps its subscribers, everybody gets those that are routed
in turns of its own. -/
theorem assigned_of_follow (hf : follow moves { bus := b } = some r)
    (hsame : ∀ s ∈ moments moves { bus := b }, s.bus.route subject = subs)
    (j : Nat) (hj : j < subs.length) : r.assigned subject subs[j] =
      (r.turnsOn subject).countP (· % subs.length = j) := by
  have hnodup : subs.Nodup := by
    rw [← hsame _ (mem_moments_start moves _)]
    exact List.Nodup.filter _ List.nodup_range
  refine follow_induction hf ?_ ?_
  · rfl
  intro m s s' hs _ hlaw hm
  obtain ⟨v, event?, rfl, heffect⟩ := effect_of_step? hm
  rw [assigned, turnsOn, become, List.countP_append, List.filterMap_append, List.countP_append,
    ← assigned, ← turnsOn, hlaw, Nat.add_left_cancel_iff]
  rcases effect_turn heffect with ⟨c, asked, i, hi, -, rfl⟩ | ⟨-, hnone⟩
  · by_cases hasked : asked = subject
    · subst hasked
      rw [hsame s hs] at hi
      obtain ⟨hlt, rfl⟩ := List.getElem?_eq_some_iff.mp hi
      have hiff : subs[s.bus.cursor.toNat % subs.length] = subs[j] ↔
          s.bus.cursor.toNat % subs.length = j := hnodup.getElem_inj_iff
      simp [BusEvent.assigns, BusEvent.turnOn?, List.countP_cons, hiff]
    · simp [BusEvent.assigns, BusEvent.turnOn?, hasked]
  · cases event? with
    | none => rfl
    | some event =>
      obtain ⟨hturn, hassigns⟩ := quiet_of_turn?_eq_none (hnone event rfl) subject
      simp [hturn, hassigns]

/-! ### All moments of a run -/

/-- The turns up to a moment come first. -/
theorem turnsOn_of_mem_moments (hf : follow moves r = some r') (hs : s ∈ moments moves r)
    (subject : String) :
    s.turnsOn subject = (r'.turnsOn subject).take (s.turnsOn subject).length :=
  List.prefix_iff_eq_take.mp ((prefix_of_mem_moments hf hs).filterMap _)

/-- **A run comes through every number of turns** on its way, one by one. -/
theorem exists_moment {n : Nat} (hf : follow moves r = some r') (subject : String)
    (hstart : (r.turnsOn subject).length ≤ n) (hend : n ≤ (r'.turnsOn subject).length) :
    ∃ s ∈ moments moves r, (s.turnsOn subject).length = n := by
  induction moves generalizing r with
  | nil =>
    obtain rfl := Option.some.inj hf
    exact ⟨r, mem_moments_start [] r, Nat.le_antisymm hstart hend⟩
  | cons m moves ih =>
    obtain ⟨next, hm, hf⟩ := Option.bind_eq_some_iff.mp hf
    rcases Nat.eq_or_lt_of_le hstart with hnow | hlater
    · exact ⟨r, mem_moments_start _ r, hnow⟩
    · obtain ⟨v, event?, rfl, -⟩ := effect_of_step? hm
      have hone : (List.filterMap (BusEvent.turnOn? subject) event?.toList).length ≤ 1 := by
        refine (List.length_filterMap_le _ _).trans ?_
        cases event? <;> simp
      have hnext : ((r.become v event?).turnsOn subject).length ≤ n := by
        rw [turnsOn, become, List.filterMap_append, List.length_append, ← turnsOn]
        omega
      obtain ⟨s, hs, hlength⟩ := ih hf hnext
      exact ⟨s, (mem_moments_cons hm).mpr (Or.inr hs), hlength⟩

/-- How many of the first turns are one's own, counted one by one. -/
theorem countP_take {turns : List Nat} {n : Nat} (hn : n ≤ turns.length) (k j : Nat) :
    (turns.take n).countP (· % k = j) = Nat.count (fun a => turns[a]?.getD 0 % k = j) n := by
  induction n with
  | zero => simp
  | succ n ih =>
    have hlt : n < turns.length := hn
    rw [List.take_succ_eq_append_getElem hlt, List.countP_append, ih hlt.le, Nat.count_succ,
      List.getElem?_eq_getElem hlt, Option.getD_some, List.countP_singleton]
    simp

/-- Turns serve everybody once in every round if two of one round that are for the same are one. -/
theorem inRotation_iff {turns : List Nat} {k : Nat} : InRotation k turns ↔
    ∀ a b, a < turns.length → b < turns.length → a / k = b / k →
      turns[a]?.getD 0 % k = turns[b]?.getD 0 % k → a = b := by
  constructor
  · intro h a b ha hb hround hsame
    rw [List.getElem?_eq_getElem ha, List.getElem?_eq_getElem hb] at hsame
    exact h a b _ _ (List.getElem?_eq_getElem ha) (List.getElem?_eq_getElem hb) hround hsame
  · intro h a b t u ht hu hround hsame
    refine h a b (List.getElem?_eq_some_iff.mp ht).1 (List.getElem?_eq_some_iff.mp hu).1 hround ?_
    rw [ht, hu]
    exact hsame

/-- Turns without a gap serve everybody once in every round. -/
theorem inRotation_of_consecutive {turns : List Nat} {k : Nat} (start : Nat)
    (h : ∀ n t, turns[n]? = some t → t = start + n) : InRotation k turns := by
  intro n m t u ht hu hround hsame
  rw [h n t ht, h m u hu] at hsame
  have hrest : n % k = m % k := Nat.ModEq.add_left_cancel' start hsame
  rw [← Nat.div_add_mod n k, ← Nat.div_add_mod m k, hround, hrest]

/-- **Whether the subscribers of a subject have equal shares** of the requests on it, up to one. -/
def Balanced (r : BusRun) (subject : String) (subs : List InboxId) : Prop :=
  ∀ i ∈ subs, ∀ j ∈ subs, r.assigned subject i ≤ r.assigned subject j + 1

/-- Equal shares, by the turns up to a moment. -/
theorem balanced_iff (hf : follow moves { bus := b } = some r)
    (hsame : ∀ s ∈ moments moves { bus := b }, s.bus.route subject = subs)
    (hs : s ∈ moments moves { bus := b }) : s.Balanced subject subs ↔
      EvenShares subs.length fun j =>
        Nat.count (fun a => (r.turnsOn subject)[a]?.getD 0 % subs.length = j)
          (s.turnsOn subject).length := by
  obtain ⟨first, hfirst, hsub⟩ := exists_follow_of_mem_moments hs
  have hturns := turnsOn_of_mem_moments hf hs subject
  have hshare : ∀ j (hj : j < subs.length), s.assigned subject subs[j] =
      Nat.count (fun a => (r.turnsOn subject)[a]?.getD 0 % subs.length = j)
        (s.turnsOn subject).length := by
    intro j hj
    rw [assigned_of_follow hfirst (fun s' hs' => hsame s' (hsub s' hs')) j hj, ← countP_take, ← hturns]
    exact ((prefix_of_mem_moments hf hs).filterMap _).length_le
  constructor
  · intro h i hi j hj
    dsimp only
    rw [← hshare i hi, ← hshare j hj]
    exact h _ (List.getElem_mem hi) _ (List.getElem_mem hj)
  · intro h i hi j hj
    obtain ⟨i, hilt, rfl⟩ := List.getElem_of_mem hi
    obtain ⟨j, hjlt, rfl⟩ := List.getElem_of_mem hj
    rw [hshare i hilt, hshare j hjlt]
    exact h i hilt j hjlt

/-- **The shares of the subscribers of a subject**, in a run in which these stay the same. The requests
of all subjects together are routed in turns that follow each other, and everybody gets those on the
subject that are routed in turns of its own. Shares are equal up to one at every moment exactly if the
turns of the subject serve everybody once in every round, so they are if nothing else is routed. -/
theorem shares_of_follow (hf : follow moves { bus := b } = some r)
    (hsame : ∀ s ∈ moments moves { bus := b }, s.bus.route subject = subs) (hsubs : subs ≠ []) :
    (∀ n turn, r.turns[n]? = some turn → turn = (b.cursor.toNat + n) % 2 ^ 64) ∧
    (∀ j (hj : j < subs.length), r.assigned subject subs[j] =
      (r.turnsOn subject).countP (· % subs.length = j)) ∧
    ((∀ s ∈ moments moves { bus := b }, s.Balanced subject subs) ↔
      InRotation subs.length (r.turnsOn subject)) ∧
    (r.turnsOn subject = r.turns → b.cursor.toNat + r.turns.length ≤ 2 ^ 64 →
      ∀ s ∈ moments moves { bus := b }, s.Balanced subject subs) := by
  have hk : 0 < subs.length := List.length_pos_iff.mpr hsubs
  have hturn : ∀ n turn, r.turns[n]? = some turn → turn = (b.cursor.toNat + n) % 2 ^ 64 := by
    intro n turn h
    obtain ⟨total, hturns, -⟩ := turns_of_follow hf
    rw [hturns, List.getElem?_map, Option.map_eq_some_iff] at h
    obtain ⟨k, hk, rfl⟩ := h
    obtain ⟨hlt, rfl⟩ := List.getElem?_eq_some_iff.mp hk
    rw [List.getElem_range]
  have heven := evenShares_iff (k := subs.length)
    (p := fun a => (r.turnsOn subject)[a]?.getD 0 % subs.length) (fun a => Nat.mod_lt _ hk)
    (r.turnsOn subject).length
  have hiff : (∀ s ∈ moments moves { bus := b }, s.Balanced subject subs) ↔
      InRotation subs.length (r.turnsOn subject) := by
    rw [inRotation_iff, ← heven]
    constructor
    · intro h n hn
      obtain ⟨s, hs, rfl⟩ := exists_moment hf subject (Nat.zero_le n) hn
      exact (balanced_iff hf hsame hs).mp (h s hs)
    · intro h s hs
      refine (balanced_iff hf hsame hs).mpr (h _ ?_)
      exact ((prefix_of_mem_moments hf hs).filterMap _).length_le
  refine ⟨hturn, assigned_of_follow hf hsame, hiff, fun honly hwrap => hiff.mpr ?_⟩
  refine inRotation_of_consecutive b.cursor.toNat fun n t ht => ?_
  rw [honly] at ht
  have hn := (List.getElem?_eq_some_iff.mp ht).1
  rw [hturn n t ht, Nat.mod_eq_of_lt (by omega)]

/-! ### Two subscribers and another subject -/

/-- The bus with two subscribers of a subject and one of another. -/
def crossroads : MemoryBus :=
  { inboxes := [{ subject := "news" }, { subject := "news" }, { subject := "tips" }] }

/-- Requests on the two subjects by turns: each is asked and routed. -/
def byTurns : List Move :=
  [.ask "news" [] [], .advance 0, .ask "tips" [] [], .advance 1, .ask "news" [] [], .advance 2]

/-- At the crossroads everybody gets the requests in turns of its own: the first subscriber both. -/
theorem shares_at_crossroads : ∃ r, follow byTurns { bus := crossroads } = some r ∧
    r.turns = [0, 1, 2] ∧ r.turnsOn "news" = [0, 2] ∧
      r.assigned "news" 0 = [0, 2].countP (· % 2 = 0) ∧
      r.assigned "news" 1 = [0, 2].countP (· % 2 = 1) := by
  obtain ⟨r, hf⟩ : ∃ r, follow byTurns { bus := crossroads } = some r := ⟨_, rfl⟩
  have hsame : ∀ s ∈ moments byTurns { bus := crossroads }, s.bus.route "news" = [0, 1] := by
    decide
  obtain ⟨-, hlaw, -, -⟩ := shares_of_follow hf hsame (List.cons_ne_nil 0 [1])
  have hturns : r.turns = [0, 1, 2] ∧ r.turnsOn "news" = [0, 2] := by
    cases hf
    decide
  refine ⟨r, hf, hturns.1, hturns.2, ?_, ?_⟩
  · rw [← hturns.2]
    exact hlaw 0 (by decide)
  · rw [← hturns.2]
    exact hlaw 1 (by decide)

/-- **Shares that are not equal**: both subscribers are there all the time, and the first gets both
requests. -/
theorem not_balanced_at_crossroads : ∃ r, follow byTurns { bus := crossroads } = some r ∧
    (∀ s ∈ moments byTurns { bus := crossroads }, s.bus.route "news" = [0, 1]) ∧
      r.assigned "news" 0 = 2 ∧ r.assigned "news" 1 = 0 ∧ ¬ r.Balanced "news" [0, 1] := by
  obtain ⟨r, hf⟩ : ∃ r, follow byTurns { bus := crossroads } = some r := ⟨_, rfl⟩
  have hassigned : r.assigned "news" 0 = 2 ∧ r.assigned "news" 1 = 0 := by
    cases hf
    decide
  refine ⟨r, hf, by decide, hassigned.1, hassigned.2, fun h => ?_⟩
  have hmore := h 0 (by decide) 1 (by decide)
  rw [hassigned.1, hassigned.2] at hmore
  exact absurd hmore (by decide)

/-- **One more request** is routed to whose turn it is, and leaves the inboxes alone. -/
theorem follow_request {i : InboxId} (hopen : r.bus.closed = false)
    (hi : (r.bus.route subject)[r.bus.cursor.toNat % (r.bus.route subject).length]? = some i) :
    ∃ moves r', follow moves r = some r' ∧
      (∀ s ∈ moments moves r, s.bus.inboxes = r.bus.inboxes) ∧
        r'.bus.closed = false ∧ r'.bus.cursor = r.bus.cursor + 1 ∧
          r'.events = r.events ++ [.routed r.bus.calls.length subject i r.bus.cursor.toNat] := by
  have hcall : (r.bus.ask { subject }).calls[r.bus.calls.length]? = some { subject } := by
    rw [MemoryBus.ask, List.getElem?_concat_length]
  have hstep := MemoryBus.step_of_turn hcall rfl hopen hi
  have hask : r.step? (.ask subject [] []) = some (r.become (r.bus.ask { subject }) none) := rfl
  have hadvance := step?_advance (r := r.become (r.bus.ask { subject }) none) hstep
  have hf : follow [.ask subject [] [], .advance r.bus.calls.length] r = _ :=
    (congrArg (Option.bind · (follow [.advance r.bus.calls.length])) hask).trans
      (congrArg (Option.bind · (follow [])) hadvance)
  refine ⟨_, _, hf, fun s hs => ?_, hopen, rfl, ?_⟩
  · rw [mem_moments_cons hask, mem_moments_cons hadvance] at hs
    rcases hs with rfl | rfl | hs
    · rfl
    · rfl
    · rw [List.mem_singleton.mp hs]
      rfl
  · have hevent := stepEvent?_setStage (b := r.bus.ask { subject })
      (v := { r.bus.ask { subject } with cursor := r.bus.cursor + 1 }) hcall (.picked i)
    show (r.events ++ []) ++ _ = _
    rw [List.append_nil]
    exact congrArg (r.events ++ Option.toList ·) hevent

/-- The first subscriber at the crossroads is ahead by so many requests, all that there were, and it is
its turn again. -/
structure Drifted (r : BusRun) (n : Nat) : Prop where
  inboxes : r.bus.inboxes = crossroads.inboxes
  up : r.bus.closed = false
  turn : r.bus.cursor.toNat % 2 = 0
  first : r.assigned "news" 0 = n
  second : r.assigned "news" 1 = 0

/-- Who gets requests at the crossroads. -/
theorem route_crossroads (h : b.inboxes = crossroads.inboxes) :
    b.route "news" = [0, 1] ∧ b.route "tips" = [2] := by
  rw [MemoryBus.route, MemoryBus.route, h]
  decide

/-- **One round**: the first subscriber gets a request, and one on the other subject takes the turn of
the second. -/
theorem Drifted.round {n : Nat} (h : r.Drifted n) : ∃ moves r', follow moves r = some r' ∧
    (∀ s ∈ moments moves r, s.bus.inboxes = crossroads.inboxes) ∧ r'.Drifted (n + 1) := by
  have hnews : (r.bus.route "news")[r.bus.cursor.toNat % (r.bus.route "news").length]? = some 0 := by
    rw [(route_crossroads h.inboxes).1, show [0, 1].length = 2 from rfl, h.turn]
    rfl
  obtain ⟨ask, r₁, hf₁, hinboxes₁, hopen₁, hcursor₁, hevents₁⟩ := follow_request h.up hnews
  have hat₁ := (hinboxes₁ r₁ (mem_moments_end hf₁)).trans h.inboxes
  have htips : (r₁.bus.route "tips")[r₁.bus.cursor.toNat % (r₁.bus.route "tips").length]? =
      some 2 := by
    rw [(route_crossroads hat₁).2, List.length_singleton, Nat.mod_one]
    rfl
  obtain ⟨more, r₂, hf₂, hinboxes₂, hopen₂, hcursor₂, hevents₂⟩ := follow_request hopen₁ htips
  obtain ⟨hfollow, hmoments⟩ := follow_append hf₁ more
  refine ⟨ask ++ more, r₂, hfollow.trans hf₂, fun s hs => ?_, ?_, hopen₂, ?_, ?_, ?_⟩
  · rcases hmoments s hs with hs | hs
    · exact (hinboxes₁ s hs).trans h.inboxes
    · exact (hinboxes₂ s hs).trans hat₁
  · exact (hinboxes₂ r₂ (mem_moments_end hf₂)).trans hat₁
  · have heven := h.turn
    rw [hcursor₂, hcursor₁, UInt64.toNat_add, UInt64.toNat_add, UInt64.toNat_one]
    omega
  · rw [assigned, hevents₂, hevents₁, List.countP_append, List.countP_append, ← assigned, h.first]
    rfl
  · rw [assigned, hevents₂, hevents₁, List.countP_append, List.countP_append, ← assigned, h.second]
    rfl

/-- **Shares drift apart**: whatever the number, the first subscriber may get so many requests and the
second none, while both are there all the time. -/
theorem exists_drift (n : Nat) : ∃ moves r, follow moves { bus := crossroads } = some r ∧
    (∀ s ∈ moments moves { bus := crossroads }, s.bus.route "news" = [0, 1]) ∧
      r.assigned "news" 0 = n ∧ r.assigned "news" 1 = 0 := by
  suffices ∃ moves r, follow moves { bus := crossroads } = some r ∧
      (∀ s ∈ moments moves { bus := crossroads }, s.bus.inboxes = crossroads.inboxes) ∧
        r.Drifted n by
    obtain ⟨moves, r, hf, hinboxes, hdrifted⟩ := this
    exact ⟨moves, r, hf, fun s hs => (route_crossroads (hinboxes s hs)).1, hdrifted.first,
      hdrifted.second⟩
  induction n with
  | zero =>
    refine ⟨[], _, rfl, fun s hs => ?_, rfl, rfl, rfl, rfl, rfl⟩
    rw [List.mem_singleton.mp hs]
  | succ n ih =>
    obtain ⟨moves, r, hf, hinboxes, hdrifted⟩ := ih
    obtain ⟨round, r', hround, hinboxes', hdrifted'⟩ := hdrifted.round
    obtain ⟨hfollow, hmoments⟩ := follow_append hf round
    refine ⟨moves ++ round, r', hfollow.trans hround, fun s hs => ?_, hdrifted'⟩
    exact (hmoments s hs).elim (hinboxes s) (hinboxes' s)

end BusRun

end ServiceBus.Bus
