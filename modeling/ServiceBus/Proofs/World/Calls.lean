import ServiceBus.Proofs.World.Custody
import ServiceBus.Proofs.World.Services

/-! # Calls are attended

In every run a call is over if and only if no task sees it through any more, and while it waits
somebody has its request.

* `World.Accounted`: what holds of the calls of a world.
* `World.Accounted.of_steps`: it holds in every run. -/

namespace ServiceBus.Bus

namespace World

variable {w w' : World} {id j c i : Nat}

/-! ### Tasks that see calls through -/

/-- The program of a task that sees a call through. -/
theorem Exchanges.program (h : w.Exchanges id c) : ∃ context? begun client? conclude,
    w.program? id = some (.exchange c context? begun client? conclude) := by
  obtain ⟨context?, conclude, h⟩ := h
  obtain ⟨program, hp, hrole⟩ := Option.map_eq_some_iff.mp h
  cases program with
  | exchange call context?' begun client? conclude' =>
    cases hrole
    exact ⟨_, _, _, _, hp⟩
  | _ => cases hrole

/-- Who has the program sees the call through. -/
theorem exchanges_of_program {context? : Option Context} {begun : Bool} {client? : Option ClientId}
    {conclude : Except TransportError Message → Logged Outcome}
    (h : w.program? id = some (.exchange c context? begun client? conclude)) : w.Exchanges id c :=
  ⟨_, _, role?_eq h⟩

/-- A task that has ended sees no call through. -/
theorem not_exchanges (h : w.program? id = none) : ¬ w.Exchanges id c := fun hex => by
  obtain ⟨_, _, _, _, hp⟩ := hex.program
  rw [h] at hp
  cases hp

/-- **A task sees its call through** or ends with it. -/
theorem exchange_of_turn (h : w.turn id = some w') (hex : w.Exchanges id c) {s : Call.Stage}
    (hs : w.bus.stage? c = some s) (hover : s ≠ .over) :
    (w'.Exchanges id c ∧ ∃ s', w'.bus.stage? c = some s' ∧ s' ≠ .over) ∨
      ¬ w'.Exchanges id c ∧ w'.bus.stage? c = some .over := by
  obtain ⟨context?, begun, client?, conclude, hp⟩ := hex.program
  rw [turn, hp, Option.bind_eq_bind, Option.bind_some] at h
  obtain ⟨s', hs', hiff⟩ := MemoryBus.stage?_poll hs hover
  obtain ⟨v, result, rfl, hcase⟩ | ⟨hnone, -, rfl⟩ := turnExchange_cases h
  · refine Or.inr ⟨not_exchanges (program?_finish_self _ _ _), ?_⟩
    rw [(alone_finish (v.absorb (conclude result)) id (conclude result).value).bus]
    show v.bus.stage? c = _
    rcases hcase with ⟨e, -, -, rfl, -⟩ | ⟨rfl, hresult⟩ | ⟨e, -, -, rfl, -⟩
    · exact MemoryBus.stage?_abandon hs
    · exact hs'.trans (congrArg some (hiff.mpr (by rw [hresult]; rfl)))
    · exact MemoryBus.stage?_abandon hs'
  · have hlt : id < (w.withBus (w.bus.poll c).1).tasks.length := lt_of_program? hp
    refine Or.inl ⟨exchanges_of_program (program?_setProgram_self hlt _), s', hs', fun heq => ?_⟩
    have hsome := hiff.mp heq
    rw [hnone] at hsome
    cases hsome

/-! ### Lines and numbers -/

/-- Steps leave alone what calls send, apart from the beginning of a call. -/
theorem Tells.letters (h : w.Tells w') : w'.bus.letters = w.bus.letters := by
  cases h with
  | releases lost gone h => exact h.letters
  | answers d reply h =>
    rw [h, MemoryBus.answer]
    split
    · exact MemoryBus.letters_setStage _ _ _
    · rfl
  | advances id d _ _ h => exact h.letters

/-- No inbox goes away. -/
theorem Tells.inboxes (h : w.Tells w') : w.bus.inboxes.length ≤ w'.bus.inboxes.length := by
  cases h with
  | releases lost gone h => exact h.inboxes
  | answers d reply h => rw [h, MemoryBus.inboxes_answer]
  | advances id d _ _ h => exact h.inboxes.symm.le

/-- Steps make no calls, apart from the beginning of a call. -/
theorem Tells.calls (h : w.Tells w') : w'.bus.calls.length = w.bus.calls.length := by
  have hletters := congrArg List.length h.letters
  rwa [MemoryBus.letters, MemoryBus.letters, List.length_map, List.length_map] at hletters

/-- Who stands in a line is a call that waits for room. -/
def Lined (b : MemoryBus) : Prop := ∀ i c : Nat, b.Queues i c → b.stage? c = some (.inLine i)

/-- Steps leave nobody in a line who does not wait for room. -/
theorem Tells.lined (h : w.Tells w') (hl : Lined w.bus) : Lined w'.bus := by
  intro i c hq
  cases h with
  | releases lost gone h =>
    have hline := hl i c ((h.queues i c).mp hq)
    rcases h.stages c with hs | ⟨-, k, hk, -⟩
    · exact hs.trans hline
    · rw [hline] at hk
      cases hk
  | answers d reply h =>
    rw [h, MemoryBus.Queues, MemoryBus.inboxes_answer] at hq
    have hline := hl i c hq
    rw [h, MemoryBus.stage?_answer]
    split
    · rename_i hd
      rw [← hd, hline]
      rfl
    · exact hline
  | advances id d _ _ h =>
    by_cases hd : c = d
    · rw [hd] at hq ⊢
      exact h.lined (fun k hk => hl k d hk) i hq
    · exact (h.stages c hd).trans (hl i c ((h.queues i c hd).mp hq))

/-! ### The invariant -/

/-- **What holds of the calls of a world.** -/
structure Accounted (w : World) : Prop where
  held_lt : ∀ c, w.Held c → c < w.bus.calls.length
  exchanges_lt : ∀ j c : Nat, w.Exchanges j c → c < w.bus.calls.length
  unique : ∀ j k c : Nat, w.Exchanges j c → w.Exchanges k c → j = k
  going : ∀ j c : Nat, w.Exchanges j c → w.bus.stage? c ≠ some .over
  attended : ∀ (c : Nat) s, w.bus.stage? c = some s → s ≠ .over → ∃ j : Nat, w.Exchanges j c
  held : ∀ c, w.bus.Waits c → w.Held c
  lined : Lined w.bus

/-- A call that there is has a stage. -/
theorem exists_stage (h : c < w.bus.calls.length) : ∃ s, w.bus.stage? c = some s :=
  ⟨_, congrArg (Option.map _) (List.getElem?_eq_getElem h)⟩

/-- A call that has a stage is one that there is. -/
theorem lt_of_stage {s : Call.Stage} (h : w.bus.stage? c = some s) : c < w.bus.calls.length := by
  obtain ⟨call, hcall, -⟩ := Option.map_eq_some_iff.mp h
  exact (List.getElem?_eq_some_iff.mp hcall).1

/-- There are no calls on an empty bus. -/
theorem stage?_empty (c : Nat) : (({} : World).bus).stage? c = none := by
  rw [MemoryBus.stage?, List.getElem?_nil]
  rfl

/-- Nobody has a request in an empty world. -/
theorem not_held_empty (c : Nat) : ¬ Held {} c := by
  intro h
  cases h with
  | stored i r h =>
    obtain ⟨inbox, hinbox, -⟩ := h
    cases hinbox
  | named name r h =>
    rw [show ({} : World).desk.requests = ∅ from rfl, Std.TreeMap.getElem?_emptyc] at h
    cases h
  | offered j pool job h =>
    rw [hand?_eq_none (program?_empty j)] at h
    cases h
  | pooled pool p job h => cases h
  | running j run h =>
    rw [hand?_eq_none (program?_empty j)] at h
    cases h

/-- At the beginning there are no calls. -/
theorem Accounted.empty : Accounted {} where
  held_lt c h := absurd h (not_held_empty c)
  exchanges_lt j c h := absurd h (not_exchanges (program?_empty j))
  unique j k c h := absurd h (not_exchanges (program?_empty j))
  going j c h := absurd h (not_exchanges (program?_empty j))
  attended c s h := by
    rw [stage?_empty] at h
    cases h
  held c h := by
    obtain ⟨i, h⟩ := h
    rw [stage?_empty] at h
    cases h
  lined i c h := by
    obtain ⟨inbox, hinbox, -⟩ := h
    cases hinbox

/-- Who has the request of a call after a step had it from somebody, or sees the call through. -/
theorem Custody.held_back (h : w.Custody w') (hc : w'.Held c) :
    w.Held c ∨ ∃ j : Nat, w.Exchanges j c := by
  cases hc with
  | stored i r hr hc => exact (h.stored c i r hc hr).imp_left fun hr => .stored i r hr hc
  | named name r hr hc =>
    rcases h.named c name r hc hr with hr | ⟨j, _, i, -, hr⟩
    · exact Or.inl (.named name r hr hc)
    · exact Or.inl (.stored i r hr hc)
  | offered j P job hj hc =>
    rcases h.offered c j P job hc hj with hj | ⟨d, -, -, hr, -⟩
    · exact Or.inl (.offered j P job hj hc)
    · exact Or.inl (.stored d.inbox _ hr hc)
  | pooled P p' job hp hj hc =>
    rcases h.pooled c P p' job hc hp hj with ⟨p, hp, hj⟩ | ⟨j, hj⟩
    · exact Or.inl (.pooled P p job hp hj hc)
    · exact Or.inl (.offered j P job hj hc)
  | running j run hj hc =>
    rcases h.running c j run hc hj with hj | hj
    · exact Or.inl (.running j run hj hc)
    · cases hj with
      | taken d _ _ hr => exact Or.inl (.stored d.inbox _ hr hc)
      | refused P p job hp _ hrequest had =>
        rw [hrequest] at hc
        rcases had with hj | hj
        · exact Or.inl (.pooled P p job hp hj hc)
        · exact Or.inl (.offered j P job hj hc)
      | picked P i p job hp _ hj hrun =>
        rw [hrun] at hc
        exact Or.inl (.pooled P p job hp hj hc)
      | went before v hj hturn =>
        refine Or.inl (.running j before hj ?_)
        rcases turnRun_bus hturn with ⟨-, -, hnone⟩ | ⟨_, _, _, next, -, hnext, hnone, -⟩ |
          ⟨-, -, next, hnext, hrequest⟩
        · exact absurd rfl (hnone run)
        · cases hnext
          rw [Request.IsOf, hnone] at hc
          cases hc
        · cases hnext
          rwa [hrequest] at hc

/-- A task either goes on with its call, or the call is over. -/
theorem Accounted.fate (h : w.Accounted) (hc : w.Custody w')
    (hforth : ∀ j c : Nat, w.Exchanges j c → w'.Exchanges j c ∨ w.turn j = some w')
    (hex : w.Exchanges j c) :
    (w'.Exchanges j c ∧ ∃ s, w'.bus.stage? c = some s ∧ s ≠ .over) ∨
      ¬ w'.Exchanges j c ∧ w'.bus.stage? c = some .over := by
  obtain ⟨s, hs⟩ := exists_stage (h.exchanges_lt j c hex)
  have hover : s ≠ .over := fun heq => h.going j c hex (heq ▸ hs)
  rcases hforth j c hex with hex' | hturn
  · rcases hc.stages c with ⟨hnone, -⟩ | hsame | ⟨k, hk, hturn⟩ | ⟨i, -, reply, hi, -⟩ |
      ⟨i, -, hi, -⟩
    · rw [hs] at hnone
      cases hnone
    · exact Or.inl ⟨hex', s, hsame.trans hs, hover⟩
    · rw [h.unique k j c hk hex] at hturn
      exact exchange_of_turn hturn hex hs hover
    · exact Or.inl ⟨hex', _, hi, by simp⟩
    · exact Or.inl ⟨hex', _, hi, by simp⟩
  · exact exchange_of_turn hturn hex hs hover

/-- A step that begins no call. -/
theorem Accounted.keeps (h : w.Accounted) (hc : w.Custody w') (ht : w.Tells w')
    (hback : ∀ j c : Nat, w'.Exchanges j c → w.Exchanges j c)
    (hforth : ∀ j c : Nat, w.Exchanges j c → w'.Exchanges j c ∨ w.turn j = some w') :
    w'.Accounted where
  held_lt c hheld := by
    rw [ht.calls]
    rcases hc.held_back hheld with hheld | ⟨j, hj⟩
    · exact h.held_lt c hheld
    · exact h.exchanges_lt j c hj
  exchanges_lt j c hj := by
    rw [ht.calls]
    exact h.exchanges_lt j c (hback j c hj)
  unique j k c hj hk := h.unique j k c (hback j c hj) (hback k c hk)
  going j c hj := by
    rcases h.fate hc hforth (hback j c hj) with ⟨-, s, hs, hover⟩ | ⟨hnot, -⟩
    · rw [hs]
      exact fun heq => hover (Option.some.inj heq)
    · exact absurd hj hnot
  attended c s hs hover := by
    have hlt := ht.calls ▸ lt_of_stage hs
    obtain ⟨s₀, hs₀⟩ := exists_stage hlt
    have hbefore : s₀ ≠ .over ∨ ∃ j, w.Exchanges j c := by
      rcases hc.stages c with ⟨hnone, -⟩ | hsame | ⟨j, hj, -⟩ | ⟨i, hi, -⟩ | ⟨i, hi, -⟩
      · rw [hs₀] at hnone
        cases hnone
      · rw [hs, hs₀] at hsame
        exact Or.inl (Option.some.inj hsame ▸ hover)
      · exact Or.inr ⟨j, hj⟩
      · rw [hs₀] at hi
        exact Or.inl (by simp [Option.some.inj hi])
      · rw [hs₀] at hi
        exact Or.inl (by simp [Option.some.inj hi])
    obtain ⟨j, hj⟩ := hbefore.elim (h.attended c s₀ hs₀) fun h => h
    rcases h.fate hc hforth hj with ⟨hj', -⟩ | ⟨-, hnot⟩
    · exact ⟨j, hj'⟩
    · rw [hs] at hnot
      exact absurd (Option.some.inj hnot) hover
  held c hw := by
    obtain ⟨i, hi⟩ := hw
    rcases hc.stages c with ⟨-, hnone⟩ | hsame | ⟨j, hj, hturn⟩ | ⟨_, -, reply, hi', -⟩ |
      ⟨_, -, hi', -⟩
    · rw [hi] at hnone
      cases hnone
    · exact hc.held c (h.held c ⟨i, hsame ▸ hi⟩) ⟨i, hi⟩
    · have hlt := h.exchanges_lt j c hj
      obtain ⟨context?, begun, client?, conclude, hp⟩ := hj.program
      rw [turn, hp, Option.bind_eq_bind, Option.bind_some] at hturn
      rcases (turnExchange_bus hturn).waits i hi with hw | ⟨r, hr, hs⟩
      · exact hc.held c (h.held c ⟨i, hw⟩) ⟨i, hi⟩
      · exact .stored i r hs hr
    · rw [hi] at hi'
      cases hi'
    · rw [hi] at hi'
      cases hi'
  lined := ht.lined h.lined

section Ask

variable {call : Call} {context? : Option Context} {client? : Option ClientId}
  {conclude : Except TransportError Message → Logged Outcome} {name? : Option String}

/-- Who sees a call through after one more began did so before, or is the new task. -/
theorem exchanges_ask (h : ((w.withBus (w.bus.ask call)).spawn
      (.exchange w.bus.calls.length context? false client? conclude) name?).Exchanges j c) :
    w.Exchanges j c ∨ j = w.tasks.length ∧ c = w.bus.calls.length := by
  obtain ⟨context?', conclude', hj⟩ := h
  rw [role?, program?_spawn] at hj
  split at hj
  · rename_i heq
    cases hj
    exact Or.inr ⟨heq, rfl⟩
  · exact Or.inl ⟨context?', conclude', hj⟩

/-- Who sees a call through goes on with it when one more begins. -/
theorem Exchanges.ask (h : w.Exchanges j c) : ((w.withBus (w.bus.ask call)).spawn
    (.exchange w.bus.calls.length context? false client? conclude) name?).Exchanges j c := by
  obtain ⟨context?', conclude', hj⟩ := h
  obtain ⟨program, hp, hrole⟩ := Option.map_eq_some_iff.mp hj
  have hp' := program?_spawn_of_some (w := w.withBus (w.bus.ask call)) hp
    (.exchange w.bus.calls.length context? false client? conclude) name?
  exact ⟨context?', conclude', (role?_eq hp').trans (congrArg some hrole)⟩

/-- A call that begins. -/
theorem Accounted.ask (h : w.Accounted) (hasking : call.stage = .asking) :
    ((w.withBus (w.bus.ask call)).spawn
      (.exchange w.bus.calls.length context? false client? conclude) name?).Accounted := by
  have hc := w.custody_ask hasking context? client? conclude name?
  have hlength : (w.bus.ask call).calls.length = w.bus.calls.length + 1 := by
    rw [MemoryBus.ask, List.length_append, List.length_singleton]
  have hnew : ∀ {j d : Nat}, w.Exchanges j d → d ≠ w.bus.calls.length := fun hj =>
    Nat.ne_of_lt (h.exchanges_lt _ _ hj)
  exact {
    held_lt := fun d hd => by
      refine Nat.lt_of_lt_of_eq (Nat.lt_succ_of_lt ?_) hlength.symm
      rcases hc.held_back hd with hd | ⟨j, hj⟩
      · exact h.held_lt d hd
      · exact h.exchanges_lt j d hj
    exchanges_lt := fun j d hj => by
      refine Nat.lt_of_lt_of_eq ?_ hlength.symm
      rcases exchanges_ask hj with hj | ⟨-, rfl⟩
      · exact Nat.lt_succ_of_lt (h.exchanges_lt j d hj)
      · exact Nat.lt_succ_self _
    unique := fun j k d hj hk => by
      rcases exchanges_ask hj with hj | ⟨rfl, hd⟩ <;> rcases exchanges_ask hk with hk | ⟨rfl, hd'⟩
      · exact h.unique j k d hj hk
      · exact absurd hd' (hnew hj)
      · exact absurd hd (hnew hk)
      · rfl
    going := fun j d hj => by
      show (w.bus.ask call).stage? d ≠ _
      rw [stage?_ask]
      rcases exchanges_ask hj with hj | ⟨-, hd⟩
      · rw [if_neg (hnew hj)]
        exact h.going j d hj
      · rw [if_pos hd, hasking]
        simp
    attended := fun d s hs hover => by
      replace hs : (w.bus.ask call).stage? d = some s := hs
      rw [stage?_ask] at hs
      split at hs
      · rename_i hd
        refine ⟨w.tasks.length, context?, conclude, ?_⟩
        rw [role?, program?_spawn, hd]
        exact congrArg (Option.map Program.role) (if_pos rfl)
      · obtain ⟨j, hj⟩ := h.attended d s hs hover
        exact ⟨j, hj.ask⟩
    held := fun d hd => by
      obtain ⟨i, hi⟩ := hd
      have hi' : (w.bus.ask call).stage? d = some (.waiting i) := hi
      rw [stage?_ask] at hi'
      split at hi'
      · rw [hasking] at hi'
        cases hi'
      · exact hc.held d (h.held d ⟨i, hi'⟩) ⟨i, hi⟩
    lined := fun i d hq => by
      show (w.bus.ask call).stage? d = _
      have hs := h.lined i d hq
      rw [stage?_ask, if_neg (Nat.ne_of_lt (lt_of_stage hs))]
      exact hs }

end Ask

/-- Every step accounts for the calls. -/
theorem Accounted.step (h : w.Accounted) (ha : w.Attended) (hs : w.Step w') : w'.Accounted := by
  have hc := hs.custody ha.pools
  obtain ⟨id, hturn⟩ | ⟨call, context?, client?, conclude, name?, hasking, rfl⟩ | hout :=
    hs.cases_outside
  · refine h.keeps hc (tells_of_turn ha.pools hturn)
      (fun j c ⟨context?, conclude, hj⟩ => ⟨context?, conclude, role_of_turn hturn hj⟩)
      fun j c hj => ?_
    by_cases hne : j = id
    · exact Or.inr (hne ▸ hturn)
    · obtain ⟨context?, conclude, hj⟩ := hj
      refine Or.inl ⟨context?, conclude, ?_⟩
      rw [role?, (others_of_turn hturn).2 j hne]
      exact hj
  · exact h.ask hasking
  · refine h.keeps hc hout.tells hout.exchanges fun j c hj => Or.inl ?_
    obtain ⟨_, _, _, _, hp⟩ := hj.program
    exact exchanges_of_program (hout.programs j _ hp)

/-- **In every run a call is seen through until it is over**, and while it waits somebody has its
request. -/
theorem Accounted.of_steps (h : Steps {} w) : w.Accounted := by
  induction h with
  | refl => exact .empty
  | tail h hs ih => exact ih.step (.of_steps h) hs

end World

end ServiceBus.Bus
