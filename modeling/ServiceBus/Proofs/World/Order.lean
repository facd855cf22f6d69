import ServiceBus.Proofs.World.Crew
import ServiceBus.Proofs.World.Traffic
import ServiceBus.Proofs.World.Way
import ServiceBus.Proofs.World.Whereabouts

/-! # The requests of a loop stay in order

A loop takes the requests of its inbox one by one, and goes on to the next when the pool has queued the
one that it had in hand. So they are queued, and later taken by executors, in the order in which they
came in, however many other loops submit to the same pool.

* `World.Serves`: nobody but the loop takes requests out of its inbox.
* `World.InHand`, `World.pipeline`: the request that the loop has in hand, and all that is on its way from
  the inbox to an executor. `pipeline_step`: no step changes the order there.
* `World.Along`: the requests that came into the inbox go through the hands of the loop only.
* `World.InOrder`: the invariant. `Carries.inOrder`: it holds in every run. -/

namespace ServiceBus.Bus

namespace World

variable {w w' v : World} {id t c i P : Nat} {d : Delivery} {p p' : WorkerPool Job} {g : Traffic}
  {r : Request} {hand : List Request}

/-! ### Loops and their inboxes -/

/-- **Whether nobody but a loop takes requests out of its inbox**, be it that the loop has ended. -/
structure Serves (w : World) (t : TaskId) (d : Delivery) : Prop where
  loop : w.Loops t d ∨ t < w.tasks.length ∧ w.program? t = none
  reader : ∀ x, w.Reads x d.inbox → x = .task t
  lt : d.inbox < w.bus.inboxes.length

/-- A loop is the reader of its inbox. -/
theorem Loops.serves (h : w.Loops t d) (hread : w.ReadOnce) : w.Serves t d where
  loop := Or.inl h
  reader x hx := hread.unique x (.task t) d.inbox hx h.reads
  lt := hread.lt _ _ h.reads

/-- A loop that ends hands its inbox to nobody. -/
theorem Serves.step (h : w.Serves t d) (ha : w.Attended) (hread : w.ReadOnce) (hs : w.Step w') :
    w'.Serves t d := by
  have hread' := hread.step ha hs
  rcases h.loop with hloop | ⟨hlt, hnone⟩
  · rcases hloop.step hs with hloop' | hnone'
    · exact hloop'.serves hread'
    · -- the loop ends in its own turn, and nothing gets a name there
      obtain ⟨d', hd', -⟩ := hloop.program
      have hturn : w.turn t = some w' := (hs.turn_or_program t).resolve_right fun hsame => by
        rw [hsame _ hd'] at hnone'
        cases hnone'
      have hdesk : w'.desk = w.desk := (desk_of_turn hturn).resolve_right fun hreceive => by
        obtain ⟨_, _, _, program, -⟩ := hreceive
        cases hd'.symm.trans program
      refine ⟨Or.inr ⟨(hs.ended (lt_of_program? hd')).1, hnone'⟩, fun x hx => h.reader x ?_,
        h.lt.trans_le (hs.inboxes ha.pools)⟩
      cases x with
      | name n =>
        rw [Reads, hdesk] at hx
        exact hx
      | task j => exact reads_of_turn hturn hx
  · obtain ⟨hlt', hended⟩ := hs.ended hlt
    refine ⟨Or.inr ⟨hlt', hended hnone⟩, fun x hx => ?_, h.lt.trans_le (hs.inboxes ha.pools)⟩
    -- who has ended reads nothing that it could hand on
    have hnot : ∀ k, ¬ w.Reads (.task t) k := fun k hk => by
      rw [Reads, role?, hnone] at hk
      cases hk
    cases hs.passes with
    | keeps hkeeps => exact h.reader x (hkeeps x _ hx)
    | opens y lt hopens =>
      exact h.reader x ((hopens x _ hx).resolve_right fun heq => Nat.ne_of_lt h.lt heq.2)
    | hands y y' k had hhands =>
      rcases hhands x _ hx with ⟨hx, -⟩ | ⟨-, hk⟩
      · exact h.reader x hx
      · have hy := h.reader y (hk ▸ had)
        exact absurd (hy ▸ had) (hnot k)

/-! ### What a loop has in hand -/

/-- **The request that a loop has in hand** for its pool, if any. -/
inductive InHand (w : World) (t : TaskId) (P : PoolId) : List Request → Prop
  | offered (job : Job) (h : w.hand? t = some (.submitting P (.offered job))) :
      InHand w t P [job.request]
  | waiting (ticket : Ticket) (p : WorkerPool Job) (job : Job) (hp : w.pools[P]? = some p)
      (h : (ticket, job) ∈ p.waiting) (hand : w.Places t P ticket) : InHand w t P [job.request]
  | free (h : ∀ Q s, w.hand? t ≠ some (.submitting Q s)) : InHand w t P []

/-- A loop has one request in hand for its pool, or none. -/
theorem exists_inHand (hm : w.Manned) (hloop : w.program? t = some (.deliver d))
    (hbound : d.handler.pool? = some P) : ∃ hand, w.InHand t P hand := by
  have hhand : w.hand? t = d.handling? := hand?_eq hloop
  cases hh : d.handling? with
  | none => exact ⟨_, .free fun Q s => by simp [hhand, hh]⟩
  | some handling =>
    cases handling with
    | running run => exact ⟨_, .free fun Q s => by simp [hhand, hh]⟩
    | submitting Q s =>
      obtain rfl : P = Q := Option.some.inj (hbound.symm.trans (hm.bound t d _ hloop hh))
      rw [hh] at hhand
      cases s with
      | offered job => exact ⟨_, .offered job hhand⟩
      | placed ticket =>
        obtain ⟨l, hl, hmem⟩ := (hm.placed.waits P ticket).mpr ⟨t, hhand⟩
        obtain ⟨p, hp, rfl⟩ := Option.map_eq_some_iff.mp hl
        obtain ⟨⟨_, job⟩, hjob, rfl⟩ := List.mem_map.mp hmem
        exact ⟨_, .waiting _ p job hp hjob hhand⟩

/-- What is in hand is past the inbox. -/
theorem InHand.at (h : w.InHand t P hand) (hr : r ∈ hand) :
    ∃ x : Place, x.IsPast ∧ ∀ c, r.IsOf c → w.At c x := by
  cases h with
  | offered job hhand =>
    cases List.mem_singleton.mp hr
    exact ⟨.offered t, trivial, fun c hc => ⟨P, job, hhand, hc⟩⟩
  | waiting ticket p job hp hmem =>
    cases List.mem_singleton.mp hr
    exact ⟨.waiting P ticket, trivial, fun c hc => ⟨p, job, hp, hmem, hc⟩⟩
  | free => cases hr

/-- A loop that has placed a submission has its job in hand. -/
theorem InHand.of_places (h : w.InHand t P hand) (hs : p.Sound) (hp : w.pools[P]? = some p)
    {ticket : Ticket} {job : Job} (hplaces : w.Places t P ticket) (hmem : (ticket, job) ∈ p.waiting) :
    hand = [job.request] := by
  cases h with
  | offered job' hhand => cases hhand.symm.trans hplaces
  | waiting ticket' p' job' hp' hmem' hplaces' =>
    cases hplaces'.symm.trans hplaces
    cases hp'.symm.trans hp
    have hnodup : (p.waiting.map Prod.fst).Nodup := hs.tickets_nodup.of_append_left.of_append_left
    have heq := List.inj_on_of_nodup_map hnodup hmem' hmem rfl
    rw [(Prod.mk.inj heq).2]
  | free hnot => exact absurd hplaces (hnot P _)

/-- A task that has nothing in hand has nothing in hand for its pool. -/
theorem InHand.eq_nil (h : w.InHand t P hand) (hnone : w.hand? t = none) : hand = [] := by
  cases h with
  | offered _ hhand => cases hnone.symm.trans hhand
  | waiting _ _ _ _ _ hplaces => cases hnone.symm.trans hplaces
  | free => rfl

/-- What is in the hand of a loop and what its inbox holds, in the turn of the loop. -/
theorem InHand.turn (h : w.InHand t P hand) (hserves : w.Serves t d) (hs : ∀ (P : Nat) p,
      w.pools[P]? = some p → p.Sound) (hbound : d.handler.pool? = some P)
    (hp : w.pools[P]? = some p) (hturn : w.turn t = some w') : ∃ hand', w'.InHand t P hand' ∧
      (hand' ++ (w'.bus.buffer d.inbox).take (w.bus.buffer d.inbox).length).Sublist
        (hand ++ w.bus.buffer d.inbox) := by
  have hbuffer := Step.take_sublist (.turn t hturn) d.inbox
  obtain ⟨p', hp', -, hflow⟩ := flow_of_turn hs hturn hp
  -- a loop that has nothing in hand afterwards
  have hfree : (∀ Q s, w'.hand? t ≠ some (.submitting Q s)) → ∃ hand', w'.InHand t P hand' ∧
      (hand' ++ (w'.bus.buffer d.inbox).take (w.bus.buffer d.inbox).length).Sublist
        (hand ++ w.bus.buffer d.inbox) := fun hnot =>
    ⟨[], .free hnot, hbuffer.trans (List.sublist_append_right _ _)⟩
  cases hflow with
  | rests hkeep waiting =>
    cases h with
    | offered job hhand => exact ⟨_, .offered job (hkeep _ hhand), hbuffer.append_left _⟩
    | waiting ticket q job hq hmem hplaces =>
      cases hq.symm.trans hp
      exact ⟨_, .waiting ticket p' job hp' (waiting.mem_iff.mpr hmem) (hkeep _ hplaces),
        hbuffer.append_left _⟩
    | free hnot =>
      by_cases hsub : ∃ Q s, w'.hand? t = some (.submitting Q s)
      · obtain ⟨Q, s, hhand'⟩ := hsub
        cases comesTo_of_turn hturn hhand' with
        | offers d' r _ hd' _ taken bound =>
          obtain ⟨_, hd, hinbox, -, -, hhandler⟩ := (hserves.loop.resolve_right fun hended => by
            cases hd'.symm.trans hended.2).program
          cases hd'.symm.trans hd
          obtain rfl : P = Q := Option.some.inj (hbound.symm.trans (hhandler ▸ bound))
          rw [hinbox] at taken
          -- the request goes from the front of the inbox into the hand
          refine ⟨_, .offered _ hhand', ?_⟩
          rw [(MemoryBus.buffer_take taken).1, List.nil_append]
          exact (List.take_sublist _ _).cons_cons r
        | places _ _ s _ hand => exact absurd hand (hnot Q s)
      · exact hfree fun Q s hhand' => hsub ⟨Q, s, hhand'⟩
  | joins job hhand hhand' waiting =>
    cases h with
    | offered job' hoffer =>
      cases hhand.symm.trans hoffer
      exact ⟨_, .waiting p.issued p' job hp' (waiting.mem_iff.mpr List.mem_cons_self) hhand',
        hbuffer.append_left _⟩
    | waiting _ _ _ _ _ hplaces => cases hhand.symm.trans hplaces
    | free hnot => exact absurd hhand (hnot P _)
  | queues _ _ _ hhand' => exact hfree fun Q s => by simp [hhand']
  | refuses _ _ hnot => exact hfree hnot
  | starts _ _ _ _ hhand' => exact hfree fun Q s => by simp [hhand']
  | ends _ _ _ hhand' => exact hfree fun Q s => by simp [hhand']

/-- **A loop takes into its hand the first request of its inbox.** -/
theorem InHand.step (h : w.InHand t P hand) (hserves : w.Serves t d) (hs : w.Step w')
    (hsound : ∀ (P : Nat) p, w.pools[P]? = some p → p.Sound) (hm : w.Manned)
    (hbound : d.handler.pool? = some P) (hp : w.pools[P]? = some p) : ∃ hand', w'.InHand t P hand' ∧
      (hand' ++ (w'.bus.buffer d.inbox).take (w.bus.buffer d.inbox).length).Sublist
        (hand ++ w.bus.buffer d.inbox) := by
  by_cases hturn : w.turn t = some w'
  · exact h.turn hserves hsound hbound hp hturn
  · -- the loop goes on with what it does
    have hhand : w'.hand? t = w.hand? t := by
      rcases hserves.loop with hloop | ⟨hlt, hnone⟩
      · obtain ⟨d', hd', -⟩ := hloop.program
        rw [hand?_eq hd', hand?_eq ((hs.turn_or_program t).resolve_left hturn _ hd')]
      · rw [hand?_eq_none hnone, hand?_eq_none ((hs.ended hlt).2 hnone)]
    refine ⟨hand, ?_, (hs.take_sublist d.inbox).append_left _⟩
    cases h with
    | offered job hoffer => exact .offered job (hhand.trans hoffer)
    | waiting ticket q job hq hmem hplaces =>
      obtain ⟨p', hp', hwaiting, -⟩ := hs.pool_forth hsound hq
      rcases hwaiting _ hmem with hmem' | ⟨id, hid, hplaces'⟩
      · exact .waiting ticket p' job hp' hmem' (hhand.trans hplaces)
      · rw [hm.placed.unique id t P ticket hplaces' hplaces] at hid
        exact absurd hid hturn
    | free hnot => exact .free fun Q s => hhand ▸ hnot Q s

/-! ### The way to the executors -/

/-- The requests that are on their way from an inbox to the executors of a pool, the one in the hand of a
loop among them. Those that are ahead stand in front. -/
def pipeline (w : World) (P : PoolId) (i : InboxId) (hand : List Request) : List Request :=
  (w.queued P).map (·.2.request) ++ (hand ++ w.bus.buffer i)

/-- **No step changes the order on the way**, apart from what somebody else queues. -/
theorem pipeline_step (h : w.InHand t P hand) (hserves : w.Serves t d) (hs : w.Step w')
    (hsound : ∀ (P : Nat) p, w.pools[P]? = some p → p.Sound) (hm : w.Manned)
    (hbound : d.handler.pool? = some P) (hp : w.pools[P]? = some p) : ∃ hand', w'.InHand t P hand' ∧
      ∀ f : Request → Bool, (∀ id ticket job, id ≠ t → w.Places id P ticket →
          (ticket, job) ∈ p.waiting → f job.request = false) →
        (((w.taken w' P).map (·.2.request) ++ w'.pipeline P d.inbox hand').filter f).Sublist
          ((w.pipeline P d.inbox hand ++ w.incoming w' d.inbox).filter f) := by
  obtain ⟨id, p', hp', -, hflow, -⟩ := hs.flow hsound hp
  obtain ⟨hand', hin', hsub⟩ := h.step hserves hs hsound hm hbound hp
  refine ⟨hand', hin', fun f hf => ?_⟩
  have hbefore : w.pipeline P d.inbox hand ++ w.incoming w' d.inbox =
      p.queue.map (·.2.request) ++ (hand ++ w.bus.buffer d.inbox ++ w.incoming w' d.inbox) := by
    rw [pipeline, queued_eq hp, List.append_assoc]
  have hafter : (w.taken w' P).map (·.2.request) ++ w'.pipeline P d.inbox hand' =
      (w.taken w' P ++ p'.queue).map (·.2.request) ++ (hand' ++ w'.bus.buffer d.inbox) := by
    rw [pipeline, queued_eq hp', ← List.append_assoc, ← List.map_append]
  have hrest : (hand' ++ w'.bus.buffer d.inbox).Sublist
      (hand ++ w.bus.buffer d.inbox ++ w.incoming w' d.inbox) := by
    have happend := hsub.append_right (w.incoming w' d.inbox)
    rwa [List.append_assoc, take_append_incoming] at happend
  rw [hbefore, hafter]
  rcases hflow.taken_append (hsound P p hp) hp hp' with heq | ⟨ticket, job, hplaces, hnone, hmem,
    htaken, hqueue⟩
  · rw [heq]
    exact (hrest.append_left _).filter f
  · rw [htaken, hqueue, List.nil_append, List.map_append, List.map_singleton, List.append_assoc]
    by_cases hid : id = t
    · -- the loop itself queues what it had in hand
      subst hid
      have hbuffer := (hs.take_sublist d.inbox).append_right (w.incoming w' d.inbox)
      rw [take_append_incoming] at hbuffer
      rw [hin'.eq_nil hnone, h.of_places (hsound P p hp) hp hplaces hmem, List.nil_append,
        List.append_assoc]
      exact ((hbuffer.append_left _).append_left _).filter f
    · have hnot : ¬ f job.request = true := by simp [hf id ticket job hid hplaces hmem]
      have hcons : ([job.request] ++ (hand' ++ w'.bus.buffer d.inbox)).filter f =
          (hand' ++ w'.bus.buffer d.inbox).filter f := List.filter_cons_of_neg hnot
      rw [List.filter_append, hcons, ← List.filter_append]
      exact (hrest.append_left _).filter f

/-! ### Who has the requests that came in -/

/-- **Whether the request of a call goes through the hands of a loop**, as long as it is on its way to the
queue of a pool. -/
structure Along (w : World) (t : TaskId) (d : Delivery) (P : PoolId) (c : CallId) : Prop where
  sent : w.bus.Sent c
  stored : ∀ i, w.At c (.stored i) → i = d.inbox
  offered : ∀ id, w.At c (.offered id) → id = t
  waiting : ∀ ticket, w.At c (.waiting P ticket) → w.Places t P ticket

/-- A request that the inbox holds goes through the hands of the loop. -/
theorem Located.along (h : w.Located) (hr : r ∈ w.bus.buffer d.inbox) (hc : r.IsOf c) :
    w.Along t d P c := by
  have hat : w.At c (.stored d.inbox) := ⟨r, hr, hc⟩
  have hplace : ∀ x, w.At c x → x = .stored d.inbox := fun x hx => h.unique c x _ hx hat
  exact ⟨h.sent c _ hat, fun i hi => Place.stored.inj (hplace _ hi),
    fun id hi => (nomatch hplace _ hi), fun ticket hi => (nomatch hplace _ hi)⟩

/-- A request goes on through the hands of the loop. -/
theorem Along.step (h : w.Along t d P c) (hserves : w.Serves t d) (hs : w.Step w')
    (hsound : ∀ (P : Nat) p, w.pools[P]? = some p → p.Sound) (hp : w.pools[P]? = some p) :
    w'.Along t d P c where
  sent := hs.sent hsound h.sent
  stored i hi := by
    rcases hs.stocks.stored c with hback | ⟨hpending, -⟩
    · exact h.stored i (hback i hi)
    · -- a call stores its request only once
      exact absurd h.sent hpending
  offered id hat := by
    obtain ⟨Q, job, hhand, hc⟩ := hat
    rcases (hs.custody hsound).offered c id Q job hc hhand with hold | ⟨d', hd', -, hstored, -⟩
    · exact h.offered id ⟨Q, job, hold, hc⟩
    · -- who takes the request out of the inbox is the loop
      have hinbox := h.stored d'.inbox ⟨job.request, MemoryBus.stores_iff.mp hstored, hc⟩
      exact Reader.task.inj (hserves.reader _ (hinbox ▸ reads_deliver hd'))
  waiting ticket hat := by
    obtain ⟨p', job, hp', hmem, hc⟩ := hat
    obtain ⟨id, q, hq, -, hflow, -, others⟩ := hs.flow hsound hp
    cases hp'.symm.trans hq
    -- whoever places the submission had the request in hand
    rcases hflow.waiting (hsound P p hp) others hmem with ⟨hold, hkeep⟩ | ⟨hoffer, hplaces⟩
    · exact hkeep t (h.waiting ticket ⟨p, job, hp, hold, hc⟩)
    · exact h.offered id ⟨P, job, hoffer, hc⟩ ▸ hplaces

/-! ### The invariant -/

/-- What is on its way has been sent. -/
theorem Located.sent_of_pipeline (h : w.Located) (hin : w.InHand t P hand)
    (hr : r ∈ w.pipeline P i hand) (hc : r.IsOf c) : w.bus.Sent c := by
  rcases List.mem_append.mp hr with hr | hr
  · obtain ⟨⟨ticket, job⟩, he, rfl⟩ := List.mem_map.mp hr
    obtain ⟨p, hp⟩ : ∃ p, w.pools[P]? = some p := by
      cases hp : w.pools[P]? with
      | none =>
        rw [queued, hp] at he
        cases he
      | some p => exact ⟨p, rfl⟩
    exact h.sent c (.queued P ticket) ⟨p, job, hp, queued_eq hp ▸ he, hc⟩
  · rcases List.mem_append.mp hr with hr | hr
    · obtain ⟨x, -, hat⟩ := hin.at hr
      exact h.sent c x (hat c hc)
    · exact h.sent c (.stored i) ⟨r, hr, hc⟩

/-- **The requests that came into the inbox of a loop are in order**: those that executors have taken
first, and behind them those that are still on their way. -/
structure InOrder (w : World) (t : TaskId) (d : Delivery) (P : PoolId) (g : Traffic) : Prop where
  serves : w.Serves t d
  sent : ∀ e ∈ g.taken, ∀ c, e.2.request.IsOf c → w.bus.Sent c
  along : ∀ r ∈ g.came, ∃ c, r.IsOf c ∧ w.Along t d P c
  nodup : g.came.Nodup
  order : ∃ hand, w.InHand t P hand ∧ ((g.taken.map (·.2.request) ++
    w.pipeline P d.inbox hand).filter (· ∈ g.came)).Sublist g.came

/-- No request is in an inbox twice. -/
theorem Located.buffer_nodup (h : w.Located) (i : Nat) : (w.bus.buffer i).Nodup := by
  refine (h.apart i).imp_of_mem fun {r r'} hr _ happart heq => ?_
  obtain ⟨c, hc⟩ := h.calls i r hr
  exact happart c hc (heq ▸ hc)

/-- What the inbox of a loop holds is in order. -/
theorem InOrder.start (hbefore : Steps {} v) (hp : v.pools[P]? = some p)
    (hloop : v.program? t = some (.deliver d)) (hbound : d.handler.pool? = some P) :
    v.InOrder t d P { came := v.bus.buffer d.inbox } := by
  have hlocated := Located.of_steps hbefore
  obtain ⟨hand, hin⟩ := exists_inHand (.of_steps hbefore) hloop hbound
  refine ⟨(loops_of_program hloop).serves (.of_steps hbefore), fun e he => absurd he List.not_mem_nil,
    fun r hr => ?_, hlocated.buffer_nodup d.inbox, hand, hin, ?_⟩
  · obtain ⟨c, hc⟩ := hlocated.calls d.inbox r hr
    exact ⟨c, hc, hlocated.along hr hc⟩
  · -- what is past the inbox is not in the inbox
    have hpast : ∀ {r : Request} {x : Place}, x.IsPast → (∀ c, r.IsOf c → v.At c x) →
        ¬ decide (r ∈ v.bus.buffer d.inbox) = true := by
      intro r x hx hat hr
      obtain ⟨c, hc⟩ := hlocated.calls d.inbox r (of_decide_eq_true hr)
      have heq := hlocated.unique c x (.stored d.inbox) (hat c hc) ⟨r, of_decide_eq_true hr, hc⟩
      rw [heq] at hx
      exact hx
    have hqueue : ((v.queued P).map (·.2.request)).filter (· ∈ v.bus.buffer d.inbox) = [] := by
      refine List.filter_eq_nil_iff.mpr fun r hr => ?_
      obtain ⟨⟨ticket, job⟩, he, rfl⟩ := List.mem_map.mp hr
      rw [queued_eq hp] at he
      have hat : ∀ c, job.request.IsOf c → v.At c (.queued P ticket) := fun c hc =>
        ⟨p, job, hp, he, hc⟩
      exact hpast (x := .queued P ticket) trivial hat
    have hhand : hand.filter (· ∈ v.bus.buffer d.inbox) = [] := by
      refine List.filter_eq_nil_iff.mpr fun r hr => ?_
      obtain ⟨x, hx, hat⟩ := hin.at hr
      exact hpast hx hat
    rw [List.map_nil, List.nil_append, pipeline, List.filter_append, List.filter_append, hqueue,
      hhand, List.nil_append, List.nil_append]
    exact List.filter_sublist

/-- What came in has been sent. -/
theorem InOrder.sent_of_came (h : w.InOrder t d P g) (hr : r ∈ g.came) (hc : r.IsOf c) :
    w.bus.Sent c := by
  obtain ⟨c', hc', halong⟩ := h.along r hr
  exact hc.eq hc' ▸ halong.sent

/-- What came in, was taken and is on its way stays in order. -/
theorem InOrder.order_after (h : w.InOrder t d P g) (hrun : Steps {} w) (hs : w.Step w')
    (hp : w.pools[P]? = some p) (hbound : d.handler.pool? = some P) :
    ∃ hand', w'.InHand t P hand' ∧ (((g.after d.inbox P w w').taken.map (·.2.request) ++
      w'.pipeline P d.inbox hand').filter (· ∈ (g.after d.inbox P w w').came)).Sublist
        (g.after d.inbox P w w').came := by
  have hlocated := Located.of_steps hrun
  have hmanned := Manned.of_steps hrun
  obtain ⟨hand, hin, hsub⟩ := h.order
  obtain ⟨hand', hin', hpipe⟩ :=
    pipeline_step hin h.serves hs (Attended.of_steps hrun).pools hmanned hbound hp
  refine ⟨hand', hin', ?_⟩
  show (((g.taken ++ w.taken w' P).map _ ++ _).filter
    (· ∈ g.came ++ w.incoming w' d.inbox)).Sublist (g.came ++ w.incoming w' d.inbox)
  -- what somebody else queues did not come in
  have hforeign := hpipe (· ∈ g.came ++ w.incoming w' d.inbox) fun id ticket job hid hplaces hmem => by
    refine decide_eq_false fun hr => ?_
    have hat : ∀ c, job.request.IsOf c → w.At c (.waiting P ticket) := fun c hc =>
      ⟨p, job, hp, hmem, hc⟩
    rcases List.mem_append.mp hr with hr | hr
    · obtain ⟨c, hc, halong⟩ := h.along _ hr
      exact hid (hmanned.placed.unique id t P ticket hplaces (halong.waiting ticket (hat c hc)))
    · exact hs.not_incoming (fun c hc => hlocated.sent c _ (hat c hc)) d.inbox hr
  -- nor did what was taken or on its way before come in only now
  have hbefore : (g.taken.map (·.2.request) ++ w.pipeline P d.inbox hand).filter
      (· ∈ g.came ++ w.incoming w' d.inbox) =
        (g.taken.map (·.2.request) ++ w.pipeline P d.inbox hand).filter (· ∈ g.came) := by
    refine List.filter_congr fun r hr => decide_eq_decide.mpr ?_
    rw [List.mem_append, or_iff_left]
    refine hs.not_incoming (fun c hc => ?_) d.inbox
    rcases List.mem_append.mp hr with hr | hr
    · obtain ⟨e, he, rfl⟩ := List.mem_map.mp hr
      exact h.sent e he c hc
    · exact hlocated.sent_of_pipeline hin hr hc
  rw [List.map_append, List.append_assoc, List.filter_append]
  refine (hforeign.append_left _).trans ?_
  rw [← List.filter_append, ← List.append_assoc, List.filter_append, hbefore]
  exact hsub.append List.filter_sublist

/-- **The requests that come in stay in order** in every step. -/
theorem InOrder.step (h : w.InOrder t d P g) (hrun : Steps {} w) (hs : w.Step w')
    (hp : w.pools[P]? = some p) (hbound : d.handler.pool? = some P) :
    w'.InOrder t d P (g.after d.inbox P w w') := by
  have hattended := Attended.of_steps hrun
  have hsound := hattended.pools
  have hlocated := Located.of_steps hrun
  have hlocated' := hlocated.step hsound hs
  refine ⟨h.serves.step hattended (.of_steps hrun) hs, fun e he c hc => hs.sent hsound ?_,
    fun r hr => ?_, ?_, h.order_after hrun hs hp hbound⟩
  · -- what is taken was in the queue
    rcases List.mem_append.mp he with he | he
    · exact h.sent e he c hc
    · have hqueued : e ∈ p.queue := queued_eq hp ▸ (List.mem_filter.mp he).1
      exact hlocated.sent c (.queued P e.1) ⟨p, e.2, hp, hqueued, hc⟩
  · rcases List.mem_append.mp hr with hr | hr
    · obtain ⟨c, hc, halong⟩ := h.along r hr
      exact ⟨c, hc, halong.step h.serves hs hsound hp⟩
    · -- what comes in is in the inbox, and nowhere else
      have hstored := List.mem_of_mem_drop hr
      obtain ⟨c, hc⟩ := hlocated'.calls d.inbox r hstored
      exact ⟨c, hc, hlocated'.along hstored hc⟩
  · have hnew : (w.incoming w' d.inbox).Nodup :=
      (hlocated'.buffer_nodup d.inbox).sublist (List.drop_sublist _ _)
    refine List.nodup_append.mpr ⟨h.nodup, hnew, ?_⟩
    rintro r hr _ hr' rfl
    exact hs.not_incoming (fun c => h.sent_of_came hr) d.inbox hr'

/-- **The requests that come into the inbox of a loop stay in order** in every run. -/
theorem Carries.inOrder (hbefore : Steps {} v) (hp : v.pools[P]? = some p)
    (hloop : v.program? t = some (.deliver d)) (hbound : d.handler.pool? = some P)
    (h : Carries d.inbox P v w g) : w.InOrder t d P g := by
  induction h with
  | start => exact .start hbefore hp hloop hbound
  | step h hs ih =>
    obtain ⟨q, hq, -⟩ := h.pool hbefore hp
    exact ih.step (hbefore.trans h.steps) hs hq hbound

end World

end ServiceBus.Bus
