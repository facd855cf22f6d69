import ServiceBus.Proofs.World.Closing

/-! # Services that are made

The steps that register a service, add an endpoint to one, or pair one with a pool. They start loops
and take nothing away. With them `World.Attended` holds in every run (`World.Attended.of_steps`). -/

namespace ServiceBus.Bus

namespace World

variable {w w' : World} {t s P : Nat}

/-- A step that makes a service or adds to one that was not told to stop. -/
structure Registers (w w' : World) : Prop where
  calls : ∀ (x : Nat) q, q.UnderWay → (w'.program? x = some q ↔ w.program? x = some q)
  tasks : ∀ t : Nat, t < w.tasks.length → w'.program? t = w.program? t
  length : w.tasks.length ≤ w'.tasks.length
  pools : w'.pools = w.pools
  next : w.scopes.next ≤ w'.scopes.next
  cancelled : ∀ s : Nat, w.scopes.isCancelled s = true → w'.scopes.isCancelled s = true
  forth : ∀ (s : Nat) (old : Service), w.services[s]? = some old → ∃ service, w'.services[s]? = some service ∧
    service.stop = old.stop ∧ (∀ P, old.pool? = some P → service.pool? = some P) ∧
    (∀ t ∈ old.deliveries, t ∈ service.deliveries) ∧
    (w.scopes.isCancelled old.stop = true → service.deliveries = old.deliveries)
  back : ∀ (s : Nat) (service : Service), w'.services[s]? = some service →
    (∃ old, w.services[s]? = some old ∧ service.stop = old.stop ∧
      ∀ t ∈ service.deliveries, t ∈ old.deliveries ∨ w'.LoopOrEnded service t) ∨
    s = w.services.length ∧ service.stop = w.scopes.next ∧ w.scopes.next < w'.scopes.next ∧
      service.deliveries = []
  loops : ∀ (t : Nat) d, w'.program? t = some (.deliver d) → w.program? t = some (.deliver d) ∨
    ∃ (s : Nat) (service : Service), w'.services[s]? = some service ∧ d.stop = service.stop ∧ t ∈ service.deliveries

/-- A call that waits for a loop waits for it after such a step. -/
theorem Registers.awaitsLoop_iff (hr : w.Registers w') {x : Nat} :
    w'.AwaitsLoop x s t ↔ w.AwaitsLoop x s t := by
  have hcall := fun loops => hr.calls x (.stop s (.joining loops)) (by simp [Program.UnderWay])
  simp only [AwaitsLoop, hcall]

/-- A call that waits for executors waits for them after such a step. -/
theorem Registers.shutsDown_iff (hr : w.Registers w') (h : w.Attended) {x : Nat}
    {executors : List Nat} :
    w'.ShutsDown x P (.joining executors) ↔ w.ShutsDown x P (.joining executors) := by
  have hshut := hr.calls x (.shutdown P (.joining executors)) (by simp [Program.UnderWay])
  have hstop := fun s => hr.calls x (.stop s (.shutting (.joining executors)))
    (by simp [Program.UnderWay])
  constructor
  · rintro (hq | ⟨s, hq, hs, hp⟩)
    · exact .shutdown (hshut.mp hq)
    · have hq := (hstop s).mp hq
      obtain ⟨old, pool, hold, hpool⟩ := h.paired x s _ hq
      obtain ⟨service, hs', -, hp', -⟩ := hr.forth s old hold
      rw [hs] at hs'
      rw [Option.some.inj hs', hp' pool hpool] at hp
      exact .stop s hq hold (hpool.trans hp)
  · rintro (hq | ⟨s, hq, hs, hp⟩)
    · exact .shutdown (hshut.mpr hq)
    · obtain ⟨service, hs', -, hp', -⟩ := hr.forth s _ hs
      exact .stop s ((hstop s).mpr hq) hs' (hp' P hp)

/-- A loop stays one or has ended. -/
theorem Registers.loopOrEnded (hr : w.Registers w') {service service' : Service}
    (hstop : service'.stop = service.stop) (h : w.LoopOrEnded service t) :
    w'.LoopOrEnded service' t := by
  refine ⟨h.1.trans_le hr.length, fun q hq => ?_⟩
  rw [hr.tasks t h.1] at hq
  obtain ⟨d, hd, hs⟩ := h.2 q hq
  exact ⟨d, hd, hs.trans hstop.symm⟩

/-- The scope of a new service is new, so no two services come to share one. -/
theorem Attended.stop_inj_registers (h : w.Attended) (hr : w.Registers w') {s₁ s₂ : Nat}
    {service₁ service₂ : Service} (hs₁ : w'.services[s₁]? = some service₁)
    (hs₂ : w'.services[s₂]? = some service₂) (heq : service₁.stop = service₂.stop) : s₁ = s₂ := by
  rcases hr.back s₁ service₁ hs₁ with ⟨old₁, hold₁, hstop₁, -⟩ | ⟨hnew₁, hstop₁, -⟩ <;>
    rcases hr.back s₂ service₂ hs₂ with ⟨old₂, hold₂, hstop₂, -⟩ | ⟨hnew₂, hstop₂, -⟩
  · exact h.stop_inj s₁ s₂ old₁ old₂ hold₁ hold₂ (hstop₁ ▸ hstop₂ ▸ heq)
  · have hlt := h.stop_lt s₁ old₁ hold₁
    rw [← hstop₁, heq, hstop₂] at hlt
    exact absurd hlt (lt_irrefl _)
  · have hlt := h.stop_lt s₂ old₂ hold₂
    rw [← hstop₂, ← heq, hstop₁] at hlt
    exact absurd hlt (lt_irrefl _)
  · rw [hnew₁, hnew₂]

/-- **Such a step keeps the invariant.** -/
theorem Attended.registers (h : w.Attended) (hr : w.Registers w') : w'.Attended where
  pools := by
    rw [hr.pools]
    exact h.pools
  stop_lt s service hs := by
    rcases hr.back s service hs with ⟨old, hold, hstop, -⟩ | ⟨-, hstop, hlt, -⟩
    · rw [hstop]
      exact (h.stop_lt s old hold).trans_le hr.next
    · rw [hstop]
      exact hlt
  stop_inj _ _ _ _ := h.stop_inj_registers hr
  loops t d hd := by
    rcases hr.loops t d hd with hd | ⟨s, service, hs, hstop, ht⟩
    · obtain ⟨s, old, hold, hstop, hwhere⟩ := h.loops t d hd
      obtain ⟨service, hs, hstop', -, hsub, -⟩ := hr.forth s old hold
      refine ⟨s, service, hs, hstop.trans hstop'.symm, ?_⟩
      exact hwhere.imp (hsub t) (Exists.imp fun x => hr.awaitsLoop_iff.mpr)
    · exact ⟨s, service, hs, hstop, Or.inl ht⟩
  kept s service hs t ht := by
    rcases hr.back s service hs with ⟨old, hold, hstop, hmem⟩ | ⟨-, -, -, hnil⟩
    · rcases hmem t ht with hold' | hnew
      · exact hr.loopOrEnded hstop (h.kept s old hold t hold')
      · exact hnew
    · rw [hnil] at ht
      cases ht
  awaited x s t service hs hx := by
    have hx := hr.awaitsLoop_iff.mp hx
    rcases hr.back s service hs with ⟨old, hold, hstop, -⟩ | ⟨hnew, -⟩
    · exact hr.loopOrEnded hstop (h.awaited x s t old hold hx)
    · -- nobody stops a service that is not there yet
      obtain ⟨loops, hq, -⟩ := hx
      obtain ⟨old, hold, -⟩ := h.signalled x s _ hq (by simp)
      rw [hnew, List.getElem?_eq_none le_rfl] at hold
      cases hold
  signalled x s stage hq hne := by
    obtain ⟨old, hold, hnil, hc⟩ :=
      h.signalled x s stage ((hr.calls x (.stop s stage) hne).mp hq) hne
    obtain ⟨service, hs, hstop, -, -, hkeep⟩ := hr.forth s old hold
    exact ⟨service, hs, (hkeep hc).trans hnil, by rw [hstop]; exact hr.cancelled _ hc⟩
  paired x s stage hq := by
    obtain ⟨old, pool, hold, hp⟩ := h.paired x s stage
      ((hr.calls x _ (by simp [Program.UnderWay])).mp hq)
    obtain ⟨service, hs, -, hp', -⟩ := hr.forth s old hold
    exact ⟨service, pool, hs, hp' pool hp⟩
  joined x P executors hx := by
    rw [hr.pools]
    exact h.joined x P executors ((hr.shutsDown_iff h).mp hx)
  executors P p hp i hi := by
    rw [hr.pools] at hp
    exact (h.executors P p hp i hi).imp_right (Exists.imp fun x => Exists.imp fun executors =>
      And.imp_left (hr.shutsDown_iff h).mpr)

/-! ### The steps -/

/-- A new service has a scope of its own and no loop. -/
theorem registers_openService {config : ServiceConfig} (h : w.openService config = .ok w') :
    w.Registers w' := by
  obtain ⟨log, rfl⟩ := openService_eq h
  have hnext : w.scopes.fresh.next = w.scopes.next + 1 := ScopeTree.next_fresh _
  exact {
    calls := fun _ _ _ => Iff.rfl
    tasks := fun _ _ => rfl
    length := le_rfl
    pools := rfl
    next := hnext ▸ Nat.le_succ _
    cancelled := fun s hc => (ScopeTree.isCancelled_fresh w.scopes s).trans hc
    forth := fun s old hold => by
      have hlt := (List.getElem?_eq_some_iff.mp hold).1
      exact ⟨old, (List.getElem?_append_left hlt).trans hold, rfl, fun _ hp => hp,
        fun _ ht => ht, fun _ => rfl⟩
    back := fun s made hs => by
      rcases getElem?_concat_iff.mp hs with hs | ⟨hlast, rfl⟩
      · exact Or.inl ⟨made, hs, rfl, fun t ht => Or.inl ht⟩
      · exact Or.inr ⟨hlast, rfl, hnext ▸ Nat.lt_succ_self _, rfl⟩
    loops := fun t d hd => Or.inl hd }

/-- A service that has no pool is paired with one. -/
theorem registers_pairService {service : Service} (hs : w.services[s]? = some service)
    (hnone : service.pool? = none) : w.Registers (w.pairService s P) := by
  obtain ⟨log, hw⟩ := pairService_eq hs P
  rw [hw]
  exact {
    calls := fun _ _ _ => Iff.rfl
    tasks := fun _ _ => rfl
    length := le_rfl
    pools := rfl
    next := le_rfl
    cancelled := fun _ hc => hc
    forth := fun j old hold => by
      refine ⟨_, getElem?_modify_iff.mpr ⟨old, hold, rfl⟩, ?_⟩
      split
      · rename_i hsj
        rw [← hsj, hs] at hold
        rw [← Option.some.inj hold, hnone]
        exact ⟨rfl, fun _ hp => (nomatch hp), fun _ ht => ht, fun _ => rfl⟩
      · exact ⟨rfl, fun _ hp => hp, fun _ ht => ht, fun _ => rfl⟩
    back := fun j service' hj => by
      obtain ⟨old, hold, rfl⟩ := getElem?_modify_iff.mp hj
      refine Or.inl ⟨old, hold, ?_⟩
      split <;> exact ⟨rfl, fun t ht => Or.inl ht⟩
    loops := fun t d hd => Or.inl hd }

/-- What the programs are once an endpoint has a loop of its own. -/
theorem openEndpoint_program? {service : Service} {context : Context} {config : EndpointConfig}
    {handler : Handler} (h : w.openEndpoint s service context config handler = .ok w') :
    ∃ inbox, ∀ t : Nat, w'.program? t = if t = w.tasks.length then
      some (.deliver { inbox, context, stop := service.stop, handler }) else w.program? t := by
  obtain ⟨-, bus, log, inbox, -, -, rfl⟩ := openEndpoint_cases h
  exact ⟨inbox, fun t => program?_spawn _ _ none t⟩

/-- A service that was not told to stop has one loop more. -/
theorem registers_openEndpoint {service : Service} {context : Context} {config : EndpointConfig}
    {handler : Handler} (hs : w.services[s]? = some service)
    (h : w.openEndpoint s service context config handler = .ok w') : w.Registers w' := by
  obtain ⟨inbox, hprogram⟩ := openEndpoint_program? h
  obtain ⟨hstopped, bus, log, _, -, -, hw⟩ := openEndpoint_cases h
  have hservices : w'.services = w.services.modify s fun service =>
      { service with info := service.info.withEndpoint config
                     deliveries := service.deliveries ++ [w.tasks.length] } := by
    rw [hw]
    rfl
  have hscopes : w'.scopes = w.scopes := by
    rw [hw]
    rfl
  have hlength : w'.tasks.length = w.tasks.length + 1 := by
    rw [hw]
    exact List.length_append
  exact {
    calls := fun x q hunder => by
      rw [hprogram]
      split
      · rename_i hx
        rw [program?_eq_none (by omega)]
        refine ⟨fun hq => ?_, fun hq => (nomatch hq)⟩
        rw [← Option.some.inj hq] at hunder
        exact absurd hunder fun h => h
      · exact Iff.rfl
    tasks := fun t ht => by rw [hprogram, if_neg (Nat.ne_of_lt ht)]
    length := hlength ▸ Nat.le_succ _
    pools := by
      rw [hw]
      rfl
    next := by rw [hscopes]
    cancelled := fun _ hc => by rw [hscopes, hc]
    forth := fun j old hold => by
      rw [hservices]
      refine ⟨_, getElem?_modify_iff.mpr ⟨old, hold, rfl⟩, ?_⟩
      split
      · rename_i hsj
        rw [← hsj, hs] at hold
        rw [← Option.some.inj hold]
        refine ⟨rfl, fun _ hp => hp, fun t ht => List.mem_append_left _ ht, fun hc => ?_⟩
        rw [isStopped, hc] at hstopped
        cases hstopped
      · exact ⟨rfl, fun _ hp => hp, fun _ ht => ht, fun _ => rfl⟩
    back := fun j service' hj => by
      rw [hservices] at hj
      obtain ⟨old, hold, rfl⟩ := getElem?_modify_iff.mp hj
      refine Or.inl ⟨old, hold, ?_⟩
      split
      · rename_i hsj
        rw [← hsj, hs] at hold
        obtain rfl := Option.some.inj hold
        refine ⟨rfl, fun t ht => (List.mem_append.mp ht).imp_right fun ht => ?_⟩
        obtain rfl := List.mem_singleton.mp ht
        refine ⟨hlength ▸ Nat.lt_succ_self _, fun q hq => ?_⟩
        rw [hprogram, if_pos rfl] at hq
        exact ⟨_, (Option.some.inj hq).symm, rfl⟩
      · exact ⟨rfl, fun t ht => Or.inl ht⟩
    loops := fun t d hd => by
      rw [hprogram] at hd
      split at hd
      · rename_i ht
        rw [hservices]
        refine Or.inr ⟨s, _, getElem?_modify_iff.mpr ⟨service, hs, rfl⟩, ?_⟩
        rw [if_pos rfl, ← Program.deliver.inj (Option.some.inj hd), ht]
        exact ⟨rfl, List.mem_append_right _ (List.mem_singleton_self _)⟩
      · exact Or.inl hd }

/-! ### Every run -/

/-- What somebody outside starts is neither a loop nor under way with anything. -/
theorem Program.Begins.idle {program : Program} (h : program.Begins) :
    ¬ program.UnderWay ∧ ∀ d, program ≠ .deliver d := by
  cases program with
  | shutdown pool stage => exact ⟨fun hne => hne h, by simp⟩
  | stop s stage => exact ⟨fun hne => hne h, by simp⟩
  | deliver d => exact absurd h fun hb => hb
  | _ => exact ⟨fun hunder => hunder, by simp⟩

/-- **The three kinds of steps**: those that have nothing to do with closing, those that make services
and loops, and the turns of calls that close. -/
theorem Step.kinds (hs : w.Step w') : w.Bystands w' ∨ w.Registers w' ∨
    ∃ id program, w.program? id = some program ∧ program.Stops ∧ w.turn id = some w' := by
  cases hs with
  | turn id hw =>
    obtain ⟨program, hid⟩ := exists_program_of_turn hw
    by_cases hstops : program.Stops
    · exact Or.inr (Or.inr ⟨id, program, hid, hstops, hw⟩)
    · exact Or.inl ((goes_turn hid hstops hw).bystands hid hstops)
  | clock now => exact Or.inl (Tends.bystands ⟨rfl, rfl, rfl, Or.inl rfl⟩)
  | aside gates stores clientCount log noticed =>
    exact Or.inl (Tends.bystands ⟨rfl, rfl, rfl, Or.inl rfl⟩)
  | names desk _ _ => exact Or.inl (Tends.bystands ⟨rfl, rfl, rfl, Or.inl rfl⟩)
  | scopes scopes hnext hkeeps => exact Or.inl (.of_tasks rfl rfl hnext hkeeps (.same rfl))
  | start program name? hb =>
    obtain ⟨hunder, hd⟩ := Program.Begins.idle hb
    exact Or.inl ((Beside.refl w).tends.bystands.spawn hunder hd name?)
  | ask call asking context? client? conclude name? =>
    exact Or.inl ((beside_withBus w _).tends.bystands.spawn (by simp [Program.UnderWay]) (by simp)
      name?)
  | receive name request inbox name? hname =>
    have ht : w.Tends { w with desk.subscriptions := w.desk.subscriptions.erase name } :=
      ⟨rfl, rfl, rfl, Or.inl rfl⟩
    exact Or.inl (ht.bystands.spawn (by simp [Program.UnderWay]) (by simp) name?)
  | subscribe name subject hbus =>
    exact Or.inl ((beside_withBus w _).then_tends (tends_nameSubscription _ _ _)).bystands
  | closeSubscription name inbox hname => exact Or.inl (beside_withBus w _).tends.bystands
  | dropSubscription name inbox hname =>
    exact Or.inl (Tends.bystands ⟨rfl, rfl, rfl, Or.inl rfl⟩)
  | closeBus => exact Or.inl (beside_withBus w _).tends.bystands
  | respond name request headers payload hname =>
    have ht := (beside_reply w request headers payload).tends
    exact Or.inl (Tends.bystands ⟨ht.tasks, ht.services, ht.scopes, ht.pools⟩)
  | dropRequest name request hname => exact Or.inl (Tends.bystands ⟨rfl, rfl, rfl, Or.inl rfl⟩)
  | openPool requested => exact Or.inl (.openPool w requested)
  | closePool pool hp => exact Or.inl (.closePool hp)
  | reapPool pool => exact Or.inl (.reapPool w pool)
  | openService config hw => exact Or.inr (Or.inl (registers_openService hw))
  | openEndpoint s context config handler hs hw =>
    exact Or.inr (Or.inl (registers_openEndpoint hs hw))
  | pair s pool hs hnone => exact Or.inr (Or.inl (registers_pairService hs hnone))

/-- **One step keeps the invariant.** -/
theorem Attended.step (h : w.Attended) (hs : w.Step w') : w'.Attended := by
  rcases hs.kinds with hb | hr | ⟨id, program, hid, hstops, hw⟩
  · exact h.bystands hb
  · exact h.registers hr
  · exact h.closes (closes_turn hid hstops hw)

/-- **In every run all is waited for that has to be.** -/
theorem Attended.of_steps (h : Steps {} w) : w.Attended := by
  induction h with
  | refl => exact .empty
  | tail _ hs ih => exact ih.step hs

/-! ### What no step undoes -/

/-- A step that gives no pool and no scope back: what is closed or cancelled stays so. -/
structure Hardens (w w' : World) : Prop where
  services : ∀ (s : Nat) (old : Service), w.services[s]? = some old →
    ∃ service, w'.services[s]? = some service ∧ service.stop = old.stop
  cancelled : ∀ s : Nat, w.scopes.isCancelled s = true → w'.scopes.isCancelled s = true
  pools : ∀ (P : Nat) (p : WorkerPool Job), w.pools[P]? = some p →
    ∃ p', w'.pools[P]? = some p' ∧ p.StaysShut p'

/-- The turn of a call that closes something gives nothing back. -/
theorem Closes.hardens {id : Nat} (hc : Closes id w w') : w.Hardens w' := by
  cases hc with
  | signal hid hs hm =>
    refine ⟨fun s old hold => ?_, fun s hs => ?_, fun P p hp => ?_⟩
    · obtain ⟨service, hs, hstop, -⟩ := hm.forth hold
      exact ⟨service, hs, hstop⟩
    · rw [hm.scopes, ScopeTree.isCancelled_cancel, hs, Bool.true_or]
    · exact ⟨p, by rw [hm.pools, hp], .refl p⟩
  | wait hid hm =>
    refine ⟨fun s old hold => ⟨old, by rw [hm.services, hold], rfl⟩, fun s hs => ?_,
      fun P p hp => ⟨p, by rw [hm.pools, hp], .refl p⟩⟩
    rw [hm.scopes]
    exact hs
  | @shut P call stage next? p p' hcall hid hp hs hm hid' =>
    refine ⟨fun s old hold => ⟨old, by rw [hm.services, hold], rfl⟩, fun s hs => ?_,
      fun Q q hq => ?_⟩
    · rw [hm.scopes]
      exact hs
    · rcases (hm.puts hp).forth hq with ⟨-, rfl, hq'⟩ | ⟨-, hq'⟩
      · exact ⟨p', hq', WorkerPool.staysShut_shutdown hs⟩
      · exact ⟨q, hq', .refl q⟩

/-- **No step gives anything back.** -/
theorem Step.hardens (hs : w.Step w') : w.Hardens w' := by
  rcases hs.kinds with hb | hr | ⟨id, program, hid, hstops, hw⟩
  · refine ⟨fun s old hold => ⟨old, by rw [hb.services, hold], rfl⟩, hb.cancelled, fun P p hp => ?_⟩
    obtain ⟨p', hp', -, hstays⟩ := hb.pools.forth P p hp
    exact ⟨p', hp', hstays⟩
  · refine ⟨fun s old hold => ?_, hr.cancelled, fun P p hp => ⟨p, by rw [hr.pools, hp], .refl p⟩⟩
    obtain ⟨service, hs, hstop, -⟩ := hr.forth s old hold
    exact ⟨service, hs, hstop⟩
  · exact (closes_turn hid hstops hw).hardens

/-- **No loop begins for a service that was told to stop.** -/
theorem Step.loop_of_stopped (hs : w.Step w') (h : w.Attended) (h' : w'.Attended)
    {service service' : Service} (hservice : w.services[s]? = some service)
    (hservice' : w'.services[s]? = some service')
    (hc : w.scopes.isCancelled service.stop = true) {d : Delivery}
    (hd : w'.program? t = some (.deliver d)) (hstop : d.stop = service'.stop) :
    ∃ d', w.program? t = some (.deliver d') ∧ d'.stop = service.stop := by
  obtain ⟨service'', hs'', hstop''⟩ := hs.hardens.services s service hservice
  rw [hservice'] at hs''
  obtain rfl := Option.some.inj hs''
  rcases hs.kinds with hb | hr | ⟨id, program, hid, hstops, hw⟩
  · obtain ⟨d', hd', heq⟩ := hb.loops t d hd
    exact ⟨d', hd', heq.symm.trans (hstop.trans hstop'')⟩
  · rcases hr.loops t d hd with hd' | ⟨s', made, hmade, heq, ht⟩
    · exact ⟨d, hd', hstop.trans hstop''⟩
    · -- the loop would be one of a service that was not told to stop
      obtain rfl := h'.stop_inj s' s made service' hmade hservice' (heq.symm.trans hstop)
      rw [hservice'] at hmade
      obtain rfl := Option.some.inj hmade
      obtain ⟨same, hsame, -, -, -, hkeep⟩ := hr.forth s' service hservice
      rw [hservice'] at hsame
      obtain rfl := Option.some.inj hsame
      rw [hkeep hc] at ht
      obtain ⟨hlt, hloop⟩ := h.kept s' service hservice t ht
      rw [hr.tasks t hlt] at hd
      exact ⟨d, hd, hstop.trans hstop''⟩
  · exact ⟨d, (closes_turn hid hstops hw).proceeds.deliver_iff.mp hd, hstop.trans hstop''⟩

/-- **A service that was told to stop stays so**, and has no loops that it had not before. -/
theorem Step.stopped (hs : w.Step w') (h : w.Attended) (h' : w'.Attended) {old : Service}
    (hold : w.services[s]? = some old) (hc : w.scopes.isCancelled old.stop = true) :
    ∃ service : Service, w'.services[s]? = some service ∧
      w'.scopes.isCancelled service.stop = true ∧
      ∀ (t : Nat) d, w'.program? t = some (.deliver d) → d.stop = service.stop →
        ∃ d', w.program? t = some (.deliver d') ∧ d'.stop = old.stop := by
  obtain ⟨service, hservice, hstop⟩ := hs.hardens.services s old hold
  refine ⟨service, hservice, ?_, fun t d hd heq => ?_⟩
  · rw [hstop]
    exact hs.hardens.cancelled _ hc
  · exact hs.loop_of_stopped h h' hold hservice hc hd heq

end World

end ServiceBus.Bus
