import ServiceBus.Proofs.World.Chores

/-! # Worlds come to rest

Every turn leaves less to do (`World.lighter_turn`), so turns alone come to an end
(`World.wellFounded_turn`): a world that is left alone comes to rest. -/

namespace ServiceBus.Bus

namespace World

variable {w w' v : World} {id : Nat} {program next : Program}

/-! ### Tasks that go on or end -/

/-- The chores of a task that has something to do. -/
theorem taskChores_eq (h : w.program? id = some program) :
    w.taskChores id = w.programChores id program := by
  rw [taskChores, h]
  rfl

/-- The chores of a task that has ended. -/
theorem taskChores_eq_zero (h : w.program? id = none) : w.taskChores id = 0 := by
  rw [taskChores, h]
  rfl

/-- A task that has something to do has a chore. -/
theorem lighter_programChores (w : World) (id : TaskId) (program : Program) :
    Lighter 0 (w.programChores id program) := by
  have hadd : ∀ a t, Lighter 0 ({a} + t) := fun a t => by
    have h := lighter_add 0 a t
    rwa [zero_add] at h
  cases program with
  | submit pool sub => exact hadd _ _
  | handle h => exact hadd _ _
  | deliver d => exact hadd _ _
  | execute pool i run? => exact hadd _ _
  | _ => exact lighter_zero _

/-- A change after which one task goes on or ends. -/
theorem Alone.busies (ha : Alone id v w') (htasks : v.tasks = w.tasks)
    (hlines : ∀ j : Nat, j ≠ id → w.SameLines v j) : Busies id w w' where
  length := ha.length.trans (congrArg List.length htasks)
  others j hj := (ha.others j hj).trans (by rw [program?, program?, htasks])
  lines j hj payload := by
    rw [← hlines j hj payload]
    exact SameLines.of_gates ha.gates j payload

/-- The chores of a task that goes on. -/
theorem taskChores_setProgram (hp : w.program? id = some program) (htasks : v.tasks = w.tasks)
    (next : Program) : (v.setProgram id next).taskChores id = v.programChores id next := by
  have hlt : id < v.tasks.length := by rw [htasks]; exact lt_of_program? hp
  rw [taskChores_eq (program?_setProgram_self hlt next)]
  exact programChores_congr (.of_gates rfl id) next

/-- A turn in which a task ends. -/
theorem lighter_ends (hp : w.program? id = some program) (ha : Alone id v w')
    (hend : w'.program? id = none) (htasks : v.tasks = w.tasks) (hpools : v.pools = w.pools)
    (hgates : v.gates = w.gates) (hbus : NoHeavier v.bus.chores w.bus.chores) :
    Lighter w'.chores w.chores := by
  have hb := ha.busies htasks fun j _ => SameLines.of_gates hgates j
  refine hb.lighter_task (lt_of_program? hp) (ha.pools.trans hpools) ?_
  rw [taskChores_eq_zero hend, taskChores_eq hp, ha.bus]
  exact (w.lighter_programChores id program).add hbus

/-- A turn in which a task goes on without a pool. -/
theorem lighter_goes (hp : w.program? id = some program) (htasks : v.tasks = w.tasks)
    (hpools : v.pools = w.pools) (hgates : v.gates = w.gates)
    (h : Lighter (v.programChores id next + v.bus.chores)
      (w.programChores id program + w.bus.chores)) :
    Lighter (v.setProgram id next).chores w.chores := by
  have ha := alone_setProgram v id next
  have hb := ha.busies htasks fun j _ => SameLines.of_gates hgates j
  refine hb.lighter_task (lt_of_program? hp) (ha.pools.trans hpools) ?_
  rw [taskChores_setProgram hp htasks, taskChores_eq hp]
  exact h

/-- A turn in which a task may use a pool. -/
theorem Lightens.lighter (ha : Alone id v w') (hp : w.program? id = some program)
    (htasks : v.tasks = w.tasks) (hlines : ∀ j : Nat, j ≠ id → w.SameLines v j)
    (h : w.Lightens v (w'.taskChores id) (w.programChores id program)) :
    Lighter w'.chores w.chores := by
  have hb := ha.busies htasks hlines
  rw [← taskChores_eq hp] at h
  obtain ⟨hbus, ⟨hpools, hl⟩ | ⟨pool, p, p', hpool, hpools, hl⟩⟩ := h
  · refine hb.lighter_task (lt_of_program? hp) (ha.pools.trans hpools) ?_
    rw [ha.bus]
    exact hl.add hbus
  · refine hb.lighter_pool (lt_of_program? hp) hpool (ha.pools.trans hpools) ?_ hl
    rw [ha.bus]
    exact hbus

/-- A turn in which a task goes on. -/
theorem Lightens.goes (hp : w.program? id = some program) (htasks : v.tasks = w.tasks)
    (hlines : ∀ j : Nat, j ≠ id → w.SameLines v j)
    (h : w.Lightens v (v.programChores id next) (w.programChores id program)) :
    Lighter (v.setProgram id next).chores w.chores := by
  refine Lightens.lighter (alone_setProgram _ _ _) hp htasks hlines ?_
  rw [taskChores_setProgram hp htasks]
  exact h

/-- A turn in which a task ends. -/
theorem Lightens.ends (ha : Alone id v w') (hend : w'.program? id = none)
    (hp : w.program? id = some program) (htasks : v.tasks = w.tasks)
    (hlines : ∀ j : Nat, j ≠ id → w.SameLines v j)
    (h : w.Lightens v 0 (w.programChores id program)) : Lighter w'.chores w.chores := by
  refine Lightens.lighter ha hp htasks hlines ?_
  rw [taskChores_eq_zero hend]
  exact h

/-! ### Turns -/

/-- To begin with a request is a lesser chore than to have it stored. -/
theorem lighter_begin (w : World) (id : TaskId) (handler : Handler) (context : Context)
    (request : Request) :
    Lighter (w.handlingChores id (handler.begin context request)) {storedChore} := by
  rw [Handler.begin]
  cases handler.pool? with
  | none => exact lighter_singleton (Chore.below_of_kind (show 1 < 6 by decide))
  | some pool => exact lighter_singleton (Chore.below_of_kind (by decide))

/-- The turn of a delivery. -/
theorem lighter_deliver {d : Delivery} (hp : w.program? id = some (.deliver d))
    (h : w.turnDeliver id d = some w') : Lighter w'.chores w.chores := by
  obtain ⟨handling, v, progress, hh, hv, hcase⟩ | ⟨hh, hd, -, rfl⟩ | ⟨hh, -, hcase⟩ :=
    turnDeliver_cases h
  · obtain ⟨htasks, hlines, hl⟩ := lightens_turnHandling hv
    have hl := hl.add_left {ownChore (if d.draining then 1 else 2)}
    rw [← show w.programChores id (.deliver d) = _ + w.handlingChores id handling by
      rw [programChores, hh]; rfl] at hl
    rcases hcase with ⟨next, rfl, rfl⟩ | ⟨rfl, rfl⟩ | ⟨rfl, rfl⟩
    · exact Lightens.goes hp htasks hlines hl
    · exact Lightens.goes hp htasks hlines hl
    · exact Lightens.ends (alone_endTask _ _ _) (program?_endTask_self _ _ _) hp htasks hlines
        ((hl.of_noHeavier .refl (noHeavier_zero _)).withBus (v.bus.noHeavier_discardInbox _))
  · refine lighter_goes hp rfl rfl rfl (Lighter.add ?_ ?_)
    · rw [programChores, programChores, hd]
      exact (lighter_singleton (Chore.below_of_count Nat.one_lt_two)).add_right _
    · exact noHeavier_of_eq (w.bus.chores_closeInbox _)
  · rcases hcase with ⟨request, bus, htake, rfl⟩ | ⟨-, -, v, ⟨log, rfl⟩, rfl⟩
    · refine lighter_goes hp rfl rfl rfl ?_
      rw [MemoryBus.chores_take htake, programChores, programChores, hh]
      have hl := (lighter_begin (w.withBus bus) id d.handler d.context request).add_left
        ({ownChore (if d.draining then 1 else 2)} + bus.chores)
      refine (congrArg₂ Lighter ?_ ?_).mpr hl
      · exact add_right_comm _ _ _
      · rw [Option.elim_none, add_zero, add_assoc]
    · exact lighter_ends hp (alone_endTask _ _ _) (program?_endTask_self _ _ _) rfl rfl rfl
        (w.bus.noHeavier_discardInbox _)

/-- The turn of an executor. -/
theorem lighter_execute {pool : PoolId} {i : Nat} {run? : Option Run}
    (hp : w.program? id = some (.execute pool i run?))
    (h : w.turnExecute id pool i run? = some w') : Lighter w'.chores w.chores := by
  obtain ⟨rfl, p, p', found, hpool, -, htake, hcase⟩ | ⟨run, p, v, progress, rfl, hpool, hr, hcase⟩ :=
    turnExecute_cases h
  · rcases hcase with ⟨job, rfl, rfl⟩ | ⟨rfl, v, ⟨log, rfl⟩, rfl⟩
    · have hl : w.Lightens (w.setPool pool p') {w.runChore id job.run} 0 := by
        refine ⟨.refl, Or.inr ⟨pool, p, p', hpool, rfl, ?_⟩⟩
        rw [add_zero]
        refine WorkerPool.lighter_take htake fun b hb => ?_
        rw [Multiset.mem_singleton.mp hb]
        exact le_refl 1
      exact Lightens.goes hp rfl (fun j _ => .of_gates rfl j) (hl.add_left _)
    · refine Lightens.ends (alone_endTask _ _ _) (program?_endTask_self _ _ _) hp rfl
        (fun j _ => .of_gates rfl j) ?_
      refine ⟨.refl, Or.inr ⟨pool, p, p', hpool, rfl, ?_⟩⟩
      rw [WorkerPool.chores_exit htake]
      exact (lighter_programChores _ _ _).add_left _
  · obtain ⟨hbus, hlines, hnext⟩ := turnRun_chores hr
    have htasks : v.tasks = w.tasks := (beside_turnRun hr).tends.tasks
    have hpools : v.pools = w.pools := (beside_turnRun hr).pools
    rcases hcase with ⟨next, rfl, rfl⟩ | ⟨-, log, rfl⟩
    · have hl := lighter_singleton (hnext next rfl)
      exact Lightens.goes hp htasks hlines
        ⟨noHeavier_of_eq hbus, Or.inl ⟨hpools, hl.add_left _⟩⟩
    · have ha := alone_setProgram (v.setPool pool (p.finish i)) id (.execute pool i none)
      refine Lightens.lighter (v := v.setPool pool (p.finish i))
        ⟨ha.length, ha.others, rfl, rfl, rfl, rfl, rfl, rfl, rfl⟩ hp htasks hlines ?_
      have hnone := taskChores_setProgram (v := v.setPool pool (p.finish i)) hp htasks
        (.execute pool i none)
      refine (congrArg (World.Lightens w _ · _) hnone).mpr
        ⟨noHeavier_of_eq hbus, Or.inr ⟨pool, p, p.finish i, hpool, ?_, ?_⟩⟩
      · show v.pools.set pool (p.finish i) = _
        rw [hpools]
      · rw [WorkerPool.chores_finish]
        exact ((lighter_zero _).add_left _).add_left _

/-- The turn of a call. -/
theorem lighter_exchange {call : CallId} {context? : Option Context} {begun : Bool}
    {client? : Option ClientId} {conclude : Except TransportError Message → Logged Outcome}
    (hp : w.program? id = some (.exchange call context? begun client? conclude))
    (h : w.turnExchange id call context? begun client? conclude = some w') :
    Lighter w'.chores w.chores := by
  obtain ⟨v, result, rfl, hcase⟩ | ⟨-, hwait, rfl⟩ := turnExchange_cases h
  · have hv : w.Beside v ∧ v.gates = w.gates ∧ NoHeavier v.bus.chores w.bus.chores := by
      rcases hcase with ⟨e, -, -, rfl, -⟩ | ⟨rfl, -⟩ | ⟨e, -, -, rfl, -⟩
      · exact ⟨beside_withBus w _, rfl, w.bus.noHeavier_abandon call⟩
      · exact ⟨beside_withBus w _, rfl, w.bus.noHeavier_poll call⟩
      · exact ⟨(beside_withBus w _).trans (beside_withBus _ _), rfl,
          (MemoryBus.noHeavier_abandon _ call).trans (w.bus.noHeavier_poll call)⟩
    obtain ⟨hbeside, hgates, hbus⟩ := hv
    exact lighter_ends hp (alone_finish (v.absorb _) _ _) (program?_finish_self _ _ _)
      hbeside.tends.tasks hbeside.pools hgates hbus
  · refine lighter_goes hp rfl rfl rfl ?_
    cases begun with
    | false =>
      refine Lighter.add ?_ (w.bus.noHeavier_poll call)
      exact lighter_singleton (Chore.below_of_count Nat.one_lt_two)
    | true =>
      have hstep : w.bus.step call ≠ none := fun hnone => hwait ⟨rfl, hnone⟩
      exact NoHeavier.add .refl (MemoryBus.lighter_poll hstep)

/-- Naming a request leaves nothing more to do. -/
theorem nameRequest_chores (w : World) (name : String) (request : Request) :
    (w.nameRequest name request).gates = w.gates ∧
      (w.nameRequest name request).pools = w.pools ∧
      NoHeavier (w.nameRequest name request).bus.chores w.bus.chores := by
  obtain ⟨bus, hw, ⟨rfl, -⟩ | ⟨old, -, rfl⟩⟩ := w.nameRequest_cases name request <;> rw [hw]
  · exact ⟨rfl, rfl, .refl⟩
  · exact ⟨rfl, rfl, noHeavier_of_eq (w.bus.chores_drop old)⟩

/-- Naming a subscription leaves nothing more to do. -/
theorem nameSubscription_chores (w : World) (name : String) (inbox : InboxId) :
    (w.nameSubscription name inbox).gates = w.gates ∧
      (w.nameSubscription name inbox).pools = w.pools ∧
      NoHeavier (w.nameSubscription name inbox).bus.chores w.bus.chores := by
  obtain ⟨bus, hw, rfl | ⟨old, -, rfl⟩⟩ := w.nameSubscription_cases name inbox <;> rw [hw]
  · exact ⟨rfl, rfl, .refl⟩
  · exact ⟨rfl, rfl, w.bus.noHeavier_discardInbox old⟩

/-- The turn of a task that waits for a request. -/
theorem lighter_receive {subscription request : String} {inbox : InboxId}
    (hp : w.program? id = some (.receive subscription inbox request))
    (h : w.turnReceive id subscription inbox request = some w') : Lighter w'.chores w.chores := by
  obtain ⟨r, bus, htake, rfl⟩ | rfl := turnReceive_cases h
  · have ht₁ := (tends_nameRequest (w.withBus bus) request r).tasks
    obtain ⟨hg₁, hp₁, hb₁⟩ := nameRequest_chores (w.withBus bus) request r
    have ht₂ := (tends_nameSubscription ((w.withBus bus).nameRequest request r)
      subscription inbox).tasks
    obtain ⟨hg₂, hp₂, hb₂⟩ := nameSubscription_chores ((w.withBus bus).nameRequest request r)
      subscription inbox
    have htake' : NoHeavier bus.chores w.bus.chores := by
      rw [MemoryBus.chores_take htake]
      exact noHeavier_add _ _
    exact lighter_ends hp (alone_finish _ _ _) (program?_finish_self _ _ _) (ht₂.trans ht₁)
      (hp₂.trans hp₁) (hg₂.trans hg₁) ((hb₂.trans hb₁).trans htake')
  · obtain ⟨hg, hp', hb⟩ := nameSubscription_chores w subscription inbox
    exact lighter_ends hp (alone_finish _ _ _) (program?_finish_self _ _ _)
      (tends_nameSubscription w subscription inbox).tasks hp' hg hb

/-- The turn of a task that sleeps. -/
theorem lighter_sleep {context : Context} {begun : Bool} {wake : Time}
    (hp : w.program? id = some (.sleep context begun wake))
    (h : w.turnSleep id context begun wake = some w') : Lighter w'.chores w.chores := by
  obtain ⟨result, rfl⟩ | ⟨rfl, rfl⟩ := turnSleep_cases h
  · exact lighter_ends hp (alone_finish _ _ _) (program?_finish_self _ _ _) rfl rfl rfl .refl
  · refine lighter_goes hp rfl rfl rfl (Lighter.add_right ?_ _)
    exact lighter_singleton (Chore.below_of_count Nat.one_lt_two)

/-- The turn of a task that submits a job. -/
theorem lighter_submit {pool : PoolId} {sub : Submission}
    (hp : w.program? id = some (.submit pool sub)) (h : w.turnSubmit id pool sub = some w') :
    Lighter w'.chores w.chores := by
  obtain ⟨⟨v, placement⟩, hv, h⟩ := Option.bind_eq_some_iff.mp h
  obtain ⟨htasks, hgates, hl⟩ := lightens_turnSubmission (s := 0) hv (by simp)
  have hlines : ∀ j : Nat, j ≠ id → w.SameLines v j := fun j _ => .of_gates hgates j
  have hmore : NoHeavier (submissionChores sub) ({ownChore 1} + submissionChores sub) :=
    (noHeavier_add _ {ownChore 1}).trans (noHeavier_of_eq (add_comm _ _))
  have hend : w.Lightens v 0 ({ownChore 1} + submissionChores sub) := hl.of_noHeavier hmore .refl
  cases placement with
  | onward next =>
    cases h
    obtain ⟨t, rfl⟩ := placed_of_onward hv
    exact Lightens.goes hp htasks hlines (hl.add_left _)
  | queued =>
    cases h
    exact Lightens.ends (alone_finish _ _ _) (program?_finish_self _ _ _) hp htasks hlines hend
  | handedBack job =>
    cases h
    exact Lightens.ends (alone_finish (v.dropRequest job.request) _ _) (program?_finish_self _ _ _)
      hp htasks hlines (hend.withBus (noHeavier_of_eq (v.bus.chores_drop job.request)))

/-- The turn of a task that handles a request. -/
theorem lighter_handle {handling : Handling} (hp : w.program? id = some (.handle handling))
    (h : w.turnHandle id handling = some w') : Lighter w'.chores w.chores := by
  obtain ⟨⟨v, progress⟩, hv, h⟩ := Option.bind_eq_some_iff.mp h
  obtain ⟨htasks, hlines, hl⟩ := lightens_turnHandling hv
  have hl := hl.add_left {ownChore 1}
  cases progress with
  | going next =>
    cases h
    exact Lightens.goes hp htasks hlines hl
  | «over» =>
    cases h
    exact Lightens.ends (alone_finish _ _ _) (program?_finish_self _ _ _) hp htasks hlines
      (hl.of_noHeavier .refl (noHeavier_zero _))
  | crashed =>
    cases h
    exact Lightens.ends (alone_endTask _ _ _) (program?_endTask_self _ _ _) hp htasks hlines
      (hl.of_noHeavier .refl (noHeavier_zero _))

/-- A step of a shutdown. -/
theorem lightens_turnShutdown {pool : PoolId} {stage : Shutdown} {next? : Option Shutdown}
    (h : w.turnShutdown pool stage = some (v, next?)) : v.tasks = w.tasks ∧ v.gates = w.gates ∧
      w.Lightens v (next?.elim 0 fun next => {shutdownChore next}) {shutdownChore stage} := by
  obtain ⟨p, p', hp, hs, log, rfl⟩ := turnShutdown_cases h
  refine ⟨rfl, rfl, .refl, Or.inr ⟨pool, p, p', hp, rfl, ?_⟩⟩
  rw [WorkerPool.chores_shutdown hs]
  refine Lighter.add_left ?_ p.chores
  rcases WorkerPool.shutdown?_cases hs with ⟨rfl, -, rfl⟩ | ⟨rfl, -, rfl⟩ | ⟨i, rest, rfl, -, -, rfl⟩
  · exact lighter_singleton (Chore.below_of_kind (show 11 < 12 by decide))
  · exact lighter_zero _
  · exact lighter_singleton (Chore.below_of_count (Nat.lt_succ_self _))

/-- The turn of a task that shuts a pool down. -/
theorem lighter_shutdown {pool : PoolId} {stage : Shutdown}
    (hp : w.program? id = some (.shutdown pool stage)) (h : w.turn id = some w') :
    Lighter w'.chores w.chores := by
  obtain ⟨v, next?, hv, hcase⟩ := turnShutdown_of_turn hp h
  obtain ⟨htasks, hgates, hl⟩ := lightens_turnShutdown hv
  have hlines : ∀ j : Nat, j ≠ id → w.SameLines v j := fun j _ => .of_gates hgates j
  rcases hcase with ⟨next, rfl, rfl⟩ | ⟨rfl, outcome, rfl⟩
  · exact Lightens.goes hp htasks hlines hl
  · exact Lightens.ends (alone_finish _ _ _) (program?_finish_self _ _ _) hp htasks hlines hl

/-- The turn of a task that stops a service. -/
theorem lighter_stop {service : ServiceId} {stage : Stopping}
    (hp : w.program? id = some (.stop service stage)) (h : w.turnStop id service stage = some w') :
    Lighter w'.chores w.chores := by
  obtain ⟨s, hs, hcase⟩ := turnStop_cases h
  rcases hcase with ⟨rfl, rfl⟩ | ⟨t, rest, rfl, -, rfl⟩ | ⟨rfl, -, rfl⟩ | ⟨pool, rfl, -, rfl⟩ |
    ⟨pool, part, v, next?, rfl, -, hv, hnext⟩
  · refine lighter_goes hp rfl rfl rfl (Lighter.add_right ?_ _)
    exact lighter_singleton (Chore.below_of_kind (show 13 < 14 by decide))
  · obtain ⟨log, hlog⟩ := w.logs_reportCrash t
    rw [hlog]
    refine lighter_goes hp rfl rfl rfl (Lighter.add_right ?_ _)
    exact lighter_singleton (Chore.below_of_count (Nat.lt_succ_self _))
  · exact lighter_ends hp (alone_finish _ _ _) (program?_finish_self _ _ _) rfl rfl rfl .refl
  · refine lighter_goes hp rfl rfl rfl (Lighter.add_right ?_ _)
    exact lighter_singleton (Chore.below_of_kind (show 12 < 13 by decide))
  · obtain ⟨htasks, hgates, hl⟩ := lightens_turnShutdown hv
    have hlines : ∀ j : Nat, j ≠ id → w.SameLines v j := fun j _ => .of_gates hgates j
    rcases hnext with ⟨next, rfl, rfl⟩ | ⟨rfl, u, outcome, ⟨log, rfl⟩, rfl⟩
    · exact Lightens.goes hp htasks hlines hl
    · exact Lightens.ends (alone_finish _ _ _) (program?_finish_self _ _ _) hp htasks hlines hl

/-- **A turn leaves less to do.** -/
theorem lighter_turn (h : w.turn id = some w') : Lighter w'.chores w.chores := by
  obtain ⟨program, hp⟩ := exists_program_of_turn h
  have hturn := h
  rw [turn, hp, Option.bind_eq_bind, Option.bind_some] at hturn
  cases program with
  | awaitCancelled c =>
    rw [turn_awaitCancelled hp h]
    exact lighter_ends hp (alone_finish _ _ _) (program?_finish_self _ _ _) rfl rfl rfl .refl
  | awaitEnd c =>
    obtain ⟨e, rfl⟩ := turn_awaitEnd hp h
    exact lighter_ends hp (alone_finish _ _ _) (program?_finish_self _ _ _) rfl rfl rfl .refl
  | sleep c begun wake => exact lighter_sleep hp hturn
  | receive subscription inbox request => exact lighter_receive hp hturn
  | exchange call c? begun client? conclude => exact lighter_exchange hp hturn
  | submit pool sub => exact lighter_submit hp hturn
  | shutdown pool stage => exact lighter_shutdown hp h
  | handle handling => exact lighter_handle hp hturn
  | stop service stage => exact lighter_stop hp hturn
  | deliver d => exact lighter_deliver hp hturn
  | execute pool i run? => exact lighter_execute hp hturn

/-- **Turns alone come to an end**, in whatever order the tasks have them. -/
theorem wellFounded_turn : WellFounded fun w' w : World => ∃ id : TaskId, w.turn id = some w' :=
  Subrelation.wf (fun ⟨_, h⟩ => lighter_turn h) (InvImage.wf chores wellFounded_lighter)

end World

end ServiceBus.Bus
