import ServiceBus.Bus.Turn

/-! # Tasks of a world

What the operations on tasks do to the programs of all tasks.

* `World.Beside`: a change that leaves tasks, pools, services, scopes and names alone.
* `World.Logs`: a change of the log.
* `World.finish_eq`: the end of a task only ends it and adds to the journal. -/

namespace ServiceBus.Bus

/-- What is in a list that got one more at its end. -/
theorem getElem?_concat_iff {α : Type} {l : List α} {a b : α} {i : Nat} :
    (l ++ [a])[i]? = some b ↔ l[i]? = some b ∨ i = l.length ∧ b = a := by
  rcases Nat.lt_trichotomy i l.length with h | rfl | h
  · rw [List.getElem?_append_left h]
    simp [Nat.ne_of_lt h]
  · rw [List.getElem?_concat_length]
    simp [eq_comm]
  · rw [List.getElem?_eq_none (by rw [List.length_append, List.length_singleton]; omega),
      List.getElem?_eq_none (by omega)]
    simp [Nat.ne_of_gt h]

namespace World

variable {w w' : World} {id j : Nat} {program : Program}

/-! ### Programs -/

/-- The task that is given something to do has it. -/
theorem program?_setProgram_self (h : id < w.tasks.length) (program : Program) :
    (w.setProgram id program).program? id = some program := by
  rw [program?, setProgram, List.getElem?_modify_eq, List.getElem?_eq_getElem h]
  rfl

/-- The other tasks go on with what they do. -/
theorem program?_setProgram_ne (h : j ≠ id) (program : Program) :
    (w.setProgram id program).program? j = w.program? j := by
  show ((w.tasks.modify id _)[j]?).bind (·.program?) = w.program? j
  rw [List.getElem?_modify_ne _ _ h.symm]
  rfl

/-- A task that has ended has nothing left to do. -/
theorem program?_endTask_self (w : World) (id : Nat) (crashed : Bool) :
    (w.endTask id crashed).program? id = none := by
  rw [program?, endTask, List.getElem?_modify_eq]
  cases w.tasks[id]? with
  | none => rfl
  | some t => rfl

/-- The other tasks go on with what they do. -/
theorem program?_endTask_ne (h : j ≠ id) (crashed : Bool) :
    (w.endTask id crashed).program? j = w.program? j := by
  show ((w.tasks.modify id _)[j]?).bind (·.program?) = w.program? j
  rw [List.getElem?_modify_ne _ _ h.symm]
  rfl

/-- A new task has its program, and the others go on. -/
theorem program?_spawn (w : World) (program : Program) (name? : Option String) (j : Nat) :
    (w.spawn program name?).program? j =
      if j = w.tasks.length then some program else w.program? j := by
  rw [program?, spawn]
  split
  · rename_i h
    rw [h, List.getElem?_concat_length]
    rfl
  · rename_i h
    rw [List.getElem?_append]
    split
    · rfl
    · rename_i hlt
      have hout : w.tasks[j]? = none := List.getElem?_eq_none (by omega)
      rw [program?, hout, List.getElem?_eq_none (by simp; omega)]

/-- A task that has something to do is there. -/
theorem lt_of_program? (h : w.program? id = some program) : id < w.tasks.length := by
  rw [program?, Option.bind_eq_some_iff] at h
  obtain ⟨t, ht, -⟩ := h
  exact (List.getElem?_eq_some_iff.mp ht).1

/-- A task goes on with what it has to do when another one begins. -/
theorem program?_spawn_of_some (h : w.program? j = some program) (begins : Program)
    (name? : Option String) : (w.spawn begins name?).program? j = some program := by
  rw [program?_spawn, if_neg (Nat.ne_of_lt (lt_of_program? h)), h]

/-- A task that is not there has nothing to do. -/
theorem program?_eq_none (h : ¬ id < w.tasks.length) : w.program? id = none := by
  rw [program?, List.getElem?_eq_none (by omega)]
  rfl

/-! ### The end of a task -/

/-- **The end of a task** ends it and may add to the journal. -/
theorem finish_eq (w : World) (id : Nat) (outcome : Outcome) : ∃ news : List Event,
    w.finish id outcome = { w.endTask id with events := w.events ++ news } := by
  rw [finish]
  cases (w.tasks[id]?).bind (·.name?) with
  | none => exact ⟨[], by simp [endTask]⟩
  | some name => exact ⟨[.finished name outcome], rfl⟩

/-- A task that has finished has nothing left to do. -/
theorem program?_finish_self (w : World) (id : Nat) (outcome : Outcome) :
    (w.finish id outcome).program? id = none := by
  obtain ⟨news, hw⟩ := w.finish_eq id outcome
  rw [hw]
  exact w.program?_endTask_self id false

/-- The other tasks go on with what they do. -/
theorem program?_finish_ne (h : j ≠ id) (outcome : Outcome) :
    (w.finish id outcome).program? j = w.program? j := by
  obtain ⟨news, hw⟩ := w.finish_eq id outcome
  rw [hw]
  exact program?_endTask_ne h false

/-! ### Changes of one task -/

/-- Whether all but one task, and the journal, is as before. -/
structure Alone (id : Nat) (w w' : World) : Prop where
  length : w'.tasks.length = w.tasks.length
  others : ∀ j : Nat, j ≠ id → w'.program? j = w.program? j
  now : w'.now = w.now
  scopes : w'.scopes = w.scopes
  bus : w'.bus = w.bus
  pools : w'.pools = w.pools
  services : w'.services = w.services
  gates : w'.gates = w.gates
  desk : w'.desk = w.desk

/-- A task that goes on. -/
theorem alone_setProgram (w : World) (id : Nat) (program : Program) :
    Alone id w (w.setProgram id program) :=
  ⟨List.length_modify _ _ _, fun _ hj => program?_setProgram_ne hj program,
    rfl, rfl, rfl, rfl, rfl, rfl, rfl⟩

/-- A task that ends. -/
theorem alone_endTask (w : World) (id : Nat) (crashed : Bool) :
    Alone id w (w.endTask id crashed) :=
  ⟨List.length_modify _ _ _, fun _ hj => program?_endTask_ne hj crashed,
    rfl, rfl, rfl, rfl, rfl, rfl, rfl⟩

/-- A task that finishes. -/
theorem alone_finish (w : World) (id : Nat) (outcome : Outcome) :
    Alone id w (w.finish id outcome) := by
  have hothers := fun (j : Nat) (hj : j ≠ id) => program?_finish_ne (w := w) hj outcome
  obtain ⟨news, hw⟩ := w.finish_eq id outcome
  rw [hw] at hothers ⊢
  exact ⟨List.length_modify _ _ _, hothers, rfl, rfl, rfl, rfl, rfl, rfl, rfl⟩

/-! ### Changes beside the tasks -/

/-- Whether a change concerns the bus, the journal, the log, the gates and the stores at most. -/
def Beside (w w' : World) : Prop :=
  ∃ bus events log gates stores, w' = { w with bus, events, log, gates, stores }

/-- No change. -/
theorem Beside.refl (w : World) : w.Beside w := ⟨_, _, _, _, _, rfl⟩

/-- One change after another. -/
theorem Beside.trans {v : World} (h : v.Beside w) (h' : w.Beside w') : v.Beside w' := by
  obtain ⟨_, _, _, _, _, rfl⟩ := h
  obtain ⟨_, _, _, _, _, rfl⟩ := h'
  exact ⟨_, _, _, _, _, rfl⟩

/-- Beside the tasks there are no pools. -/
theorem Beside.pools (h : w.Beside w') : w'.pools = w.pools := by
  obtain ⟨_, _, _, _, _, rfl⟩ := h
  rfl

/-- A change of the bus. -/
theorem beside_withBus (w : World) (bus : MemoryBus) : w.Beside (w.withBus bus) :=
  ⟨_, _, _, _, _, rfl⟩

/-- Whether a change concerns the log at most. -/
def Logs (w w' : World) : Prop := ∃ log, w' = { w with log }

/-- No change. -/
theorem Logs.refl (w : World) : w.Logs w := ⟨_, rfl⟩

/-- One change after another. -/
theorem Logs.trans {v : World} (h : w.Logs v) (h' : v.Logs w') : w.Logs w' := by
  obtain ⟨_, rfl⟩ := h
  obtain ⟨_, rfl⟩ := h'
  exact ⟨_, rfl⟩

/-- The log is beside the tasks. -/
theorem Logs.beside (h : w.Logs w') : w.Beside w' := by
  obtain ⟨_, rfl⟩ := h
  exact ⟨_, _, _, _, _, rfl⟩

/-- A record in the log. -/
theorem logs_report (w : World) (r : Log.Record) : w.Logs (w.report r) := ⟨_, rfl⟩

/-- Some records in the log. -/
theorem logs_foldl_report (w : World) (rs : List Log.Record) : w.Logs (rs.foldl report w) := by
  induction rs generalizing w with
  | nil => exact .refl w
  | cons r rs ih => exact (logs_report w r).trans (ih _)

/-- An event in the journal. -/
theorem beside_record (w : World) (e : Event) : w.Beside (w.record e) := ⟨_, _, _, _, _, rfl⟩

/-- A reply. -/
theorem beside_reply (w : World) (request : Request) (headers : Headers) (payload : Bytes) :
    w.Beside (w.reply request headers payload).1 := by
  rw [reply]
  cases request.replyTo? with
  | none => exact .refl w
  | some address =>
    cases address with
    | call id => exact beside_withBus w _
    | journal label => exact beside_record w _
    | broken => exact .refl w

/-! ### Steps of scripts -/

/-- **What a step of a script does**, one case for each kind of script. Who comes to a gate gets in line
before it goes through, and a pause begins before it ends. -/
inductive RunStep (w : World) (id : TaskId) (run : Run) : World → Progress Run → Prop
  | stop (script : run.script = .stop) : RunStep w id run (w.dropRequest run.request) .over
  | crash (script : run.script = .crash) : RunStep w id run (w.dropRequest run.request) .crashed
  | note (n : Note) (next : Script) (script : run.script = .note n next) :
      RunStep w id run (w.record (.noted n)) (.going { run with script := next })
  | report (r : Log.Record) (next : Script) (script : run.script = .report r next) :
      RunStep w id run (w.report r) (.going { run with script := next })
  | reply (headers : Headers) (payload : Bytes) (next : Except TransportError Unit → Script)
      {v : World} {request : Request} {result : Except TransportError Unit}
      (script : run.script = .reply headers payload next)
      (replied : w.reply run.request headers payload = (v, request, result)) :
      RunStep w id run v (.going { run with request, script := next result })
  | pass (payload : Bytes) (next : Script) {v : World} {passed : Bool}
      (script : run.script = .pass payload next) (pass : w.pass? id payload = some (v, passed)) :
      RunStep w id run v (.going (if passed then { run with script := next } else run))
  | pauses (ms : Time) (next : Script) (script : run.script = .pause ms next)
      (wake : run.wake? = none) : RunStep w id run w (.going { run with wake? := some (w.now + ms) })
  | wakes (ms : Time) (next : Script) (script : run.script = .pause ms next) :
      RunStep w id run w (.going { run with script := next, wake? := none })
  | awaitEnd (next : ContextError → Script) (e : ContextError)
      (script : run.script = .awaitEnd next) :
      RunStep w id run w (.going { run with script := next e })
  | inspect (next : Option ContextError → Script) (script : run.script = .inspect next) :
      RunStep w id run w (.going { run with script := next (w.contextError? run.context) })
  | keep (s : StoreId) (key value : String) (next : Script)
      (script : run.script = .keep s key value next) :
      RunStep w id run (w.store s key value) (.going { run with script := next })

/-- A turn of a run is a step of its script. -/
theorem runStep_of_turnRun {run : Run} {progress : Progress Run}
    (h : w.turnRun id run = some (w', progress)) : w.RunStep id run w' progress := by
  rw [turnRun] at h
  split at h
  · rename_i hscript
    cases h
    exact .stop hscript
  · rename_i hscript
    cases h
    exact .crash hscript
  · rename_i n next hscript
    cases h
    exact .note n next hscript
  · rename_i r next hscript
    cases h
    exact .report r next hscript
  · rename_i headers payload next hscript
    cases h
    exact .reply headers payload next hscript rfl
  · rename_i payload next hscript
    obtain ⟨⟨v, passed⟩, hpass, h⟩ := Option.bind_eq_some_iff.mp h
    cases h
    exact .pass payload next hscript hpass
  · rename_i ms next hscript
    split at h
    · rename_i hwake
      cases h
      exact .pauses ms next hscript hwake
    · split at h
      · cases h
        exact .wakes ms next hscript
      · cases h
  · rename_i next hscript
    obtain ⟨e, -, h⟩ := Option.bind_eq_some_iff.mp h
    cases h
    exact .awaitEnd next e hscript
  · rename_i next hscript
    cases h
    exact .inspect next hscript
  · rename_i s key value next hscript
    cases h
    exact .keep s key value next hscript

/-- A task that comes to a gate changes the line of the gate at most. -/
theorem pass?_eq {payload : Bytes} {passed : Bool} (h : w.pass? id payload = some (w', passed)) :
    ∃ g, w' = w.setGate payload g := by
  rw [pass?] at h
  split at h
  · cases h
    exact ⟨_, rfl⟩
  · split at h
    · cases h
      exact ⟨_, rfl⟩
    · cases h

/-- A step of a script. -/
theorem beside_turnRun {run : Run} {progress : Progress Run}
    (h : w.turnRun id run = some (w', progress)) : w.Beside w' := by
  cases runStep_of_turnRun h with
  | stop => exact beside_withBus w _
  | crash => exact beside_withBus w _
  | note n => exact beside_record w _
  | report r => exact (logs_report w r).beside
  | reply headers payload next script replied =>
    have hb := beside_reply w run.request headers payload
    rwa [replied] at hb
  | pass payload next script hpass =>
    obtain ⟨g, rfl⟩ := pass?_eq hpass
    exact ⟨_, _, _, _, _, rfl⟩
  | keep => exact ⟨_, _, _, _, _, rfl⟩
  | pauses | wakes | awaitEnd | inspect => exact .refl w

end World

end ServiceBus.Bus
