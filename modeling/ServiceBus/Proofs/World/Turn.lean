import ServiceBus.Proofs.Pool.Sound
import ServiceBus.Proofs.World.Tasks

/-! # What a turn does

For every kind of program, all that a turn of it can do. A program is handled here once; whatever is
said of runs of a world is said by cases on these statements. -/

namespace ServiceBus.Bus

/-! ### Bound work -/

namespace Context

variable {σ β : Type} {verdict : σ → Option ContextError} {work : σ → σ × Option β} {begun : Bool}
  {s : σ}

/-- What comes of work that is polled and does not wait any more: its output if it has one, and
otherwise the verdict on its context. -/
def settled? (verdict : σ → Option ContextError) (work : σ → σ × Option β) (u : σ) :
    Option (Except ContextError β) :=
  match (work u).2 with
  | some output => some (.ok output)
  | none => (verdict (work u).1).map .error

/-- Work is polled in a turn, unless it was not begun and its context is over. -/
theorem polled_or_refused (verdict : σ → Option ContextError) (begun : Bool) (s : σ) :
    (begun = true ∨ verdict s = none) ∨ begun = false ∧ ∃ e, verdict s = some e := by
  cases begun with
  | true => exact Or.inl (Or.inl rfl)
  | false =>
    cases h : verdict s with
    | none => exact Or.inl (Or.inr rfl)
    | some e => exact Or.inr ⟨rfl, e, rfl⟩

/-- Under a context that is over work is not begun. -/
theorem run_refused {e : ContextError} (h : verdict s = some e) :
    run verdict work false s = (s, .over (.error e)) := by
  rw [run, if_neg Bool.false_ne_true, h]

/-- Otherwise it is polled. -/
theorem run_polled (h : begun = true ∨ verdict s = none) : run verdict work begun s =
    ((work s).1, (settled? verdict work s).elim .pending .over) := by
  have hstart : (if begun = true then none else verdict s) = none := by
    rcases h with rfl | h
    · rfl
    · rw [h, ite_self]
  rcases hwork : work s with ⟨s', output?⟩
  rw [run, hstart, settled?, hwork]
  cases output? with
  | some output => rfl
  | none =>
    dsimp only
    cases verdict s' <;> rfl

/-- Nothing is heard of the end of a context that is live, and nothing else. -/
theorem ending?_eq_none {c : Context} {noticed : ContextError} {scopes : ScopeTree} {now : Time} :
    c.ending? noticed scopes now = none ↔ c.error? scopes now = none := by
  rw [ending?, error?]
  cases scopes.isCancelled c.scope <;> cases c.deadline?.any (· ≤ now) <;> simp

/-- What one turn of bound work comes to. -/
theorem run_cases {s' : σ} {turn : Turn β} (h : run verdict work begun s = (s', turn)) :
    (∃ e, begun = false ∧ verdict s = some e ∧ s' = s ∧ turn = .over (.error e)) ∨
    (begun = true ∨ verdict s = none) ∧ s' = (work s).1 ∧
      ((∃ b, (work s).2 = some b ∧ turn = .over (.ok b)) ∨
        (work s).2 = none ∧
          ((∃ e, verdict (work s).1 = some e ∧ turn = .over (.error e)) ∨
            verdict (work s).1 = none ∧ turn = .pending)) := by
  rcases polled_or_refused verdict begun s with hpolled | ⟨rfl, e, he⟩
  · rw [run_polled hpolled] at h
    obtain ⟨rfl, rfl⟩ := Prod.mk.inj h
    refine Or.inr ⟨hpolled, rfl, ?_⟩
    cases hb : (work s).2 with
    | some b => exact Or.inl ⟨b, rfl, by rw [settled?, hb, Option.elim_some]⟩
    | none =>
      refine Or.inr ⟨rfl, ?_⟩
      cases he : verdict (work s).1 with
      | some e => exact Or.inl ⟨e, rfl, by rw [settled?, hb, he, Option.map_some, Option.elim_some]⟩
      | none => exact Or.inr ⟨rfl, by rw [settled?, hb, he, Option.map_none, Option.elim_none]⟩
  · rw [run_refused he] at h
    obtain ⟨rfl, rfl⟩ := Prod.mk.inj h
    exact Or.inl ⟨e, rfl, he, rfl, rfl⟩

end Context

namespace World

variable {w w' : World} {id : Nat}

/-! ### Submissions and handling -/

/-- How far a submission is after a verdict. -/
def Placement.ofVerdict (t : Ticket) : WorkerPool.Verdict Job → Placement
  | .onward => .onward (.placed t)
  | .queued => .queued
  | .handedBack job => .handedBack job

/-- What a step of a submission does: the job is offered, or the submission goes on. -/
theorem turnSubmission_cases {pool : PoolId} {s : Submission} {placement : Placement}
    (h : w.turnSubmission pool s = some (w', placement)) :
    ∃ p, w.pools[pool]? = some p ∧
      ((∃ job, s = .offered job ∧ w' = w.setPool pool (p.submit job).1 ∧
          placement = .ofVerdict p.issued (p.submit job).2) ∨
       ∃ t p' v, s = .placed t ∧ p.advance? t = some (p', v) ∧ w' = w.setPool pool p' ∧
          placement = .ofVerdict t v) := by
  obtain ⟨p, hp, h⟩ := Option.bind_eq_some_iff.mp h
  refine ⟨p, hp, ?_⟩
  cases s with
  | offered job =>
    refine Or.inl ⟨job, rfl, ?_⟩
    rcases hs : p.submit job with ⟨p', v⟩
    simp only [hs, Option.bind_some, Option.pure_def, Option.some.injEq, Prod.mk.injEq,
      Option.bind_eq_bind] at h
    obtain ⟨rfl, rfl⟩ := h
    exact ⟨rfl, by cases v <;> rfl⟩
  | placed t =>
    obtain ⟨⟨t', p', v⟩, hv, h⟩ := Option.bind_eq_some_iff.mp h
    obtain ⟨⟨p'', v'⟩, ha, heq⟩ := Option.map_eq_some_iff.mp hv
    cases heq
    cases h
    exact Or.inr ⟨t, p', v, rfl, ha, rfl, by cases v <;> rfl⟩

/-- A submission that goes on is with its pool. -/
theorem placed_of_onward {pool : PoolId} {s next : Submission}
    (h : w.turnSubmission pool s = some (w', .onward next)) : ∃ t, next = .placed t := by
  obtain ⟨p, -, ⟨job, -, -, hv⟩ | ⟨t, p', verdict, -, -, -, hv⟩⟩ := turnSubmission_cases h
  · cases hsubmit : (p.submit job).2 <;> rw [hsubmit] at hv <;> cases hv
    exact ⟨_, rfl⟩
  · cases verdict <;> cases hv
    exact ⟨_, rfl⟩

/-- What goes on after a turn, if anything. -/
def Progress.next? {α : Type} : Progress α → Option α
  | .going a => some a
  | .over | .crashed => none

/-- Progress of the handling of a request by a run. -/
def Progress.handling : Progress Run → Progress Handling
  | .going run => .going (.running run)
  | .over => .over
  | .crashed => .crashed

/-- Progress of the handling of a request by a submission. A job that is handed back is answered. -/
def Placement.handling (pool : PoolId) : Placement → Progress Handling
  | .onward s => .going (.submitting pool s)
  | .queued => .over
  | .handedBack job => .going (.running { job.run with script := .reject job.request.subject })

/-- What a step of the handling of a request does. -/
theorem turnHandling_cases {handling : Handling} {progress : Progress Handling}
    (h : w.turnHandling id handling = some (w', progress)) :
    (∃ run p, handling = .running run ∧ w.turnRun id run = some (w', p) ∧
      progress = p.handling) ∨
    ∃ pool s placement, handling = .submitting pool s ∧
      w.turnSubmission pool s = some (w', placement) ∧ progress = placement.handling pool := by
  cases handling with
  | running run =>
    obtain ⟨⟨v, p⟩, hp, h⟩ := Option.bind_eq_some_iff.mp h
    cases h
    exact Or.inl ⟨run, p, rfl, hp, by cases p <;> rfl⟩
  | submitting pool s =>
    obtain ⟨⟨v, p⟩, hp, h⟩ := Option.bind_eq_some_iff.mp h
    cases h
    exact Or.inr ⟨pool, s, p, rfl, hp, by cases p <;> rfl⟩

/-! ### Deliveries and executors -/

/-- What a turn of a delivery does: it goes on with the request it has, or it starts to drain, or it
takes the next request, or it ends. -/
theorem turnDeliver_cases {d : Delivery} (h : w.turnDeliver id d = some w') :
    (∃ handling v progress, d.handling? = some handling ∧
      w.turnHandling id handling = some (v, progress) ∧
      ((∃ next, progress = .going next ∧
          w' = v.setProgram id (.deliver { d with handling? := some next })) ∨
        progress = .over ∧ w' = v.setProgram id (.deliver { d with handling? := none }) ∨
        progress = .crashed ∧ w' = (v.withBus (v.bus.discardInbox d.inbox)).endTask id true)) ∨
    d.handling? = none ∧ d.draining = false ∧ w.scopes.isCancelled d.stop = true ∧
      w' = (w.withBus (w.bus.closeInbox d.inbox)).setProgram id
        (.deliver { d with draining := true }) ∨
    d.handling? = none ∧ (d.draining = true ∨ w.scopes.isCancelled d.stop = false) ∧
      ((∃ request bus, w.bus.take? d.inbox = some (request, bus) ∧
          w' = (w.withBus bus).setProgram id
            (.deliver { d with handling? := some (d.handler.begin d.context request) })) ∨
        w.bus.take? d.inbox = none ∧ w.bus.hasEnded d.inbox = true ∧
          ∃ v, w.Logs v ∧ w' = (v.withBus (w.bus.discardInbox d.inbox)).endTask id) := by
  obtain ⟨⟨v, progress⟩, hv, h⟩ := Option.bind_eq_some_iff.mp h
  rw [turnDelivery] at hv
  split at hv
  · rename_i handling hh
    obtain ⟨⟨v', p⟩, hp, hv⟩ := Option.bind_eq_some_iff.mp hv
    refine Or.inl ⟨handling, v', p, hh, hp, ?_⟩
    cases p with
    | going next =>
      cases hv
      cases h
      exact Or.inl ⟨next, rfl, rfl⟩
    | «over» =>
      cases hv
      cases h
      exact Or.inr (Or.inl ⟨rfl, rfl⟩)
    | crashed =>
      cases hv
      cases h
      exact Or.inr (Or.inr ⟨rfl, rfl⟩)
  · rename_i hh
    split at hv
    · rename_i hstop
      rw [Bool.and_eq_true, Bool.not_eq_true'] at hstop
      cases hv
      cases h
      exact Or.inr (Or.inl ⟨hh, hstop.1, hstop.2, rfl⟩)
    · rename_i hstop
      refine Or.inr (Or.inr ⟨hh, ?_, ?_⟩)
      · rw [Bool.and_eq_true, Bool.not_eq_true', not_and, Bool.not_eq_true] at hstop
        cases hd : d.draining
        · exact Or.inr (hstop hd)
        · exact Or.inl rfl
      · split at hv
        · rename_i request bus htake
          cases hv
          cases h
          exact Or.inl ⟨request, bus, htake, rfl⟩
        · rename_i htake
          split at hv
          · rename_i hend
            cases hv
            cases h
            have hlogs := logs_foldl_report w (w.endpointStopped d)
            refine Or.inr ⟨htake, hend, _, hlogs, ?_⟩
            obtain ⟨log, hlog⟩ := hlogs
            rw [hlog]
          · cases hv

/-- What a turn of an executor does: it goes on with its job, ends it, takes the next, or exits. -/
theorem turnExecute_cases {pool : PoolId} {i : Nat} {run? : Option Run}
    (h : w.turnExecute id pool i run? = some w') :
    (run? = none ∧ ∃ p p' found, w.pools[pool]? = some p ∧ p.isNext i = true ∧
      p.take? i = some (p', found) ∧
      ((∃ job, found = .job job ∧
          w' = (w.setPool pool p').setProgram id (.execute pool i (some job.run))) ∨
        found = .ended ∧ ∃ v, (w.setPool pool p').Logs v ∧ w' = v.endTask id)) ∨
    ∃ run p v progress, run? = some run ∧ w.pools[pool]? = some p ∧
      w.turnRun id run = some (v, progress) ∧
      ((∃ next, progress = .going next ∧
          w' = v.setProgram id (.execute pool i (some next))) ∨
        ((progress = .over ∨ progress = .crashed) ∧
          ((v.setProgram id (.execute pool i none)).setPool pool (p.finish i)).Logs w')) := by
  cases run? with
  | none =>
    obtain ⟨p, hp, h⟩ := Option.bind_eq_some_iff.mp h
    obtain ⟨_, hnext, h⟩ := Option.bind_eq_some_iff.mp h
    obtain ⟨⟨p', found⟩, ht, h⟩ := Option.bind_eq_some_iff.mp h
    have hnext : p.isNext i = true := by
      by_contra hn
      simp [guard, hn] at hnext
    refine Or.inl ⟨rfl, p, p', found, hp, hnext, ht, ?_⟩
    cases found with
    | job job =>
      cases h
      exact Or.inl ⟨job, rfl, rfl⟩
    | ended =>
      cases h
      exact Or.inr ⟨rfl, _, logs_report _ _, rfl⟩
  | some run =>
    obtain ⟨p, hp, h⟩ := Option.bind_eq_some_iff.mp h
    obtain ⟨⟨v, progress⟩, hv, h⟩ := Option.bind_eq_some_iff.mp h
    refine Or.inr ⟨run, p, v, progress, rfl, hp, hv, ?_⟩
    cases progress with
    | going next =>
      cases h
      exact Or.inl ⟨next, rfl, rfl⟩
    | «over» =>
      cases h
      exact Or.inr ⟨Or.inl rfl, .refl _⟩
    | crashed =>
      cases h
      exact Or.inr ⟨Or.inr rfl, logs_report _ _⟩

/-! ### Shutdown and stop -/

/-- What a step of the shutdown of a pool does. -/
theorem turnShutdown_cases {pool : PoolId} {stage : Shutdown} {next? : Option Shutdown}
    (h : w.turnShutdown pool stage = some (w', next?)) :
    ∃ p p', w.pools[pool]? = some p ∧ p.shutdown? stage = some (p', next?) ∧
      (w.setPool pool p').Logs w' := by
  obtain ⟨p, hp, h⟩ := Option.bind_eq_some_iff.mp h
  obtain ⟨⟨p', next'⟩, hs, h⟩ := Option.bind_eq_some_iff.mp h
  refine ⟨p, p', hp, ?_⟩
  cases next' with
  | some stage' =>
    cases h
    exact ⟨hs, .refl _⟩
  | none =>
    cases h
    exact ⟨hs, logs_report _ _⟩

/-- A crash that is told changes nothing else. -/
theorem logs_reportCrash (w : World) (t : TaskId) : w.Logs (w.reportCrash t) := by
  rw [reportCrash]
  split
  · exact logs_report w _
  · exact .refl w

/-- What a turn of the stop of a service does: the deliveries are taken out of the service and told to
stop, they are waited for one by one, and then the pool is shut down. -/
theorem turnStop_cases {s : ServiceId} {stage : Stopping} (h : w.turnStop id s stage = some w') :
    ∃ service, w.services[s]? = some service ∧
      (stage = .signalling ∧
          w' = { w.cancelScope service.stop with
            services := w.services.modify s ({ · with deliveries := [] }) }.setProgram id
              (.stop s (.joining service.deliveries)) ∨
        (∃ t rest, stage = .joining (t :: rest) ∧ w.hasEnded t = true ∧
          w' = (w.reportCrash t).setProgram id (.stop s (.joining rest))) ∨
        stage = .joining [] ∧ service.pool? = none ∧
          w' = w.finish id (.stopped (w.isStopped service)) ∨
        (∃ pool, stage = .joining [] ∧ service.pool? = some pool ∧
          w' = w.setProgram id (.stop s (.shutting .closing))) ∨
        ∃ pool part v next?, stage = .shutting part ∧ service.pool? = some pool ∧
          w.turnShutdown pool part = some (v, next?) ∧
          ((∃ part', next? = some part' ∧ w' = v.setProgram id (.stop s (.shutting part'))) ∨
            next? = none ∧ ∃ u outcome, v.Logs u ∧ w' = u.finish id outcome)) := by
  obtain ⟨service, hs, h⟩ := Option.bind_eq_some_iff.mp h
  refine ⟨service, hs, ?_⟩
  cases stage with
  | signalling =>
    cases h
    exact Or.inl ⟨rfl, rfl⟩
  | joining deliveries =>
    cases deliveries with
    | cons t rest =>
      refine Or.inr (Or.inl ⟨t, rest, rfl, ?_⟩)
      dsimp only at h
      split at h
      · rename_i hend
        cases h
        exact ⟨hend, rfl⟩
      · cases h
    | nil =>
      dsimp only at h
      cases hpool : service.pool? with
      | none =>
        rw [hpool] at h
        cases h
        exact Or.inr (Or.inr (Or.inl ⟨rfl, rfl, rfl⟩))
      | some pool =>
        rw [hpool] at h
        cases h
        exact Or.inr (Or.inr (Or.inr (Or.inl ⟨pool, rfl, rfl, rfl⟩)))
  | shutting part =>
    obtain ⟨pool, hpool, h⟩ := Option.bind_eq_some_iff.mp h
    obtain ⟨⟨v, next?⟩, hv, h⟩ := Option.bind_eq_some_iff.mp h
    refine Or.inr (Or.inr (Or.inr (Or.inr ⟨pool, part, v, next?, rfl, hpool, hv, ?_⟩)))
    cases next? with
    | some part' =>
      cases h
      exact Or.inl ⟨part', rfl, rfl⟩
    | none =>
      cases h
      exact Or.inr ⟨rfl, _, _, logs_report _ _, rfl⟩

/-! ### Tasks of callers -/

/-- A task is bound by no error as long as its context is live. -/
theorem boundError?_eq_none {begun : Bool} {context? : Option Context} :
    boundError? begun context? w = none ↔ context?.bind w.contextError? = none := by
  rw [boundError?]
  cases context? with
  | none => simp
  | some context => cases begun <;> simp [contextEnd?, contextError?, Context.ending?_eq_none]

/-- What a turn of a call does: the call is over before it begins, has its result, is over while it
waits, or goes on. -/
theorem turnExchange_cases {call : CallId} {context? : Option Context} {begun : Bool}
    {client? : Option ClientId} {conclude : Except TransportError Message → Logged Outcome}
    (h : w.turnExchange id call context? begun client? conclude = some w') :
    (∃ v result, w' = (v.absorb (conclude result)).finish id (conclude result).value ∧
      ((∃ e, boundError? begun context? w = some e ∧ begun = false ∧
          v = w.withBus (w.bus.abandon call) ∧ result = .error (.ofContext e)) ∨
        (v = w.withBus (w.bus.poll call).1 ∧ (w.bus.poll call).2 = some result) ∨
        ∃ e, boundError? begun context? (w.withBus (w.bus.poll call).1) = some e ∧
          (w.bus.poll call).2 = none ∧
          v = (w.withBus (w.bus.poll call).1).withBus ((w.bus.poll call).1.abandon call) ∧
          result = .error (.ofContext e))) ∨
    (w.bus.poll call).2 = none ∧ ¬ (begun = true ∧ w.bus.step call = none) ∧
      w' = (w.withBus (w.bus.poll call).1).setProgram id
        (.exchange call context? true client? conclude) := by
  rw [turnExchange] at h
  rcases hrun : Context.run (boundError? begun context?)
    (fun w => (w.withBus (w.bus.poll call).1, (w.bus.poll call).2)) begun w with ⟨v, turn⟩
  rcases Context.run_cases hrun with ⟨e, hbegun, he, rfl, rfl⟩ | ⟨-, rfl, hturn⟩
  · rw [hrun] at h
    cases h
    exact Or.inl ⟨_, _, rfl, Or.inl ⟨e, he, hbegun, rfl, rfl⟩⟩
  · rw [hrun] at h
    rcases hturn with ⟨result, hresult, rfl⟩ | ⟨hnone, ⟨e, he, rfl⟩ | ⟨-, rfl⟩⟩
    · cases h
      exact Or.inl ⟨_, _, rfl, Or.inr (Or.inl ⟨rfl, hresult⟩)⟩
    · cases h
      exact Or.inl ⟨_, _, rfl, Or.inr (Or.inr ⟨e, he, hnone, rfl, rfl⟩)⟩
    · refine Or.inr ⟨hnone, ?_⟩
      dsimp only at h
      split at h
      · cases h
      · rename_i hwait
        cases h
        rw [Bool.and_eq_true, Option.isNone_iff_eq_none] at hwait
        exact ⟨hwait, rfl⟩

/-- What a turn of a task that waits for a cancellation does: the context is cancelled, and it ends. -/
theorem turn_awaitCancelled {c : Context} (hp : w.program? id = some (.awaitCancelled c))
    (h : w.turn id = some w') : w' = w.finish id .cancelled := by
  rw [turn, hp, Option.bind_eq_bind, Option.bind_some] at h
  replace h : (if w.scopes.isCancelled c.scope = true then some (w.finish id .cancelled)
    else none) = some w' := h
  split at h
  · exact (Option.some.inj h).symm
  · cases h

/-- What a turn of a task that waits for the end of a context does: the context has ended, and so does
the task. -/
theorem turn_awaitEnd {c : Context} (hp : w.program? id = some (.awaitEnd c))
    (h : w.turn id = some w') : ∃ e, w' = w.finish id (.ended e) := by
  rw [turn, hp, Option.bind_eq_bind, Option.bind_some] at h
  obtain ⟨e, -, h⟩ := Option.bind_eq_some_iff.mp h
  exact ⟨e, (Option.some.inj h).symm⟩

/-- What a turn of a task that sleeps does: the sleep is over, or it begins. -/
theorem turnSleep_cases {context : Context} {begun : Bool} {wake : Time}
    (h : w.turnSleep id context begun wake = some w') :
    (∃ result, w' = w.finish id (.slept result)) ∨
      begun = false ∧ w' = w.setProgram id (.sleep context true wake) := by
  rw [turnSleep] at h
  rcases hrun : Context.run (boundError? begun (some context))
    (fun w => (w, if wake ≤ w.now then some () else none)) begun w with ⟨v, turn⟩
  have hv : v = w := by
    rcases Context.run_cases hrun with ⟨e, -, -, hv, -⟩ | ⟨-, hv, -⟩
    · exact hv
    · exact hv
  rw [hrun, hv] at h
  cases turn with
  | «over» result =>
    cases h
    exact Or.inl ⟨result, rfl⟩
  | pending =>
    cases begun with
    | true => cases h
    | false =>
      cases h
      exact Or.inr ⟨rfl, rfl⟩

/-- What naming a subscription does: the one that had the name is given up. -/
theorem nameSubscription_cases (w : World) (name : String) (inbox : InboxId) : ∃ bus,
    w.nameSubscription name inbox =
      { w with bus, desk.subscriptions := w.desk.subscriptions.insert name inbox } ∧
    (bus = w.bus ∨ ∃ old, w.desk.subscriptions[name]? = some old ∧ bus = w.bus.discardInbox old) := by
  rw [nameSubscription]
  cases w.desk.subscriptions[name]? with
  | none => exact ⟨_, rfl, Or.inl rfl⟩
  | some old => exact ⟨_, rfl, Or.inr ⟨old, rfl, rfl⟩⟩

/-- What naming a request does: the one that had the name is given up. -/
theorem nameRequest_cases (w : World) (name : String) (request : Request) : ∃ bus,
    w.nameRequest name request =
      { w with bus, desk.requests := w.desk.requests.insert name request } ∧
    (bus = w.bus ∧ w.desk.requests[name]? = none ∨
      ∃ old, w.desk.requests[name]? = some old ∧ bus = w.bus.drop old) := by
  rw [nameRequest]
  cases w.desk.requests[name]? with
  | none => exact ⟨_, rfl, Or.inl ⟨rfl, rfl⟩⟩
  | some old => exact ⟨_, rfl, Or.inr ⟨old, rfl, rfl⟩⟩

/-- What a turn of a task that waits for a request does: it takes one, or hears that there will be
none. The subscription gets its name back. -/
theorem turnReceive_cases {subscription request : String} {inbox : InboxId}
    (h : w.turnReceive id subscription inbox request = some w') :
    (∃ r bus, w.bus.take? inbox = some (r, bus) ∧
      w' = (((w.withBus bus).nameRequest request r).nameSubscription subscription inbox).finish id
        (.received (some (r.reply r.headers r.payload)))) ∨
    w' = (w.nameSubscription subscription inbox).finish id (.received none) := by
  rw [turnReceive] at h
  split at h
  · rename_i r bus htake
    exact Or.inl ⟨r, bus, htake, (Option.some.inj h).symm⟩
  · split at h
    · exact Or.inr (Option.some.inj h).symm
    · cases h

end World

end ServiceBus.Bus
