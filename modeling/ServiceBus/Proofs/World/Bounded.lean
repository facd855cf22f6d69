import ServiceBus.Proofs.Deadlines
import ServiceBus.Proofs.World.Agreement
import ServiceBus.Proofs.World.Correspondence

/-! # Work under a context

What comes of work that is bound to a context, and what is left of a call that is given up.

* `Context.Runs`: a whole run of bound work, whatever happens between its polls; `Context.runs_iff` says
  what it may come to.
* `Context.Binds`: what this says of work under a context.
* `World.asking_of_unbegun`: a call whose task had no turn yet has not been sent.
* `World.Discards`: what is left of a call that was given up. -/

namespace ServiceBus.Bus

/-! ### Runs of bound work -/

namespace Context

variable {σ β : Type} {between : σ → σ → Prop} {verdict : σ → Option ContextError}
  {work : σ → σ × Option β} {begun : Bool} {s t u : σ} {result : Except ContextError β}

/-- **A whole run of bound work**: it has its turns until it is over. A relation says what may happen
from one turn to the next. -/
inductive Runs (between : σ → σ → Prop) (verdict : σ → Option ContextError)
    (work : σ → σ × Option β) : Bool → σ → σ → Except ContextError β → Prop
  | over {begun : Bool} {s t : σ} {result : Except ContextError β}
      (turn : run verdict work begun s = (t, .over result)) : Runs between verdict work begun s t result
  | pending {begun : Bool} {s s' u t : σ} {result : Except ContextError β}
      (turn : run verdict work begun s = (s', .pending)) (next : between s' u)
      (rest : Runs between verdict work true u t result) : Runs between verdict work begun s t result

/-- Whether the work waits when it is polled in a state, and is polled again in another. -/
def Waits (between : σ → σ → Prop) (verdict : σ → Option ContextError) (work : σ → σ × Option β)
    (s u : σ) : Prop :=
  settled? verdict work s = none ∧ between (work s).1 u

/-- A turn after which it goes on. -/
theorem run_eq_pending_iff : run verdict work begun s = (t, .pending) ↔
    (begun = true ∨ verdict s = none) ∧ t = (work s).1 ∧ settled? verdict work s = none := by
  rcases polled_or_refused verdict begun s with hpolled | ⟨rfl, e, he⟩
  · rw [run_polled hpolled]
    cases settled? verdict work s <;> simp [hpolled, eq_comm]
  · simp [run_refused he, he]

/-- A turn after which it is over. -/
theorem run_eq_over_iff : run verdict work begun s = (t, .over result) ↔
    (begun = false ∧ ∃ e, verdict s = some e ∧ t = s ∧ result = .error e) ∨
    (begun = true ∨ verdict s = none) ∧ t = (work s).1 ∧ settled? verdict work s = some result := by
  rcases polled_or_refused verdict begun s with hpolled | ⟨rfl, e, he⟩
  · have hnot : ¬ (begun = false ∧ ∃ e, verdict s = some e ∧ t = s ∧ result = .error e) := by
      rintro ⟨rfl, e, he, -⟩
      simp [he] at hpolled
    rw [run_polled hpolled, or_iff_right hnot]
    cases settled? verdict work s <;> simp [hpolled, eq_comm]
  · simp [run_refused he, he, eq_comm]

/-- **What a run of bound work comes to.** Under a context that is over at the start it comes to the
verdict, and all is as it was. Otherwise the work is polled until it does not wait any more. -/
theorem runs_iff : Runs between verdict work begun s t result ↔
    (begun = false ∧ ∃ e, verdict s = some e ∧ t = s ∧ result = .error e) ∨
    (begun = true ∨ verdict s = none) ∧ ∃ u, Relation.ReflTransGen (Waits between verdict work) s u ∧
      t = (work u).1 ∧ settled? verdict work u = some result := by
  constructor
  · intro h
    induction h with
    | «over» turn =>
      obtain hrefused | ⟨hpolled, hsettled⟩ := run_eq_over_iff.mp turn
      · exact Or.inl hrefused
      · exact Or.inr ⟨hpolled, _, .refl, hsettled⟩
    | pending turn next rest ih =>
      obtain ⟨hpolled, rfl, hwaits⟩ := run_eq_pending_iff.mp turn
      obtain ⟨hbegun, -⟩ | ⟨-, u, hpath, hsettled⟩ := ih
      · cases hbegun
      · exact Or.inr ⟨hpolled, u, .head ⟨hwaits, next⟩ hpath, hsettled⟩
  · rintro (hrefused | ⟨hpolled, u, hpath, hsettled⟩)
    · exact .over (run_eq_over_iff.mpr (Or.inl hrefused))
    · -- the run goes on from poll to poll
      induction hpath using Relation.ReflTransGen.head_induction_on generalizing begun with
      | refl => exact .over (run_eq_over_iff.mpr (Or.inr ⟨hpolled, hsettled⟩))
      | head hwaits _ ih =>
        exact .pending (run_eq_pending_iff.mpr ⟨hpolled, rfl, hwaits.1⟩) hwaits.2 (ih (Or.inl rfl))

/-! ### Work under a context -/

/-- Whether a verdict on a context is right in every state: there is none while the context is live, and
otherwise it is a context error that is so. Of two that are so it may be either. -/
structure Judges (context : Context) (scopes : σ → ScopeTree) (now : σ → Time)
    (verdict : σ → Option ContextError) : Prop where
  none_iff : ∀ s, verdict s = none ↔ ∀ e, ¬ context.Ended (scopes s) (now s) e
  right : ∀ s e, verdict s = some e → context.Ended (scopes s) (now s) e

/-- What a context tells is right. -/
theorem judges_error? (context : Context) (scopes : σ → ScopeTree) (now : σ → Time) :
    context.Judges scopes now fun s => context.error? (scopes s) (now s) where
  none_iff _ := error?_eq_none_iff
  right _ _ h := (error?_eq_some_iff.mp h).1

/-- What those hear who wait for the end of a context is right, whatever is noticed of it. -/
theorem judges_ending? (context : Context) (noticed : σ → ContextError) (scopes : σ → ScopeTree)
    (now : σ → Time) :
    context.Judges scopes now fun s => context.ending? (noticed s) (scopes s) (now s) where
  none_iff _ := ending?_eq_none.trans error?_eq_none_iff
  right _ _ h := (ending?_eq_some_iff.mp h).1

/-- **What comes of work under a context**, whatever happens between its polls. The state may be
anything, and so it may also count the polls. -/
structure Binds (context : Context) (scopes : σ → ScopeTree) (now : σ → Time)
    (between : σ → σ → Prop) (verdict : σ → Option ContextError) (work : σ → σ × Option β) :
    Prop where
  /-- Under a context that is over the work is not polled: all is as it was, and it comes to a context
  error that is so. -/
  refused : ∀ s, (∃ e, context.Ended (scopes s) (now s) e) →
    ∃ e, context.Ended (scopes s) (now s) e ∧
      ∀ t result, Runs between verdict work false s t result ↔ t = s ∧ result = .error e
  /-- An output is that of the work, when it was last polled. -/
  output : ∀ s t v, Runs between verdict work false s t (.ok v) →
    (∀ e, ¬ context.Ended (scopes s) (now s) e) ∧
      ∃ u, Relation.ReflTransGen (Waits between verdict work) s u ∧ work u = (t, some v)
  /-- A context error is so at that moment. -/
  ended : ∀ s t e, Runs between verdict work false s t (.error e) →
    context.Ended (scopes t) (now t) e
  /-- Work that is polled and has an output comes to it, whether or not the context is over by then. -/
  ready : ∀ begun u t v, (begun = true ∨ ∀ e, ¬ context.Ended (scopes u) (now u) e) →
    work u = (t, some v) →
      ∀ t' result, Runs between verdict work begun u t' result ↔ t' = t ∧ result = .ok v

/-- Work that has an output does not wait. -/
theorem settled?_of_output {v : β} (h : work u = (t, some v)) :
    settled? verdict work u = some (.ok v) := by
  rw [settled?, h]

/-- What is settled is an output, or the verdict on the context. -/
theorem settled?_cases (h : settled? verdict work u = some result) :
    (∃ v, work u = ((work u).1, some v) ∧ result = .ok v) ∨
      ∃ e, verdict (work u).1 = some e ∧ result = .error e := by
  rw [settled?] at h
  cases hwork : (work u).2 with
  | some v =>
    rw [hwork] at h
    exact Or.inl ⟨v, Prod.ext rfl hwork, (Option.some.inj h).symm⟩
  | none =>
    rw [hwork] at h
    obtain ⟨e, he, rfl⟩ := Option.map_eq_some_iff.mp h
    exact Or.inr ⟨e, he, rfl⟩

/-- **A context binds all work**, with every verdict that is right. -/
theorem Judges.binds {context : Context} {scopes : σ → ScopeTree} {now : σ → Time}
    (h : context.Judges scopes now verdict) (between : σ → σ → Prop) (work : σ → σ × Option β) :
    context.Binds scopes now between verdict work where
  refused s hover := by
    obtain ⟨e₀, he₀⟩ := hover
    have hverdict : verdict s ≠ none := fun hnone => (h.none_iff s).mp hnone e₀ he₀
    obtain ⟨e, he⟩ := Option.ne_none_iff_exists'.mp hverdict
    refine ⟨e, h.right s e he, fun t result => ?_⟩
    rw [runs_iff]
    simp [he]
  output s t v hruns := by
    obtain ⟨-, e, -, -, hresult⟩ | ⟨hpolled, u, hpath, rfl, hsettled⟩ := runs_iff.mp hruns
    · cases hresult
    · refine ⟨(h.none_iff s).mp (hpolled.resolve_left Bool.false_ne_true), u, hpath, ?_⟩
      obtain ⟨v', hwork, hv⟩ | ⟨e, -, hv⟩ := settled?_cases hsettled
      · cases hv
        exact hwork
      · cases hv
  ended s t e hruns := by
    obtain ⟨-, e', he', rfl, hresult⟩ | ⟨-, u, -, rfl, hsettled⟩ := runs_iff.mp hruns
    · cases hresult
      exact h.right _ _ he'
    · obtain ⟨v, -, hv⟩ | ⟨e', he', hv⟩ := settled?_cases hsettled
      · cases hv
      · cases hv
        exact h.right _ _ he'
  ready begun u t v hpolled hwork t' result := by
    have hpolled : begun = true ∨ verdict u = none := hpolled.imp_right (h.none_iff u).mpr
    have hsettled : settled? verdict work u = some (.ok v) := settled?_of_output hwork
    constructor
    · intro hruns
      cases hruns with
      | «over» turn =>
        obtain ⟨hbegun, e, he, -⟩ | ⟨-, rfl, hresult⟩ := run_eq_over_iff.mp turn
        · rcases hpolled with htrue | hnone
          · rw [htrue] at hbegun
            cases hbegun
          · rw [hnone] at he
            cases he
        · rw [hsettled] at hresult
          exact ⟨congrArg Prod.fst hwork, (Option.some.inj hresult).symm⟩
      | pending turn =>
        obtain ⟨-, -, hnone⟩ := run_eq_pending_iff.mp turn
        rw [hsettled] at hnone
        cases hnone
    · rintro ⟨rfl, rfl⟩
      exact runs_iff.mpr (Or.inr ⟨hpolled, u, .refl, (congrArg Prod.fst hwork).symm, hsettled⟩)

end Context

/-! ### A bus that is left alone -/

namespace MemoryBus

variable {b : MemoryBus} {c : Nat}

/-- Whether a bus is as it was, but for the record of one call. -/
structure Untouched (c : CallId) (b b' : MemoryBus) : Prop where
  closed : b'.closed = b.closed
  cursor : b'.cursor = b.cursor
  inboxes : b'.inboxes = b.inboxes
  calls : ∀ d : Nat, d ≠ c → b'.calls[d]? = b.calls[d]?

/-- A call that stands in no line and is given up leaves the bus alone. -/
theorem untouched_abandon (h : ∀ i, b.stage? c ≠ some (.inLine i)) :
    b.Untouched c (b.abandon c) := by
  have hset : b.Untouched c (b.setStage c .over) :=
    ⟨rfl, rfl, rfl, fun d hd => List.getElem?_modify_ne _ _ hd.symm⟩
  rw [abandon]
  split
  · rename_i i hcall
    exact absurd (by rw [stage?, hcall]; rfl) (h i)
  · exact hset

/-- A call that is over awaits no reply. -/
theorem waiting?_of_over (h : b.stage? c = some .over) : b.waiting? c = none := by
  rw [Option.eq_none_iff_forall_ne_some]
  intro i hi
  rw [waiting?_eq_some.mp hi] at h
  cases h

end MemoryBus

/-! ### Calls that have not begun -/

namespace World

variable {w w' v : World} {id c i : Nat} {context : Context} {context? : Option Context}
  {client? : Option ClientId} {conclude : Except TransportError Message → Logged Outcome}
  {e : ContextError}

/-- A task that had its turn has begun its call. -/
theorem begun_of_turn (h : w.turn id = some w') :
    w'.program? id ≠ some (.exchange c context? false client? conclude) := by
  intro hp'
  obtain ⟨_, _, _, _, hp⟩ := Exchanges.program ⟨_, _, role_of_turn h (role?_eq hp')⟩
  rw [turn, hp, Option.bind_eq_bind, Option.bind_some] at h
  obtain ⟨v, result, rfl, -⟩ | ⟨-, -, rfl⟩ := turnExchange_cases h
  · rw [program?_finish_self] at hp'
    cases hp'
  · have hlt : id < (w.withBus (w.bus.poll c).1).tasks.length := lt_of_program? hp
    rw [program?_setProgram_self hlt] at hp'
    cases hp'

/-- A step leaves a call alone whose task had no turn yet. -/
theorem Step.asking (hs : w.Step w') (hp : ∀ (P : Nat) p, w.pools[P]? = some p → p.Sound)
    (hcalls : w.Accounted)
    (h : w.program? id = some (.exchange c context? false client? conclude))
    (h' : w'.program? id = some (.exchange c context? false client? conclude))
    (hasking : w.bus.stage? c = some .asking) : w'.bus.stage? c = some .asking := by
  rcases (hs.custody hp).stages c with ⟨hnone, -⟩ | hsame | ⟨j, hex, hturn⟩ | ⟨i, hi, -⟩ | ⟨i, hi, -⟩
  · rw [hasking] at hnone
    cases hnone
  · exact hsame.trans hasking
  · -- the task that sees the call through is this one, which had no turn
    have hj : j = id := hcalls.unique j id c hex (exchanges_of_program h)
    exact absurd h' (begun_of_turn (hj ▸ hturn))
  · rw [hasking] at hi
    cases hi
  · rw [hasking] at hi
    cases hi

/-- A call whose task had no turn yet had none before either, or it begins in the step. -/
theorem Step.unbegun (hs : w.Step w')
    (h' : w'.program? id = some (.exchange c context? false client? conclude)) :
    w.program? id = some (.exchange c context? false client? conclude) ∨
      w'.bus.stage? c = some .asking := by
  obtain ⟨j, hturn⟩ | ⟨call, context?', client?', conclude', name?, hasking, rfl⟩ | hout :=
    hs.cases_outside
  · by_cases hj : id = j
    · exact absurd h' (begun_of_turn (hj ▸ hturn))
    · exact Or.inl ((others_of_turn hturn).2 id hj ▸ h')
  · rw [program?_spawn] at h'
    split at h'
    · cases h'
      refine Or.inr ?_
      show (w.bus.ask call).stage? w.bus.calls.length = _
      rw [stage?_ask, if_pos rfl, hasking]
    · exact Or.inl h'
  · obtain ⟨_, _, _, _, hp⟩ := (hout.exchanges id c (exchanges_of_program h')).program
    have hsame := hout.programs id _ hp
    rw [h'] at hsame
    exact Or.inl (hp.trans hsame.symm)

/-- **A call whose task had no turn yet has not been sent.** -/
theorem asking_of_unbegun (hrun : Steps {} w)
    (h : w.program? id = some (.exchange c context? false client? conclude)) :
    w.bus.stage? c = some .asking := by
  induction hrun with
  | refl => cases h
  | @tail v w hrun hs ih =>
    rcases hs.unbegun h with hbefore | hasking
    · exact hs.asking (Attended.of_steps hrun).pools (.of_steps hrun) hbefore h (ih hbefore)
    · exact hasking

/-! ### Calls that are given up -/

/-- **What is left of a call that was given up.** -/
structure Discards (w : World) (c : CallId) : Prop where
  /-- One script at most was begun on its request. -/
  begun_once : ∀ rule g, Correspondence rule w g → (g.begun.map Prod.fst).count c ≤ 1
  /-- A reply to it is told that nobody waits for it, and changes nothing. -/
  reply : ∀ r, r.IsOf c → ∀ headers payload,
    w.reply r headers payload = (w, { r with replyTo? := none }, .error .noLongerWaiting)
  /-- Nor does it change anything to give the request up. -/
  drop : ∀ r, r.IsOf c → w.dropRequest r = w

/-- Whoever has the request of a call that is over can do nothing with it. -/
theorem discards_of_over (h : w.bus.stage? c = some .over) : w.Discards c where
  begun_once rule g hg := List.nodup_iff_count_le_one.mp hg.counts.begun_nodup c
  reply r hr headers payload := by
    rw [World.reply, show r.replyTo? = some (.call c) from hr]
    dsimp only
    rw [send, MemoryBus.answer, MemoryBus.waiting?_of_over h]
    rfl
  drop r hr := by
    rw [dropRequest, MemoryBus.drop, show r.replyTo? = some (.call c) from hr]
    dsimp only
    rw [MemoryBus.lose, MemoryBus.waiting?_of_over h]
    rfl

/-- A call that is over is over for good. -/
theorem Steps.stays_over (h : Steps w v) (hrun : Steps {} w) (hover : w.bus.stage? c = some .over) :
    v.bus.stage? c = some .over := by
  induction h with
  | refl => exact hover
  | tail h hs ih =>
    have hbefore := hrun.trans h
    exact hs.stays_over (Attended.of_steps hbefore).pools (.of_steps hbefore) ih

/-- **What comes of calls under a context**, be it a request or the call of a client. -/
structure BindsCalls (context : Context) (w : World) : Prop where
  /-- Under a context that is over nothing is sent: the first turn of the task leaves the bus alone, and
  the caller is told the context error. -/
  refused : ∀ (id : TaskId) (c : CallId) client? conclude e,
    w.program? id = some (.exchange c (some context) false client? conclude) →
    w.contextError? context = some e →
    ∃ bus, w.bus.Untouched c bus ∧
      w.turn id = some (((w.withBus bus).absorb (conclude (.error (.ofContext e)))).finish id
        (conclude (.error (.ofContext e))).value)
  /-- Otherwise a turn ends the call with its own result as soon as there is one, and until then only
  with a context error that is so at that moment. -/
  returned : ∀ (id : TaskId) (c : CallId) begun client? conclude,
    w.program? id = some (.exchange c (some context) begun client? conclude) →
    (begun = true ∨ w.contextError? context = none) →
    ∀ result, w.result? (.task id) = some (c, result) ↔
      (w.bus.poll c).2 = some result ∨ (w.bus.poll c).2 = none ∧
        ∃ e, w.contextEnd? context = some e ∧ result = .error (.ofContext e)
  /-- If the context is over after the request was stored, the call is given up. The request stays
  where it is, and from then on nothing comes of it but that one script at most is begun on it. -/
  givenUp : ∀ (id : TaskId) (c : CallId) (i : InboxId) client? conclude e,
    w.program? id = some (.exchange c (some context) true client? conclude) →
    (w.bus.poll c).1.stage? c = some (.waiting i) → w.contextEnd? context = some e →
    ∃ bus w', (w.bus.poll c).1.Untouched c bus ∧
      w' = ((w.withBus bus).absorb (conclude (.error (.ofContext e)))).finish id
        (conclude (.error (.ofContext e))).value ∧
      w.turn id = some w' ∧
      (∀ place, w'.At c place ↔ (w.withBus (w.bus.poll c).1).At c place) ∧
      ∀ v, Steps w' v → v.Discards c

/-- What comes of a call under a context in a turn that polls it. -/
theorem result?_eq_some_iff {begun : Bool} {result : Except TransportError Message}
    (hp : w.program? id = some (.exchange c (some context) begun client? conclude))
    (hpolled : begun = true ∨ w.contextError? context = none) :
    w.result? (.task id) = some (c, result) ↔ (w.bus.poll c).2 = some result ∨
      (w.bus.poll c).2 = none ∧
        ∃ e, w.contextEnd? context = some e ∧ result = .error (.ofContext e) := by
  have hstart : begun = true ∨ boundError? begun (some context) w = none :=
    hpolled.imp_right boundError?_eq_none.mpr
  -- a context that was live at the start of the turn is live after the poll
  have hcontext : boundError? begun (some context) (w.withBus (w.bus.poll c).1) =
      w.contextEnd? context := by
    cases begun with
    | true => rfl
    | false =>
      have hlive : w.contextError? context = none := hpolled.resolve_left Bool.false_ne_true
      exact hlive.trans (Context.ending?_eq_none.mpr hlive).symm
  rw [result?, hp]
  dsimp only
  rw [Context.run_polled hstart, Context.settled?]
  dsimp only
  rw [hcontext]
  cases (w.bus.poll c).2 with
  | some own => simp
  | none =>
    cases w.contextEnd? context with
    | none => simp
    | some e => simp [eq_comm]

/-- What the turn of a task is whose call is given up before it begins. -/
theorem turn_of_refused (hp : w.program? id = some (.exchange c (some context) false client? conclude))
    (he : w.contextError? context = some e) :
    w.turn id = some (((w.withBus (w.bus.abandon c)).absorb (conclude (.error (.ofContext e)))).finish
      id (conclude (.error (.ofContext e))).value) := by
  rw [turn, hp, Option.bind_eq_bind, Option.bind_some]
  dsimp only
  rw [turnExchange, Context.run_refused (show boundError? false (some context) w = some e from he)]

/-- What the turn of a task is whose call is given up while it waits. -/
theorem turn_of_givenUp (hp : w.program? id = some (.exchange c (some context) true client? conclude))
    (hwaits : (w.bus.poll c).2 = none) (he : w.contextEnd? context = some e) :
    w.turn id = some (((w.withBus ((w.bus.poll c).1.abandon c)).absorb
      (conclude (.error (.ofContext e)))).finish id (conclude (.error (.ofContext e))).value) := by
  rw [turn, hp, Option.bind_eq_bind, Option.bind_some]
  dsimp only
  rw [turnExchange, Context.run_polled (Or.inl rfl), Context.settled?, hwaits,
    show boundError? true (some context) (w.withBus (w.bus.poll c).1) = some e from he]
  rfl

/-- Where requests are depends on the inboxes, on what the tasks have in hand and on the pools. -/
theorem at_congr (hinboxes : w'.bus.inboxes = w.bus.inboxes) (hhand : ∀ j, w'.hand? j = w.hand? j)
    (hpools : w'.pools = w.pools) (place : Place) : w'.At c place ↔ w.At c place := by
  cases place <;> simp only [At, MemoryBus.buffer, hinboxes, hhand, hpools]

/-- A task that has told its caller what became of a call had no request in hand, nor has it one then. -/
theorem hand?_told (hp : w.program? id = some (.exchange c context? true client? conclude))
    (outcome : Logged Outcome) (j : Nat) :
    ((w.absorb outcome).finish id outcome.value).hand? j = w.hand? j := by
  by_cases hj : j = id
  · rw [hj, hand?_finish, hand?_eq hp]
    rfl
  · rw [hand?, (alone_finish (w.absorb outcome) id outcome.value).others j hj]
    rfl

/-- **Every context binds calls.** -/
theorem Steps.bindsCalls (hrun : Steps {} w) (context : Context) : w.BindsCalls context where
  refused id c client? conclude e hp he := by
    have hasking := asking_of_unbegun hrun hp
    have hline : ∀ i, w.bus.stage? c ≠ some (.inLine i) := by simp [hasking]
    exact ⟨_, MemoryBus.untouched_abandon hline, turn_of_refused hp he⟩
  returned id c begun client? conclude hp hpolled result := result?_eq_some_iff hp hpolled
  givenUp id c i client? conclude e hp hstored he := by
    have hcalls := Accounted.of_steps hrun
    have hex := exchanges_of_program hp
    obtain ⟨s, hs⟩ := exists_stage (hcalls.exchanges_lt id c hex)
    have hgoing : s ≠ .over := fun h => hcalls.going id c hex (hs.trans (congrArg some h))
    obtain ⟨s', hs', hover⟩ := MemoryBus.stage?_poll hs hgoing
    obtain rfl : .waiting i = s' := Option.some.inj (hstored.symm.trans hs')
    have hwaits : (w.bus.poll c).2 = none := by
      cases hresult : (w.bus.poll c).2 with
      | none => rfl
      | some result => exact absurd (hover.mpr (by rw [hresult]; rfl)) nofun
    have hturn := turn_of_givenUp hp hwaits he
    have huntouched := MemoryBus.untouched_abandon (b := (w.bus.poll c).1) (c := c)
      (by simp [hstored])
    refine ⟨_, _, huntouched, rfl, hturn, at_congr ?_
      (hand?_told (w := w.withBus ((w.bus.poll c).1.abandon c)) hp _) ?_,
      fun v hv => discards_of_over (hv.stays_over (hrun.tail (.turn id hturn)) ?_)⟩
    · rw [(alone_finish _ _ _).bus]
      exact huntouched.inboxes
    · exact (alone_finish _ _ _).pools
    · rw [(alone_finish _ _ _).bus]
      exact MemoryBus.stage?_abandon hstored

end World

/-! ### The law -/

/-- **Contexts bind work and calls.**

* A context has the earliest of the deadlines that were imposed along its derivation, and none if there
  are none.
* What a context tells is right, and whichever verdict that is right is asked for, the context binds all
  work: that is not polled if the context is over at the start, it comes to its own output or to a context
  error that is so at that moment, and its output comes first.
* A world tells two such verdicts, one at the start of bound work and one to those who wait for the end of
  a context. These hear of any context error that is so, as it happens to be noticed.
* In every run a context binds the calls under it: nothing is sent if the context is over at the start,
  and if a call is given up later its request stays where it is, one script at most is begun on it, and a
  reply to it changes nothing. -/
theorem contexts_bind :
    (∀ (acts : List (Time × World.ContextAct)) (name : String) (context : Context),
      (Deadlines.of acts).world.desk.contexts[name]? = some context →
        context.deadline? = ((Deadlines.of acts).imposed name).min?) ∧
    (∀ (σ β : Type) (context : Context) (scopes : σ → ScopeTree) (now : σ → Time),
      context.Judges scopes now (fun s => context.error? (scopes s) (now s)) ∧
      ∀ verdict, context.Judges scopes now verdict →
        ∀ (between : σ → σ → Prop) (work : σ → σ × Option β),
          context.Binds scopes now between verdict work) ∧
    (∀ context : Context,
      context.Judges World.scopes World.now (·.contextError? context) ∧
      context.Judges World.scopes World.now (·.contextEnd? context) ∧
      ∀ (w : World) (e : ContextError), context.Ended w.scopes w.now e →
        w.Step { w with noticed := e } ∧ ({ w with noticed := e } : World).contextEnd? context = some e) ∧
    ∀ w, World.Steps {} w → ∀ context, w.BindsCalls context :=
  ⟨fun _ _ _ h => Deadlines.deadline?_eq_min? h,
    fun _ _ context scopes now =>
      ⟨context.judges_error? scopes now, fun _ h between work => h.binds between work⟩,
    fun context => ⟨context.judges_error? _ _, context.judges_ending? World.noticed _ _,
      fun w e he => ⟨.aside w.gates w.stores w.clientCount w.log e,
        Context.ending?_eq_some_iff.mpr ⟨he, fun _ _ => rfl⟩⟩⟩,
    fun _ hrun context => hrun.bindsCalls context⟩

namespace World

/-- Somebody wants Ada to be greeted by the fifth instant. -/
def hurried : World :=
  (greeting.withDeadline "soon" none 5).startCall "call" none (some "soon") [] "greet"
    ({ name := "Ada" } : Greeter.HelloRequest) .greeted

/-- There is a run to the call. -/
theorem steps_hurried : Steps {} hurried := by
  have h := steps_greeting.trans (greeting.steps_contextOf none)
  have h := h.tail (.names (greeting.withDeadline "soon" none 5).desk rfl rfl)
  exact h.trans (steps_startCall _ _ _ _ _ _ _ _)

/-- The request is in the inbox at the fifth instant. -/
def overdue : World := { (hurried.turn 2).get (by decide +kernel) with now := 5 }

/-- There is a run to this instant. -/
theorem steps_overdue : Steps {} overdue :=
  (steps_hurried.tail (.turn 2 (Option.some_get _).symm)).tail (.clock 5)

end World

/-- A call that is late is refused or given up; work that is done just in time is not. -/
theorem contexts_bind_hurried :
    some 5 = ((Deadlines.of [(1, .withTimeout "later" none 8),
      (3, .withDeadline "soon" (some "later") 5)]).imposed "soon").min? ∧
    (∀ t result, Context.Runs (fun _ _ => True)
      (fun t => Context.error? { scope := 0, deadline? := some 5 } {} t)
      (fun t => (t, if 5 ≤ t then some "done" else none)) true 5 t result ↔
        t = 5 ∧ result = .ok "done") ∧
    (∃ w, World.turn { World.hurried with now := 5 } 2 = some w ∧
      World.hurried.bus.Untouched 0 w.bus) ∧
    ∃ w, World.overdue.turn 2 = some w ∧ ∀ v, World.Steps w v → v.Discards 0 := by
  obtain ⟨hdeadlines, hwork, -, hcalls⟩ := contexts_bind
  refine ⟨hdeadlines [(1, .withTimeout "later" none 8), (3, .withDeadline "soon" (some "later") 5)]
    "soon" { scope := 0, deadline? := some 5 } (by decide), ?_, ?_, ?_⟩
  · obtain ⟨hjudges, hbinds⟩ := hwork Time String { scope := 0, deadline? := some 5 } (fun _ => {}) id
    exact (hbinds _ hjudges _ _).ready true 5 5 "done" (Or.inl rfl) rfl
  · obtain ⟨bus, hbus, hturn⟩ := (hcalls { World.hurried with now := 5 }
      (World.steps_hurried.tail (.clock 5)) { scope := 2, deadline? := some 5 }).refused 2 0 none _
        .deadlineExceeded rfl (by decide)
    exact ⟨_, hturn, hbus⟩
  · obtain ⟨bus, w, -, -, hturn, -, hdiscards⟩ := (hcalls World.overdue World.steps_overdue
      { scope := 2, deadline? := some 5 }).givenUp 2 0 0 none _ .deadlineExceeded rfl (by decide +kernel)
        (by decide +kernel)
    exact ⟨w, hturn, hdiscards⟩

end ServiceBus.Bus
