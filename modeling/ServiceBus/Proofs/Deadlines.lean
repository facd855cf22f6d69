import Mathlib.Logic.Function.Basic
import ServiceBus.Proofs.Cancellation

/-! # The law of deadlines

Contexts are derived in any order and at any instants. `Deadlines` is the world after such acts together
with the deadlines that were imposed along the derivation of every context that has a name.

* `Context.Ended`: what a context error says; `Context.error?_eq_some_iff` is which is told.
* `Deadlines.deadline?_eq_min?`: a context has the earliest of the deadlines that were imposed along its
  derivation, and none if there are none. -/

namespace ServiceBus.Bus

/-! ### Errors -/

namespace Context

variable {c : Context} {scopes : ScopeTree} {now : Time} {e : ContextError}

/-- What a context error says: the context is cancelled, or its deadline has been reached. -/
def Ended (c : Context) (scopes : ScopeTree) (now : Time) : ContextError → Prop
  | .cancelled => scopes.isCancelled c.scope = true
  | .deadlineExceeded => ∃ deadline, c.deadline? = some deadline ∧ deadline ≤ now

/-- What is told of a context is so. Of one that is cancelled only that is told. -/
theorem error?_eq_some_iff : c.error? scopes now = some e ↔
    c.Ended scopes now e ∧ (e = .deadlineExceeded → ¬ c.Ended scopes now .cancelled) := by
  cases hc : scopes.isCancelled c.scope <;> cases hd : c.deadline? <;> cases e <;>
    simp [error?, Ended, hc, hd]

/-- Nothing is told of a context that is live. -/
theorem error?_eq_none_iff : c.error? scopes now = none ↔ ∀ e, ¬ c.Ended scopes now e := by
  constructor
  · intro h e he
    cases e with
    | cancelled => rw [error?_eq_some_iff.mpr ⟨he, nofun⟩] at h; cases h
    | deadlineExceeded =>
      by_cases hc : c.Ended scopes now .cancelled
      · rw [error?_eq_some_iff.mpr ⟨hc, nofun⟩] at h; cases h
      · rw [error?_eq_some_iff.mpr ⟨he, fun _ => hc⟩] at h; cases h
  · intro h
    rw [Option.eq_none_iff_forall_ne_some]
    exact fun e he => h e (error?_eq_some_iff.mp he).1

/-- What is heard of the end of a context is so. If it was cancelled and its deadline has passed, it is
what is noticed of that. -/
theorem ending?_eq_some_iff {noticed : ContextError} : c.ending? noticed scopes now = some e ↔
    c.Ended scopes now e ∧
      (c.Ended scopes now .cancelled → c.Ended scopes now .deadlineExceeded → e = noticed) := by
  cases hc : scopes.isCancelled c.scope <;> cases hd : c.deadline? <;> cases e <;> cases noticed <;>
    simp [ending?, error?, Ended, hc, hd]

/-- A further deadline counts if it is the earliest. -/
theorem deadline?_withDeadline {times : List Time} (deadline : Time)
    (h : c.deadline? = times.min?) :
    (c.withDeadline deadline).deadline? = (deadline :: times).min? := by
  rw [List.min?_cons, withDeadline, h]
  cases times.min? with
  | none => rfl
  | some earliest => exact congrArg some (Nat.min_comm _ _)

end Context

/-! ### Deadlines along derivations -/

/-- A world and the deadlines that were imposed along the derivation of every named context, the last
one first. -/
structure Deadlines where
  world : World := {}
  imposed : String → List Time := fun _ => []

namespace Deadlines

open World (ContextAct)

variable {l : Deadlines}

/-- The deadlines that a context derived from another has from it. -/
def inherited (l : Deadlines) (parent? : Option String) : List Time := parent?.elim [] l.imposed

/-- The deadlines that were imposed along derivations after one more act. -/
def after (l : Deadlines) : ContextAct → String → List Time
  | .background name | .forgetContext name => Function.update l.imposed name []
  | .withCancel name parent? => Function.update l.imposed name (l.inherited parent?)
  | .withDeadline name parent? deadline =>
    Function.update l.imposed name (deadline :: l.inherited parent?)
  | .withTimeout name parent? ms =>
    Function.update l.imposed name ((l.world.now + ms) :: l.inherited parent?)
  | .copyContext name source =>
    if (l.world.desk.contexts[source]?).isSome then
      Function.update l.imposed name (l.imposed source)
    else l.imposed
  | .copyHandle .. | .forgetHandle _ | .cancel _ => l.imposed

/-- One more act. -/
def act (l : Deadlines) (a : ContextAct) : Deadlines :=
  { world := l.world.actOn a, imposed := l.after a }

/-- One more act, at an instant. -/
def actAt (l : Deadlines) (a : Time × ContextAct) : Deadlines :=
  { l with world.now := a.1 }.act a.2

/-- The deadlines after some acts in an empty world, each at its instant. -/
def of (acts : List (Time × ContextAct)) : Deadlines := acts.foldl actAt {}

/-- Whether every named context has the earliest deadline that was imposed along its derivation. -/
def Lawful (l : Deadlines) : Prop :=
  ∀ name : String, (l.world.desk.contexts[name]?).bind (·.deadline?) = (l.imposed name).min?

/-- A context that gets a name has the earliest of its deadlines. -/
theorem Lawful.named (h : l.Lawful) {w : World} {name : String} {c : Context} {times : List Time}
    (hw : w.desk.contexts = l.world.desk.contexts.insert name c) (hc : c.deadline? = times.min?) :
    Lawful { world := w, imposed := Function.update l.imposed name times } := by
  intro other
  show (w.desk.contexts[other]?).bind _ = (Function.update l.imposed name times other).min?
  rw [hw, Std.TreeMap.getElem?_insert]
  by_cases hname : other = name
  · rw [if_pos (Std.compare_eq_iff_eq.mpr hname.symm), hname, Function.update_self]
    exact hc
  · rw [if_neg fun heq => hname (Std.compare_eq_iff_eq.mp heq).symm, Function.update_of_ne hname]
    exact h other

/-- A context to derive from has the earliest deadline that was imposed along its derivation. -/
theorem Lawful.contextOf (h : l.Lawful) {parent? : Option String} {w : World} {parent : Context}
    (hof : l.world.contextOf parent? = (w, parent)) :
    parent.deadline? = (l.inherited parent?).min? ∧ w.desk.contexts = l.world.desk.contexts := by
  rw [World.contextOf] at hof
  cases parent? with
  | none =>
    cases hof
    exact ⟨rfl, rfl⟩
  | some name =>
    have hname := h name
    rw [Option.bind_some] at hof
    cases hc : l.world.desk.contexts[name]? with
    | none =>
      rw [hc] at hof hname
      cases hof
      exact ⟨hname, rfl⟩
    | some c =>
      rw [hc] at hof hname
      cases hof
      exact ⟨hname, rfl⟩

/-- A context with a further deadline. -/
theorem Lawful.withDeadline (h : l.Lawful) (name : String) (parent? : Option String)
    (deadline : Time) : Lawful
      { world := l.world.withDeadline name parent? deadline,
        imposed := Function.update l.imposed name (deadline :: l.inherited parent?) } := by
  rcases hof : l.world.contextOf parent? with ⟨w, parent⟩
  obtain ⟨hdeadline, hcontexts⟩ := h.contextOf hof
  refine h.named ?_ (Context.deadline?_withDeadline deadline hdeadline)
  rw [World.withDeadline, hof, ← hcontexts]
  rfl

/-- **One act keeps the law.** -/
theorem Lawful.act (h : l.Lawful) (a : ContextAct) : (l.act a).Lawful := by
  cases a with
  | background name => exact h.named rfl rfl
  | withCancel name parent? =>
    rcases hof : l.world.contextOf parent? with ⟨w, parent⟩
    obtain ⟨hdeadline, hcontexts⟩ := h.contextOf hof
    refine h.named (c := { parent with scope := w.scopes.next }) ?_ hdeadline
    rw [World.actOn, World.withCancel, hof, ← hcontexts]
    rfl
  | withDeadline name parent? deadline => exact h.withDeadline name parent? deadline
  | withTimeout name parent? ms => exact h.withDeadline name parent? (l.world.now + ms)
  | copyContext name source =>
    rw [Deadlines.act, after, World.actOn, World.copyContext?]
    have hsource := h source
    cases hc : l.world.desk.contexts[source]? with
    | none => exact h
    | some c =>
      rw [hc] at hsource
      exact h.named rfl hsource
  | copyHandle name source =>
    rw [Deadlines.act, after, World.actOn, World.copyHandle?]
    cases l.world.desk.handles[source]? with
    | none => exact h
    | some scope => exact h
  | forgetContext name =>
    intro other
    show ((l.world.desk.contexts.erase name)[other]?).bind _ =
      (Function.update l.imposed name [] other).min?
    rw [Std.TreeMap.getElem?_erase]
    by_cases hname : other = name
    · rw [if_pos (Std.compare_eq_iff_eq.mpr hname.symm), hname, Function.update_self]
      rfl
    · rw [if_neg fun heq => hname (Std.compare_eq_iff_eq.mp heq).symm, Function.update_of_ne hname]
      exact h other
  | forgetHandle name => exact h
  | cancel name =>
    rw [Deadlines.act, after, World.actOn, World.cancel?]
    cases l.world.desk.handles[name]? with
    | none => exact h
    | some scope => exact h

/-- **Any run of acts keeps the law.** -/
theorem Lawful.of (acts : List (Time × ContextAct)) : (Deadlines.of acts).Lawful := by
  induction acts using List.reverseRecOn with
  | nil => exact fun _ => by rw [Deadlines.of, List.foldl_nil, Std.TreeMap.getElem?_emptyc]; rfl
  | append_singleton acts a ih =>
    rw [Deadlines.of, List.foldl_append]
    exact Lawful.act (l := { Deadlines.of acts with world.now := a.1 }) ih a.2

/-- **The law of deadlines.** A named context has the earliest of the deadlines that were imposed along
its derivation, and none if there are none. -/
theorem deadline?_eq_min? {acts : List (Time × ContextAct)} {name : String} {c : Context}
    (h : (Deadlines.of acts).world.desk.contexts[name]? = some c) :
    c.deadline? = ((Deadlines.of acts).imposed name).min? := by
  rw [← Lawful.of acts name, h]
  rfl

end Deadlines

end ServiceBus.Bus
