import Mathlib.Logic.Relation
import ServiceBus.Bus.Desk
import ServiceBus.Proofs.Scope

/-! # The law of cancellation

Contexts are made, derived, copied, dropped and cancelled in any order. A `Chronicle` is the world
after such acts together with what counts for cancellation: who was derived from whom, and which
handle was cancelled in which world.

* `Chronicle.Reaches` says that a cancellation finds its way to a scope: down the derivations, and past
  no scope that was there and that nobody held any more.
* `isCancelled_iff_reaches`: exactly these scopes are cancelled. So a context may outlive the
  cancellation of the one it was derived from; `cancel_stops_at_dropped_link` is the smallest case. -/

namespace ServiceBus.Bus

namespace World

/-! ### Acts on contexts -/

/-- One thing to do with contexts and with the rights to cancel them, by name. -/
inductive ContextAct where
  | background (name : String)
  | withCancel (name : String) (parent? : Option String)
  | withDeadline (name : String) (parent? : Option String) (deadline : Time)
  | withTimeout (name : String) (parent? : Option String) (ms : Time)
  | copyContext (name source : String)
  | copyHandle (name source : String)
  | forgetContext (name : String)
  | forgetHandle (name : String)
  | cancel (name : String)

/-- The world after an act. An act on a name that nothing has changes nothing. -/
def actOn (w : World) : ContextAct → World
  | .background name => w.background name
  | .withCancel name parent? => w.withCancel name parent?
  | .withDeadline name parent? deadline => w.withDeadline name parent? deadline
  | .withTimeout name parent? ms => w.withTimeout name parent? ms
  | .copyContext name source => (w.copyContext? name source).getD w
  | .copyHandle name source => (w.copyHandle? name source).getD w
  | .forgetContext name => w.forgetContext name
  | .forgetHandle name => w.forgetHandle name
  | .cancel name => (w.cancel? name).elim w (·.1)

/-- What counts for cancellation. -/
inductive ContextEvent where
  | derived (child parent : ScopeId)
  /-- The handle of a scope was cancelled in the world `before`. -/
  | cancelled (root : ScopeId) (before : World)

/-- What an act adds to the chronicle. -/
def contextEvents (w : World) : ContextAct → List ContextEvent
  | .withCancel _ parent? =>
    [.derived (w.contextOf parent?).1.scopes.next (w.contextOf parent?).2.scope]
  | .cancel name => (w.desk.handles[name]?).elim [] fun root => [.cancelled root w]
  | _ => []

end World

/-- A world and what led to it. -/
structure Chronicle where
  world : World := {}
  events : List World.ContextEvent := []

namespace Chronicle

open World (ContextAct ContextEvent)

/-- The chronicle after one more act. -/
def act (c : Chronicle) (a : ContextAct) : Chronicle :=
  { world := c.world.actOn a, events := c.events ++ c.world.contextEvents a }

/-- The chronicle of some acts in an empty world. -/
def of (acts : List ContextAct) : Chronicle := acts.foldl act {}

/-- Whether a cancellation in the world `before` passes from a scope to one derived from it: that is
derived later, or still held by somebody. -/
def Passes (c : Chronicle) (before : World) (p s : ScopeId) : Prop :=
  .derived s p ∈ c.events ∧ (s < before.scopes.next → before.holdsScope s = true)

/-- Whether some cancellation finds its way to a scope. -/
def Reaches (c : Chronicle) (s : ScopeId) : Prop :=
  ∃ root before, .cancelled root before ∈ c.events ∧
    Relation.ReflTransGen (c.Passes before) root s

/-- Whether a scope is another or derived from it, through any number of others. -/
def Descends (c : Chronicle) (root s : ScopeId) : Prop :=
  Relation.ReflTransGen (fun p s => .derived s p ∈ c.events) root s

end Chronicle

/-! ### Who holds a scope -/

section Holding

variable {α : Type} {names : Names α} {holds : String × α → Bool}

/-- A new name adds its own value at most. -/
theorem any_toList_insert {name : String} {a : α}
    (h : (names.insert name a).toList.any holds = true) :
    holds (name, a) = true ∨ names.toList.any holds = true := by
  obtain ⟨⟨n, b⟩, hmem, hb⟩ := List.any_eq_true.mp h
  rw [Std.TreeMap.mem_toList_iff_getElem?_eq_some, Std.TreeMap.getElem?_insert] at hmem
  split at hmem
  · rename_i heq
    rw [Std.compare_eq_iff_eq.mp heq, Option.some.inj hmem]
    exact Or.inl hb
  · exact Or.inr (List.any_eq_true.mpr
      ⟨(n, b), Std.TreeMap.mem_toList_iff_getElem?_eq_some.mpr hmem, hb⟩)

/-- Giving up a name adds nothing. -/
theorem any_toList_erase {name : String} (h : (names.erase name).toList.any holds = true) :
    names.toList.any holds = true := by
  obtain ⟨⟨n, b⟩, hmem, hb⟩ := List.any_eq_true.mp h
  rw [Std.TreeMap.mem_toList_iff_getElem?_eq_some, Std.TreeMap.getElem?_erase] at hmem
  split at hmem
  · exact absurd hmem (by simp)
  · exact List.any_eq_true.mpr
      ⟨(n, b), Std.TreeMap.mem_toList_iff_getElem?_eq_some.mpr hmem, hb⟩

end Holding

namespace World

variable {w : World} {name : String} {context : Context} {scope s : ScopeId}

/-- A scope is held by a name, a task or a pool. -/
theorem holdsScope_iff : w.holdsScope s = true ↔
    w.desk.contexts.toList.any (fun (_, c) => c.scope == s) = true ∨
    w.desk.handles.toList.any (fun (_, scope) => scope == s) = true ∨
    w.programs.any (fun p => (programContexts p).any (·.scope == s)) = true ∨
    w.pools.any (fun p => (poolJobs p).any (·.context.scope == s)) = true := by
  simp only [holdsScope, Bool.or_eq_true, or_assoc]

/-- The context of a name holds its scope. -/
theorem holdsScope_of_context (h : w.desk.contexts[name]? = some context) :
    w.holdsScope context.scope = true :=
  holdsScope_iff.mpr (Or.inl (List.any_eq_true.mpr
    ⟨(name, context), Std.TreeMap.mem_toList_iff_getElem?_eq_some.mpr h, by simp⟩))

/-- The right to cancel a scope holds it. -/
theorem holdsScope_of_handle (h : w.desk.handles[name]? = some scope) :
    w.holdsScope scope = true :=
  holdsScope_iff.mpr (Or.inr (Or.inl (List.any_eq_true.mpr
    ⟨(name, scope), Std.TreeMap.mem_toList_iff_getElem?_eq_some.mpr h, by simp⟩)))

/-- Naming a context holds its scope and no other. -/
theorem holdsScope_nameContext (h : (w.nameContext name context).holdsScope s = true) :
    s = context.scope ∨ w.holdsScope s = true := by
  rcases holdsScope_iff.mp h with h | h | h
  · rcases any_toList_insert h with h | h
    · exact Or.inl (beq_iff_eq.mp h).symm
    · exact Or.inr (holdsScope_iff.mpr (Or.inl h))
  · exact Or.inr (holdsScope_iff.mpr (Or.inr (Or.inl h)))
  · exact Or.inr (holdsScope_iff.mpr (Or.inr (Or.inr h)))

/-- Naming a right to cancel holds its scope and no other. -/
theorem holdsScope_nameHandle
    (h : holdsScope { w with desk.handles := w.desk.handles.insert name scope } s = true) :
    s = scope ∨ w.holdsScope s = true := by
  rcases holdsScope_iff.mp h with h | h | h
  · exact Or.inr (holdsScope_iff.mpr (Or.inl h))
  · rcases any_toList_insert h with h | h
    · exact Or.inl (beq_iff_eq.mp h).symm
    · exact Or.inr (holdsScope_iff.mpr (Or.inr (Or.inl h)))
  · exact Or.inr (holdsScope_iff.mpr (Or.inr (Or.inr h)))

/-- Giving up a context holds nothing new. -/
theorem holdsScope_forgetContext (h : (w.forgetContext name).holdsScope s = true) :
    w.holdsScope s = true := by
  rcases holdsScope_iff.mp h with h | h
  · exact holdsScope_iff.mpr (Or.inl (any_toList_erase h))
  · exact holdsScope_iff.mpr (Or.inr h)

/-- Giving up a right to cancel holds nothing new. -/
theorem holdsScope_forgetHandle (h : (w.forgetHandle name).holdsScope s = true) :
    w.holdsScope s = true := by
  rcases holdsScope_iff.mp h with h | h | h
  · exact holdsScope_iff.mpr (Or.inl h)
  · exact holdsScope_iff.mpr (Or.inr (Or.inl (any_toList_erase h)))
  · exact holdsScope_iff.mpr (Or.inr (Or.inr h))

/-- A context to derive from is one that a name has, or a fresh one. -/
theorem contextOf_cases (w : World) (name? : Option String) :
    (∃ (name : String) (context : Context), w.desk.contexts[name]? = some context ∧
      w.contextOf name? = (w, context)) ∨
    w.contextOf name? = ({ w with scopes := w.scopes.fresh }, { scope := w.scopes.next }) := by
  rw [contextOf]
  cases name? with
  | none => exact Or.inr rfl
  | some name =>
    rw [Option.bind_some]
    cases h : w.desk.contexts[name]? with
    | none => exact Or.inr rfl
    | some context => exact Or.inl ⟨name, context, h, rfl⟩

end World

namespace Chronicle

open World (ContextAct ContextEvent)

variable {c : Chronicle} {w : World} {root s p : Nat}

/-! ### The invariant -/

/-- What holds of a chronicle at all times. A link of the tree is a derivation, and a derivation
whose link is not in the tree leads to a cancelled scope; among the scopes that are held, those below
a cancelled one are cancelled. -/
structure Sound (c : Chronicle) : Prop where
  derived_lt : ∀ s p : Nat, .derived s p ∈ c.events → p < s ∧ s < c.world.scopes.next
  cancelled_le : ∀ (root : Nat) before, .cancelled root before ∈ c.events →
    root < before.scopes.next ∧ before.scopes.next ≤ c.world.scopes.next
  held_lt : ∀ s : Nat, c.world.holdsScope s = true → s < c.world.scopes.next
  told : ∀ s p : Nat, c.world.scopes.parent? s = some p → .derived s p ∈ c.events
  linked : ∀ s p : Nat, .derived s p ∈ c.events →
    c.world.scopes.isCancelled s = true ∨ c.world.scopes.parent? s = some p
  follows : ∀ s p : Nat, .derived s p ∈ c.events → c.world.holdsScope s = true →
    c.world.scopes.isCancelled p = true → c.world.scopes.isCancelled s = true
  law : ∀ s : Nat, c.world.scopes.isCancelled s = true ↔ c.Reaches s

/-- Nothing was derived or cancelled in an empty world. -/
theorem Sound.empty : Sound {} where
  derived_lt _ _ h := absurd h List.not_mem_nil
  cancelled_le _ _ h := absurd h List.not_mem_nil
  held_lt _ h := by simp [World.holdsScope, World.programs] at h
  told _ _ h := by simp [ScopeTree.parent?] at h
  linked _ _ h := absurd h List.not_mem_nil
  follows _ _ h := absurd h List.not_mem_nil
  law s := by
    constructor
    · intro h
      simp [ScopeTree.isCancelled] at h
    · rintro ⟨_, _, h, -⟩
      exact absurd h List.not_mem_nil

/-- A change of who holds what, with nobody new holding anything. -/
theorem Sound.regrip (h : c.Sound) (scopes : w.scopes = c.world.scopes)
    (held : ∀ s : Nat, w.holdsScope s = true → c.world.holdsScope s = true) :
    Sound { c with world := w } where
  derived_lt := by simpa only [scopes] using h.derived_lt
  cancelled_le := by simpa only [scopes] using h.cancelled_le
  held_lt s hs := by simpa only [scopes] using h.held_lt s (held s hs)
  told := by simpa only [scopes] using h.told
  linked := by simpa only [scopes] using h.linked
  follows s p hsp hs := by simpa only [scopes] using h.follows s p hsp (held s hs)
  law s := by rw [scopes]; exact h.law s

/-- A new scope on its own. -/
theorem Sound.fresh (h : c.Sound) (scopes : w.scopes = c.world.scopes.fresh)
    (held : ∀ s : Nat, w.holdsScope s = true →
      s = c.world.scopes.next ∨ c.world.holdsScope s = true) :
    Sound { c with world := w } where
  derived_lt s p hs := by
    rw [scopes, ScopeTree.next_fresh]
    exact ⟨(h.derived_lt s p hs).1, Nat.lt_succ_of_lt (h.derived_lt s p hs).2⟩
  cancelled_le root before hs := by
    rw [scopes, ScopeTree.next_fresh]
    exact ⟨(h.cancelled_le root before hs).1, Nat.le_succ_of_le (h.cancelled_le root before hs).2⟩
  held_lt s hs := by
    rw [scopes, ScopeTree.next_fresh]
    rcases held s hs with rfl | hs
    · exact Nat.lt_succ_self _
    · exact Nat.lt_succ_of_lt (h.held_lt s hs)
  told := by simpa only [scopes, ScopeTree.parent?_fresh] using h.told
  linked := by simpa only [scopes, ScopeTree.parent?_fresh, ScopeTree.isCancelled_fresh] using h.linked
  follows s p hsp hs := by
    rw [scopes, ScopeTree.isCancelled_fresh, ScopeTree.isCancelled_fresh]
    rcases held s hs with rfl | hs
    · exact absurd (h.derived_lt _ p hsp).2 (lt_irrefl _)
    · exact h.follows s p hsp hs
  law s := by rw [scopes, ScopeTree.isCancelled_fresh]; exact h.law s

/-! ### Derivations -/

/-- A further event leaves every way that news already went. -/
theorem Reaches.append (h : c.Reaches s) (events : List ContextEvent) :
    Reaches { world := w, events := c.events ++ events } s := by
  obtain ⟨root, before, hroot, hpath⟩ := h
  refine ⟨root, before, List.mem_append_left _ hroot, Relation.ReflTransGen.mono ?_ _ _ hpath⟩
  rintro p s ⟨hsp, hheld⟩
  exact ⟨List.mem_append_left _ hsp, hheld⟩

/-- A derivation is no news for the scopes there were. -/
theorem Sound.reaches_of_derive (h : c.Sound) (hs : s ≠ c.world.scopes.next)
    (hr : Reaches { world := w, events := c.events ++ [.derived c.world.scopes.next p] } s) :
    c.Reaches s := by
  obtain ⟨root, before, hmem, hpath⟩ := hr
  refine ⟨root, before, by simpa using hmem, ?_⟩
  -- on the way to an old scope there are only old ones: the new one has nothing below it
  induction hpath with
  | refl => exact Relation.ReflTransGen.refl
  | @tail q s _ hlink ih =>
    have hold : ContextEvent.derived s q ∈ c.events := by
      rcases List.mem_append.mp hlink.1 with hold | hnew
      · exact hold
      · rw [List.mem_singleton, ContextEvent.derived.injEq] at hnew
        exact absurd hnew.1 hs
    have hlt := h.derived_lt s q hold
    exact (ih (ne_of_lt (hlt.1.trans hlt.2))).tail ⟨hold, hlink.2⟩

/-- News that reaches a scope just derived has reached its parent. -/
theorem Sound.reaches_parent (h : c.Sound) (hp : p < c.world.scopes.next)
    (hr : Reaches { world := w, events := c.events ++ [.derived c.world.scopes.next p] }
      c.world.scopes.next) : c.Reaches p := by
  obtain ⟨root, before, hmem, hpath⟩ := hr
  have hroot := h.cancelled_le root before (by simpa using hmem)
  rcases Relation.ReflTransGen.cases_tail hpath with hstart | ⟨q, hpath, hlink⟩
  · rw [← hstart] at hroot
    exact absurd (hroot.1.trans_le hroot.2) (lt_irrefl _)
  · have hq : q = p := by
      rcases List.mem_append.mp hlink.1 with hold | hnew
      · exact absurd (h.derived_lt _ q hold).2 (lt_irrefl _)
      · rw [List.mem_singleton, ContextEvent.derived.injEq] at hnew
        exact hnew.2
    rw [← hq] at hp ⊢
    exact h.reaches_of_derive (ne_of_lt hp) ⟨root, before, hmem, hpath⟩

/-- A derivation: the new scope starts as cancelled as its parent is. -/
theorem Sound.derive (h : c.Sound) (hp : p < c.world.scopes.next)
    (scopes : w.scopes = c.world.scopes.derive p)
    (held : ∀ s : Nat, w.holdsScope s = true →
      s = c.world.scopes.next ∨ c.world.holdsScope s = true) :
    Sound { world := w, events := c.events ++ [.derived c.world.scopes.next p] } where
  derived_lt s q hs := by
    rw [scopes, ScopeTree.next_derive]
    rcases List.mem_append.mp hs with hold | hnew
    · exact ⟨(h.derived_lt s q hold).1, Nat.lt_succ_of_lt (h.derived_lt s q hold).2⟩
    · rw [List.mem_singleton, ContextEvent.derived.injEq] at hnew
      rw [hnew.1, hnew.2]
      exact ⟨hp, Nat.lt_succ_self _⟩
  cancelled_le root before hs := by
    have hold := h.cancelled_le root before (by simpa using hs)
    rw [scopes, ScopeTree.next_derive]
    exact ⟨hold.1, Nat.le_succ_of_le hold.2⟩
  held_lt s hs := by
    rw [scopes, ScopeTree.next_derive]
    rcases held s hs with rfl | hs
    · exact Nat.lt_succ_self _
    · exact Nat.lt_succ_of_lt (h.held_lt s hs)
  told s q hs := by
    rw [scopes] at hs
    by_cases hnew : s = c.world.scopes.next
    · rw [hnew, ScopeTree.parent?_derive_next] at hs
      split at hs
      · exact absurd hs (by simp)
      · rw [hnew, Option.some.inj hs]
        exact List.mem_append_right _ (List.mem_singleton_self _)
    · rw [ScopeTree.parent?_derive_of_ne _ _ hnew] at hs
      exact List.mem_append_left _ (h.told s q hs)
  linked s q hs := by
    rw [scopes]
    rcases List.mem_append.mp hs with hold | hnew
    · have hne : s ≠ c.world.scopes.next := ne_of_lt (h.derived_lt s q hold).2
      rw [ScopeTree.isCancelled_derive_of_ne _ _ hne, ScopeTree.parent?_derive_of_ne _ _ hne]
      exact h.linked s q hold
    · rw [List.mem_singleton, ContextEvent.derived.injEq] at hnew
      rw [hnew.1, hnew.2, ScopeTree.isCancelled_derive_next, ScopeTree.parent?_derive_next]
      cases c.world.scopes.isCancelled p <;> simp
  follows s q hsq hs hq := by
    rw [scopes] at hq ⊢
    rcases List.mem_append.mp hsq with hold | hnew
    · have hlt := h.derived_lt s q hold
      rw [ScopeTree.isCancelled_derive_of_ne _ _ (ne_of_lt (hlt.1.trans hlt.2))] at hq
      rw [ScopeTree.isCancelled_derive_of_ne _ _ (ne_of_lt hlt.2)]
      rcases held s hs with rfl | hs
      · exact absurd hlt.2 (lt_irrefl _)
      · exact h.follows s q hold hs hq
    · rw [List.mem_singleton, ContextEvent.derived.injEq] at hnew
      rw [hnew.2, ScopeTree.isCancelled_derive_of_ne _ _ (ne_of_lt hp)] at hq
      rw [hnew.1, ScopeTree.isCancelled_derive_next, hq]
  law s := by
    rw [scopes]
    by_cases hnew : s = c.world.scopes.next
    · rw [hnew, ScopeTree.isCancelled_derive_next, h.law p]
      constructor
      · intro hr
        obtain ⟨root, before, hmem, hpath⟩ := hr.append (w := w) [.derived c.world.scopes.next p]
        have hle := (h.cancelled_le root before (by simpa using hmem)).2
        refine ⟨root, before, hmem, hpath.tail ⟨?_, fun hlt => ?_⟩⟩
        · exact List.mem_append_right _ (List.mem_singleton_self _)
        · exact absurd (Nat.lt_of_lt_of_le hlt hle) (lt_irrefl _)
      · exact h.reaches_parent hp
    · rw [ScopeTree.isCancelled_derive_of_ne _ _ hnew, h.law s]
      exact ⟨fun hr => hr.append _, h.reaches_of_derive hnew⟩

/-! ### Cancellations -/

/-- A derived scope whose parent hears of a cancellation is cancelled by it, if somebody holds it. -/
theorem Sound.isCancelled_of_hears (h : c.Sound) (hsp : .derived s p ∈ c.events)
    (hs : c.world.holdsScope s = true)
    (hp : c.world.scopes.hearsOf c.world.holdsScope root p = true) :
    c.world.scopes.isCancelled s = true ∨
      c.world.scopes.hearsOf c.world.holdsScope root s = true := by
  rcases h.linked s p hsp with hc | hlink
  · exact Or.inl hc
  · by_cases hc : c.world.scopes.isCancelled s = true
    · exact Or.inl hc
    · have older : ∀ q, c.world.scopes.parent? s = some q → q < s :=
        fun q hq => (h.derived_lt s q (h.told s q hq)).1
      exact Or.inr ((ScopeTree.hearsOf_iff _ (h.derived_lt s p hsp).2 older).mpr
        ⟨by simpa using hc, Or.inr ⟨hs, p, hlink, hp⟩⟩)

/-- A scope that hears of a cancellation is below its root, with nothing on the way that nobody
holds. -/
theorem Sound.path_of_hears (h : c.Sound)
    (hs : c.world.scopes.hearsOf c.world.holdsScope root s = true) :
    Relation.ReflTransGen (c.Passes c.world) root s := by
  induction s using Nat.strong_induction_on with
  | _ s ih =>
    have hlt : s < c.world.scopes.next := by
      by_contra hge
      rw [ScopeTree.hearsOf, List.getElem?_eq_none (by simpa using hge)] at hs
      exact absurd hs (by simp)
    have older : ∀ q, c.world.scopes.parent? s = some q → q < s :=
      fun q hq => (h.derived_lt s q (h.told s q hq)).1
    rcases ((ScopeTree.hearsOf_iff _ hlt older).mp hs).2 with rfl | ⟨hheld, p, hlink, hp⟩
    · exact Relation.ReflTransGen.refl
    · exact (ih p (older p hlink) hp).tail ⟨h.told s p hlink, fun _ => hheld⟩

/-- What lies below the root of a cancellation, with nothing on the way that nobody holds, is
cancelled by it if it was not before. -/
theorem Sound.isCancelled_of_path (h : c.Sound) (hroot : root < c.world.scopes.next)
    (hpath : Relation.ReflTransGen (c.Passes c.world) root s) :
    c.world.scopes.isCancelled s = true ∨
      c.world.scopes.hearsOf c.world.holdsScope root s = true := by
  induction hpath with
  | refl =>
    by_cases hc : c.world.scopes.isCancelled root = true
    · exact Or.inl hc
    · have older : ∀ q, c.world.scopes.parent? root = some q → q < root :=
        fun q hq => (h.derived_lt root q (h.told root q hq)).1
      exact Or.inr ((ScopeTree.hearsOf_iff _ hroot older).mpr ⟨by simpa using hc, Or.inl rfl⟩)
  | @tail p s _ hlink ih =>
    have hs := hlink.2 (h.derived_lt s p hlink.1).2
    rcases ih with hp | hp
    · exact Or.inl (h.follows s p hlink.1 hs hp)
    · exact h.isCancelled_of_hears hlink.1 hs hp

/-- A cancellation reaches those below its root that it passes to, and no others. -/
theorem reaches_cancelled_iff :
    Reaches { world := w, events := c.events ++ [.cancelled root c.world] } s ↔
      c.Reaches s ∨ Relation.ReflTransGen (c.Passes c.world) root s := by
  have passes : ∀ before, Passes { world := w, events := c.events ++ [.cancelled root c.world] }
      before = c.Passes before := by
    intro before
    funext p s
    simp [Passes]
  constructor
  · rintro ⟨origin, before, hmem, hpath⟩
    rw [passes] at hpath
    rcases List.mem_append.mp hmem with hold | hnew
    · exact Or.inl ⟨origin, before, hold, hpath⟩
    · rw [List.mem_singleton, ContextEvent.cancelled.injEq] at hnew
      rw [hnew.1, hnew.2] at hpath
      exact Or.inr hpath
  · rintro (hr | hpath)
    · exact hr.append _
    · exact ⟨root, c.world, List.mem_append_right _ (List.mem_singleton_self _), by rwa [passes]⟩

/-- A cancellation. -/
theorem Sound.cancel (h : c.Sound) (hroot : root < c.world.scopes.next) :
    Sound { world := c.world.cancelScope root,
            events := c.events ++ [.cancelled root c.world] } where
  derived_lt s p hs := by
    rw [World.cancelScope, ScopeTree.next_cancel]
    exact h.derived_lt s p (by simpa using hs)
  cancelled_le origin before hs := by
    rw [World.cancelScope, ScopeTree.next_cancel]
    rcases List.mem_append.mp hs with hold | hnew
    · exact h.cancelled_le origin before hold
    · rw [List.mem_singleton, ContextEvent.cancelled.injEq] at hnew
      rw [hnew.1, hnew.2]
      exact ⟨hroot, le_rfl⟩
  held_lt s hs := by
    rw [World.cancelScope, ScopeTree.next_cancel]
    exact h.held_lt s hs
  told s p hs := by
    rw [World.cancelScope, ScopeTree.parent?_cancel] at hs
    exact List.mem_append_left _ (h.told s p hs)
  linked s p hs := by
    rw [World.cancelScope, ScopeTree.isCancelled_cancel, ScopeTree.parent?_cancel]
    rcases h.linked s p (by simpa using hs) with hc | hlink
    · exact Or.inl (by rw [hc, Bool.true_or])
    · exact Or.inr hlink
  follows s p hsp hs hp := by
    rw [World.cancelScope, ScopeTree.isCancelled_cancel, Bool.or_eq_true] at hp ⊢
    have hsp : ContextEvent.derived s p ∈ c.events := by simpa using hsp
    rcases hp with hp | hp
    · exact Or.inl (h.follows s p hsp hs hp)
    · exact h.isCancelled_of_hears hsp hs hp
  law s := by
    rw [World.cancelScope, ScopeTree.isCancelled_cancel, Bool.or_eq_true, reaches_cancelled_iff,
      ← h.law s]
    constructor
    · rintro (hc | hs)
      · exact Or.inl hc
      · exact Or.inr (h.path_of_hears hs)
    · rintro (hc | hpath)
      · exact Or.inl hc
      · exact h.isCancelled_of_path hroot hpath

/-! ### All acts -/

/-- A chronicle that gets no further event. -/
theorem Sound.quiet {events : List ContextEvent}
    (h : Sound { c with world := w }) (hevents : events = []) :
    Sound { world := w, events := c.events ++ events } := by
  rw [hevents, List.append_nil]
  exact h

/-- A derived context that shares the scope it is derived from. -/
theorem Sound.withDeadline (h : c.Sound) (name : String) (parent? : Option String)
    (deadline : Time) : Sound { c with world := c.world.withDeadline name parent? deadline } := by
  rcases c.world.contextOf_cases parent? with ⟨source, context, hsource, hof⟩ | hof
  · have held := World.holdsScope_of_context hsource
    rw [World.withDeadline, hof]
    refine h.regrip rfl fun s hs => ?_
    rcases World.holdsScope_nameContext hs with hs | hs
    · rw [hs]
      exact held
    · exact hs
  · rw [World.withDeadline, hof]
    exact h.fresh rfl fun s hs => World.holdsScope_nameContext hs

/-- A derived context with a scope of its own. -/
theorem Sound.withCancel (h : c.Sound) (name : String) (parent? : Option String) :
    Sound (c.act (.withCancel name parent?)) := by
  have derive : ∀ (w : World) (parent : Context), Sound { c with world := w } →
      parent.scope < w.scopes.next → c.world.contextOf parent? = (w, parent) →
      Sound (c.act (.withCancel name parent?)) := by
    intro w parent hw hlt hof
    rw [act, World.actOn, World.withCancel, World.contextEvents, hof]
    refine hw.derive hlt rfl fun s hs => ?_
    rcases World.holdsScope_nameContext hs with rfl | hs
    · exact Or.inl rfl
    · exact World.holdsScope_nameHandle hs
  rcases c.world.contextOf_cases parent? with ⟨source, context, hsource, hof⟩ | hof
  · exact derive _ _ h (h.held_lt _ (World.holdsScope_of_context hsource)) hof
  · have fresh : Sound { c with world := { c.world with scopes := c.world.scopes.fresh } } :=
      h.fresh rfl fun s hs => Or.inr hs
    refine derive _ _ fresh ?_ hof
    rw [ScopeTree.next_fresh]
    exact Nat.lt_succ_self _

/-- **One act keeps the invariant.** -/
theorem Sound.act (h : c.Sound) (a : ContextAct) : (c.act a).Sound := by
  cases a with
  | background name =>
    refine (h.fresh (w := c.world.background name) rfl fun s hs => ?_).quiet rfl
    exact World.holdsScope_nameContext hs
  | withCancel name parent? => exact h.withCancel name parent?
  | withDeadline name parent? deadline => exact (h.withDeadline name parent? deadline).quiet rfl
  | withTimeout name parent? ms => exact (h.withDeadline name parent? (c.world.now + ms)).quiet rfl
  | copyContext name source =>
    refine Sound.quiet ?_ rfl
    rw [World.actOn, World.copyContext?]
    cases hsource : c.world.desk.contexts[source]? with
    | none => exact h
    | some context =>
      refine h.regrip rfl fun s hs => ?_
      rcases World.holdsScope_nameContext hs with rfl | hs
      · exact World.holdsScope_of_context hsource
      · exact hs
  | copyHandle name source =>
    refine Sound.quiet ?_ rfl
    rw [World.actOn, World.copyHandle?]
    cases hsource : c.world.desk.handles[source]? with
    | none => exact h
    | some scope =>
      refine h.regrip rfl fun s hs => ?_
      rcases World.holdsScope_nameHandle hs with rfl | hs
      · exact World.holdsScope_of_handle hsource
      · exact hs
  | forgetContext name =>
    have forget := h.regrip (w := c.world.forgetContext name) rfl fun s hs =>
      World.holdsScope_forgetContext hs
    exact forget.quiet rfl
  | forgetHandle name =>
    have forget := h.regrip (w := c.world.forgetHandle name) rfl fun s hs =>
      World.holdsScope_forgetHandle hs
    exact forget.quiet rfl
  | cancel name =>
    rw [Chronicle.act, World.actOn, World.cancel?, World.contextEvents]
    cases hname : c.world.desk.handles[name]? with
    | none => exact h.quiet rfl
    | some root => exact h.cancel (h.held_lt root (World.holdsScope_of_handle hname))

/-- **Any run of acts keeps the invariant.** -/
theorem Sound.of (acts : List ContextAct) : (Chronicle.of acts).Sound := by
  induction acts using List.reverseRecOn with
  | nil => exact Sound.empty
  | append_singleton acts a ih =>
    rw [Chronicle.of, List.foldl_append]
    exact ih.act a

/-! ### The law -/

/-- **The law of cancellation.** A context is cancelled exactly if a cancellation of its own handle or
of the handle of a context it was derived from reaches it, past scopes that are all still held or
derived later. So "cancelled exactly if its own handle or one above was" holds of a context exactly
if no such cancellation was cut off from it. -/
theorem isCancelled_iff_reaches (acts : List ContextAct) (name : String) (context : Context)
    (h : (of acts).world.desk.contexts[name]? = some context) :
    ((of acts).world.scopes.isCancelled context.scope = true ↔ (of acts).Reaches context.scope) ∧
    (((of acts).world.scopes.isCancelled context.scope = true ↔
        ∃ root before, .cancelled root before ∈ (of acts).events ∧
          (of acts).Descends root context.scope) ↔
      ((∃ root before, .cancelled root before ∈ (of acts).events ∧
          (of acts).Descends root context.scope) → (of acts).Reaches context.scope)) := by
  have held := World.holdsScope_of_context h
  have law := (Sound.of acts).law context.scope
  have descends : (of acts).Reaches context.scope →
      ∃ root before, .cancelled root before ∈ (of acts).events ∧
        (of acts).Descends root context.scope := by
    rintro ⟨root, before, hroot, hpath⟩
    exact ⟨root, before, hroot, Relation.ReflTransGen.mono (fun _ _ hlink => hlink.1) _ _ hpath⟩
  refine ⟨law, ?_⟩
  rw [law]
  exact ⟨fun hiff => hiff.mpr, fun hreach => ⟨descends, hreach⟩⟩

/-- A context is reached although the context between it and the cancelled one was dropped, because
the handle of that one is still held. -/
theorem isCancelled_past_held_handle :
    (of [.background "a", .withCancel "p" (some "a"), .withCancel "m" (some "p"),
        .withCancel "c" (some "m"), .forgetContext "m", .cancel "p"]).world.desk.contexts["c"]? =
      some { scope := 3 } ∧
    (of [.background "a", .withCancel "p" (some "a"), .withCancel "m" (some "p"),
        .withCancel "c" (some "m"), .forgetContext "m", .cancel "p"]).Reaches 3 :=
  ⟨by decide, (isCancelled_iff_reaches [.background "a", .withCancel "p" (some "a"),
    .withCancel "m" (some "p"), .withCancel "c" (some "m"), .forgetContext "m", .cancel "p"] "c"
    { scope := 3 } (by decide)).1.mp (by decide)⟩

/-- With the handle dropped too, the context below stays live: it is derived from a context whose
handle was cancelled, through one that nobody holds. -/
theorem cancel_stops_at_dropped_link :
    ∃ (acts : List ContextAct) (name : String) (context : Context) (root : ScopeId)
      (before : World),
      (of acts).world.desk.contexts[name]? = some context ∧
      .cancelled root before ∈ (of acts).events ∧ (of acts).Descends root context.scope ∧
      (of acts).world.scopes.isCancelled context.scope = false := by
  let acts : List ContextAct := [.background "a", .withCancel "p" (some "a"),
    .withCancel "m" (some "p"), .withCancel "c" (some "m"), .forgetContext "m", .forgetHandle "m",
    .cancel "p"]
  have below : ∀ s p, (of acts).events[s - 1]? = some (.derived s p) → (of acts).Descends p s :=
    fun s p hsp => Relation.ReflTransGen.single (List.mem_of_getElem? hsp)
  refine ⟨acts, "c", { scope := 3 }, 1, (of acts.dropLast).world, by decide, ?_, ?_, by decide⟩
  · exact List.mem_of_getElem? (i := 3) rfl
  · exact (below 2 1 rfl).trans (below 3 2 rfl)

end Chronicle

end ServiceBus.Bus
