import Mathlib.Data.List.Induction
import Mathlib.Data.Nat.Basic
import Mathlib.Order.Basic
import ServiceBus.Bus.Context

/-! # Scopes and who hears of a cancellation

Views of a `ScopeTree`, and what every operation does to them.

* `ScopeTree.parent?` and `ScopeTree.isCancelled` are the two things there are to know of a scope.
* `ScopeTree.hearsOf` says whether a scope hears of the cancellation of another; `hearsOf_iff` reads
  it off the links of the tree. -/

namespace ServiceBus.Bus.ScopeTree

variable {held : ScopeId → Bool} {root s p : Nat}

/-- The scope that passes its cancellation on to a scope. -/
def parent? (t : ScopeTree) (s : ScopeId) : Option ScopeId :=
  (t.scopes[s]?).bind (·.parent?)

/-- Whether a scope hears of the cancellation of `root`. -/
def hearsOf (t : ScopeTree) (held : ScopeId → Bool) (root s : Nat) : Bool :=
  ((t.audience held root)[s]?).getD false

/-! ### Growth -/

/-- A scope that is not there is not cancelled. -/
theorem isCancelled_of_not_lt (t : ScopeTree) (h : ¬ s < t.next) : t.isCancelled s = false := by
  rw [isCancelled, List.getElem?_eq_none (not_lt.mp h), Option.any_none]

/-- A scope that is not there has no parent. -/
theorem parent?_of_not_lt (t : ScopeTree) (h : ¬ s < t.next) : t.parent? s = none := by
  rw [parent?, List.getElem?_eq_none (not_lt.mp h), Option.bind_none]

@[simp] theorem next_fresh (t : ScopeTree) : t.fresh.next = t.next + 1 := by
  simp [next, fresh]

@[simp] theorem next_derive (t : ScopeTree) (p : ScopeId) : (t.derive p).next = t.next + 1 := by
  simp [next, derive]

/-- A new scope on its own is not cancelled, and changes nothing for the others. -/
@[simp] theorem isCancelled_fresh (t : ScopeTree) (s : Nat) :
    t.fresh.isCancelled s = t.isCancelled s := by
  rcases lt_trichotomy s t.next with h | rfl | h
  · rw [isCancelled, fresh, List.getElem?_append_left h, isCancelled]
  · rw [isCancelled_of_not_lt t (lt_irrefl _), isCancelled, fresh, next, List.getElem?_append_right le_rfl]
    simp
  · rw [isCancelled_of_not_lt t (not_lt.mpr h.le), isCancelled_of_not_lt _ (by rw [next_fresh]; omega)]

/-- A new scope on its own has no parent. -/
@[simp] theorem parent?_fresh (t : ScopeTree) (s : Nat) : t.fresh.parent? s = t.parent? s := by
  rcases lt_trichotomy s t.next with h | rfl | h
  · rw [parent?, fresh, List.getElem?_append_left h, parent?]
  · rw [parent?_of_not_lt t (lt_irrefl _), parent?, fresh, next, List.getElem?_append_right le_rfl]
    simp
  · rw [parent?_of_not_lt t (not_lt.mpr h.le), parent?_of_not_lt _ (by rw [next_fresh]; omega)]

/-- A derivation changes nothing for the scopes there were. -/
theorem isCancelled_derive_of_ne (t : ScopeTree) (p : ScopeId) (h : s ≠ t.next) :
    (t.derive p).isCancelled s = t.isCancelled s := by
  rcases Nat.lt_or_gt_of_ne h with h | h
  · rw [isCancelled, derive, List.getElem?_append_left h, isCancelled]
  · rw [isCancelled_of_not_lt t (not_lt.mpr h.le), isCancelled_of_not_lt _ (by rw [next_derive]; omega)]

/-- A derived scope starts as cancelled as its parent is. -/
@[simp] theorem isCancelled_derive_next (t : ScopeTree) (p : ScopeId) :
    (t.derive p).isCancelled t.next = t.isCancelled p := by
  rw [isCancelled, derive, next, List.getElem?_append_right le_rfl]
  cases h : t.isCancelled p <;> simp

/-- A derivation links none of the scopes there were. -/
theorem parent?_derive_of_ne (t : ScopeTree) (p : ScopeId) (h : s ≠ t.next) :
    (t.derive p).parent? s = t.parent? s := by
  rcases Nat.lt_or_gt_of_ne h with h | h
  · rw [parent?, derive, List.getElem?_append_left h, parent?]
  · rw [parent?_of_not_lt t (not_lt.mpr h.le), parent?_of_not_lt _ (by rw [next_derive]; omega)]

/-- A derived scope is linked to its parent, unless that is cancelled. -/
@[simp] theorem parent?_derive_next (t : ScopeTree) (p : ScopeId) :
    (t.derive p).parent? t.next = if t.isCancelled p then none else some p := by
  rw [parent?, derive, next, List.getElem?_append_right le_rfl]
  cases h : t.isCancelled p <;> simp

/-! ### Cancellation -/

/-- One more scope in the audience, given that of the older ones. -/
theorem audience_append (held : ScopeId → Bool) (root : ScopeId) (older : List Scope) (s : Scope) :
    audience ⟨older ++ [s]⟩ held root =
      audience ⟨older⟩ held root ++ [hears held root (audience ⟨older⟩ held root) s] := by
  rw [audience, List.foldl_append, List.foldl_cons, List.foldl_nil, audience]

@[simp] theorem length_audience (t : ScopeTree) (held : ScopeId → Bool) (root : ScopeId) :
    (t.audience held root).length = t.next := by
  obtain ⟨scopes⟩ := t
  induction scopes using List.reverseRecOn with
  | nil => rfl
  | append_singleton older s ih => simp [audience_append, ih, next]

/-- The place of a scope in the audience depends on those of the older scopes only. -/
theorem getElem?_audience (t : ScopeTree) (held : ScopeId → Bool) (root s : Nat) :
    (t.audience held root)[s]? =
      (t.scopes[s]?).map (hears held root ((t.audience held root).take s)) := by
  obtain ⟨scopes⟩ := t
  induction scopes using List.reverseRecOn with
  | nil => rfl
  | append_singleton older x ih =>
    have length : (audience ⟨older⟩ held root).length = older.length := length_audience ..
    rw [audience_append]
    rcases lt_trichotomy s older.length with h | rfl | h
    · rw [List.getElem?_append_left (by omega), List.getElem?_append_left h,
        List.take_append_of_le_length (by omega)]
      exact ih
    · rw [List.getElem?_append_right (by omega), List.getElem?_append_right le_rfl,
        List.take_append_of_le_length (by omega), List.take_of_length_le (by omega)]
      simp [length]
    · rw [List.getElem?_eq_none (by rw [List.length_append, length, List.length_singleton]; omega),
        List.getElem?_eq_none (by rw [List.length_append, List.length_singleton]; omega),
        Option.map_none]

/-- **Who hears of a cancellation**: the scope itself and each held scope whose parent hears of it,
unless it was cancelled before. -/
theorem hearsOf_iff (t : ScopeTree) (hs : s < t.next) (older : ∀ p, t.parent? s = some p → p < s) :
    t.hearsOf held root s = true ↔ t.isCancelled s = false ∧
      (s = root ∨ held s = true ∧ ∃ p, t.parent? s = some p ∧ t.hearsOf held root p = true) := by
  have length : ((t.audience held root).take s).length = s := by
    rw [List.length_take, length_audience]; omega
  obtain ⟨scope, hscope⟩ : ∃ scope, t.scopes[s]? = some scope := ⟨_, List.getElem?_eq_getElem hs⟩
  rw [hearsOf, getElem?_audience, hscope, Option.map_some, Option.getD_some, hears, length,
    isCancelled, hscope, Option.any_some]
  rw [parent?, hscope, Option.bind_some] at older ⊢
  cases hp : scope.parent? with
  | none => simp
  | some p =>
    have take : ((t.audience held root).take s)[p]? = (t.audience held root)[p]? :=
      List.getElem?_take_of_lt (older p hp)
    simp [take, hearsOf]

/-- A scope is cancelled after a cancellation if it was before or hears of it. -/
@[simp] theorem isCancelled_cancel (t : ScopeTree) (held : ScopeId → Bool) (root s : Nat) :
    (t.cancel held root).isCancelled s = (t.isCancelled s || t.hearsOf held root s) := by
  rcases lt_or_ge s t.next with h | h
  · obtain ⟨heard, audience⟩ : ∃ heard, (t.audience held root)[s]? = some heard :=
      ⟨_, List.getElem?_eq_getElem (by rwa [length_audience])⟩
    obtain ⟨_, scope⟩ : ∃ scope, t.scopes[s]? = some scope := ⟨_, List.getElem?_eq_getElem h⟩
    simp [isCancelled, cancel, hearsOf, List.getElem?_zipWith, audience, scope]
  · have audience : (t.audience held root)[s]? = none :=
      List.getElem?_eq_none (by rwa [length_audience])
    have scope : t.scopes[s]? = none := List.getElem?_eq_none h
    simp [isCancelled, cancel, hearsOf, List.getElem?_zipWith, audience, scope]

/-- The scope that is cancelled is cancelled. -/
theorem isCancelled_cancel_self (t : ScopeTree) (held : ScopeId → Bool) (h : root < t.next) :
    (t.cancel held root).isCancelled root = true := by
  have length : ((t.audience held root).take root).length = root := by
    rw [List.length_take, length_audience]; omega
  obtain ⟨scope, hscope⟩ : ∃ scope, t.scopes[root]? = some scope :=
    ⟨_, List.getElem?_eq_getElem h⟩
  rw [isCancelled_cancel, hearsOf, getElem?_audience, hscope, Option.map_some, Option.getD_some,
    hears, length, isCancelled, hscope, Option.any_some]
  cases scope.cancelled <;> simp

/-- A cancellation makes no scope. -/
@[simp] theorem next_cancel (t : ScopeTree) (held : ScopeId → Bool) (root : ScopeId) :
    (t.cancel held root).next = t.next := by
  rw [next, cancel, List.length_zipWith, length_audience, next, min_self]

/-- A cancellation moves no link. -/
@[simp] theorem parent?_cancel (t : ScopeTree) (held : ScopeId → Bool) (root s : Nat) :
    (t.cancel held root).parent? s = t.parent? s := by
  rcases lt_or_ge s t.next with h | h
  · obtain ⟨heard, audience⟩ : ∃ heard, (t.audience held root)[s]? = some heard :=
      ⟨_, List.getElem?_eq_getElem (by rwa [length_audience])⟩
    obtain ⟨_, scope⟩ : ∃ scope, t.scopes[s]? = some scope := ⟨_, List.getElem?_eq_getElem h⟩
    simp [parent?, cancel, List.getElem?_zipWith, audience, scope]
  · rw [parent?_of_not_lt t (not_lt.mpr h), parent?_of_not_lt _ (by rwa [next_cancel, not_lt])]

end ServiceBus.Bus.ScopeTree
