/-! # Contexts

A `Context` bounds a call: it can be cancelled, and it may have a deadline. Cancellation is kept in
a `ScopeTree`. A scope is told of the cancellation of its parent, but holds nothing of it and is not
kept alive by it: news travels along a link only while somebody holds the scope below it.

* `ScopeTree.cancel` cancels a scope and all that hear of it.
* `Context.error?` says why a context is over, and `Context.ending?` what those hear who wait for it.
* `Context.run` is one turn of work that is bound to a context. -/

namespace ServiceBus.Bus

/-- Instants and spans of time, in milliseconds. -/
abbrev Time := Nat

/-- Why a context is over. -/
inductive ContextError where
  | cancelled
  | deadlineExceeded
deriving DecidableEq, Repr

/-- The wording of a context error. -/
def ContextError.message : ContextError → String
  | .cancelled => "context cancelled"
  | .deadlineExceeded => "context deadline exceeded"

/-! ### Scopes -/

/-- The place of a scope in its tree. -/
abbrev ScopeId := Nat

/-- What can be cancelled. -/
structure Scope where
  /-- The scope that passes its cancellation on to this one. -/
  parent? : Option ScopeId := none
  cancelled : Bool := false
deriving DecidableEq, Repr

/-- All scopes there have been, oldest first; a parent is older than its children. -/
structure ScopeTree where
  scopes : List Scope := []
deriving DecidableEq, Repr

namespace ScopeTree

/-- Whether a scope was cancelled. -/
def isCancelled (t : ScopeTree) (s : ScopeId) : Bool :=
  (t.scopes[s]?).any (·.cancelled)

/-- The scope that the next derivation makes. -/
def next (t : ScopeTree) : ScopeId := t.scopes.length

/-- Adds a scope on its own. -/
def fresh (t : ScopeTree) : ScopeTree :=
  ⟨t.scopes ++ [({} : Scope)]⟩

/-- Adds a scope below another. Below a cancelled scope it starts cancelled and on its own. -/
def derive (t : ScopeTree) (parent : ScopeId) : ScopeTree :=
  ⟨t.scopes ++ [if t.isCancelled parent then ({ cancelled := true } : Scope)
    else { parent? := some parent }]⟩

/-- Which scopes hear of the cancellation of `root`, given what the older scopes `heard`: `root`
itself and each held scope whose parent heard, unless it was cancelled before. -/
def hears (held : ScopeId → Bool) (root : ScopeId) (heard : List Bool) (s : Scope) : Bool :=
  !s.cancelled && (heard.length == root ||
    held heard.length && s.parent?.any fun p => heard[p]?.getD false)

/-- For every scope in turn, whether it hears of the cancellation of `root`. -/
def audience (t : ScopeTree) (held : ScopeId → Bool) (root : ScopeId) : List Bool :=
  t.scopes.foldl (fun heard s => heard ++ [hears held root heard s]) []

/-- Cancels a scope and all that hear of it. -/
def cancel (t : ScopeTree) (held : ScopeId → Bool) (root : ScopeId) : ScopeTree :=
  ⟨t.scopes.zipWith (fun s heard => { s with cancelled := s.cancelled || heard })
    (t.audience held root)⟩

end ScopeTree

/-! ### Contexts -/

/-- The bounds of a call. -/
structure Context where
  scope : ScopeId
  deadline? : Option Time := none
deriving DecidableEq, Repr

namespace Context

/-- The context with a deadline at `at` or, if that is earlier, at its present one. -/
def withDeadline (c : Context) (deadline : Time) : Context :=
  { c with deadline? := some ((c.deadline?.map (min · deadline)).getD deadline) }

/-- Why the context is over, or `none` while it is live. -/
def error? (c : Context) (scopes : ScopeTree) (now : Time) : Option ContextError :=
  if scopes.isCancelled c.scope then some .cancelled
  else if c.deadline?.any (· ≤ now) then some .deadlineExceeded
  else none

/-- Why the context is over, for those who wait for its end. If it was cancelled and its deadline has
passed they hear of either, as it is `noticed`. -/
def ending? (c : Context) (noticed : ContextError) (scopes : ScopeTree) (now : Time) :
    Option ContextError :=
  if scopes.isCancelled c.scope && c.deadline?.any (· ≤ now) then some noticed
  else c.error? scopes now

/-- What is shown of a context without a deadline. -/
def describe (cancelled : Bool) : String :=
  "Context \x7b cancelled: " ++ toString cancelled ++ ", deadline: None \x7d"

/-- What is shown of the right to cancel a scope. -/
def describeHandle (cancelled : Bool) : String :=
  "CancelHandle \x7b cancelled: " ++ toString cancelled ++ " \x7d"

/-- How far bound work has come. -/
inductive Turn (β : Type) where
  /-- The work waits and the context is live. -/
  | pending
  | over (result : Except ContextError β)

/-- One turn of work that is bound to a context. Work is not begun under a context that is over;
once begun it gets every turn first, and is given up when it waits and the context is over. -/
def run {σ β : Type} (error? : σ → Option ContextError) (work : σ → σ × Option β)
    (begun : Bool) (s : σ) : σ × Turn β :=
  match if begun then none else error? s with
  | some e => (s, .over (.error e))
  | none =>
    let (s, result) := work s
    match result, error? s with
    | some b, _ => (s, .over (.ok b))
    | none, some e => (s, .over (.error e))
    | none, none => (s, .pending)

end Context

end ServiceBus.Bus
