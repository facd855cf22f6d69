/-! # Sets of code points

Character properties and case mappings are given by short tables of spans.

* `CodeSpan`: every `step`-th code point from `first` to `last`.
* `CodeSet.contains`: membership in a list of spans.
* `CaseShift`: a span together with the signed distance to the mapped code point. -/

namespace ServiceBus.Text

/-- The code points `first`, `first + step`, … up to `last`. -/
structure CodeSpan where
  first : Nat
  last : Nat
  step : Nat
deriving DecidableEq, Repr

/-- Whether the code point `n` lies in the span. -/
def CodeSpan.contains (span : CodeSpan) (n : Nat) : Bool :=
  decide (span.first ≤ n) && decide (n ≤ span.last) && (n - span.first) % span.step == 0

/-- A set of code points, as a list of spans. -/
abbrev CodeSet := List CodeSpan

/-- Whether some span of the set holds the code point `n`. -/
def CodeSet.contains (set : CodeSet) (n : Nat) : Bool :=
  set.any fun span => span.contains n

/-- A span whose members all map to the code point `shift` away. -/
structure CaseShift where
  first : Nat
  last : Nat
  step : Nat
  shift : Int
deriving DecidableEq, Repr

/-- The span that a case shift applies to. -/
def CaseShift.span (s : CaseShift) : CodeSpan :=
  ⟨s.first, s.last, s.step⟩

/-- The image of `n` under the first shift that applies to it. -/
def shiftOf? (shifts : List CaseShift) (n : Nat) : Option Nat :=
  (shifts.find? fun s => s.span.contains n).map fun s => (Int.ofNat n + s.shift).toNat

end ServiceBus.Text
