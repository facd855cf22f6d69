import ServiceBus.Adaptor.Template

/-! # What a template renders to

A template is rendered in a single pass: each placeholder is replaced by what is bound to it, and the
first one that is not bound is told. Nothing else can fail.

* `Segment.fill`: what a segment is replaced by.
* `Template.render_eq`: the text of a template, or its first placeholder that is not bound.
* `Template.exists_render_iff`: a template is rendered exactly if its placeholders are bound. -/

namespace ServiceBus.Adaptor

variable {bindings : Bindings} {name : String}

/-! ### Bindings -/

/-- **A name has a value** exactly if it is one of the names that are bound. -/
theorem isSome_lookup_iff : (bindings.lookup name).isSome = true ↔ name ∈ bindings.map Prod.fst := by
  induction bindings with
  | nil => simp
  | cons binding bindings ih =>
    obtain ⟨key, value⟩ := binding
    rw [List.lookup_cons, List.map_cons, List.mem_cons]
    by_cases hkey : name = key
    · simp [hkey]
    · have hne : (name == key) = false := by simpa using hkey
      simp [hne, hkey, ih]

/-! ### Segments -/

/-- The name of a placeholder segment. -/
def Segment.name? : Segment → Option String
  | .placeholder name _ => some name
  | .text _ => none

/-- The names of the placeholders are those of the segments. -/
theorem Template.placeholders_eq (t : Template) :
    t.placeholders = t.segments.filterMap Segment.name? := rfl

/-- What a segment is replaced by. Nothing is put in place of a name without a value. -/
def Segment.fill (bindings : Bindings) : Segment → String
  | .text s => s
  | .placeholder name _ => (bindings.lookup name).getD ""

/-- The first name that has no value. -/
def firstUnbound? (bindings : Bindings) (names : List String) : Option String :=
  names.find? fun name => (bindings.lookup name).isNone

/-- All names are bound if there is no first that is not. -/
theorem firstUnbound?_eq_none {names : List String} :
    firstUnbound? bindings names = none ↔ ∀ name ∈ names, name ∈ bindings.map Prod.fst := by
  simp [firstUnbound?, List.find?_eq_none, ← isSome_lookup_iff, Option.isSome_iff_ne_none]

/-- The segments one after the other, up to the first that cannot be replaced. -/
theorem mapM_renderSegment (template : String) (bindings : Bindings) (segments : List Segment) :
    segments.mapM (Template.renderSegment template bindings) =
      match firstUnbound? bindings (segments.filterMap Segment.name?) with
      | none => .ok (segments.map (Segment.fill bindings))
      | some name => .error (.unbound template name) := by
  induction segments with
  | nil => rfl
  | cons segment segments ih =>
    rw [List.mapM_cons, ih]
    cases segment with
    | text s =>
      -- A text is kept, so what fails is what fails behind it.
      simp only [Template.renderSegment, List.filterMap_cons, Segment.name?, List.map_cons,
        Segment.fill]
      cases firstUnbound? bindings (segments.filterMap Segment.name?) <;> rfl
    | placeholder name line =>
      unfold Template.renderSegment firstUnbound?
      cases hvalue : bindings.lookup name with
      | none => simp [Segment.name?, hvalue, Bind.bind, Except.bind]
      | some value =>
        simp only [List.filterMap_cons, Segment.name?, List.find?_cons, hvalue, List.map_cons,
          Segment.fill, Option.isNone_some, Option.getD_some]
        cases (segments.filterMap Segment.name?).find? fun name => (bindings.lookup name).isNone <;>
          rfl

namespace Template

variable {t : Template}

/-- **What a template renders to**: its segments filled, or its first placeholder that is not
bound. -/
theorem render_eq (t : Template) (bindings : Bindings) :
    t.render bindings =
      match firstUnbound? bindings t.placeholders with
      | none => .ok (String.join (t.segments.map (Segment.fill bindings)))
      | some name => .error (.unbound t.name name) := by
  unfold render
  rw [mapM_renderSegment, placeholders_eq]
  cases firstUnbound? bindings (t.segments.filterMap Segment.name?) <;> rfl

/-- **A template is rendered** exactly if its placeholders are bound. -/
theorem exists_render_iff :
    (∃ s, t.render bindings = .ok s) ↔
      ∀ name ∈ t.placeholders, name ∈ bindings.map Prod.fst := by
  rw [render_eq, ← firstUnbound?_eq_none]
  cases firstUnbound? bindings t.placeholders <;> simp

end Template

end ServiceBus.Adaptor
