import ServiceBus.Proofs.Schema.WrittenPaths

/-! # Identifiers in written paths

Modules may be absolute, raw, relative or the root itself, and the names that they ask for may be taken.
Whatever is inserted, an import is bound to an identifier, and a type that lives in the artifact's own
module or in an imported one is written as identifiers with marks between them.

* `ImportSet.afterCalls`: the imports after insertions of which some may be refused.
* `ImportSet.gathers_call`, `ImportSet.Sound.call`: what one insertion keeps; `gathers_afterCalls` and
  `Sound.afterCalls` say it of any number.
* `ImportSet.identifiers_written`: the names of imports and the paths of types. -/

namespace ServiceBus.Schema

open Name

variable {ty : TypeRef}

namespace ImportSet

variable {set set' : ImportSet} {entry : ImportEntry} {calls : List TypeRef}

/-! ### Calls -/

/-- The imports after a call for a type. If the type is refused they are what they were. -/
def call (set : ImportSet) (ty : TypeRef) : ImportSet :=
  match set.insertType ty with
  | .ok insertion => set.after insertion
  | .error _ => set

/-- The imports after calls for several types, one after the other. -/
def afterCalls (set : ImportSet) (calls : List TypeRef) : ImportSet :=
  calls.foldl call set

/-- The types for which a call is not refused. -/
def accepted (calls : List TypeRef) : List TypeRef :=
  calls.filter fun ty => ty.check = .ok ()

/-- **One call** adds the module of its type, if the type is accepted. -/
theorem gathers_call (set : ImportSet) (ty : TypeRef) :
    Gathers (accepted [ty]) set (set.call ty) := by
  rw [call]
  cases hinsertion : set.insertType ty with
  | ok insertion =>
    have haccepted : accepted [ty] = [ty] := by
      simp [accepted, (after_insertType hinsertion).1]
    rw [haccepted]
    exact gathers_insertType hinsertion
  | error fault =>
    have hrefused : accepted [ty] = [] := by
      simp [accepted, insertType_eq_error.mp hinsertion]
    rw [hrefused]
    exact .refl set

/-- One call keeps the names of the imports apart. -/
theorem Sound.call (h : set.Sound) (ty : TypeRef) : (set.call ty).Sound := by
  rw [ImportSet.call]
  cases hinsertion : set.insertType ty with
  | ok insertion => exact h.insertType hinsertion
  | error fault => exact h

/-- **Any calls** add the modules of the types that are accepted. -/
theorem gathers_afterCalls (set : ImportSet) (calls : List TypeRef) :
    Gathers (accepted calls) set (set.afterCalls calls) := by
  induction calls generalizing set with
  | nil => exact .refl set
  | cons ty calls ih =>
    have hsplit : accepted (ty :: calls) = accepted [ty] ++ accepted calls := by
      rw [accepted, accepted, accepted, ← List.filter_append, List.singleton_append]
    rw [hsplit]
    exact (gathers_call set ty).trans (ih (set.call ty))

/-- Any calls keep the names of the imports apart. -/
theorem Sound.afterCalls (h : set.Sound) (calls : List TypeRef) : (set.afterCalls calls).Sound := by
  induction calls generalizing set with
  | nil => exact h
  | cons ty calls ih => exact ih (h.call ty)

/-- The module of a type for which there was a call is imported, unless it is the artifact's own. -/
theorem contains_afterCalls (hmem : ty ∈ calls) (hcheck : ty.check = .ok ())
    (hforeign : ty.module ≠ set.module) : (set.afterCalls calls).contains ty.module = true := by
  have haccepted : ty ∈ accepted calls := List.mem_filter.mpr ⟨hmem, decide_eq_true hcheck⟩
  have hget := ((gathers_afterCalls set calls).paths ty.module).mpr
    (Or.inr ⟨hforeign, ty, haccepted, rfl⟩)
  exact contains_eq_true.mpr hget

/-! ### Names of imports -/

/-- What a module is bound to is an identifier, whatever names are taken. -/
theorem isIdentifier_binding (set : ImportSet) {module : String}
    (h : checkModulePath module = .ok ()) :
    isIdentifier (⟨module, set.aliasFor module⟩ : ImportEntry).binding = true := by
  rw [binding_aliasFor]
  exact (aliasSearch_freshAlias _ _).isIdentifier (isIdentifier_defaultAlias h)

/-- The entry that a call adds. -/
theorem entry_of_added (h : set.insertType ty = .ok (.added set' entry)) :
    ty.check = .ok () ∧ entry = ⟨ty.module, set.aliasFor ty.module⟩ := by
  obtain ⟨hcheck, -⟩ := after_insertType h
  refine ⟨hcheck, ?_⟩
  rw [insertType, hcheck] at h
  by_cases hown : ty.module = set.module
  · simp [hown, bind, Except.bind, pure, Except.pure] at h
  · by_cases hpresent : set.contains ty.module = true
    · simp [hown, hpresent, bind, Except.bind, pure, Except.pure] at h
    · simp only [hown, hpresent, bind, Except.bind, pure, Except.pure, if_false, Except.ok.injEq,
        Insertion.added.injEq, Bool.false_eq_true] at h
      exact h.2.symm

/-- **Only one import has no name**: the base import that brings in what it has without one. -/
theorem isIdentifier_of_get? {path : String} (hset : set.Sound)
    (hbase : ∀ entry ∈ baseImports, set.get? entry.path = some entry)
    (hget : set.get? path = some entry) (hnamed : path ≠ "busbridge::tracing::Instrument") :
    isIdentifier entry.binding = true := by
  refine (hset.identifier path entry hget).resolve_right fun hunnamed => hnamed ?_
  have hother := hbase ⟨"busbridge::tracing::Instrument", some "_"⟩ (by decide)
  exact hset.distinct _ _ _ _ hget hother hunnamed

/-! ### Paths of types -/

/-- **Identifiers are written.** Whatever calls there were for an artifact in any module, refused ones
among them: the name to which the next call binds a module is an identifier, and so is the alias that
is chosen for it. A type whose path can be written and whose module is the artifact's own, or is
imported and not only for what it brings in without a name, is written as identifiers with marks
between them. -/
theorem identifiers_written (module : String) (calls : List TypeRef) :
    (∀ ty set' entry, ((base module).afterCalls calls).insertType ty = .ok (.added set' entry) →
      isIdentifier entry.binding = true ∧
        ∀ chosen, entry.boundAs = some chosen → isIdentifier chosen = true) ∧
    ∀ ty : TypeRef, ty.check = .ok () →
      ty.module = module ∨ ((base module).afterCalls calls).contains ty.module = true ∧
        ty.module ≠ "busbridge::tracing::Instrument" →
      ∀ part ∈ segments (((base module).afterCalls calls).qualify ty), isIdentifier part = true := by
  have hgathers := gathers_afterCalls (base module) calls
  have hsound := (sound_base module).afterCalls calls
  refine ⟨fun ty set' entry hadded => ?_, fun ty hcheck hplace => ?_⟩
  · obtain ⟨hcheck, rfl⟩ := entry_of_added hadded
    have hbinding := isIdentifier_binding ((base module).afterCalls calls)
      (TypeRef.check_eq_ok.mp hcheck).1
    refine ⟨hbinding, fun chosen hchosen => ?_⟩
    rwa [ImportEntry.binding, hchosen] at hbinding
  · apply isIdentifier_of_mem_segments
    obtain ⟨-, -, hname⟩ := TypeRef.check_eq_ok.mp hcheck
    by_cases hown : ty.module = module
    · rw [qualify_own (hown.trans hgathers.module.symm)]
      exact hname
    · obtain ⟨hcontains, hnamed⟩ := hplace.resolve_left hown
      obtain ⟨entry, hget⟩ := contains_eq_true.mp hcontains
      have hbase : ∀ entry ∈ baseImports,
          ((base module).afterCalls calls).get? entry.path = some entry :=
        fun entry hentry => hgathers.kept _ _ ((get?_base module).mpr ⟨hentry, rfl⟩)
      rw [qualify_foreign (fun hsame => hown (hsame.trans hgathers.module)) hget]
      exact isPath_append (isPath_of_isIdentifier (isIdentifier_of_get? hsound hbase hget hnamed))
        hname

/-- Types of modules of every shape: absolute, the root, relative, raw, and three that ask for the name
of a base import. -/
def detours : List TypeRef := [
  ⟨"::lib::r#box", "T"⟩, ⟨"crate", "outer::T"⟩, ⟨"super::super", "T"⟩, ⟨"crate::r#type", "r#T"⟩,
  ⟨"crate::client", "T"⟩, ⟨"super::client", "T"⟩, ⟨"::client", "T"⟩]

/-- All of them are written as identifiers, next to a call that is refused. -/
theorem identifiers_written_detours :
    (∀ ty ∈ detours, ty.check = .ok ()) ∧ (⟨"crate::9", "T"⟩ : TypeRef).check ≠ .ok () ∧
      ∀ ty ∈ detours,
        ∀ part ∈ segments (((base "crate::shop").afterCalls (⟨"crate::9", "T"⟩ :: detours)).qualify ty),
          isIdentifier part = true := by
  have hcheck : ∀ ty ∈ detours, ty.check = .ok () := by decide
  refine ⟨hcheck, by decide, fun ty hty => ?_⟩
  have hplaces : ∀ ty ∈ detours,
      ty.module ≠ "crate::shop" ∧ ty.module ≠ "busbridge::tracing::Instrument" := by decide
  obtain ⟨hforeign, hnamed⟩ := hplaces ty hty
  have hcontains : ((base "crate::shop").afterCalls (⟨"crate::9", "T"⟩ :: detours)).contains
      ty.module = true :=
    contains_afterCalls (List.mem_cons_of_mem _ hty) (hcheck ty hty) hforeign
  exact (identifiers_written "crate::shop" (⟨"crate::9", "T"⟩ :: detours)).2 ty (hcheck ty hty)
    (Or.inr ⟨hcontains, hnamed⟩)

end ImportSet

end ServiceBus.Schema
