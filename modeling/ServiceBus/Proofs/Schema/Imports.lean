import Mathlib.Data.List.Nodup
import Mathlib.Data.String.Basic
import ServiceBus.Proofs.Schema.Aliases
import ServiceBus.Proofs.Schema.Walk

/-! # What a file imports

A file has its imports if its module and all types it refers to have paths that can be written. They
are then the base imports and the foreign modules of these types, in order and under different names.

* `ImportSet.Sound`: entries stand at their paths and bind different names; every insertion keeps this.
* `ImportSet.Gathers`: what some types add to the imports.
* `ImportSet.imports_of_file`: when a file has its imports, which fault it has otherwise, and what its
  imports are. -/

namespace ServiceBus.Schema

open Name

variable {ty : TypeRef} {refs : List TypeRef} {path module : String} {entry : ImportEntry}
  {e : SchemaError}

namespace ImportSet

variable {set set' : ImportSet}

/-! ### Entries -/

/-- The entries are the values of the map, in the order of their paths. -/
theorem toList_eq (set : ImportSet) : set.toList = set.entries.toList.map Prod.snd := by
  have hfold : set.toList = set.entries.foldr (fun _ entry rest => entry :: rest) [] := rfl
  rw [hfold, Std.TreeMap.foldr_eq_foldr_toList]
  induction set.entries.toList with
  | nil => rfl
  | cons pair rest ih => rw [List.foldr_cons, ih, List.map_cons]

/-- An entry is written if it stands at some path. -/
theorem mem_toList : entry ∈ set.toList ↔ ∃ path, set.get? path = some entry := by
  rw [toList_eq, List.mem_map]
  constructor
  · rintro ⟨⟨path, entry⟩, hmem, rfl⟩
    exact ⟨path, Std.TreeMap.mem_toList_iff_getElem?_eq_some.mp hmem⟩
  · rintro ⟨path, h⟩
    exact ⟨(path, entry), Std.TreeMap.mem_toList_iff_getElem?_eq_some.mpr h, rfl⟩

/-- A path is not imported if there is no entry at it. -/
theorem contains_eq_false : set.contains path = false ↔ set.get? path = none := by
  rw [contains, Std.TreeMap.contains_eq_isSome_getElem?, get?, Option.isSome_eq_false_iff,
    Option.isNone_iff_eq_none]

/-- A path is imported if there is some entry at it. -/
theorem contains_eq_true : set.contains path = true ↔ ∃ entry, set.get? path = some entry := by
  rw [contains, Std.TreeMap.contains_eq_isSome_getElem?, get?, Option.isSome_iff_exists]

/-- **What holds of the imports of every file**: an entry stands at its path, its name is an
identifier unless it is `_`, and no other entry has that name. -/
structure Sound (set : ImportSet) : Prop where
  path : ∀ path entry, set.get? path = some entry → entry.path = path
  identifier : ∀ path entry, set.get? path = some entry →
    isIdentifier entry.binding = true ∨ entry.binding = "_"
  distinct : ∀ path entry path' entry', set.get? path = some entry →
    set.get? path' = some entry' → entry.binding = entry'.binding → path = path'

namespace Sound

/-- An entry that is written stands at its path. -/
theorem get?_path (h : set.Sound) (hmem : entry ∈ set.toList) :
    set.get? entry.path = some entry := by
  obtain ⟨path, hget⟩ := mem_toList.mp hmem
  rwa [h.path path entry hget]

/-- The paths at which entries stand are the paths of the entries, in the same order. -/
theorem keys_eq (h : set.Sound) : set.entries.keys = set.toList.map ImportEntry.path := by
  rw [← Std.TreeMap.map_fst_toList_eq_keys, toList_eq, List.map_map]
  refine List.map_congr_left fun pair hpair => ?_
  exact (h.path _ _ (Std.TreeMap.mem_toList_iff_getElem?_eq_some.mp hpair)).symm

/-- **The paths ascend.** -/
theorem pairwise_path (h : set.Sound) :
    (set.toList.map ImportEntry.path).Pairwise (· < ·) := by
  rw [← h.keys_eq]
  exact Std.TreeMap.ordered_keys.imp fun hlt => compare_lt_iff_lt.mp hlt

/-- **All names are different.** -/
theorem nodup_bindings (h : set.Sound) : set.bindings.Nodup := by
  have hnodup : set.toList.Nodup :=
    List.Nodup.of_map ImportEntry.path (h.pairwise_path.imp fun hlt => ne_of_lt hlt)
  refine List.Nodup.map_on ?_ hnodup
  intro entry hentry entry' hentry' hsame
  have hget := h.get?_path hentry
  have hget' := h.get?_path hentry'
  rw [h.distinct _ _ _ _ hget hget' hsame, hget'] at hget
  exact (Option.some.inj hget).symm

end Sound

/-! ### Base imports -/

/-- What is at a path after some entries were put in. -/
theorem getElem?_foldl_insert (added : List ImportEntry) (entries : Std.TreeMap String ImportEntry)
    (hnodup : (added.map ImportEntry.path).Nodup) :
    (added.foldl (fun entries entry => entries.insert entry.path entry) entries)[path]? =
        some entry ↔
      entry ∈ added ∧ entry.path = path ∨
        path ∉ added.map ImportEntry.path ∧ entries[path]? = some entry := by
  induction added generalizing entries with
  | nil => simp
  | cons first rest ih =>
    rw [List.map_cons, List.nodup_cons] at hnodup
    obtain ⟨hfirst, hrest⟩ := hnodup
    rw [List.foldl_cons, ih _ hrest, Std.TreeMap.getElem?_insert]
    simp only [Std.LawfulEqCmp.compare_eq_iff_eq, List.map_cons, List.mem_cons, not_or]
    by_cases hpath : first.path = path
    · rw [if_pos hpath, Option.some.injEq]
      constructor
      · rintro (⟨hmem, hentry⟩ | ⟨-, rfl⟩)
        · exact Or.inl ⟨Or.inr hmem, hentry⟩
        · exact Or.inl ⟨Or.inl rfl, hpath⟩
      · rintro (⟨rfl | hmem, hentry⟩ | ⟨⟨hne, -⟩, -⟩)
        · exact Or.inr ⟨hpath ▸ hfirst, rfl⟩
        · exact Or.inl ⟨hmem, hentry⟩
        · exact absurd hpath.symm hne
    · rw [if_neg hpath]
      constructor
      · rintro (⟨hmem, hentry⟩ | ⟨hnot, hget⟩)
        · exact Or.inl ⟨Or.inr hmem, hentry⟩
        · exact Or.inr ⟨⟨Ne.symm hpath, hnot⟩, hget⟩
      · rintro (⟨rfl | hmem, hentry⟩ | ⟨⟨-, hnot⟩, hget⟩)
        · exact absurd hentry hpath
        · exact Or.inl ⟨hmem, hentry⟩
        · exact Or.inr ⟨hnot, hget⟩

/-- The base imports have different paths. -/
theorem nodup_basePaths : (baseImports.map ImportEntry.path).Nodup := by
  decide +kernel

/-- **The entries before any type is inserted** are the base imports. -/
theorem get?_base (module : String) :
    (base module).get? path = some entry ↔ entry ∈ baseImports ∧ entry.path = path := by
  rw [get?, base, getElem?_foldl_insert _ _ nodup_basePaths]
  simp

/-- The base imports bind different names. -/
theorem sound_base (module : String) : (base module).Sound where
  path path entry h := ((get?_base module).mp h).2
  identifier path entry h := by
    have hall : ∀ entry ∈ baseImports,
      isIdentifier entry.binding = true ∨ entry.binding = "_" := by decide +kernel
    exact hall entry ((get?_base module).mp h).1
  distinct path entry path' entry' h h' := by
    obtain ⟨hmem, rfl⟩ := (get?_base module).mp h
    obtain ⟨hmem', rfl⟩ := (get?_base module).mp h'
    have hall : ∀ entry ∈ baseImports, ∀ entry' ∈ baseImports,
      entry.binding = entry'.binding → entry.path = entry'.path := by decide +kernel
    exact hall entry hmem entry' hmem'

/-! ### Insertions -/

/-- The set of imports with one more module. -/
def importing (set : ImportSet) (module : String) : ImportSet :=
  { set with entries := set.entries.insert module ⟨module, set.aliasFor module⟩ }

/-- What stands at a path when there is one more module. -/
theorem get?_importing (set : ImportSet) (module path : String) :
    (set.importing module).get? path =
      if module = path then some ⟨module, set.aliasFor module⟩ else set.get? path := by
  rw [get?, importing, Std.TreeMap.getElem?_insert]
  simp only [Std.LawfulEqCmp.compare_eq_iff_eq]
  rfl

/-- **One more module is bound to a name of its own.** -/
theorem Sound.importing (h : set.Sound) (hmodule : checkModulePath module = .ok ()) :
    (set.importing module).Sound := by
  have hsearch := aliasSearch_freshAlias set.bindings (defaultAlias module)
  rw [← set.binding_aliasFor module] at hsearch
  have hnew : ∀ path entry, set.get? path = some entry →
      entry.binding ≠ (⟨module, set.aliasFor module⟩ : ImportEntry).binding := by
    intro path entry hget hsame
    exact hsearch.not_mem (hsame ▸ List.mem_map_of_mem (mem_toList.mpr ⟨path, hget⟩))
  refine ⟨fun path entry hget => ?_, fun path entry hget => ?_,
    fun path entry path' entry' hget hget' hsame => ?_⟩
  · rw [get?_importing] at hget
    split at hget
    · rename_i hpath
      rw [← Option.some.inj hget]
      exact hpath
    · exact h.path path entry hget
  · rw [get?_importing] at hget
    split at hget
    · rw [← Option.some.inj hget]
      exact Or.inl (hsearch.isIdentifier (isIdentifier_defaultAlias hmodule))
    · exact h.identifier path entry hget
  · rw [get?_importing] at hget hget'
    split at hget <;> split at hget'
    · rename_i hpath hpath'
      exact hpath.symm.trans hpath'
    · rw [← Option.some.inj hget] at hsame
      exact absurd hsame.symm (hnew path' entry' hget')
    · rw [← Option.some.inj hget'] at hsame
      exact absurd hsame (hnew path entry hget)
    · exact h.distinct path entry path' entry' hget hget' hsame

/-- A type is refused for the fault of its path. -/
theorem insertType_eq_error : set.insertType ty = .error e ↔ ty.check = .error e := by
  rw [insertType]
  cases ty.check with
  | error fault =>
    constructor
    · intro h
      cases h
      rfl
    · intro h
      cases h
      rfl
  | ok _ =>
    constructor
    · intro h
      by_cases hsame : ty.module = set.module
      · simp [hsame, bind, Except.bind, pure, Except.pure] at h
      · by_cases hpresent : set.contains ty.module = true
        · simp [hsame, hpresent, bind, Except.bind, pure, Except.pure] at h
        · simp [hsame, hpresent, bind, Except.bind, pure, Except.pure] at h
    · intro h
      cases h

/-- **What is imported for a type**: nothing if it lives in the file's own module or its module is
imported, and else its module. -/
theorem after_insertType {insertion : Insertion} (h : set.insertType ty = .ok insertion) :
    ty.check = .ok () ∧ set.after insertion =
      if ty.module = set.module ∨ set.contains ty.module = true then set
      else set.importing ty.module := by
  rw [insertType] at h
  cases hcheck : ty.check with
  | error fault =>
    rw [hcheck] at h
    cases h
  | ok _ =>
    rw [hcheck] at h
    refine ⟨rfl, ?_⟩
    by_cases hsame : ty.module = set.module
    · rw [if_pos (Or.inl hsame)]
      simp only [hsame, bind, Except.bind, if_true] at h
      cases h
      rfl
    · by_cases hpresent : set.contains ty.module = true
      · rw [if_pos (Or.inr hpresent)]
        simp only [hsame, hpresent, bind, Except.bind, if_true, if_false] at h
        cases h
        rfl
      · rw [if_neg (not_or.mpr ⟨hsame, hpresent⟩)]
        simp only [hsame, hpresent, bind, Except.bind, if_false] at h
        cases h
        rfl

/-- **What some types add to the imports**: the modules of theirs that are not the file's own. -/
structure Gathers (refs : List TypeRef) (set set' : ImportSet) : Prop where
  module : set'.module = set.module
  fine : ∀ ty ∈ refs, ty.check = .ok ()
  kept : ∀ path entry, set.get? path = some entry → set'.get? path = some entry
  paths : ∀ path, (∃ entry, set'.get? path = some entry) ↔
    (∃ entry, set.get? path = some entry) ∨ path ≠ set.module ∧ ∃ ty ∈ refs, ty.module = path

/-- One type adds its module. -/
theorem gathers_insertType {insertion : Insertion} (h : set.insertType ty = .ok insertion) :
    Gathers [ty] set (set.after insertion) := by
  obtain ⟨hcheck, hafter⟩ := after_insertType h
  have hfine : ∀ t ∈ [ty], t.check = .ok () := by
    intro t ht
    rw [List.mem_singleton.mp ht]
    exact hcheck
  rw [hafter]
  split
  · rename_i hnothing
    refine ⟨rfl, hfine, fun _ _ hget => hget, fun path => ⟨Or.inl, ?_⟩⟩
    rintro (hget | ⟨hne, ty', hty', rfl⟩)
    · exact hget
    · rw [List.mem_singleton.mp hty'] at hne ⊢
      exact contains_eq_true.mp (hnothing.resolve_left hne)
  · rename_i hnew
    rw [not_or, Bool.not_eq_true, contains_eq_false] at hnew
    obtain ⟨hother, hnone⟩ := hnew
    refine ⟨rfl, hfine, fun path entry hget => ?_, fun path => ?_⟩
    · rw [get?_importing, if_neg]
      · exact hget
      · rintro rfl
        rw [hnone] at hget
        cases hget
    · rw [get?_importing]
      split
      · rename_i hpath
        refine ⟨fun _ => Or.inr ⟨hpath ▸ hother, ty, List.mem_singleton_self ty, hpath⟩, fun _ => ?_⟩
        exact ⟨_, rfl⟩
      · rename_i hpath
        refine ⟨Or.inl, fun hget => hget.resolve_right ?_⟩
        rintro ⟨-, ty', hty', hmodule⟩
        rw [List.mem_singleton.mp hty'] at hmodule
        exact hpath hmodule

/-- No types add nothing. -/
theorem Gathers.refl (set : ImportSet) : Gathers [] set set where
  module := rfl
  fine _ hty := absurd hty List.not_mem_nil
  kept _ _ hget := hget
  paths path := by simp

/-- Some types and then further ones. -/
theorem Gathers.trans {more : List TypeRef} {set'' : ImportSet} (h : Gathers refs set set')
    (h' : Gathers more set' set'') : Gathers (refs ++ more) set set'' where
  module := h'.module.trans h.module
  fine := List.forall_mem_append.mpr ⟨h.fine, h'.fine⟩
  kept path entry hget := h'.kept path entry (h.kept path entry hget)
  paths path := by
    rw [h'.paths, h.paths, h.module]
    constructor
    · rintro ((hget | ⟨hne, ty, hty, hmodule⟩) | ⟨hne, ty, hty, hmodule⟩)
      · exact Or.inl hget
      · exact Or.inr ⟨hne, ty, List.mem_append_left _ hty, hmodule⟩
      · exact Or.inr ⟨hne, ty, List.mem_append_right _ hty, hmodule⟩
    · rintro (hget | ⟨hne, ty, hty, hmodule⟩)
      · exact Or.inl (Or.inl hget)
      · rcases List.mem_append.mp hty with hty | hty
        · exact Or.inl (Or.inr ⟨hne, ty, hty, hmodule⟩)
        · exact Or.inr ⟨hne, ty, hty, hmodule⟩

/-- An insertion keeps the names of the imports apart. -/
theorem Sound.insertType {insertion : Insertion} (h : set.Sound)
    (hinsertion : set.insertType ty = .ok insertion) : (set.after insertion).Sound := by
  obtain ⟨hcheck, hafter⟩ := after_insertType hinsertion
  rw [hafter]
  split
  · exact h
  · exact h.importing (TypeRef.check_eq_ok.mp hcheck).1

/-- The result of several insertions, by that of the first. -/
theorem value_insertTypes_cons : (set.insertTypes (ty :: refs)).value =
    match set.insertType ty with
    | .error fault => .error fault
    | .ok insertion => ((set.after insertion).insertTypes refs).value := by
  show (match set.insertType ty with | .error fault => _ | .ok insertion => _ : Logged _).value = _
  cases set.insertType ty <;> rfl

/-- Several types are inserted one after the other. -/
theorem insertTypes_cons_eq_ok (h : (set.insertTypes (ty :: refs)).value = .ok set') :
    ∃ insertion, set.insertType ty = .ok insertion ∧
      ((set.after insertion).insertTypes refs).value = .ok set' := by
  rw [value_insertTypes_cons] at h
  cases hinsertion : set.insertType ty with
  | error fault =>
    rw [hinsertion] at h
    cases h
  | ok insertion =>
    rw [hinsertion] at h
    exact ⟨insertion, rfl, h⟩

/-- **All insertions together** keep the names apart and gather the modules of the types. -/
theorem gathers_insertTypes (hset : set.Sound)
    (h : (set.insertTypes refs).value = .ok set') : Gathers refs set set' ∧ set'.Sound := by
  induction refs generalizing set with
  | nil =>
    cases h
    exact ⟨.refl _, hset⟩
  | cons ty refs ih =>
    obtain ⟨insertion, hinsertion, hrest⟩ := insertTypes_cons_eq_ok h
    obtain ⟨hgathers, hsound⟩ := ih (hset.insertType hinsertion) hrest
    exact ⟨(gathers_insertType hinsertion).trans hgathers, hsound⟩

/-- The first of some types is what is looked for, or it is fine and one after it is. -/
theorem exists_first_cons {fine sought : TypeRef → Prop} :
    (∃ before ty' after, ty :: refs = before ++ ty' :: after ∧ (∀ t ∈ before, fine t) ∧ sought ty') ↔
      sought ty ∨ fine ty ∧ ∃ before ty' after, refs = before ++ ty' :: after ∧
        (∀ t ∈ before, fine t) ∧ sought ty' := by
  constructor
  · rintro ⟨before, ty', after, hsplit, hfine, hsought⟩
    cases before with
    | nil =>
      cases hsplit
      exact Or.inl hsought
    | cons head before =>
      cases hsplit
      obtain ⟨hhead, hfine⟩ := List.forall_mem_cons.mp hfine
      exact Or.inr ⟨hhead, before, ty', after, rfl, hfine, hsought⟩
  · rintro (hsought | ⟨hty, before, ty', after, rfl, hfine, hsought⟩)
    · exact ⟨[], ty, refs, rfl, fun _ h => absurd h List.not_mem_nil, hsought⟩
    · exact ⟨ty :: before, ty', after, rfl, List.forall_mem_cons.mpr ⟨hty, hfine⟩, hsought⟩

/-- **Types are refused for the first fault** that one of them has. -/
theorem insertTypes_eq_error : (set.insertTypes refs).value = .error e ↔
    ∃ before ty after, refs = before ++ ty :: after ∧ (∀ t ∈ before, t.check = .ok ()) ∧
      ty.check = .error e := by
  induction refs generalizing set with
  | nil =>
    constructor
    · intro h
      cases h
    · rintro ⟨before, ty, after, hsplit, -⟩
      exact absurd hsplit (by simp)
  | cons first refs ih =>
    rw [exists_first_cons, value_insertTypes_cons]
    cases hinsertion : set.insertType first with
    | error fault =>
      rw [insertType_eq_error.mp hinsertion]
      simp
    | ok insertion =>
      have hrest : ((set.after insertion).insertTypes refs).value = .error e ↔ _ := ih
      rw [(after_insertType hinsertion).1, ← hrest]
      simp

end ImportSet

/-! ### The imports of a file -/

/-- **The first fault of a file**: of its module, or else of the first type that it refers to whose
path cannot be written, where messages come before services and each before those nested in it. -/
inductive File.FirstFault (file : File) (e : SchemaError) : Prop where
  | module (fault : checkModulePath file.module = .error e)
  | reference {before after : List TypeRef} {ty : TypeRef}
      (module : checkModulePath file.module = .ok ())
      (split : fieldRefs file.messages ++ file.services.flatMap Service.typeRefs =
        before ++ ty :: after)
      (fine : ∀ t ∈ before, t.check = .ok ()) (fault : ty.check = .error e)

namespace ImportSet

variable {file : File} {imports : ImportSet}

/-- A file without imports has a fault, and it is the first one. -/
theorem resolve_eq_error : (resolve file).value = .error e ↔ file.FirstFault e := by
  rw [resolve]
  cases hmodule : checkModulePath file.module with
  | error fault =>
    constructor
    · intro h
      cases h
      exact .module hmodule
    · intro h
      cases h with
      | module hfault =>
        rw [hmodule] at hfault
        cases hfault
        rfl
      | reference hfine =>
        rw [hmodule] at hfine
        cases hfine
  | ok _ =>
    dsimp only
    rw [insertTypes_eq_error, File.typeRefs_eq]
    constructor
    · rintro ⟨before, ty, after, hsplit, hbefore, hfault⟩
      exact .reference hmodule hsplit hbefore hfault
    · intro h
      cases h with
      | module hfault =>
        rw [hmodule] at hfault
        cases hfault
      | reference _ hsplit hbefore hfault => exact ⟨_, _, _, hsplit, hbefore, hfault⟩

/-- **The imports of a file** gather the modules of the types it refers to. -/
theorem gathers_resolve (h : (resolve file).value = .ok imports) :
    Gathers file.typeRefs (base file.module) imports ∧ imports.Sound := by
  rw [resolve] at h
  cases hmodule : checkModulePath file.module with
  | error fault =>
    rw [hmodule] at h
    cases h
  | ok _ =>
    rw [hmodule] at h
    exact gathers_insertTypes (sound_base file.module) h

/-- An entry is imported for the runtime or for a type of another module. -/
theorem get?_resolve (h : (resolve file).value = .ok imports) :
    (∃ entry, imports.get? path = some entry) ↔ path ∈ baseImports.map ImportEntry.path ∨
      path ≠ file.module ∧ ∃ ty, file.Refers ty ∧ ty.module = path := by
  obtain ⟨hgathers, -⟩ := gathers_resolve h
  have hbase : (∃ entry, (base file.module).get? path = some entry) ↔
      path ∈ baseImports.map ImportEntry.path := by
    simp only [get?_base, List.mem_map]
  rw [hgathers.paths, hbase]
  simp only [File.mem_typeRefs]
  rfl

/-- A file has its imports if its module and its types have paths that can be written. -/
theorem exists_resolve (hmodule : checkModulePath file.module = .ok ())
    (h : ∀ ty ∈ file.typeRefs, ty.check = .ok ()) :
    ∃ imports, (resolve file).value = .ok imports := by
  cases hresult : (resolve file).value with
  | ok imports => exact ⟨imports, rfl⟩
  | error e =>
    cases resolve_eq_error.mp hresult with
    | module hfault =>
      rw [hmodule] at hfault
      cases hfault
    | @reference before after ty _ hsplit _ hfault =>
      have hmem : ty ∈ file.typeRefs := by
        rw [File.typeRefs_eq, hsplit]
        exact List.mem_append_right _ List.mem_cons_self
      rw [h ty hmem] at hfault
      cases hfault

/-- The module of a file that has its imports. -/
theorem module_of_resolve (h : (resolve file).value = .ok imports) :
    checkModulePath file.module = .ok () := by
  cases hmodule : checkModulePath file.module with
  | error e =>
    rw [resolve_eq_error.mpr (.module hmodule)] at h
    cases h
  | ok _ => rfl

/-- **What a file imports.** A file has its imports exactly if its module and all types that it refers
to have paths that can be written; else it is refused for the first fault. Its imports stand at the
base paths and at the foreign modules of these types, each once and in ascending order, the base
imports are as they were, and all bind different names. The search for a free name always ends, and
what it ends with is bound. -/
theorem imports_of_file (file : File) :
    ((∃ imports, (resolve file).value = .ok imports) ↔
      checkModulePath file.module = .ok () ∧ ∀ ty, file.Refers ty → ty.check = .ok ()) ∧
    (∀ e, (resolve file).value = .error e ↔ file.FirstFault e) ∧
    (∀ imports, (resolve file).value = .ok imports →
      (∀ path, path ∈ imports.entries.keys ↔ path ∈ baseImports.map ImportEntry.path ∨
        path ≠ file.module ∧ ∃ ty, file.Refers ty ∧ ty.module = path) ∧
      imports.entries.keys.Pairwise (· < ·) ∧
      imports.toList.map ImportEntry.path = imports.entries.keys ∧
      (∀ entry ∈ baseImports, imports.get? entry.path = some entry) ∧
      imports.bindings.Nodup) ∧
    ∀ (set : ImportSet) (module : String),
      AliasSearch set.bindings (defaultAlias module)
        (⟨module, set.aliasFor module⟩ : ImportEntry).binding := by
  refine ⟨⟨?_, ?_⟩, fun e => resolve_eq_error, fun imports h => ?_, fun set module => ?_⟩
  · rintro ⟨imports, h⟩
    obtain ⟨hgathers, -⟩ := gathers_resolve h
    exact ⟨module_of_resolve h, fun ty hty => hgathers.fine ty (File.mem_typeRefs.mpr hty)⟩
  · rintro ⟨hmodule, hfine⟩
    exact exists_resolve hmodule fun ty hty => hfine ty (File.mem_typeRefs.mp hty)
  · obtain ⟨hgathers, hsound⟩ := gathers_resolve h
    refine ⟨fun path => ?_, hsound.keys_eq ▸ hsound.pairwise_path, hsound.keys_eq.symm,
      fun entry hentry => ?_, hsound.nodup_bindings⟩
    · rw [Std.TreeMap.mem_keys, ← get?_resolve h, Std.TreeMap.mem_iff_isSome_getElem?,
        Option.isSome_iff_exists]
      rfl
    · exact hgathers.kept _ _ ((get?_base file.module).mpr ⟨hentry, rfl⟩)
  · rw [binding_aliasFor]
    exact aliasSearch_freshAlias set.bindings (defaultAlias module)

end ImportSet

/-- A shop: what is ordered is nested in a message of its own, and comes from another module too. -/
def shop : File where
  name := "shop.proto"
  package := "shop"
  module := "crate::shop"
  stem := "shop"
  messages := [
    { name := "Common", nested := [{ name := "Item" }] },
    { name := "Order",
      fields := [⟨"item", .message ⟨"crate::shop", "common::Item"⟩⟩,
        ⟨"origin", .message ⟨"crate::common", "Item"⟩⟩] }]

/-- The shop refers to an item of its own and to one of another module, in this order. -/
theorem shop_typeRefs :
    shop.typeRefs = [⟨"crate::shop", "common::Item"⟩, ⟨"crate::common", "Item"⟩] := by
  rw [File.typeRefs_eq]
  simp [shop, fieldRefs, preorderAll, Message.preorder, FieldType.typeRef?]

/-- The types of the shop. -/
theorem shop_refers {ty : TypeRef} : shop.Refers ty ↔
    ty = ⟨"crate::shop", "common::Item"⟩ ∨ ty = ⟨"crate::common", "Item"⟩ := by
  rw [← File.mem_typeRefs, shop_typeRefs]
  simp

/-- The shop has its imports. -/
theorem ImportSet.exists_resolve_shop : ∃ imports, (resolve shop).value = .ok imports := by
  refine exists_resolve (by decide) fun ty hty => ?_
  rcases shop_refers.mp (File.mem_typeRefs.mp hty) with rfl | rfl <;> decide

/-- The shop imports the other module, under a name of its own. -/
theorem ImportSet.imports_of_shop : ∃ imports, (ImportSet.resolve shop).value = .ok imports ∧
    "crate::common" ∈ imports.entries.keys ∧ "crate::shop" ∉ imports.entries.keys ∧
      imports.bindings.Nodup := by
  obtain ⟨-, -, himports, -⟩ := imports_of_file shop
  obtain ⟨imports, h⟩ := exists_resolve_shop
  obtain ⟨hpaths, -, -, -, hbindings⟩ := himports imports h
  refine ⟨imports, h, (hpaths _).mpr (Or.inr ⟨by decide, _, shop_refers.mpr (Or.inr rfl), rfl⟩),
    fun hmem => ?_, hbindings⟩
  rcases (hpaths _).mp hmem with hbase | ⟨hne, -⟩
  · exact absurd hbase (by decide)
  · exact hne rfl

end ServiceBus.Schema
