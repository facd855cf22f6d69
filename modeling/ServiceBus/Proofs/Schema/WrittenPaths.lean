import ServiceBus.Proofs.Schema.Imports

/-! # Paths as they are written

Below its imports a file writes a foreign type behind the name of its module and a type of its own by
its bare name. Names of imports are kept apart from each other, but not from the names of the file's
own module.

* `ImportSet.Masks`: a type of the file's own whose bare name is the written path of a foreign type.
* `ImportSet.written_paths`: a foreign path leads to its module and no other; a path of the file's own
  is taken over by an import exactly if it begins with the name of one.
* `ImportSet.own_path_taken_over`: a path of the file's own that leads to another module. -/

namespace ServiceBus.Schema

open Name

variable {ty ty' : TypeRef} {file : File} {b s : String}

/-- The first segment of a path with a mark in it. -/
theorem head?_segments_append (h : ':' ∉ b.toList) :
    (segments (b ++ "::" ++ s)).head? = some b := by
  have hb : segmentChars b.toList = [b.toList] := segmentChars_of_no_colon h
  rw [segments, toList_append_segment, segmentChars_append, hb, List.singleton_append,
    List.map_cons, List.head?_cons, String.ofList_toList]
  rw [hb]
  intro part hpart
  rw [List.mem_singleton.mp hpart]
  exact h

/-- A path has a first segment. -/
theorem exists_head?_segments (path : String) : ∃ b, (segments path).head? = some b := by
  rw [segments, List.head?_map]
  cases hparts : segmentChars path.toList with
  | nil => exact absurd hparts (segmentChars_ne_nil _)
  | cons part parts => exact ⟨_, rfl⟩

namespace ImportSet

variable {imports : ImportSet} {entry : ImportEntry} {path : String}

/-- A type of the file's own is written by its bare name. -/
theorem qualify_own (h : ty.module = imports.module) : imports.qualify ty = ty.name :=
  if_pos h

/-- A foreign type is written behind the name of its module. -/
theorem qualify_foreign (h : ty.module ≠ imports.module)
    (hentry : imports.get? ty.module = some entry) :
    imports.qualify ty = entry.binding ++ "::" ++ ty.name := by
  rw [qualify, if_neg h, hentry]

/-- The name of an import is a single segment. -/
theorem Sound.no_colon (h : imports.Sound) (hentry : imports.get? path = some entry) :
    ':' ∉ entry.binding.toList := by
  rcases h.identifier path entry hentry with hname | hname
  · exact no_colon_of_isIdentifier hname
  · rw [hname]
    decide

/-- The first segment of the path of a foreign type is the name of its module. -/
theorem Sound.head?_foreign (h : imports.Sound) (hforeign : ty.module ≠ imports.module)
    (hentry : imports.get? ty.module = some entry) :
    (segments (imports.qualify ty)).head? = some entry.binding := by
  rw [qualify_foreign hforeign hentry]
  exact head?_segments_append (h.no_colon hentry)

/-- Two foreign types with the same path are the same. -/
theorem Sound.eq_of_foreign {entry' : ImportEntry} (h : imports.Sound)
    (hforeign : ty.module ≠ imports.module) (hforeign' : ty'.module ≠ imports.module)
    (hentry : imports.get? ty.module = some entry)
    (hentry' : imports.get? ty'.module = some entry')
    (hsame : imports.qualify ty = imports.qualify ty') : ty = ty' := by
  have hhead := h.head?_foreign hforeign hentry
  rw [hsame, h.head?_foreign hforeign' hentry'] at hhead
  have hbinding : entry.binding = entry'.binding := (Option.some.inj hhead).symm
  have hmodule : ty.module = ty'.module := h.distinct _ _ _ _ hentry hentry' hbinding
  rw [qualify_foreign hforeign hentry, qualify_foreign hforeign' hentry', hbinding,
    String.append_right_inj] at hsame
  exact congrArg₂ TypeRef.mk hmodule hsame

/-- **Whether a type of the file's own hides a foreign one**: its bare name is how the foreign type is
written. -/
def Masks (imports : ImportSet) (own foreign : TypeRef) : Prop :=
  own.module = imports.module ∧ foreign.module ≠ imports.module ∧
    ∃ entry, imports.get? foreign.module = some entry ∧
      own.name = entry.binding ++ "::" ++ foreign.name

/-- A type hides a foreign one exactly if both are written alike. -/
theorem masks_iff {own foreign : TypeRef} (hown : own.module = imports.module)
    (hforeign : foreign.module ≠ imports.module)
    (hentry : imports.get? foreign.module = some entry) :
    imports.Masks own foreign ↔ imports.qualify own = imports.qualify foreign := by
  rw [qualify_own hown, qualify_foreign hforeign hentry]
  constructor
  · rintro ⟨-, -, entry', hentry', hname⟩
    rw [hentry] at hentry'
    rwa [Option.some.inj hentry']
  · intro hname
    exact ⟨hown, hforeign, entry, hentry, hname⟩

section Resolved

variable (h : (resolve file).value = .ok imports)

include h

/-- The imports know the file's own module. -/
theorem module_resolve : imports.module = file.module :=
  (gathers_resolve h).1.module

/-- A foreign type that a file refers to has an import. -/
theorem exists_entry (hty : file.Refers ty) (hforeign : ty.module ≠ file.module) :
    ∃ entry, imports.get? ty.module = some entry :=
  (get?_resolve h).mpr (Or.inr ⟨hforeign, ty, hty, rfl⟩)

/-- **Two types are written alike** if they are the same or one hides the other. -/
theorem qualify_eq_iff (hty : file.Refers ty) (hty' : file.Refers ty') :
    imports.qualify ty = imports.qualify ty' ↔
      ty = ty' ∨ imports.Masks ty ty' ∨ imports.Masks ty' ty := by
  obtain ⟨-, hsound⟩ := gathers_resolve h
  have hmodule := module_resolve h
  have hentry : ∀ t, file.Refers t → t.module ≠ imports.module →
      ∃ entry, imports.get? t.module = some entry := by
    intro t ht hforeign
    exact exists_entry h ht (hmodule ▸ hforeign)
  by_cases hown : ty.module = imports.module <;> by_cases hown' : ty'.module = imports.module
  · -- both are written by their bare names
    rw [qualify_own hown, qualify_own hown']
    constructor
    · intro hname
      exact Or.inl (congrArg₂ TypeRef.mk (hown.trans hown'.symm) hname)
    · rintro (rfl | ⟨-, hforeign, -⟩ | ⟨-, hforeign, -⟩)
      · rfl
      · exact absurd hown' hforeign
      · exact absurd hown hforeign
  · obtain ⟨entry, hentry⟩ := hentry ty' hty' hown'
    rw [← masks_iff hown hown' hentry]
    constructor
    · intro hmasks
      exact Or.inr (Or.inl hmasks)
    · rintro (rfl | hmasks | ⟨hother, -⟩)
      · exact absurd hown hown'
      · exact hmasks
      · exact absurd hother hown'
  · obtain ⟨entry, hentry⟩ := hentry ty hty hown
    rw [eq_comm, ← masks_iff hown' hown hentry]
    constructor
    · intro hmasks
      exact Or.inr (Or.inr hmasks)
    · rintro (rfl | ⟨hother, -⟩ | hmasks)
      · exact absurd hown' hown
      · exact absurd hother hown
      · exact hmasks
  · obtain ⟨entry, hget⟩ := hentry ty hty hown
    obtain ⟨entry', hget'⟩ := hentry ty' hty' hown'
    constructor
    · intro hsame
      exact Or.inl (hsound.eq_of_foreign hown hown' hget hget' hsame)
    · rintro (rfl | ⟨hother, -⟩ | ⟨hother, -⟩)
      · rfl
      · exact absurd hother hown
      · exact absurd hother hown'

/-- **The names that are bound**: those of the base imports, and what begins the path of a foreign
type. -/
theorem exists_binding_iff : (∃ entry ∈ imports.toList, entry.binding = b) ↔
    b ∈ baseImports.map ImportEntry.binding ∨ ∃ foreign, file.Refers foreign ∧
      foreign.module ≠ file.module ∧ (segments (imports.qualify foreign)).head? = some b := by
  obtain ⟨hgathers, hsound⟩ := gathers_resolve h
  have hmodule := module_resolve h
  constructor
  · rintro ⟨entry, hmem, rfl⟩
    have hget := hsound.get?_path hmem
    rcases (get?_resolve h).mp ⟨entry, hget⟩ with hbase | ⟨hne, foreign, hrefers, hpath⟩
    · left
      obtain ⟨base, hmem, hpath⟩ := List.mem_map.mp hbase
      have hkept := hgathers.kept _ _ ((get?_base file.module).mpr ⟨hmem, hpath⟩)
      rw [hget] at hkept
      rw [Option.some.inj hkept]
      exact List.mem_map_of_mem hmem
    · refine Or.inr ⟨foreign, hrefers, hpath ▸ hne, ?_⟩
      rw [← hpath] at hne hget
      exact hsound.head?_foreign (hmodule ▸ hne) hget
  · rintro (hbase | ⟨foreign, hrefers, hforeign, hhead⟩)
    · obtain ⟨base, hmem, rfl⟩ := List.mem_map.mp hbase
      have hget := hgathers.kept base.path base ((get?_base file.module).mpr ⟨hmem, rfl⟩)
      exact ⟨base, mem_toList.mpr ⟨_, hget⟩, rfl⟩
    · obtain ⟨entry, hentry⟩ := exists_entry h hrefers hforeign
      rw [hsound.head?_foreign (hmodule ▸ hforeign) hentry] at hhead
      exact ⟨entry, mem_toList.mpr ⟨_, hentry⟩, Option.some.inj hhead⟩

end Resolved

/-- **Where written paths lead.** The path of a foreign type begins with a name that one import has,
that of the type's module, and goes on with the type's name. The path of a type of the file's own is
its bare name; imports have the first segment of it exactly if it is the name of a base import or
begins the path of a foreign type that the file refers to. Different types are written alike exactly
if one is the file's own and hides the other. -/
theorem written_paths (h : (resolve file).value = .ok imports) :
    (∀ ty, file.Refers ty → ∃ b, (segments (imports.qualify ty)).head? = some b ∧
      (ty.module ≠ file.module → imports.qualify ty = b ++ "::" ++ ty.name ∧
        ∃ entry, (entry ∈ imports.toList ∧ entry.binding = b) ∧ entry.path = ty.module ∧
          ∀ other ∈ imports.toList, other.binding = b → other = entry) ∧
      (ty.module = file.module → imports.qualify ty = ty.name ∧
        ((∃ entry ∈ imports.toList, entry.binding = b) ↔
          b ∈ baseImports.map ImportEntry.binding ∨ ∃ foreign, file.Refers foreign ∧
            foreign.module ≠ file.module ∧
              (segments (imports.qualify foreign)).head? = some b))) ∧
    ∀ ty ty', file.Refers ty → file.Refers ty' →
      (imports.qualify ty = imports.qualify ty' ↔
        ty = ty' ∨ imports.Masks ty ty' ∨ imports.Masks ty' ty) := by
  obtain ⟨-, hsound⟩ := gathers_resolve h
  have hmodule := module_resolve h
  refine ⟨fun ty hty => ?_, fun ty ty' hty hty' => qualify_eq_iff h hty hty'⟩
  obtain ⟨b, hb⟩ := exists_head?_segments (imports.qualify ty)
  refine ⟨b, hb, fun hforeign => ?_, fun hown => ⟨qualify_own (hmodule ▸ hown), exists_binding_iff h⟩⟩
  obtain ⟨entry, hentry⟩ := exists_entry h hty hforeign
  have hforeign' : ty.module ≠ imports.module := hmodule ▸ hforeign
  rw [hsound.head?_foreign hforeign' hentry] at hb
  obtain rfl := Option.some.inj hb
  refine ⟨qualify_foreign hforeign' hentry, entry, ⟨mem_toList.mpr ⟨_, hentry⟩, rfl⟩,
    hsound.path _ _ hentry, fun other hother hsame => ?_⟩
  have hget := hsound.get?_path hother
  rw [hsound.distinct _ _ _ _ hget hentry hsame, hentry] at hget
  exact (Option.some.inj hget).symm

/-- The order's origin is written behind the name of its module, and the item of the shop's own by its
bare name. -/
theorem written_paths_shop : ∃ imports, (resolve shop).value = .ok imports ∧
    imports.qualify ⟨"crate::shop", "common::Item"⟩ = "common::Item" ∧
      ∃ b, imports.qualify ⟨"crate::common", "Item"⟩ = b ++ "::" ++ "Item" ∧
        ∃ entry ∈ imports.toList, entry.binding = b ∧ entry.path = "crate::common" := by
  obtain ⟨imports, h⟩ := exists_resolve_shop
  obtain ⟨hpaths, -⟩ := written_paths h
  obtain ⟨_, -, -, hown⟩ := hpaths _ (shop_refers.mpr (Or.inl rfl))
  obtain ⟨b, -, hforeign, -⟩ := hpaths _ (shop_refers.mpr (Or.inr rfl))
  obtain ⟨hwritten, entry, ⟨hmem, hbinding⟩, hpath, -⟩ := hforeign (by decide)
  exact ⟨imports, h, (hown rfl).1, b, hwritten, entry, hmem, hbinding, hpath⟩

/-- The shop has one import besides those of every file. -/
theorem eq_importing_of_shop (h : (resolve shop).value = .ok imports) :
    imports = (base "crate::shop").importing "crate::common" := by
  have habsent : (base "crate::shop").contains "crate::common" = false := by
    rw [contains_eq_false, Option.eq_none_iff_forall_not_mem]
    intro entry hget
    obtain ⟨hmem, hpath⟩ := (get?_base _).mp hget
    have hall : ∀ entry ∈ baseImports, entry.path ≠ "crate::common" := by decide
    exact hall entry hmem hpath
  have hinserted : ((base "crate::shop").insertTypes shop.typeRefs).value = .ok imports := h
  rw [shop_typeRefs] at hinserted
  obtain ⟨insertion, hown, hrest⟩ := insertTypes_cons_eq_ok hinserted
  have hsame : (base "crate::shop").after insertion = base "crate::shop" := by
    rw [(after_insertType hown).2]
    exact if_pos (Or.inl rfl)
  rw [hsame] at hrest
  obtain ⟨insertion, hforeign, hdone⟩ := insertTypes_cons_eq_ok hrest
  have hnew : (base "crate::shop").after insertion =
      (base "crate::shop").importing "crate::common" := by
    rw [(after_insertType hforeign).2]
    refine if_neg (not_or.mpr ⟨by decide, ?_⟩)
    rw [habsent]
    decide
  rw [hnew] at hdone
  cases hdone
  rfl

/-- The name `common` is free in the shop, so the other module has it. -/
theorem aliasFor_common :
    (⟨"crate::common", (base "crate::shop").aliasFor "crate::common"⟩ : ImportEntry).binding =
      "common" := by
  have hfree : "common" ∉ (base "crate::shop").bindings := by
    rw [bindings, List.mem_map]
    rintro ⟨entry, hmem, hbinding⟩
    obtain ⟨path, hget⟩ := mem_toList.mp hmem
    have hall : ∀ entry ∈ baseImports, entry.binding ≠ "common" := by decide
    exact hall entry ((get?_base _).mp hget).1 hbinding
  have hname : defaultAlias "crate::common" = "common" := by decide
  rw [binding_aliasFor, hname, freshAlias, if_neg hfree]

/-- **The shop's own item is taken over**: it is written like the item of the other module, and begins
with the name under which that module is imported. -/
theorem own_path_taken_over : ∃ imports, (resolve shop).value = .ok imports ∧
    shop.Refers ⟨"crate::shop", "common::Item"⟩ ∧ shop.Refers ⟨"crate::common", "Item"⟩ ∧
      imports.qualify ⟨"crate::shop", "common::Item"⟩ = "common::Item" ∧
      imports.qualify ⟨"crate::common", "Item"⟩ = "common::Item" ∧
      ∃ entry ∈ imports.toList, entry.path = "crate::common" ∧ entry.binding = "common" ∧
        (segments "common::Item").head? = some "common" := by
  obtain ⟨imports, h⟩ := exists_resolve_shop
  have hmodule : imports.module = "crate::shop" := module_resolve h
  have hentry := get?_importing (base "crate::shop") "crate::common" "crate::common"
  rw [if_pos rfl, ← eq_importing_of_shop h] at hentry
  refine ⟨imports, h, shop_refers.mpr (Or.inl rfl), shop_refers.mpr (Or.inr rfl),
    qualify_own hmodule.symm, ?_, _, mem_toList.mpr ⟨_, hentry⟩, rfl, aliasFor_common, by decide⟩
  have hother : (⟨"crate::common", "Item"⟩ : TypeRef).module ≠ imports.module := by
    rw [hmodule]
    decide
  rw [qualify_foreign hother hentry, aliasFor_common]
  decide

end ImportSet

end ServiceBus.Schema
