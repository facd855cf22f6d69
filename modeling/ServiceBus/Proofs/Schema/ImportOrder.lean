import Mathlib.Data.List.Induction
import ServiceBus.Proofs.Schema.UseBlock

/-! # Order of references

Modules are imported in the order of their paths, whatever the order in which types refer to them.
But the name of an import is searched for when its module is first mentioned, and what was mentioned
before is in the way.

* `suffixed`: the names that a search comes to, by its rounds.
* `Allots`: what names the foreign modules have, by the order in which they are mentioned.
* `ImportSet.Hinders`: a module whose name another one asked for in vain.
* `ImportSet.imports_of_order`: two orders lead to the same imports exactly if each module that is in
  the way of another one is mentioned before it in both; all orders do if and only if no two modules
  ask for one name.
* `ImportSet.order_changes_imports`: two types whose order decides on the names of their modules. -/

namespace ServiceBus.Schema

open Name

variable {taken : List String} {name found module p q b : String} {modules modules' : List String}

/-! ### Rounds of a search -/

/-- The name with the suffix put to its end a number of times. -/
def suffixed (name : String) : Nat → String
  | 0 => name
  | n + 1 => suffixed name n ++ aliasSuffix

/-- One suffix more, at the front or at the end. -/
theorem suffixed_append (name : String) (n : Nat) :
    suffixed (name ++ aliasSuffix) n = suffixed name (n + 1) := by
  induction n with
  | zero => rfl
  | succ n ih => rw [suffixed, ih, ← suffixed]

/-- Each suffix has three characters. -/
theorem length_suffixed (name : String) (n : Nat) :
    (suffixed name n).length = name.length + 3 * n := by
  induction n with
  | zero => rfl
  | succ n ih =>
    have hsuffix : aliasSuffix.length = 3 := rfl
    rw [suffixed, String.length_append, ih, hsuffix]
    omega

/-- The rounds of a search come to different names. -/
theorem suffixed_inj {i j : Nat} (h : suffixed name i = suffixed name j) : i = j := by
  have hlength := congrArg String.length h
  rw [length_suffixed, length_suffixed] at hlength
  omega

/-- **A search by its rounds**: it ends in the first one that comes to a free name. -/
theorem aliasSearch_iff : AliasSearch taken name found ↔
    ∃ n, found = suffixed name n ∧ found ∉ taken ∧ ∀ k < n, suffixed name k ∈ taken := by
  constructor
  · intro h
    induction h with
    | free h => exact ⟨0, rfl, h, fun k hk => absurd hk (Nat.not_lt_zero k)⟩
    | @next name found h _ ih =>
      obtain ⟨n, hfound, hfree, htried⟩ := ih
      refine ⟨n + 1, hfound.trans (suffixed_append name n), hfree, fun k hk => ?_⟩
      cases k with
      | zero => exact h
      | succ k =>
        rw [← suffixed_append]
        exact htried k (Nat.lt_of_succ_lt_succ hk)
  · rintro ⟨n, rfl, hfree, htried⟩
    induction n generalizing name with
    | zero => exact .free hfree
    | succ n ih =>
      rw [← suffixed_append] at hfree ⊢
      refine .next (htried 0 (Nat.succ_pos n)) (ih hfree fun k hk => ?_)
      rw [suffixed_append]
      exact htried (k + 1) (Nat.succ_lt_succ hk)

/-- A search ends with one name only. -/
theorem AliasSearch.eq_freshAlias (h : AliasSearch taken name found) :
    found = freshAlias taken name := by
  obtain ⟨n, rfl, hfree, htried⟩ := aliasSearch_iff.mp h
  obtain ⟨n', hname, hfree', htried'⟩ := aliasSearch_iff.mp (aliasSearch_freshAlias taken name)
  rw [hname] at hfree' ⊢
  rcases Nat.lt_trichotomy n n' with hlt | rfl | hlt
  · exact absurd (htried' n hlt) hfree
  · rfl
  · exact absurd (htried n' hlt) hfree'

/-! ### Names by the order of mention -/

/-- Whether a path is imported for the sake of types only: it is neither the file's own module nor one
of the base imports. -/
def IsForeign (module path : String) : Prop :=
  path ≠ module ∧ path ∉ baseImports.map ImportEntry.path

/-- The names that are taken when `p` is first mentioned: those of the base imports, and those of the
foreign modules that are mentioned before. -/
def TakenBefore (module : String) (modules : List String) (name : String → String)
    (p b : String) : Prop :=
  b ∈ baseImports.map ImportEntry.binding ∨
    ∃ q ∈ modules.takeWhile (· ≠ p), IsForeign module q ∧ name q = b

/-- **The names of the foreign modules**, where modules are mentioned in this order: each has the
first name in its search that is not taken when it is mentioned. -/
def Allots (module : String) (modules : List String) (name : String → String) : Prop :=
  ∀ p ∈ modules, IsForeign module p → ∃ n, name p = suffixed (defaultAlias p) n ∧
    ¬ TakenBefore module modules name p (name p) ∧
    ∀ k < n, TakenBefore module modules name p (suffixed (defaultAlias p) k)

/-- What is mentioned before a module is mentioned. -/
theorem mem_of_mem_takeWhile (h : q ∈ modules.takeWhile (· ≠ p)) : q ∈ modules :=
  (List.takeWhile_sublist _).mem h

/-- What is mentioned before a module is another one. -/
theorem ne_of_mem_takeWhile (h : q ∈ modules.takeWhile (· ≠ p)) : q ≠ p :=
  of_decide_eq_true (List.all_eq_true.mp List.all_takeWhile q h)

/-- What is mentioned before `q` is less than what is mentioned before anything that comes after it. -/
theorem length_takeWhile_lt (h : q ∈ modules.takeWhile (· ≠ p)) :
    (modules.takeWhile (· ≠ q)).length < (modules.takeWhile (· ≠ p)).length := by
  induction modules with
  | nil => exact absurd h List.not_mem_nil
  | cons head rest ih =>
    by_cases hp : head = p
    · simp [hp] at h
    · by_cases hq : head = q
      · subst hq
        simp [hp]
      · have hrest : q ∈ rest.takeWhile (· ≠ p) := by simpa [hp, Ne.symm hq] using h
        simpa [hp, hq] using ih hrest

/-- Later mentions do not change what is mentioned before a module. -/
theorem takeWhile_append_of_mem {rest : List String} (h : p ∈ modules) :
    (modules ++ rest).takeWhile (· ≠ p) = modules.takeWhile (· ≠ p) := by
  induction modules with
  | nil => exact absurd h List.not_mem_nil
  | cons head tail ih =>
    by_cases hp : head = p
    · simp [hp]
    · have htail := ih ((List.mem_cons.mp h).resolve_left (Ne.symm hp))
      rw [List.cons_append, List.takeWhile_cons_of_pos (by simpa using hp),
        List.takeWhile_cons_of_pos (by simpa using hp), htail]

/-- Everything is mentioned before a module that comes last. -/
theorem takeWhile_concat_self (h : p ∉ modules) : (modules ++ [p]).takeWhile (· ≠ p) = modules := by
  have hall : ∀ head ∈ modules, (decide (head ≠ p)) = true := by
    rintro head hmem
    rw [decide_eq_true_iff]
    rintro rfl
    exact h hmem
  rw [List.takeWhile_append_of_pos hall, List.takeWhile_cons_of_neg (by simp), List.append_nil]

/-- **The order of mention decides on the names.** -/
theorem Allots.unique {name name' : String → String} (h : Allots module modules name)
    (h' : Allots module modules name') (hp : p ∈ modules) (hforeign : IsForeign module p) :
    name p = name' p := by
  -- Induction on the number of mentions before `p`: both namings have the same names taken there.
  induction hlength : (modules.takeWhile (· ≠ p)).length using Nat.strong_induction_on
    generalizing p with
  | _ length ih =>
    subst hlength
    have htaken : ∀ b, TakenBefore module modules name p b ↔
        TakenBefore module modules name' p b := by
      intro b
      refine or_congr_right (exists_congr fun q => and_congr_right fun hq =>
        and_congr_right fun hforeign => ?_)
      rw [ih _ (length_takeWhile_lt hq) (mem_of_mem_takeWhile hq) hforeign rfl]
    obtain ⟨n, hname, hfree, htried⟩ := h p hp hforeign
    obtain ⟨n', hname', hfree', htried'⟩ := h' p hp hforeign
    rcases Nat.lt_trichotomy n n' with hlt | rfl | hlt
    · exact absurd ((htaken _).mpr (hname ▸ htried' n hlt)) hfree
    · rw [hname, hname']
    · exact absurd ((htaken _).mp (hname' ▸ htried n' hlt)) hfree'

/-- Names that are the same for all foreign modules are allotted in the same order. -/
theorem Allots.congr {name name' : String → String} (h : Allots module modules name)
    (hsame : ∀ p ∈ modules, IsForeign module p → name p = name' p) :
    Allots module modules name' := by
  intro p hp hforeign
  have htaken : ∀ b, TakenBefore module modules name p b ↔
      TakenBefore module modules name' p b := by
    intro b
    refine or_congr_right (exists_congr fun q => and_congr_right fun hq =>
      and_congr_right fun hforeign => ?_)
    rw [hsame q (mem_of_mem_takeWhile hq) hforeign]
  obtain ⟨n, hname, hfree, htried⟩ := h p hp hforeign
  rw [hsame p hp hforeign] at hname hfree
  exact ⟨n, hname, fun hmem => hfree ((htaken _).mpr hmem), fun k hk => (htaken _).mp (htried k hk)⟩

/-- The name that a module has if no other module was mentioned before it. -/
def loneName (path : String) : String :=
  freshAlias (baseImports.map ImportEntry.binding) (defaultAlias path)

/-- A module that is mentioned first has the name that it would have alone. -/
theorem Allots.first {name : String → String} (h : Allots module (p :: modules) name)
    (hforeign : IsForeign module p) : name p = loneName p := by
  have htaken : ∀ b, TakenBefore module (p :: modules) name p b ↔
      b ∈ baseImports.map ImportEntry.binding := by
    intro b
    rw [TakenBefore, List.takeWhile_cons_of_neg (by simp)]
    simp
  obtain ⟨n, hname, hfree, htried⟩ := h p List.mem_cons_self hforeign
  simp only [htaken] at hfree htried
  exact (aliasSearch_iff.mpr ⟨n, hname, hfree, htried⟩).eq_freshAlias

/-- If no two modules would have one name alone, all have that name in any order. -/
theorem allots_loneName
    (h : ∀ p ∈ modules, ∀ q ∈ modules, IsForeign module p → IsForeign module q →
      loneName p = loneName q → p = q) : Allots module modules loneName := by
  intro p hp hforeign
  obtain ⟨n, hname, hfree, htried⟩ := aliasSearch_iff.mp
    (aliasSearch_freshAlias (baseImports.map ImportEntry.binding) (defaultAlias p))
  refine ⟨n, hname, ?_, fun k hk => Or.inl (htried k hk)⟩
  rintro (hbase | ⟨q, hq, hforeign', hsame⟩)
  · exact hfree hbase
  · obtain rfl := h p hp q (mem_of_mem_takeWhile hq) hforeign hforeign' hsame.symm
    exact ne_of_mem_takeWhile hq rfl

namespace ImportSet

variable {imports imports' set set' : ImportSet} {refs refs' : List TypeRef} {ty : TypeRef}
  {entry : ImportEntry} {path : String}

/-! ### Names of imports -/

/-- The name that a path is bound to; it is empty if the path is not imported. -/
def nameOf (imports : ImportSet) (path : String) : String :=
  (imports.get? path).elim "" ImportEntry.binding

/-- The name of an entry that stands at a path. -/
theorem nameOf_eq (h : imports.get? path = some entry) : imports.nameOf path = entry.binding := by
  rw [nameOf, h]
  rfl

/-- A module that is imported for a type has the first free name. -/
theorem nameOf_after {insertion : Insertion} (h : set.insertType ty = .ok insertion)
    (hother : ty.module ≠ set.module) (hnew : set.get? ty.module = none) :
    (set.after insertion).nameOf ty.module = freshAlias set.bindings (defaultAlias ty.module) := by
  have hnone : ¬(ty.module = set.module ∨ set.contains ty.module = true) := by
    rw [not_or, Bool.not_eq_true, contains_eq_false]
    exact ⟨hother, hnew⟩
  rw [(after_insertType h).2, if_neg hnone, ← binding_aliasFor]
  refine nameOf_eq ?_
  rw [get?_importing, if_pos rfl]

/-- Types one after the other, and further ones. -/
theorem value_insertTypes_append (set : ImportSet) (refs refs' : List TypeRef) :
    (set.insertTypes (refs ++ refs')).value =
      (set.insertTypes refs).value.bind fun mid => (mid.insertTypes refs').value := by
  induction refs generalizing set with
  | nil => rfl
  | cons first refs ih =>
    rw [List.cons_append, value_insertTypes_cons, value_insertTypes_cons]
    cases set.insertType first with
    | error e => rfl
    | ok insertion => exact ih _

/-- Types one after the other, and one more. -/
theorem insertTypes_concat (h : (set.insertTypes (refs ++ [ty])).value = .ok set') :
    ∃ mid insertion, (set.insertTypes refs).value = .ok mid ∧ mid.insertType ty = .ok insertion ∧
      set' = mid.after insertion := by
  rw [value_insertTypes_append] at h
  cases hmid : (set.insertTypes refs).value with
  | error e =>
    rw [hmid] at h
    cases h
  | ok mid =>
    rw [hmid] at h
    obtain ⟨insertion, hinsertion, hdone⟩ := insertTypes_cons_eq_ok h
    cases hdone
    exact ⟨mid, insertion, rfl, hinsertion, rfl⟩

/-- Types whose paths can be written are all inserted. -/
theorem exists_insertTypes (set : ImportSet) (h : ∀ ty ∈ refs, ty.check = .ok ()) :
    ∃ imports, (set.insertTypes refs).value = .ok imports := by
  cases hresult : (set.insertTypes refs).value with
  | ok imports => exact ⟨imports, rfl⟩
  | error e =>
    obtain ⟨before, ty, after, rfl, -, hfault⟩ := insertTypes_eq_error.mp hresult
    rw [h ty (List.mem_append_right _ List.mem_cons_self)] at hfault
    cases hfault

section Inserted

variable (h : ((base module).insertTypes refs).value = .ok imports)

include h

/-- **What is imported**: the base imports and the foreign modules that are mentioned. -/
theorem isSome_get?_iff : (∃ entry, imports.get? path = some entry) ↔
    path ∈ baseImports.map ImportEntry.path ∨
      path ∈ refs.map TypeRef.module ∧ IsForeign module path := by
  obtain ⟨hgathers, -⟩ := gathers_insertTypes (sound_base module) h
  have hbase : (∃ entry, (base module).get? path = some entry) ↔
      path ∈ baseImports.map ImportEntry.path := by
    simp only [get?_base, List.mem_map]
  rw [hgathers.paths, hbase]
  constructor
  · rintro (hpath | ⟨hne, hmentioned⟩)
    · exact Or.inl hpath
    · by_cases hpath : path ∈ baseImports.map ImportEntry.path
      · exact Or.inl hpath
      · exact Or.inr ⟨List.mem_map.mpr hmentioned, hne, hpath⟩
  · rintro (hpath | ⟨hmentioned, hne, -⟩)
    · exact Or.inl hpath
    · exact Or.inr ⟨hne, List.mem_map.mp hmentioned⟩

/-- **The names that are bound** when some types were inserted. -/
theorem mem_bindings_iff : b ∈ imports.bindings ↔ b ∈ baseImports.map ImportEntry.binding ∨
    ∃ q ∈ refs.map TypeRef.module, IsForeign module q ∧ imports.nameOf q = b := by
  obtain ⟨hgathers, hsound⟩ := gathers_insertTypes (sound_base module) h
  rw [bindings, List.mem_map]
  constructor
  · rintro ⟨entry, hmem, rfl⟩
    obtain ⟨path, hget⟩ := mem_toList.mp hmem
    rcases (isSome_get?_iff h).mp ⟨entry, hget⟩ with hpath | ⟨hmentioned, hforeign⟩
    · obtain ⟨base, hbase, rfl⟩ := List.mem_map.mp hpath
      have hkept := hgathers.kept _ _ ((get?_base module).mpr ⟨hbase, rfl⟩)
      rw [hget] at hkept
      rw [Option.some.inj hkept]
      exact Or.inl (List.mem_map_of_mem hbase)
    · exact Or.inr ⟨path, hmentioned, hforeign, nameOf_eq hget⟩
  · rintro (hbound | ⟨q, hmentioned, hforeign, rfl⟩)
    · obtain ⟨base, hbase, rfl⟩ := List.mem_map.mp hbound
      have hkept := hgathers.kept _ _ ((get?_base module).mpr ⟨hbase, rfl⟩)
      exact ⟨base, mem_toList.mpr ⟨_, hkept⟩, rfl⟩
    · obtain ⟨entry, hget⟩ := (isSome_get?_iff h).mpr (Or.inr ⟨hmentioned, hforeign⟩)
      exact ⟨entry, mem_toList.mpr ⟨q, hget⟩, (nameOf_eq hget).symm⟩

end Inserted

/-- **An insertion names the modules in the order of mention.** -/
theorem allots_insertTypes (h : ((base module).insertTypes refs).value = .ok imports) :
    Allots module (refs.map TypeRef.module) imports.nameOf := by
  induction refs using List.reverseRecOn generalizing imports with
  | nil => exact fun p hp => absurd hp List.not_mem_nil
  | append_singleton refs ty ih =>
    obtain ⟨mid, insertion, hmid, hinsertion, rfl⟩ := insertTypes_concat h
    have hgathers := gathers_insertType hinsertion
    -- What was mentioned before keeps its name.
    have hkept : ∀ q ∈ refs.map TypeRef.module, IsForeign module q →
        (mid.after insertion).nameOf q = mid.nameOf q := by
      intro q hq hforeign
      obtain ⟨entry, hget⟩ := (isSome_get?_iff hmid).mpr (Or.inr ⟨hq, hforeign⟩)
      rw [nameOf_eq hget, nameOf_eq (hgathers.kept q entry hget)]
    rw [List.map_append, List.map_singleton]
    intro p hp hforeign
    by_cases hmentioned : p ∈ refs.map TypeRef.module
    · have htaken : ∀ b, TakenBefore module (refs.map TypeRef.module ++ [ty.module])
          (mid.after insertion).nameOf p b ↔
            TakenBefore module (refs.map TypeRef.module) mid.nameOf p b := by
        intro b
        rw [TakenBefore, takeWhile_append_of_mem hmentioned]
        refine or_congr_right (exists_congr fun q => and_congr_right fun hq =>
          and_congr_right fun hq' => ?_)
        rw [hkept q (mem_of_mem_takeWhile hq) hq']
      simp only [htaken, hkept p hmentioned hforeign]
      exact ih hmid p hmentioned hforeign
    · obtain rfl : p = ty.module := by
        rcases List.mem_append.mp hp with hp | hp
        · exact absurd hp hmentioned
        · exact List.mem_singleton.mp hp
      have htaken : ∀ b, TakenBefore module (refs.map TypeRef.module ++ [ty.module])
          (mid.after insertion).nameOf ty.module b ↔ b ∈ mid.bindings := by
        intro b
        rw [TakenBefore, takeWhile_concat_self hmentioned, mem_bindings_iff hmid]
        refine or_congr_right (exists_congr fun q => and_congr_right fun hq =>
          and_congr_right fun hq' => ?_)
        rw [hkept q hq hq']
      have hmodule : mid.module = module := (gathers_insertTypes (sound_base module) hmid).1.module
      have hnew : mid.get? ty.module = none := by
        rw [Option.eq_none_iff_forall_not_mem]
        intro entry hget
        rcases (isSome_get?_iff hmid).mp ⟨entry, hget⟩ with hbase | ⟨hmem, -⟩
        · exact hforeign.2 hbase
        · exact hmentioned hmem
      simp only [htaken]
      refine aliasSearch_iff.mp ?_
      rw [nameOf_after hinsertion (hmodule ▸ hforeign.1) hnew]
      exact aliasSearch_freshAlias _ _

/-! ### Entries by their names -/

/-- **An entry is known by its path and its name**: the name is written out unless it is the last
segment of the path. -/
theorem boundAs_eq (h : ((base module).insertTypes refs).value = .ok imports)
    (hget : imports.get? path = some entry) :
    entry.boundAs = if entry.binding = lastSegment path then none else some entry.binding := by
  induction refs using List.reverseRecOn generalizing imports entry with
  | nil =>
    cases h
    have hall : ∀ entry ∈ baseImports, entry.boundAs =
        if entry.binding = lastSegment entry.path then none else some entry.binding := by
      decide +kernel
    obtain ⟨hmem, rfl⟩ := (get?_base module).mp hget
    exact hall entry hmem
  | append_singleton refs ty ih =>
    obtain ⟨mid, insertion, hmid, hinsertion, rfl⟩ := insertTypes_concat h
    rw [(after_insertType hinsertion).2] at hget
    split at hget
    · exact ih hmid hget
    · rw [get?_importing] at hget
      split at hget
      · rename_i hpath
        obtain rfl := Option.some.inj hget
        rw [binding_aliasFor, ← hpath]
        rfl
      · exact ih hmid hget

/-- Imports with the same entries at all paths are written the same. -/
theorem toList_congr (h : ∀ path, imports.get? path = imports'.get? path) :
    imports.toList = imports'.toList :=
  (Std.TreeMap.Equiv.of_forall_constGet?_eq h).values_eq

/-- **Imports of the same modules are the same** exactly if the foreign modules have the same names. -/
theorem toList_eq_iff (h : ((base module).insertTypes refs).value = .ok imports)
    (h' : ((base module).insertTypes refs').value = .ok imports')
    (hsame : ∀ path, path ∈ refs'.map TypeRef.module ↔ path ∈ refs.map TypeRef.module) :
    imports'.toList = imports.toList ↔
      ∀ p ∈ refs.map TypeRef.module, IsForeign module p → imports'.nameOf p = imports.nameOf p := by
  obtain ⟨hgathers, hsound⟩ := gathers_insertTypes (sound_base module) h
  obtain ⟨hgathers', hsound'⟩ := gathers_insertTypes (sound_base module) h'
  constructor
  · intro heq p hp hforeign
    obtain ⟨entry, hget⟩ := (isSome_get?_iff h).mpr (Or.inr ⟨hp, hforeign⟩)
    have hget' := hsound'.get?_path (heq ▸ mem_toList.mpr ⟨p, hget⟩)
    rw [hsound.path p entry hget] at hget'
    rw [nameOf_eq hget, nameOf_eq hget']
  · intro hnames
    refine toList_congr fun path => ?_
    cases hget : imports.get? path with
    | none =>
      rw [Option.eq_none_iff_forall_not_mem]
      intro entry hget'
      have hsome := (isSome_get?_iff h').mp ⟨entry, hget'⟩
      rw [hsame] at hsome
      obtain ⟨entry', hentry'⟩ := (isSome_get?_iff h).mpr hsome
      rw [hget] at hentry'
      cases hentry'
    | some entry =>
      rcases (isSome_get?_iff h).mp ⟨entry, hget⟩ with hbase | ⟨hmentioned, hforeign⟩
      · obtain ⟨base, hmem, rfl⟩ := List.mem_map.mp hbase
        have hbase := (get?_base module).mpr ⟨hmem, rfl⟩
        rw [hgathers'.kept _ _ hbase, ← hget, hgathers.kept _ _ hbase]
      · obtain ⟨entry', hget'⟩ := (isSome_get?_iff h').mpr
          (Or.inr ⟨(hsame path).mpr hmentioned, hforeign⟩)
        have hname := hnames path hmentioned hforeign
        rw [nameOf_eq hget, nameOf_eq hget'] at hname
        have hbound := boundAs_eq h' hget'
        rw [hname, ← boundAs_eq h hget] at hbound
        have hpath := (hsound'.path _ _ hget').trans (hsound.path _ _ hget).symm
        rw [hget']
        exact congrArg some (congrArg₂ ImportEntry.mk hpath hbound)

/-- Two modules that are imported under one name are the same. -/
theorem Sound.nameOf_inj {entry entry' : ImportEntry} (h : imports.Sound)
    (hp : imports.get? p = some entry) (hq : imports.get? q = some entry')
    (hsame : imports.nameOf p = imports.nameOf q) : p = q := by
  rw [nameOf_eq hp, nameOf_eq hq] at hsame
  exact h.distinct _ _ _ _ hp hq hsame

/-! ### The order of mention -/

/-- **A module that is in the way of another one**: both are imported for types, and the search for
the name of `p` came to the name of `q` and went on. -/
structure Hinders (imports : ImportSet) (q p : String) : Prop where
  foreign : IsForeign imports.module q ∧ IsForeign imports.module p
  tried : ∃ k n entry entry', k < n ∧ imports.get? q = some entry ∧ imports.get? p = some entry' ∧
    entry.binding = suffixed (defaultAlias p) k ∧ entry'.binding = suffixed (defaultAlias p) n

section Orders

variable (h : ((base module).insertTypes refs).value = .ok imports)
  (hsame : ∀ path, path ∈ refs'.map TypeRef.module ↔ path ∈ refs.map TypeRef.module)

include h hsame

/-- The names of some imports are those of another order of mention exactly if whatever is in the way
of a module is mentioned before it there. -/
theorem allots_iff : Allots module (refs'.map TypeRef.module) imports.nameOf ↔
    ∀ p q, imports.Hinders q p → q ∈ (refs'.map TypeRef.module).takeWhile (· ≠ p) := by
  obtain ⟨hgathers, hsound⟩ := gathers_insertTypes (sound_base module) h
  have hmodule : imports.module = module := hgathers.module
  have himported : ∀ p ∈ refs.map TypeRef.module, IsForeign module p →
      ∃ entry, imports.get? p = some entry :=
    fun p hp hforeign => (isSome_get?_iff h).mpr (Or.inr ⟨hp, hforeign⟩)
  constructor
  · rintro hallots p q ⟨⟨hq, hp⟩, k, n, entry, entry', hlt, hgetq, hgetp, hnameq, hnamep⟩
    rw [hmodule] at hq hp
    have hmentioned : p ∈ refs.map TypeRef.module :=
      (((isSome_get?_iff h).mp ⟨entry', hgetp⟩).resolve_left hp.2).1
    obtain ⟨n', hname, -, htried⟩ := hallots p ((hsame p).mpr hmentioned) hp
    rw [nameOf_eq hgetp, hnamep] at hname
    obtain rfl := suffixed_inj hname
    rcases htried k hlt with hbase | ⟨q', hq', hforeign', hname'⟩
    · obtain ⟨base, hmem, hbase⟩ := List.mem_map.mp hbase
      have hkept := hgathers.kept _ _ ((get?_base module).mpr ⟨hmem, rfl⟩)
      obtain rfl := hsound.distinct _ _ _ _ hkept hgetq (hbase.trans hnameq.symm)
      exact absurd (List.mem_map_of_mem hmem) hq.2
    · obtain ⟨entry'', hget''⟩ :=
        himported q' ((hsame q').mp (mem_of_mem_takeWhile hq')) hforeign'
      rw [← hnameq, ← nameOf_eq hgetq] at hname'
      rwa [hsound.nameOf_inj hget'' hgetq hname'] at hq'
  · intro hbefore p hp hforeign
    obtain ⟨entry, hgetp⟩ := himported p ((hsame p).mp hp) hforeign
    obtain ⟨n, hname, hfree, htried⟩ := allots_insertTypes h p ((hsame p).mp hp) hforeign
    refine ⟨n, hname, ?_, fun k hk => ?_⟩
    · rintro (hbase | ⟨q, hq, hforeign', hname'⟩)
      · exact hfree (Or.inl hbase)
      · obtain ⟨entry', hgetq⟩ := himported q ((hsame q).mp (mem_of_mem_takeWhile hq)) hforeign'
        obtain rfl := hsound.nameOf_inj hgetq hgetp hname'
        exact ne_of_mem_takeWhile hq rfl
    · refine (htried k hk).imp_right ?_
      rintro ⟨q, hq, hforeign', hname'⟩
      obtain ⟨entry', hgetq⟩ := himported q (mem_of_mem_takeWhile hq) hforeign'
      refine ⟨q, hbefore p q ⟨⟨hmodule ▸ hforeign', hmodule ▸ hforeign⟩, k, n, entry', entry, hk,
        hgetq, hgetp, ?_, ?_⟩, hforeign', hname'⟩
      · rw [← nameOf_eq hgetq, hname']
      · rw [← nameOf_eq hgetp, hname]

variable (h' : ((base module).insertTypes refs').value = .ok imports')

include h'

/-- **Two orders of mention lead to the same imports** exactly if whatever is in the way of a module
in the one order is mentioned before it in the other. -/
theorem toList_eq_iff_hinders : imports'.toList = imports.toList ↔
    ∀ p q, imports.Hinders q p → q ∈ (refs'.map TypeRef.module).takeWhile (· ≠ p) := by
  have hallots := allots_insertTypes h'
  rw [toList_eq_iff h h' hsame, ← allots_iff h hsame]
  constructor
  · intro hnames
    exact hallots.congr fun p hp hforeign => hnames p ((hsame p).mp hp) hforeign
  · intro hother p hp hforeign
    exact hallots.unique hother ((hsame p).mpr hp) hforeign

/-- Two orders of mention lead to imports of the same paths. -/
theorem keys_eq_of_order : imports'.entries.keys = imports.entries.keys := by
  obtain ⟨-, hsound⟩ := gathers_insertTypes (sound_base module) h
  obtain ⟨-, hsound'⟩ := gathers_insertTypes (sound_base module) h'
  have hmem : ∀ path, path ∈ imports'.entries.keys ↔ path ∈ imports.entries.keys := by
    intro path
    rw [Std.TreeMap.mem_keys, Std.TreeMap.mem_keys, Std.TreeMap.mem_iff_isSome_getElem?,
      Std.TreeMap.mem_iff_isSome_getElem?, Option.isSome_iff_exists, Option.isSome_iff_exists]
    exact (isSome_get?_iff h').trans ((or_congr_right (and_congr_left' (hsame path))).trans
      (isSome_get?_iff h).symm)
  have hnodup := hsound.pairwise_path
  have hnodup' := hsound'.pairwise_path
  rw [← Sound.keys_eq ‹_›] at hnodup hnodup'
  have hperm := (List.perm_ext_iff_of_nodup (hnodup'.imp ne_of_lt) (hnodup.imp ne_of_lt)).mpr hmem
  exact hperm.eq_of_pairwise (fun _ _ _ _ hlt hgt => absurd hgt (lt_asymm hlt)) hnodup' hnodup

end Orders

/-- **A module that was mentioned is not inserted again.** -/
theorem insertTypes_again {before after : List TypeRef}
    (h : ((base module).insertTypes (before ++ after)).value = .ok imports)
    (hcheck : ty.check = .ok ()) (hmem : ty.module ∈ before.map TypeRef.module) :
    ((base module).insertTypes (before ++ ty :: after)).value = .ok imports := by
  rw [value_insertTypes_append] at h ⊢
  cases hmid : ((base module).insertTypes before).value with
  | error e =>
    rw [hmid] at h
    cases h
  | ok mid =>
    rw [hmid] at h
    have hold : ty.module = mid.module ∨ mid.contains ty.module = true := by
      by_cases hown : ty.module = module
      · exact Or.inl (hown.trans (gathers_insertTypes (sound_base module) hmid).1.module.symm)
      · refine Or.inr ?_
        by_contra hnew
        rw [Bool.not_eq_true, contains_eq_false] at hnew
        by_cases hbase : ty.module ∈ baseImports.map ImportEntry.path
        · obtain ⟨entry, hget⟩ := (isSome_get?_iff hmid).mpr (Or.inl hbase)
          rw [hnew] at hget
          cases hget
        · obtain ⟨entry, hget⟩ := (isSome_get?_iff hmid).mpr (Or.inr ⟨hmem, hown, hbase⟩)
          rw [hnew] at hget
          cases hget
    show ((mid.insertTypes (ty :: after)).value) = _
    rw [value_insertTypes_cons]
    cases hinsertion : mid.insertType ty with
    | error e =>
      rw [insertType_eq_error, hcheck] at hinsertion
      cases hinsertion
    | ok insertion =>
      dsimp only
      rw [(after_insertType hinsertion).2, if_pos hold]
      exact h

/-- **All orders of mention lead to the same imports** if and only if no two foreign modules would
have one name alone. -/
theorem order_free_iff (hrefs : ∀ ty ∈ refs, ty.check = .ok ())
    (h : ((base module).insertTypes refs).value = .ok imports) :
    (∀ refs', (∀ ty ∈ refs', ty.check = .ok ()) →
      (∀ path, path ∈ refs'.map TypeRef.module ↔ path ∈ refs.map TypeRef.module) →
      ∃ imports', ((base module).insertTypes refs').value = .ok imports' ∧
        imports'.toList = imports.toList) ↔
    ∀ p ∈ refs.map TypeRef.module, ∀ q ∈ refs.map TypeRef.module, IsForeign module p →
      IsForeign module q → loneName p = loneName q → p = q := by
  obtain ⟨-, hsound⟩ := gathers_insertTypes (sound_base module) h
  constructor
  · intro hall p hp q hq hforeign hforeign' hlone
    -- Whichever of the two is mentioned first has the name that both ask for.
    have hfirst : ∀ path ∈ refs.map TypeRef.module, IsForeign module path →
        imports.nameOf path = loneName path := by
      intro path hpath hforeign
      obtain ⟨ty, hty, rfl⟩ := List.mem_map.mp hpath
      have hsame : ∀ path, path ∈ (ty :: refs).map TypeRef.module ↔
          path ∈ refs.map TypeRef.module := by
        intro path
        rw [List.map_cons, List.mem_cons]
        exact or_iff_right_of_imp fun heq => heq ▸ hpath
      obtain ⟨imports', h', hlist⟩ :=
        hall (ty :: refs) (List.forall_mem_cons.mpr ⟨hrefs ty hty, hrefs⟩) hsame
      rw [← (toList_eq_iff h h' hsame).mp hlist ty.module hpath hforeign]
      exact (allots_insertTypes h').first hforeign
    obtain ⟨entry, hget⟩ := (isSome_get?_iff h).mpr (Or.inr ⟨hp, hforeign⟩)
    obtain ⟨entry', hget'⟩ := (isSome_get?_iff h).mpr (Or.inr ⟨hq, hforeign'⟩)
    refine hsound.nameOf_inj hget hget' ?_
    rw [hfirst p hp hforeign, hfirst q hq hforeign', hlone]
  · intro hdistinct refs' hrefs' hsame
    obtain ⟨imports', h'⟩ := exists_insertTypes (base module) hrefs'
    refine ⟨imports', h', (toList_eq_iff h h' hsame).mpr fun p hp hforeign => ?_⟩
    have hlone' : Allots module (refs'.map TypeRef.module) loneName := by
      refine allots_loneName fun p hp q hq => ?_
      exact hdistinct p ((hsame p).mp hp) q ((hsame q).mp hq)
    rw [(allots_insertTypes h).unique (allots_loneName hdistinct) hp hforeign,
      (allots_insertTypes h').unique hlone' ((hsame p).mpr hp) hforeign]

/-- **What the order of references decides.** Types whose paths can be written are all inserted. Types
of the same modules in another order, and any number of times, lead to imports of the same paths in
the same order; they lead to the same names, and so to the same text, exactly if every module that is
in the way of another one is mentioned before it in the other order too. A module that was mentioned
may be mentioned again anywhere. No order matters if and only if no two foreign modules would have one
name if each was the only one. -/
theorem imports_of_order (module : String) (refs : List TypeRef)
    (hrefs : ∀ ty ∈ refs, ty.check = .ok ()) :
    ∃ imports, ((base module).insertTypes refs).value = .ok imports ∧
      (∀ refs', (∀ ty ∈ refs', ty.check = .ok ()) →
        (∀ path, path ∈ refs'.map TypeRef.module ↔ path ∈ refs.map TypeRef.module) →
        ∃ imports', ((base module).insertTypes refs').value = .ok imports' ∧
          imports'.toList.map ImportEntry.path = imports.toList.map ImportEntry.path ∧
          (imports'.toList = imports.toList ↔
            ∀ p q, imports.Hinders q p → q ∈ (refs'.map TypeRef.module).takeWhile (· ≠ p)) ∧
          (imports'.render = imports.render ↔ imports'.toList = imports.toList)) ∧
      (∀ before after ty, refs = before ++ after → ty.check = .ok () →
        ty.module ∈ before.map TypeRef.module →
          ((base module).insertTypes (before ++ ty :: after)).value = .ok imports) ∧
      ((∀ refs', (∀ ty ∈ refs', ty.check = .ok ()) →
        (∀ path, path ∈ refs'.map TypeRef.module ↔ path ∈ refs.map TypeRef.module) →
        ∃ imports', ((base module).insertTypes refs').value = .ok imports' ∧
          imports'.toList = imports.toList) ↔
        ∀ p ∈ refs.map TypeRef.module, ∀ q ∈ refs.map TypeRef.module, IsForeign module p →
          IsForeign module q → loneName p = loneName q → p = q) := by
  obtain ⟨imports, h⟩ := exists_insertTypes (base module) hrefs
  obtain ⟨-, hsound⟩ := gathers_insertTypes (sound_base module) h
  refine ⟨imports, h, fun refs' hrefs' hsame => ?_, fun before after ty hsplit hcheck hmem => ?_,
    order_free_iff hrefs h⟩
  · obtain ⟨imports', h'⟩ := exists_insertTypes (base module) hrefs'
    obtain ⟨-, hsound'⟩ := gathers_insertTypes (sound_base module) h'
    have hkeys := keys_eq_of_order h hsame h'
    refine ⟨imports', h', ?_, toList_eq_iff_hinders h hsame h', render_eq_iff hsound hsound' hkeys⟩
    rw [← hsound.keys_eq, ← hsound'.keys_eq, hkeys]
  · rw [hsplit] at h
    exact insertTypes_again h hcheck hmem

end ImportSet

/-- Two types of other modules, one of which asks for a name that a base import has. -/
def freely : List TypeRef := [⟨"crate::status", "Code"⟩, ⟨"crate::a::b", "T"⟩]

/-- All orders of these two types lead to the same imports. -/
theorem ImportSet.imports_of_order_freely : (∀ ty ∈ freely, ty.check = .ok ()) ∧
    ∃ imports, ((ImportSet.base "crate::example").insertTypes freely).value = .ok imports ∧
      ∀ refs', (∀ ty ∈ refs', ty.check = .ok ()) →
        (∀ path, path ∈ refs'.map TypeRef.module ↔ path ∈ freely.map TypeRef.module) →
        ∃ imports', ((ImportSet.base "crate::example").insertTypes refs').value = .ok imports' ∧
          imports'.toList = imports.toList ∧ imports'.render = imports.render := by
  have hfine : ∀ ty ∈ freely, ty.check = .ok () := by decide
  have hdistinct : ∀ p ∈ freely.map TypeRef.module, ∀ q ∈ freely.map TypeRef.module,
      loneName p = loneName q → p = q := by decide +kernel
  obtain ⟨imports, h, horders, -, hfree⟩ := imports_of_order "crate::example" freely hfine
  refine ⟨hfine, imports, h, fun refs' hrefs' hsame => ?_⟩
  obtain ⟨imports', h', hlist⟩ :=
    hfree.mpr (fun p hp q hq _ _ => hdistinct p hp q hq) refs' hrefs' hsame
  obtain ⟨imports'', h'', -, -, hrender⟩ := horders refs' hrefs' hsame
  rw [h'] at h''
  cases h''
  exact ⟨imports', h', hlist, hrender.mpr hlist⟩

/-- Types of two modules that ask for one name. -/
def rivals : List TypeRef := [⟨"crate::a::b_c", "T"⟩, ⟨"crate::a_b::c", "T"⟩]

/-- **The order of two types decides on the names of their modules**, and so on the text of the
imports. -/
theorem ImportSet.order_changes_imports :
    (∀ ty ∈ rivals, ty.check = .ok ()) ∧
    (∀ ty ∈ rivals.reverse, ty.check = .ok ()) ∧
    (∀ path, path ∈ rivals.reverse.map TypeRef.module ↔ path ∈ rivals.map TypeRef.module) ∧
    ∃ imports imports',
      ((ImportSet.base "crate::example").insertTypes rivals).value = .ok imports ∧
      ((ImportSet.base "crate::example").insertTypes rivals.reverse).value = .ok imports' ∧
      imports.get? "crate::a::b_c" = some ⟨"crate::a::b_c", some "a_b_c"⟩ ∧
      imports'.get? "crate::a::b_c" = some ⟨"crate::a::b_c", some "a_b_c_pb"⟩ ∧
      imports'.toList ≠ imports.toList ∧ imports'.render ≠ imports.render := by
  have hfine : ∀ ty ∈ rivals, ty.check = .ok () := by decide
  have hfine' : ∀ ty ∈ rivals.reverse, ty.check = .ok () := by decide
  have hsame : ∀ path, path ∈ rivals.reverse.map TypeRef.module ↔
      path ∈ rivals.map TypeRef.module := by
    intro path
    rw [List.map_reverse, List.mem_reverse]
  obtain ⟨imports, h⟩ := exists_insertTypes (base "crate::example") hfine
  obtain ⟨imports', h'⟩ := exists_insertTypes (base "crate::example") hfine'
  have hname : ((base "crate::example").insertTypes rivals).value.toOption.bind
      (·.get? "crate::a::b_c") = some ⟨"crate::a::b_c", some "a_b_c"⟩ := by decide +kernel
  have hname' : ((base "crate::example").insertTypes rivals.reverse).value.toOption.bind
      (·.get? "crate::a::b_c") = some ⟨"crate::a::b_c", some "a_b_c_pb"⟩ := by decide +kernel
  rw [h] at hname
  rw [h'] at hname'
  obtain ⟨-, hsound⟩ := gathers_insertTypes (sound_base _) h
  obtain ⟨-, hsound'⟩ := gathers_insertTypes (sound_base _) h'
  have hlist : imports'.toList ≠ imports.toList := by
    intro heq
    have hkept := hsound'.get?_path (heq ▸ mem_toList.mpr ⟨_, hname⟩)
    rw [show imports'.get? "crate::a::b_c" = _ from hname'] at hkept
    exact absurd hkept (by decide)
  refine ⟨hfine, hfine', hsame, imports, imports', h, h', hname, hname', hlist, fun heq => hlist ?_⟩
  exact (render_eq_iff hsound hsound' (keys_eq_of_order h hsame h')).mp heq

end ServiceBus.Schema
