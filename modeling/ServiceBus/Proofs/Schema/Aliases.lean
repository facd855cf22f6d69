import ServiceBus.Proofs.Name.Paths
import ServiceBus.Schema.Imports

/-! # Aliases of imports

An import whose module asks for a name that is taken gets the first free name that suffixes lead to.

* `AliasSearch`: the rounds of the search for a free name; `aliasSearch_freshAlias` says that it comes
  to an end, whatever names are taken.
* `isIdentifier_defaultAlias`: what a module asks for is an identifier.
* `ImportSet.binding_aliasFor`: what an import is bound to is what the search finds. -/

namespace ServiceBus

namespace Name

variable {cs ds : List Char} {parts : List (List Char)} {s : String}

/-! ### Longer identifiers -/

/-- All characters of an identifier without a raw mark may stand inside one. -/
theorem forall_inside (h : isPlainIdentifier cs = true) : ∀ c ∈ cs, insideIdentifier c = true := by
  match cs with
  | [] => cases h
  | c :: rest =>
    rw [isPlainIdentifier, Bool.and_eq_true, Bool.and_eq_true, List.all_eq_true] at h
    obtain ⟨⟨hstart, hrest⟩, -⟩ := h
    have hc : insideIdentifier c = true := by
      rw [startsIdentifier, Bool.or_eq_true] at hstart
      rw [insideIdentifier, Bool.or_eq_true]
      exact hstart.imp_left isAlphanum_of_isAlpha
    exact List.forall_mem_cons.mpr ⟨hc, hrest⟩

/-- An identifier with further characters at its end. -/
theorem isPlainIdentifier_append (h : isPlainIdentifier cs = true)
    (hds : ∀ d ∈ ds, insideIdentifier d = true) : isPlainIdentifier (cs ++ ds) = true := by
  match cs with
  | [] => cases h
  | c :: rest =>
    rw [isPlainIdentifier, Bool.and_eq_true, Bool.and_eq_true] at h
    obtain ⟨⟨hstart, hrest⟩, hlone⟩ := h
    rw [List.cons_append, isPlainIdentifier, hstart, List.all_append, hrest,
      List.all_eq_true.mpr hds, Bool.and_self, Bool.true_and, Bool.true_and, Bool.not_eq_true',
      Bool.and_eq_false_iff]
    rw [Bool.not_eq_true', Bool.and_eq_false_iff] at hlone
    refine hlone.imp_right fun hrest => ?_
    rw [List.isEmpty_eq_false_iff] at hrest ⊢
    exact List.append_ne_nil_of_left_ne_nil hrest ds

/-- Identifiers with underscores between them are an identifier. -/
theorem isPlainIdentifier_intercalate (hne : parts ≠ [])
    (h : ∀ part ∈ parts, isPlainIdentifier part = true) :
    isPlainIdentifier (['_'].intercalate parts) = true := by
  induction parts with
  | nil => exact absurd rfl hne
  | cons part parts ih =>
    cases parts with
    | nil =>
      rw [List.intercalate_singleton]
      exact h part List.mem_cons_self
    | cons next rest =>
      have hrest := ih (List.cons_ne_nil _ _) fun p hp => h p (List.mem_cons_of_mem part hp)
      rw [List.intercalate_cons_cons, List.append_assoc]
      refine isPlainIdentifier_append (h part List.mem_cons_self) ?_
      exact List.forall_mem_cons.mpr ⟨rfl, forall_inside hrest⟩

/-- The mark of a raw identifier does not stand inside one. -/
theorem rawBody_of_forall_inside (h : ∀ c ∈ cs, insideIdentifier c = true) : rawBody cs = cs := by
  rw [rawBody]
  rintro body rfl
  exact absurd (h '#' (List.mem_cons_of_mem _ List.mem_cons_self)) (by decide)

/-- An identifier without a raw mark is an identifier. -/
theorem isIdentifier_ofList (h : isPlainIdentifier cs = true) :
    isIdentifier (String.ofList cs) = true := by
  rw [isIdentifier, String.toList_ofList, rawBody_of_forall_inside (forall_inside h)]
  exact h

/-- An identifier, raw or not, with further characters at its end. -/
theorem isIdentifier_append {t : String} (h : isIdentifier s = true)
    (ht : ∀ d ∈ t.toList, insideIdentifier d = true) : isIdentifier (s ++ t) = true := by
  rw [isIdentifier] at h ⊢
  rw [String.toList_append]
  rcases rawBody_cases s.toList with hs | hs
  · rw [hs] at h
    have hlonger := isPlainIdentifier_append h ht
    rw [rawBody_of_forall_inside (forall_inside hlonger)]
    exact hlonger
  · rw [hs]
    exact isPlainIdentifier_append h ht

end Name

namespace Schema

open Name

variable {taken : List String} {name found module s : String}

/-! ### The search for a free name -/

/-- The search for a free name that has come to `name`, with the name it ends with: a taken name is
made longer, a free one is what the search ends with. -/
inductive AliasSearch (taken : List String) : String → String → Prop where
  | free {name : String} (h : name ∉ taken) : AliasSearch taken name name
  | next {name found : String} (h : name ∈ taken)
      (rest : AliasSearch taken (name ++ aliasSuffix) found) : AliasSearch taken name found

namespace AliasSearch

/-- The search ends with a free name. -/
theorem not_mem (h : AliasSearch taken name found) : found ∉ taken := by
  induction h with
  | free h => exact h
  | next h rest ih => exact ih

/-- A search is not held up by a name that is shorter than all it comes to. -/
theorem of_erase (h : AliasSearch (taken.erase s) name found) (hlen : s.length < name.length) :
    AliasSearch taken name found := by
  induction h with
  | @free name h =>
    refine .free fun hmem => h ?_
    have hne : name ≠ s := by
      rintro rfl
      exact Nat.lt_irrefl _ hlen
    exact (List.mem_erase_of_ne hne).mpr hmem
  | next h rest ih =>
    refine .next (List.mem_of_mem_erase h) (ih ?_)
    rw [String.length_append]
    omega

/-- An identifier is made longer to an identifier. -/
theorem isIdentifier (h : AliasSearch taken name found) (hname : isIdentifier name = true) :
    isIdentifier found = true := by
  induction h with
  | free h => exact hname
  | next h rest ih =>
    have hsuffix : ∀ c ∈ aliasSuffix.toList, insideIdentifier c = true :=
      List.all_eq_true.mp (by decide)
    exact ih (isIdentifier_append hname hsuffix)

end AliasSearch

/-- **The search for a free name ends**, with the name that is chosen. -/
theorem aliasSearch_freshAlias (taken : List String) (name : String) :
    AliasSearch taken name (freshAlias taken name) := by
  fun_induction freshAlias taken name with
  | case1 taken name h ih =>
    refine .next h (ih.of_erase ?_)
    have hsuffix : aliasSuffix.length = 3 := rfl
    rw [String.length_append]
    omega
  | case2 taken name h => exact .free h

/-! ### What a module asks for -/

/-- **What a module asks for is an identifier.** -/
theorem isIdentifier_defaultAlias (h : checkModulePath module = .ok ()) :
    isIdentifier (defaultAlias module) = true := by
  obtain ⟨-, hpath⟩ := checkModulePath_eq_ok.mp h
  have hkept : ∀ part ∈ (segments (relative module)).dropWhile (fun segment =>
      segment == "crate" || segment == "super" || segment == "self"), isIdentifier part = true :=
    fun part hpart => isIdentifier_of_mem_segments hpath part ((List.dropWhile_sublist _).mem hpart)
  unfold defaultAlias
  dsimp only
  generalize (segments (relative module)).dropWhile (fun segment =>
    segment == "crate" || segment == "super" || segment == "self") = kept at hkept ⊢
  match kept, hkept with
  | [], _ => decide
  | [single], hkept => exact hkept single (List.mem_singleton_self single)
  | first :: second :: rest, hkept =>
    have hjoined : "_".intercalate ((first :: second :: rest).map fun part =>
        String.ofList (rawBody part.toList)) =
          String.ofList (['_'].intercalate ((first :: second :: rest).map fun part =>
            rawBody part.toList)) := by
      rw [← intercalate_ofList, List.map_map]
      rfl
    show isIdentifier ("_".intercalate _) = true
    rw [hjoined]
    refine isIdentifier_ofList (isPlainIdentifier_intercalate (List.cons_ne_nil _ _) ?_)
    intro body hbody
    obtain ⟨part, hpart, rfl⟩ := List.mem_map.mp hbody
    exact hkept part hpart

namespace ImportSet

/-- **What a module is bound to** is what the search for a free name finds. -/
theorem binding_aliasFor (set : ImportSet) (module : String) :
    (⟨module, set.aliasFor module⟩ : ImportEntry).binding =
      freshAlias set.bindings (defaultAlias module) := by
  rw [ImportEntry.binding, aliasFor]
  dsimp only
  split
  · rename_i h
    exact h.symm
  · rfl

end ImportSet

end Schema

end ServiceBus
