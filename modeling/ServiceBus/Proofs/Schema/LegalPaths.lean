import Mathlib.Data.List.Induction
import ServiceBus.Proofs.Adaptor.Functions
import ServiceBus.Proofs.Schema.Aliases

/-! # Legal paths

In the code that is generated a path is a sequence of words. Words that the language reserves may only
lead the way in: from the root, from the module itself, or outwards from it. All others have a raw form
except four. The check of module paths and types looks at the shape of segments only, so what it accepts
need not be a path of the language.

* `IsUsable`, `IsLegal`: the segments and the paths of the language, as a grammar.
* `KeepsWords`: reserved words stand only where they may.
* `checked_paths_legal_iff`: what is accepted is legal exactly if reserved words stand only where they
  may; nothing legal is refused, and a legal path stays one with a name of a schema behind it.
* `accepts_reserved_word`: paths that are accepted and not legal. -/

namespace ServiceBus.Schema

open Adaptor (reservedWords mem_of_mem_reservedWords)
open Name

variable {path s w : String} {lead rest parts : List String}

/-! ### The grammar of paths -/

/-- A segment that can stand anywhere in a path. -/
inductive IsUsable : String → Prop where
  /-- A word that is not reserved. -/
  | word {w : String} (shape : isPlainIdentifier w.toList = true) (free : w ∉ reservedWords) :
      IsUsable w
  /-- The raw form of a word that has one. -/
  | raw {w : String} (shape : isPlainIdentifier w.toList = true) (allowed : w ∉ pathKeywords) :
      IsUsable ("r#" ++ w)

/-- Whether the segments lead the way to what a path is about: from the root, from the module itself,
or outwards from it. -/
def isLead : List String → Bool
  | [] => true
  | first :: rest =>
    first == "crate" && rest.isEmpty || (first == "self" || first == "super") && rest.all (· == "super")

/-- **The paths of the language**, relative to the module that they are written in or absolute. -/
inductive IsLegal : String → Prop where
  | relative {lead rest : List String} (leads : isLead lead = true) (usable : ∀ s ∈ rest, IsUsable s)
      (nonempty : lead ++ rest ≠ []) : IsLegal ("::".intercalate (lead ++ rest))
  | absolute {parts : List String} (usable : ∀ s ∈ parts, IsUsable s) (nonempty : parts ≠ []) :
      IsLegal ("::" ++ "::".intercalate parts)

/-- **Reserved words stand only where they may**: bare ones where a relative path is led in, and none
of those without a raw form in a raw form. -/
structure KeepsWords (path : String) : Prop where
  bare : ∀ before s after, segments (relative path) = before ++ s :: after → s ∈ reservedWords →
    relative path = path ∧ isLead (before ++ [s]) = true
  raw : ∀ s ∈ segments (relative path), ∀ w ∈ pathKeywords, s ≠ "r#" ++ w

/-! ### Segments -/

/-- The characters of a raw form. -/
theorem toList_raw (w : String) : ("r#" ++ w).toList = 'r' :: '#' :: w.toList := by
  have hmark : "r#".toList = ['r', '#'] := rfl
  rw [String.toList_append, hmark]
  rfl

/-- **A segment is usable** exactly if it is an identifier, is not reserved and is not the raw form of a
word that has none. -/
theorem isUsable_iff : IsUsable s ↔
    isIdentifier s = true ∧ s ∉ reservedWords ∧ ∀ w ∈ pathKeywords, s ≠ "r#" ++ w := by
  constructor
  · rintro (⟨hshape, hfree⟩ | ⟨hshape, hallowed⟩)
    · have hinside := forall_inside hshape
      refine ⟨?_, hfree, ?_⟩
      · rwa [isIdentifier, rawBody_of_forall_inside hinside]
      · rintro w - rfl
        have hmark : '#' ∈ ("r#" ++ w).toList := by simp
        exact absurd (hinside '#' hmark) (by decide)
    · rename_i w
      refine ⟨?_, ?_, ?_⟩
      · rw [isIdentifier, toList_raw]
        exact hshape
      · intro hmem
        have hplain : ∀ word ∈ reservedWords, '#' ∉ word.toList := by decide
        exact hplain _ hmem (by simp)
      · intro word hword hsame
        rw [String.append_right_inj] at hsame
        exact hallowed (hsame ▸ hword)
  · rintro ⟨hid, hfree, hallowed⟩
    rw [isIdentifier] at hid
    rcases rawBody_cases s.toList with hs | hs
    · rw [hs] at hid
      exact .word hid hfree
    · have hraw : s = "r#" ++ String.ofList (rawBody s.toList) := by
        apply String.toList_inj.mp
        rw [toList_raw, String.toList_ofList]
        exact hs
      rw [hraw]
      refine .raw ?_ fun hmem => hallowed _ hmem hraw
      rw [String.toList_ofList]
      exact hid

/-- What leads a path is an identifier, and no raw form. -/
theorem isIdentifier_of_mem_lead (h : isLead lead = true) (hs : s ∈ lead) :
    isIdentifier s = true ∧ ∀ w ∈ pathKeywords, s ≠ "r#" ++ w := by
  have hwords : ∀ word ∈ ["crate", "self", "super"],
      isIdentifier word = true ∧ ∀ w ∈ pathKeywords, word ≠ "r#" ++ w := by decide
  refine hwords s ?_
  cases lead with
  | nil => exact absurd hs List.not_mem_nil
  | cons first rest =>
    rw [isLead, Bool.or_eq_true, Bool.and_eq_true, Bool.and_eq_true, Bool.or_eq_true, beq_iff_eq,
      beq_iff_eq, beq_iff_eq, List.isEmpty_iff, List.all_eq_true] at h
    rcases h with ⟨rfl, rfl⟩ | ⟨hfirst, hrest⟩
    · simp [List.mem_singleton.mp hs]
    · rcases List.mem_cons.mp hs with rfl | hs
      · rcases hfirst with rfl | rfl <;> simp
      · simp [beq_iff_eq.mp (hrest s hs)]

/-- What leads a path does so from its beginning. -/
theorem isLead_of_append {before after : List String} (h : isLead (before ++ after) = true) :
    isLead before = true := by
  cases before with
  | nil => rfl
  | cons first rest =>
    simp only [List.cons_append, isLead, Bool.or_eq_true, Bool.and_eq_true, List.isEmpty_iff,
      List.append_eq_nil_iff, List.all_append] at h ⊢
    rcases h with ⟨hfirst, hrest, -⟩ | ⟨hfirst, hrest, -⟩
    · exact Or.inl ⟨hfirst, hrest⟩
    · exact Or.inr ⟨hfirst, hrest⟩

/-- **Segments without misplaced words** are a lead and usable segments behind it. -/
theorem exists_lead (hparts : ∀ s ∈ parts, isIdentifier s = true)
    (hraw : ∀ s ∈ parts, ∀ w ∈ pathKeywords, s ≠ "r#" ++ w)
    (hbare : ∀ before s after, parts = before ++ s :: after → s ∈ reservedWords →
      isLead (before ++ [s]) = true) :
    ∃ lead rest, parts = lead ++ rest ∧ isLead lead = true ∧ ∀ s ∈ rest, IsUsable s := by
  -- From the end of the path, since whether a word may stand somewhere depends on what is before it.
  induction parts using List.reverseRecOn with
  | nil => exact ⟨[], [], rfl, rfl, fun s hs => absurd hs List.not_mem_nil⟩
  | append_singleton parts s ih =>
    rw [List.forall_mem_append, List.forall_mem_singleton] at hparts hraw
    obtain ⟨lead, rest, rfl, hlead, hrest⟩ := ih hparts.1 hraw.1 fun before s' after hsplit =>
      hbare before s' (after ++ [s]) (by simp [hsplit])
    by_cases hreserved : s ∈ reservedWords
    · -- A reserved word can only stand here if everything up to it leads the path.
      exact ⟨lead ++ rest ++ [s], [], (List.append_nil _).symm, hbare _ s [] rfl hreserved,
        fun s hs => absurd hs List.not_mem_nil⟩
    · refine ⟨lead, rest ++ [s], List.append_assoc _ _ _, hlead, ?_⟩
      rw [List.forall_mem_append, List.forall_mem_singleton]
      exact ⟨hrest, isUsable_iff.mpr ⟨hparts.2, hreserved, hraw.2⟩⟩

/-! ### Paths -/

/-- An absolute path is its mark and what comes behind it. -/
theorem eq_mark_append (h : relative path ≠ path) : path = "::" ++ relative path := by
  by_cases hmark : ∃ rest, path.toList = ':' :: ':' :: rest
  · obtain ⟨rest, hrest⟩ := hmark
    apply String.toList_inj.mp
    simp [relative_of_mark hrest, hrest]
  · rw [not_exists] at hmark
    exact absurd (relative_of_no_mark hmark) h

/-- What comes behind the mark of an absolute path. -/
theorem relative_mark_append (path : String) : relative ("::" ++ path) = path := by
  have hchars : ("::" ++ path).toList = ':' :: ':' :: path.toList := by
    have hcolons : "::".toList = [':', ':'] := rfl
    rw [String.toList_append, hcolons]
    rfl
  rw [relative_of_mark hchars, String.ofList_toList]

/-- Identifiers that are put together do not begin with a mark. -/
theorem relative_intercalate (hne : parts ≠ []) (h : ∀ s ∈ parts, isIdentifier s = true) :
    relative ("::".intercalate parts) = "::".intercalate parts := by
  by_contra habsolute
  -- With a mark in front, the first segment would be empty.
  have hsegments := segments_intercalate hne fun s hs => no_colon_of_isIdentifier (h s hs)
  rw [eq_mark_append habsolute, segments, String.toList_append] at hsegments
  have hfirst : "" ∈ parts := by
    rw [← hsegments]
    exact List.mem_cons_self
  exact absurd (h "" hfirst) (by decide)

/-- What identifiers that are put together make. -/
theorem checkModulePath_intercalate (hne : parts ≠ []) (h : ∀ s ∈ parts, isIdentifier s = true) :
    checkModulePath ("::".intercalate parts) = .ok () ∧
      checkModulePath ("::" ++ "::".intercalate parts) = .ok () := by
  have hpath := isPath_intercalate hne h
  have hempty : ("::".intercalate parts).isEmpty = false := by
    rw [String.isEmpty_eq_false_iff]
    intro hempty
    rw [hempty] at hpath
    exact absurd hpath (by decide)
  rw [checkModulePath_eq_ok, checkModulePath_eq_ok, relative_intercalate hne h, relative_mark_append]
  exact ⟨⟨hempty, hpath⟩, hempty, hpath⟩

/-- Reserved words of a legal path stand where they may. -/
theorem IsLegal.keepsWords (h : IsLegal path) : checkModulePath path = .ok () ∧ KeepsWords path := by
  cases h with
  | @relative lead rest hlead hrest hne =>
    have hids : ∀ s ∈ lead ++ rest, isIdentifier s = true := by
      rw [List.forall_mem_append]
      exact ⟨fun s hs => (isIdentifier_of_mem_lead hlead hs).1,
        fun s hs => (isUsable_iff.mp (hrest s hs)).1⟩
    have hrelative := relative_intercalate hne hids
    have hsegments := segments_intercalate hne fun s hs => no_colon_of_isIdentifier (hids s hs)
    refine ⟨(checkModulePath_intercalate hne hids).1, ?_, ?_⟩
    · intro before s after hsplit hreserved
      refine ⟨hrelative, ?_⟩
      rw [hrelative, hsegments, List.append_eq_append_iff] at hsplit
      -- The word is not among the usable segments, so the path is split inside its lead.
      have hfree : s ∉ rest := fun hs => (isUsable_iff.mp (hrest s hs)).2.1 hreserved
      rcases hsplit with ⟨front, rfl, hrest⟩ | ⟨front, rfl, hafter⟩
      · exact absurd (hrest ▸ List.mem_append_right front List.mem_cons_self) hfree
      · cases front with
        | nil =>
          rw [List.nil_append] at hafter
          exact absurd (hafter ▸ List.mem_cons_self) hfree
        | cons first front =>
          obtain ⟨rfl, -⟩ := List.cons.inj hafter
          rw [← List.singleton_append, ← List.append_assoc] at hlead
          exact isLead_of_append hlead
    · rw [hrelative, hsegments, List.forall_mem_append]
      exact ⟨fun s hs => (isIdentifier_of_mem_lead hlead hs).2,
        fun s hs => (isUsable_iff.mp (hrest s hs)).2.2⟩
  | @absolute parts hparts hne =>
    have hids : ∀ s ∈ parts, isIdentifier s = true := fun s hs => (isUsable_iff.mp (hparts s hs)).1
    have hsegments := segments_intercalate hne fun s hs => no_colon_of_isIdentifier (hids s hs)
    refine ⟨(checkModulePath_intercalate hne hids).2, ?_, ?_⟩
    · intro before s after hsplit hreserved
      rw [relative_mark_append, hsegments] at hsplit
      have hs : s ∈ parts := hsplit ▸ List.mem_append_right before List.mem_cons_self
      exact absurd hreserved (isUsable_iff.mp (hparts s hs)).2.1
    · rw [relative_mark_append, hsegments]
      exact fun s hs => (isUsable_iff.mp (hparts s hs)).2.2

/-- An accepted path is legal if its reserved words stand where they may. -/
theorem KeepsWords.isLegal (h : KeepsWords path) (hpath : checkModulePath path = .ok ()) :
    IsLegal path := by
  obtain ⟨-, hshape⟩ := checkModulePath_eq_ok.mp hpath
  have hids := isIdentifier_of_mem_segments hshape
  have hne : segments (relative path) ≠ [] := by
    rw [segments, Ne, List.map_eq_nil_iff]
    exact segmentChars_ne_nil _
  have hpath := intercalate_segments (relative path)
  by_cases hrelative : relative path = path
  · obtain ⟨lead, rest, hparts, hlead, hrest⟩ := exists_lead hids h.raw
      fun before s after hsplit hreserved => (h.bare before s after hsplit hreserved).2
    rw [hparts] at hne hpath
    rw [← hrelative, ← hpath]
    exact .relative hlead hrest hne
  · rw [eq_mark_append hrelative, ← hpath]
    refine .absolute (fun s hs => isUsable_iff.mpr ⟨hids s hs, fun hreserved => ?_, h.raw s hs⟩) hne
    obtain ⟨before, after, hsplit⟩ := List.append_of_mem hs
    exact hrelative (h.bare before s after hsplit hreserved).1

/-- **A path is legal** exactly if it is accepted and its reserved words stand where they may. -/
theorem isLegal_iff : IsLegal path ↔ checkModulePath path = .ok () ∧ KeepsWords path :=
  ⟨IsLegal.keepsWords, fun ⟨hpath, hwords⟩ => hwords.isLegal hpath⟩

/-! ### Names behind a path -/

/-- **A name of a schema that is made usable is a usable segment.** -/
theorem isUsable_escape (h : isSchemaName s.toList = true) : IsUsable (escape s) := by
  have hplain := isPlainIdentifier_of_isSchemaName h
  rw [escape]
  split
  · rename_i hpath
    rw [List.contains_iff_mem] at hpath
    have hmarked : ∀ word ∈ pathKeywords, word ++ "_" ∉ reservedWords := by decide
    exact .word (isPlainIdentifier_of_isSchemaName (isSchemaName_append_underscore h))
      (hmarked s hpath)
  · rename_i hpath
    rw [List.contains_iff_mem] at hpath
    split
    · exact .raw hplain hpath
    · rename_i hraw
      rw [List.contains_iff_mem] at hraw
      refine .word hplain fun hreserved => ?_
      exact (mem_of_mem_reservedWords hreserved).elim hraw hpath

/-- Segments with one more behind them. -/
theorem intercalate_concat (hne : parts ≠ []) (s : String) :
    "::".intercalate (parts ++ [s]) = "::".intercalate parts ++ "::" ++ s := by
  induction parts with
  | nil => exact absurd rfl hne
  | cons part parts ih =>
    cases parts with
    | nil => simp [String.intercalate_cons_cons]
    | cons next rest =>
      have hrest := ih (List.cons_ne_nil next rest)
      simp only [List.cons_append] at hrest ⊢
      rw [String.intercalate_cons_cons, hrest, String.intercalate_cons_cons]
      simp only [String.append_assoc]

/-- A legal path with a usable segment behind it. -/
theorem IsLegal.append (h : IsLegal path) (hs : IsUsable s) : IsLegal (path ++ "::" ++ s) := by
  cases h with
  | @relative lead rest hlead hrest hne =>
    have hlonger : ∀ part ∈ rest ++ [s], IsUsable part := by
      rw [List.forall_mem_append, List.forall_mem_singleton]
      exact ⟨hrest, hs⟩
    rw [← intercalate_concat hne, List.append_assoc]
    exact .relative hlead hlonger (by simp)
  | @absolute parts hparts hne =>
    have hlonger : ∀ part ∈ parts ++ [s], IsUsable part := by
      rw [List.forall_mem_append, List.forall_mem_singleton]
      exact ⟨hparts, hs⟩
    have hpath : "::" ++ "::".intercalate parts ++ "::" ++ s =
        "::" ++ "::".intercalate (parts ++ [s]) := by
      simp only [intercalate_concat hne, String.append_assoc]
    rw [hpath]
    exact .absolute hlonger (by simp)

/-- **When accepted paths are legal.** The full path of a type that is accepted is legal exactly if no
reserved word stands bare in it except where a relative path is led in, and none without a raw form
stands raw. Legal paths are the module paths that are accepted and keep to that. A legal path stays one
when a name of a schema, made usable, is put behind it. -/
theorem checked_paths_legal_iff (ty : TypeRef) (path : String) :
    (ty.check = .ok () → (IsLegal ty.fullPath ↔ KeepsWords ty.fullPath)) ∧
    (IsLegal path ↔ checkModulePath path = .ok () ∧ KeepsWords path) ∧
    ∀ name, IsLegal path → isSchemaName name.toList = true →
      IsLegal (path ++ "::" ++ escape name) := by
  refine ⟨fun hty => ?_, isLegal_iff, fun name hpath hname => ?_⟩
  · rw [isLegal_iff]
    exact and_iff_right (checkModulePath_fullPath hty)
  · exact hpath.append (isUsable_escape hname)

/-- A relative path that leads outwards to a raw module, where names that are words of the language
stand in their usable forms. -/
theorem checked_paths_legal_iff_outwards :
    (⟨"super::super::r#type", "outer::Inner"⟩ : TypeRef).check = .ok () ∧
      KeepsWords (⟨"super::super::r#type", "outer::Inner"⟩ : TypeRef).fullPath ∧
      IsLegal "crate" ∧ isSchemaName "Self".toList = true ∧ IsLegal "crate::Self_" := by
  obtain ⟨htype, -, hnames⟩ :=
    checked_paths_legal_iff ⟨"super::super::r#type", "outer::Inner"⟩ "crate"
  have hcheck : (⟨"super::super::r#type", "outer::Inner"⟩ : TypeRef).check = .ok () := by decide
  have husable : ∀ s ∈ ["r#type", "outer", "Inner"], IsUsable s := by
    simp only [List.forall_mem_cons, List.not_mem_nil, false_implies, implies_true, and_true]
    exact ⟨.raw (w := "type") (by decide) (by decide), .word (by decide) (by decide),
      .word (by decide) (by decide)⟩
  have hpath : IsLegal (⟨"super::super::r#type", "outer::Inner"⟩ : TypeRef).fullPath :=
    @IsLegal.relative ["super", "super"] _ (by decide) husable (by decide)
  have hroot : IsLegal "crate" := @IsLegal.relative ["crate"] [] (by decide) (by simp) (by decide)
  have hname : isSchemaName "Self".toList = true := by decide
  exact ⟨hcheck, (htype hcheck).mp hpath, hroot, hname, hnames "Self" hroot hname⟩

/-- **Reserved words are accepted anywhere**, bare or raw: a bare one behind the root, and a raw form of
a word that has none. -/
theorem accepts_reserved_word :
    (⟨"crate::fn", "X"⟩ : TypeRef).check = .ok () ∧
      ¬ IsLegal (⟨"crate::fn", "X"⟩ : TypeRef).fullPath ∧
    (⟨"crate", "r#self"⟩ : TypeRef).check = .ok () ∧
      ¬ IsLegal (⟨"crate", "r#self"⟩ : TypeRef).fullPath := by
  refine ⟨by decide, fun h => ?_, by decide, fun h => ?_⟩
  · have hbare := h.keepsWords.2.bare ["crate"] "fn" ["X"] (by decide) (by decide)
    exact absurd hbare.2 (by decide)
  · exact h.keepsWords.2.raw "r#self" (by decide) "self" (by decide) (by decide)

end ServiceBus.Schema
