import ServiceBus.Proofs.Name.Words
import ServiceBus.Schema.Basic
import ServiceBus.Settings.Modules

/-! # Paths of identifiers

A path is accepted if all of its segments are identifiers. What is put together from an accepted
module path and from identifiers is accepted again.

* `segments_intercalate`, `intercalate_segments`: a path and its segments.
* `isPath_intercalate`: segments put together.
* `checkModulePath_append`: a path behind a module path.
* `checkModulePath_extend`: the module for what is below a module. -/

namespace ServiceBus

namespace Name

variable {cs ds : List Char} {s : String}

/-! ### Segments -/

/-- There is always a segment. -/
theorem segmentChars_ne_nil (cs : List Char) : segmentChars cs ≠ [] := by
  fun_cases segmentChars cs with
  | case1 | case2 | case3 | case4 => simp

/-- Characters without a colon are one segment. -/
theorem segmentChars_of_no_colon (h : ':' ∉ cs) : segmentChars cs = [cs] := by
  induction cs with
  | nil => rfl
  | cons c cs ih =>
    rw [List.mem_cons, not_or] at h
    rw [segmentChars, ih h.2]
    rintro rest hc
    exact absurd hc.symm h.1

/-- **The segments on both sides of a mark**, if none of those in front of it holds a colon. -/
theorem segmentChars_append (h : ∀ part ∈ segmentChars cs, ':' ∉ part) :
    segmentChars (cs ++ ':' :: ':' :: ds) = segmentChars cs ++ segmentChars ds := by
  fun_induction segmentChars cs with
  | case1 => rfl
  | case2 rest ih =>
    rw [List.cons_append, List.cons_append, segmentChars,
      ih fun part hpart => h part (List.mem_cons_of_mem _ hpart), List.cons_append]
  | case3 c rest _ hnil => exact absurd hnil (segmentChars_ne_nil rest)
  | case4 c rest hpair part parts hparts ih =>
    have hc : c ≠ ':' := by
      rintro rfl
      exact h _ List.mem_cons_self List.mem_cons_self
    have hrest : ∀ p ∈ segmentChars rest, ':' ∉ p := by
      intro p hp
      rw [hparts] at hp
      rcases List.mem_cons.mp hp with rfl | hp
      · exact fun hmem => h _ List.mem_cons_self (List.mem_cons_of_mem c hmem)
      · exact h p (List.mem_cons_of_mem _ hp)
    rw [List.cons_append, segmentChars, ih hrest, hparts]
    · rfl
    · intro _ heq
      exact absurd heq hc

/-- **The segments of segments that were put together**, if none holds a colon. -/
theorem segments_intercalate {parts : List String} (hne : parts ≠ [])
    (h : ∀ part ∈ parts, ':' ∉ part.toList) : segments ("::".intercalate parts) = parts := by
  induction parts with
  | nil => exact absurd rfl hne
  | cons part parts ih =>
    obtain ⟨hpart, hparts⟩ := List.forall_mem_cons.mp h
    have hfirst := segmentChars_of_no_colon hpart
    cases parts with
    | nil =>
      have hlone : "::".intercalate [part] = part := by simp
      rw [hlone, segments, hfirst, List.map_singleton, String.ofList_toList]
    | cons next rest =>
      have hmark : "::".toList = [':', ':'] := rfl
      have hsplit : ("::".intercalate (part :: next :: rest)).toList =
          part.toList ++ ':' :: ':' :: ("::".intercalate (next :: rest)).toList := by
        rw [String.intercalate_cons_cons, String.toList_append, String.toList_append, hmark,
          List.append_assoc]
        rfl
      have hone : ∀ p ∈ segmentChars part.toList, ':' ∉ p := by
        rw [hfirst, List.forall_mem_singleton]
        exact hpart
      rw [segments, hsplit, segmentChars_append hone, hfirst, List.singleton_append, List.map_cons,
        String.ofList_toList]
      exact congrArg _ (ih (List.cons_ne_nil _ _) hparts)

/-- The characters of segments, put together. -/
theorem intercalate_segmentChars (cs : List Char) :
    [':', ':'].intercalate (segmentChars cs) = cs := by
  fun_induction segmentChars cs with
  | case1 => rfl
  | case2 rest ih =>
    obtain ⟨part, parts, hparts⟩ := List.exists_cons_of_ne_nil (segmentChars_ne_nil rest)
    rw [hparts] at ih ⊢
    rw [List.intercalate_cons_cons, ih]
    rfl
  | case3 c rest _ hnil => exact absurd hnil (segmentChars_ne_nil rest)
  | case4 c rest _ part parts hparts ih =>
    rw [hparts] at ih
    rw [← ih]
    cases parts with
    | nil => simp
    | cons next parts => simp [List.intercalate_cons_cons]

/-- **A path is its segments, put together.** -/
theorem intercalate_segments (path : String) : "::".intercalate (segments path) = path := by
  apply String.toList_inj.mp
  have hmark : "::".toList = [':', ':'] := rfl
  rw [String.toList_intercalate, segments, map_toList_ofList, hmark, intercalate_segmentChars]

/-! ### Identifiers have no colon -/

/-- The mark of a raw identifier is all that is taken off. -/
theorem rawBody_cases (cs : List Char) : rawBody cs = cs ∨ cs = 'r' :: '#' :: rawBody cs := by
  fun_cases rawBody cs with
  | case1 body => exact Or.inr rfl
  | case2 => exact Or.inl rfl

/-- An identifier without a raw mark holds no colon. -/
theorem no_colon_of_isPlainIdentifier (h : isPlainIdentifier cs = true) : ':' ∉ cs := by
  intro hmem
  cases cs with
  | nil => cases h
  | cons c rest =>
    rw [isPlainIdentifier, Bool.and_eq_true, Bool.and_eq_true, List.all_eq_true] at h
    rcases List.mem_cons.mp hmem with rfl | hmem
    · exact absurd h.1.1 (by decide)
    · exact absurd (h.1.2 _ hmem) (by decide)

/-- An identifier holds no colon. -/
theorem no_colon_of_isIdentifier (h : isIdentifier s = true) : ':' ∉ s.toList := by
  have hbody := no_colon_of_isPlainIdentifier h
  rcases rawBody_cases s.toList with hs | hs
  · rwa [hs] at hbody
  · rw [hs]
    simp [hbody]

end Name

namespace Schema

open Name

variable {path s : String}

/-! ### Paths -/

/-- A path is one if the segments of its characters are identifiers. -/
theorem isPath_iff : isPath path = true ↔
    ∀ part ∈ segmentChars path.toList, isIdentifier (String.ofList part) = true := by
  rw [isPath, segments, List.all_eq_true, List.forall_mem_map]

/-- The segments of a path are identifiers. -/
theorem isIdentifier_of_mem_segments (h : isPath path = true) :
    ∀ part ∈ segments path, isIdentifier part = true := by
  rwa [isPath, List.all_eq_true] at h

/-- The segments of a path hold no colon. -/
theorem no_colon_of_isPath (h : isPath path = true) :
    ∀ part ∈ segmentChars path.toList, ':' ∉ part := by
  intro part hpart
  have hid := no_colon_of_isIdentifier (isPath_iff.mp h part hpart)
  rwa [String.toList_ofList] at hid

/-- An identifier is a path. -/
theorem isPath_of_isIdentifier (h : isIdentifier s = true) : isPath s = true := by
  rw [isPath_iff, segmentChars_of_no_colon (no_colon_of_isIdentifier h)]
  intro part hpart
  rw [List.mem_singleton.mp hpart, String.ofList_toList]
  exact h

/-- The characters of a path with one more segment. -/
theorem toList_append_segment (path s : String) :
    (path ++ "::" ++ s).toList = path.toList ++ ':' :: ':' :: s.toList := by
  have hmark : "::".toList = [':', ':'] := rfl
  rw [String.toList_append, String.toList_append, hmark, List.append_assoc]
  rfl

/-- Two paths with a mark between them. -/
theorem isPath_append {p q : String} (hp : isPath p = true) (hq : isPath q = true) :
    isPath (p ++ "::" ++ q) = true := by
  rw [isPath_iff, toList_append_segment, segmentChars_append (no_colon_of_isPath hp)]
  intro part hpart
  rcases List.mem_append.mp hpart with hpart | hpart
  · exact isPath_iff.mp hp part hpart
  · exact isPath_iff.mp hq part hpart

/-- **Identifiers put together are a path.** -/
theorem isPath_intercalate {parts : List String} (hne : parts ≠ [])
    (h : ∀ part ∈ parts, isIdentifier part = true) : isPath ("::".intercalate parts) = true := by
  induction parts with
  | nil => exact absurd rfl hne
  | cons part parts ih =>
    have hpart := isPath_of_isIdentifier (h part List.mem_cons_self)
    cases parts with
    | nil => simpa using hpart
    | cons next rest =>
      have hrest := ih (List.cons_ne_nil _ _) fun p hp => h p (List.mem_cons_of_mem part hp)
      rw [String.intercalate_cons_cons]
      exact isPath_append hpart hrest

/-- What is accepted as a module path. -/
theorem checkModulePath_eq_ok : checkModulePath path = .ok () ↔
    (relative path).isEmpty = false ∧ isPath (relative path) = true := by
  rw [checkModulePath]
  split
  · rename_i h
    rw [Bool.or_eq_true, Bool.not_eq_true'] at h
    constructor
    · intro hok
      cases hok
    · rintro ⟨hempty, hpath⟩
      rw [hempty, hpath] at h
      simp at h
  · rename_i h
    rw [Bool.or_eq_true, Bool.not_eq_true', not_or, Bool.not_eq_true, Bool.not_eq_false] at h
    exact ⟨fun _ => h, fun _ => rfl⟩

/-- What is accepted as a reference to a type. -/
theorem TypeRef.check_eq_ok {ty : TypeRef} : ty.check = .ok () ↔
    checkModulePath ty.module = .ok () ∧ ty.name.isEmpty = false ∧ isPath ty.name = true := by
  rw [check]
  cases checkModulePath ty.module with
  | error fault =>
    constructor
    · intro h
      cases h
    · rintro ⟨h, -⟩
      cases h
  | ok _ =>
    cases hempty : ty.name.isEmpty <;> cases hname : isPath ty.name <;>
      simp [bind, Except.bind, pure, Except.pure, throw, throwThe, MonadExceptOf.throw]

/-- An absolute path without its mark. -/
theorem relative_of_mark {rest : List Char} (h : path.toList = ':' :: ':' :: rest) :
    relative path = String.ofList rest := by
  rw [relative, h]
  rfl

/-- Any other path stays as it is. -/
theorem relative_of_no_mark (h : ∀ rest, path.toList ≠ ':' :: ':' :: rest) :
    relative path = path := by
  rw [relative]
  split
  · rename_i rest hrest
    exact absurd hrest (h rest)
  · rfl

/-- What is put behind an accepted path does not become part of its beginning. -/
theorem relative_append (hne : (relative path).isEmpty = false)
    (hp : isPath (relative path) = true) :
    relative (path ++ "::" ++ s) = relative path ++ "::" ++ s := by
  by_cases hmark : ∃ rest, path.toList = ':' :: ':' :: rest
  · obtain ⟨rest, hrest⟩ := hmark
    rw [relative_of_mark hrest]
    have hlonger : (path ++ "::" ++ s).toList = ':' :: ':' :: (rest ++ ':' :: ':' :: s.toList) := by
      rw [toList_append_segment, hrest]
      rfl
    rw [relative_of_mark hlonger]
    apply String.toList_inj.mp
    rw [toList_append_segment, String.toList_ofList, String.toList_ofList]
  · rw [not_exists] at hmark
    rw [relative_of_no_mark hmark] at hne hp ⊢
    apply relative_of_no_mark
    intro rest hrest
    rw [toList_append_segment] at hrest
    -- Only a path that is empty or a single colon could make a mark with what comes behind it.
    match hpath : path.toList with
    | [] =>
      rw [String.toList_eq_nil_iff] at hpath
      exact absurd hpath (String.isEmpty_eq_false_iff.mp hne)
    | [c] =>
      rw [hpath] at hrest
      obtain ⟨rfl, -⟩ := List.cons.inj hrest
      have hcolon := no_colon_of_isPath hp
      rw [hpath] at hcolon
      exact hcolon [':'] (List.mem_singleton_self _) (List.mem_singleton_self _)
    | c :: d :: tail =>
      rw [hpath] at hrest
      obtain ⟨rfl, htail⟩ := List.cons.inj hrest
      obtain ⟨rfl, -⟩ := List.cons.inj htail
      exact hmark tail hpath

/-- **A path behind a module path** makes a module path of it. -/
theorem checkModulePath_append (h : checkModulePath path = .ok ()) (hs : isPath s = true) :
    checkModulePath (path ++ "::" ++ s) = .ok () := by
  obtain ⟨hne, hp⟩ := checkModulePath_eq_ok.mp h
  rw [checkModulePath_eq_ok, relative_append hne hp]
  refine ⟨?_, isPath_append hp hs⟩
  rw [String.isEmpty_eq_false_iff]
  intro hempty
  have hchars := congrArg String.toList hempty
  rw [toList_append_segment] at hchars
  exact absurd hchars (by simp)

/-- The full path of a type that is accepted. -/
theorem checkModulePath_fullPath {ty : TypeRef} (h : ty.check = .ok ()) :
    checkModulePath ty.fullPath = .ok () := by
  obtain ⟨hmodule, -, hname⟩ := TypeRef.check_eq_ok.mp h
  exact checkModulePath_append hmodule hname

end Schema

namespace ModuleMap

open Name Schema

/-- **The module for what is below a module** is a module path if the parts are names. -/
theorem checkModulePath_extend {module : String} {rest : List Char}
    (h : checkModulePath module = .ok ())
    (hrest : ∀ part ∈ Text.splitChars (· == '.') rest, part ≠ [] → isSchemaName part = true) :
    checkModulePath (extend module rest) = .ok () := by
  rw [extend]
  have hparts : ∀ part ∈ (Text.splitChars (· == '.') rest).filter (· != []),
      isSchemaName part = true := by
    intro part hpart
    rw [List.mem_filter, bne_iff_ne] at hpart
    exact hrest part hpart.1 hpart.2
  generalize (Text.splitChars (· == '.') rest).filter (· != []) = parts at hparts
  induction parts generalizing module with
  | nil => simpa using h
  | cons part parts ih =>
    have hname : isSchemaName (String.ofList part).toList = true := by
      rw [String.toList_ofList]
      exact hparts part List.mem_cons_self
    have hsegment : isIdentifier (moduleSegment (String.ofList part)) = true :=
      isIdentifier_escape (isSchemaName_snake hname)
    have hnext := ih (checkModulePath_append h (isPath_of_isIdentifier hsegment))
      fun p hp => hparts p (List.mem_cons_of_mem part hp)
    rw [List.map_cons, String.join_cons, ← String.append_assoc, ← String.append_assoc]
    exact hnext

end ModuleMap

end ServiceBus
