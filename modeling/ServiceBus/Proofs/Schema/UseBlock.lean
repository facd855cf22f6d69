import ServiceBus.Proofs.Schema.Imports

/-! # The text of imports

Imports are written line by line. Every line has the path first, and then the name if it is not the
last segment of the path; neither holds the mark that ends a line.

* `useBlock`: the text of some imports.
* `ImportSet.render_eq_iff`: imports of the same paths are the same if they are written the same. -/

namespace ServiceBus.Schema

open Name

/-- A character that identifiers have not. -/
theorem not_mem_of_isIdentifier {c : Char} {s : String} (hc : insideIdentifier c = false)
    (hmark : c ≠ '#') (h : isIdentifier s = true) : c ∉ s.toList := by
  have hbody : c ∉ rawBody s.toList := by
    intro hmem
    rw [forall_inside h c hmem] at hc
    cases hc
  rcases rawBody_cases s.toList with hs | hs
  · rwa [← hs]
  · rw [hs, List.mem_cons, List.mem_cons, not_or, not_or]
    refine ⟨?_, hmark, hbody⟩
    rintro rfl
    exact absurd hc (by decide)

/-- Two lists are told apart at the first mark. -/
theorem eq_of_append_cons_eq {α : Type} [DecidableEq α] {mark : α} {front front' back back' : List α}
    (h : mark ∉ front) (h' : mark ∉ front') (heq : front ++ mark :: back = front' ++ mark :: back') :
    front = front' ∧ back = back' := by
  have htake : ∀ {l rest : List α}, mark ∉ l → (l ++ mark :: rest).takeWhile (· ≠ mark) = l := by
    intro l rest hl
    rw [List.takeWhile_append_of_pos, List.takeWhile_cons_of_neg (by simp), List.append_nil]
    rintro a ha
    rw [decide_eq_true_iff]
    rintro rfl
    exact hl ha
  have hfront : front = front' := by rw [← htake h, heq, htake h']
  subst hfront
  exact ⟨rfl, (List.cons.inj (List.append_cancel_left heq)).2⟩

/-- What an import has behind its path: the name, if it is written out. -/
def ImportEntry.clause (entry : ImportEntry) : String :=
  (entry.boundAs.map (" as " ++ ·)).getD ""

/-- An import as a line of code, by its parts. -/
theorem ImportEntry.render_eq (entry : ImportEntry) :
    entry.render = "use " ++ entry.path ++ entry.clause ++ ";" := by
  rw [render, clause]
  cases entry.boundAs with
  | none => rw [Option.map_none, Option.getD_none, String.append_empty]
  | some name => simp only [Option.map_some, Option.getD_some, String.append_assoc]

/-- What stands behind the path tells how the import is bound. -/
theorem ImportEntry.boundAs_of_clause {entry entry' : ImportEntry}
    (h : entry.clause = entry'.clause) : entry.boundAs = entry'.boundAs := by
  have hne : ∀ name : String, " as " ++ name ≠ "" := by
    intro name heq
    have hlength := congrArg String.length heq
    rw [String.length_append] at hlength
    exact absurd hlength (by simp)
  rw [clause, clause] at h
  cases hbound : entry.boundAs with
  | none =>
    cases hbound' : entry'.boundAs with
    | none => rfl
    | some name' =>
      rw [hbound, hbound'] at h
      exact absurd h.symm (hne name')
  | some name =>
    cases hbound' : entry'.boundAs with
    | none =>
      rw [hbound, hbound'] at h
      exact absurd h (hne name)
    | some name' =>
      rw [hbound, hbound'] at h
      exact congrArg some ((String.append_right_inj " as ").mp h)

/-- The text of some imports. -/
def useBlock (entries : List ImportEntry) : String :=
  String.join (entries.map fun entry => "#[allow(unused_imports)]\n" ++ entry.render ++ "\n")

/-- The characters of some imports, with the first mark behind a path set apart. -/
theorem toList_useBlock_cons (entry : ImportEntry) (rest : List ImportEntry) :
    (useBlock (entry :: rest)).toList = ("#[allow(unused_imports)]\nuse " ++ entry.path).toList ++
      (entry.clause.toList ++ ';' :: '\n' :: (useBlock rest).toList) := by
  have hend : ";".toList = [';'] := rfl
  have hline : "\n".toList = ['\n'] := rfl
  have huse : "#[allow(unused_imports)]\nuse " = "#[allow(unused_imports)]\n" ++ "use " := rfl
  rw [useBlock, List.map_cons, String.join_cons, ImportEntry.render_eq, huse]
  simp only [String.toList_append, hend, hline, List.append_assoc, List.cons_append, List.nil_append]
  rfl

/-- **The text of imports tells what is imported**, if the paths are known. -/
theorem eq_of_useBlock_eq {entries entries' : List ImportEntry}
    (hpaths : entries.map ImportEntry.path = entries'.map ImportEntry.path)
    (h : ∀ entry ∈ entries, ';' ∉ entry.clause.toList)
    (h' : ∀ entry ∈ entries', ';' ∉ entry.clause.toList)
    (heq : useBlock entries = useBlock entries') : entries = entries' := by
  induction entries generalizing entries' with
  | nil => exact (List.map_eq_nil_iff.mp hpaths.symm).symm
  | cons entry rest ih =>
    obtain _ | ⟨entry', rest'⟩ := entries'
    · cases hpaths
    obtain ⟨hpath, hrest⟩ := List.cons.inj hpaths
    obtain ⟨hentry, hothers⟩ := List.forall_mem_cons.mp h
    obtain ⟨hentry', hothers'⟩ := List.forall_mem_cons.mp h'
    have hchars := congrArg String.toList heq
    rw [toList_useBlock_cons, toList_useBlock_cons, hpath, List.append_cancel_left_eq] at hchars
    obtain ⟨hclause, hback⟩ := eq_of_append_cons_eq hentry hentry' hchars
    have hbound := ImportEntry.boundAs_of_clause (String.toList_inj.mp hclause)
    rw [ih hrest hothers hothers' (String.toList_inj.mp (List.cons.inj hback).2)]
    exact congrArg (· :: rest') (congrArg₂ ImportEntry.mk hpath hbound)

namespace ImportSet

variable {imports imports' : ImportSet} {refs refs' : List TypeRef} {path : String}

/-- The name of an import that is written out has no semicolon. -/
theorem Sound.semicolon_not_mem {entry : ImportEntry} (h : imports.Sound)
    (hmem : entry ∈ imports.toList) : ';' ∉ entry.clause.toList := by
  rw [ImportEntry.clause]
  cases hbound : entry.boundAs with
  | none => exact List.not_mem_nil
  | some name =>
    have hname : entry.binding = name := by rw [ImportEntry.binding, hbound, Option.getD_some]
    rw [Option.map_some, Option.getD_some, String.toList_append, List.mem_append, not_or]
    refine ⟨by decide, ?_⟩
    rcases h.identifier _ _ (h.get?_path hmem) with hid | hid
    · exact not_mem_of_isIdentifier rfl (by decide) (hname ▸ hid)
    · rw [← hname, hid]
      decide

/-- **Two sets of imports of the same paths are the same if they are written the same.** -/
theorem render_eq_iff (h : imports.Sound) (h' : imports'.Sound)
    (hkeys : imports'.entries.keys = imports.entries.keys) :
    imports'.render = imports.render ↔ imports'.toList = imports.toList := by
  constructor
  · intro heq
    rw [h.keys_eq, h'.keys_eq] at hkeys
    exact eq_of_useBlock_eq hkeys (fun _ hmem => h'.semicolon_not_mem hmem)
      (fun _ hmem => h.semicolon_not_mem hmem) heq
  · intro heq
    rw [render, render, heq]

end ImportSet

end ServiceBus.Schema
