import Mathlib.Logic.Function.Basic
import ServiceBus.File.Tree

/-! # Ways through a file tree

Where the parts of a path lead is a matter of the parts alone, once there is a folder wherever one is
named on the way. Making the folders leaves the files alone.

* `get?_set`, `get?_remove`: a change at a path is a change of what there is at that path.
* `Location.place`: the path that a location stands for, from a working folder.
* `stops`: the folders that are named on the way.
* `follow_append`: following a path whose folders are there.
* `file?_createFolders`, `createFolders_spec`, `isOk_createFolders`: what making folders leaves, and
  when they all can be made. -/

namespace ServiceBus.File

variable {t t' : Tree} {path other at_ next folder : Path} {node : Node} {bytes : Bytes}
  {part last : String} {parts : List String} {fails : Path → Bool} {made : Bool}

namespace Tree

/-! ### Nodes -/

/-- On the way to the working folder there are folders. -/
theorem get?_around (h : path <+: t.here) : t.get? path = some .folder := if_pos h

/-- Elsewhere there is what the nodes say. -/
theorem get?_elsewhere (h : ¬path <+: t.here) : t.get? path = t.nodes.lookup path := if_neg h

/-- The nodes without those at a path. -/
theorem lookup_filter_ne (nodes : List (Path × Node)) (path other : Path) :
    (nodes.filter (·.1 != path)).lookup other =
      if other = path then none else nodes.lookup other := by
  induction nodes with
  | nil => simp
  | cons entry rest ih =>
    obtain ⟨p, node⟩ := entry
    by_cases hp : p = path
    · rw [List.filter_cons_of_neg (by simpa using hp), ih, List.lookup_cons]
      split
      · rfl
      · rename_i hother
        rw [beq_eq_false_iff_ne.mpr (hp ▸ hother)]
    · rw [List.filter_cons_of_pos (by simpa using hp), List.lookup_cons, List.lookup_cons, ih]
      by_cases hother : other = p
      · simp [hother, hp]
      · rw [beq_eq_false_iff_ne.mpr hother]

/-- What there is after a node was put where no folder was. -/
theorem get?_set (h : t.get? path ≠ some .folder) (node : Node) (other : Path) :
    (t.set path node).get? other = if other = path then some node else t.get? other := by
  have hpath : ¬path <+: t.here := fun hprefix => h (get?_around hprefix)
  by_cases hother : other = path
  · subst hother
    rw [if_pos rfl, get?_elsewhere (t := t.set other node) hpath, set, List.lookup_cons,
      beq_self_eq_true]
  · rw [if_neg hother]
    by_cases hprefix : other <+: t.here
    · rw [get?_around hprefix, get?_around (t := t.set path node) hprefix]
    · rw [get?_elsewhere hprefix, get?_elsewhere (t := t.set path node) hprefix, set,
        List.lookup_cons, beq_eq_false_iff_ne.mpr hother, lookup_filter_ne, if_neg hother]

/-- What there is after a node was taken away that was no folder. -/
theorem get?_remove (h : t.get? path ≠ some .folder) (other : Path) :
    (t.remove path).get? other = if other = path then none else t.get? other := by
  have hpath : ¬path <+: t.here := fun hprefix => h (get?_around hprefix)
  by_cases hprefix : other <+: t.here
  · rw [get?_around hprefix, get?_around (t := t.remove path) hprefix, if_neg]
    rintro rfl
    exact hpath hprefix
  · rw [get?_elsewhere hprefix, get?_elsewhere (t := t.remove path) hprefix, remove,
      lookup_filter_ne]

/-! ### Files -/

/-- There is a file where the node is one. -/
theorem file?_eq_some : t.file? path = some bytes ↔ t.get? path = some (.file bytes) := by
  rw [file?]
  cases hnode : t.get? path with
  | none => simp
  | some node => cases node <;> simp

/-- There is no file where there is nothing, or a folder. -/
theorem file?_eq_none :
    t.file? path = none ↔ t.get? path = none ∨ t.get? path = some .folder := by
  rw [file?]
  cases hnode : t.get? path with
  | none => simp
  | some node => cases node <;> simp

/-- The files are a matter of what there is. -/
theorem file?_congr (h : t'.get? path = t.get? path) : t'.file? path = t.file? path := by
  rw [file?, h, file?]

/-- The files when there is one file more, or another one. -/
theorem file?_eq_update (h : ∀ other, t'.get? other =
    if other = path then some (.file bytes) else t.get? other) :
    t'.file? = Function.update t.file? path (some bytes) := by
  funext other
  by_cases hother : other = path
  · rw [hother, Function.update_self, file?_eq_some, h, if_pos rfl]
  · rw [Function.update_of_ne hother]
    exact file?_congr (by rw [h, if_neg hother])

/-- The files after a folder was put where nothing was. -/
theorem file?_set_folder (h : t.get? path = none) : (t.set path .folder).file? = t.file? := by
  have hfolder : t.get? path ≠ some .folder := by simp [h]
  funext other
  by_cases hother : other = path
  · rw [hother, file?_eq_none.mpr (Or.inl h), file?_eq_none, get?_set hfolder, if_pos rfl]
    exact Or.inr rfl
  · exact file?_congr (by rw [get?_set hfolder, if_neg hother])

end Tree

/-! ### Ways -/

/-- The path that a part leads to from a folder, whatever there is: two dots lead out of the folder, and
a name leads on. -/
def advance (at_ : Path) (part : String) : Path :=
  if part = ".." then at_.dropLast else at_ ++ [part]

/-- The path that a location stands for: its parts lead there one after the other, from the root or
from a working folder. -/
def Location.place (location : Location) (here : Path) : Path :=
  location.parts.foldl advance (if location.isAbsolute then [] else here)

/-- A location leads to its place from the folder in which it begins. -/
theorem foldl_advance_start (location : Location) (here : Path) :
    location.parts.foldl advance (location.start here) = location.place here := rfl

/-- The folders that parts name on the way from a folder. -/
def stops (at_ : Path) : List String → List Path
  | [] => []
  | part :: rest =>
    (if part = ".." then [] else [at_ ++ [part]]) ++ stops (advance at_ part) rest

/-- A folder that is named first or later on. -/
theorem mem_stops_cons : path ∈ stops at_ (part :: parts) ↔
    part ≠ ".." ∧ path = at_ ++ [part] ∨ path ∈ stops (advance at_ part) parts := by
  rw [stops, List.mem_append]
  by_cases hup : part = ".." <;> simp [hup]

/-- The system is asked for parts without a zero character only. -/
theorem checkParts_eq_ok :
    checkParts parts = .ok () ↔ ∀ part ∈ parts, part.toList.contains '\x00' = false := by
  rw [checkParts]
  split
  · rename_i hany
    obtain ⟨part, hpart, hzero⟩ := List.any_eq_true.mp hany
    refine iff_of_false (by simp) fun hall => ?_
    rw [hall part hpart] at hzero
    cases hzero
  · rename_i hnone
    refine iff_of_true rfl fun part hpart => ?_
    rw [Bool.not_eq_true, List.any_eq_false] at hnone
    exact eq_false_of_ne_true (hnone part hpart)

/-- Whether a part is a name, or leads to the folder around. -/
def IsUsable (part : String) : Prop := part = ".." ∨ checkName part = .ok ()

/-- A bad name is not a matter of what there is. -/
theorem checkName_ne_notFound (name : String) : checkName name ≠ .error .notFound := by
  rw [checkName]
  split <;> simp

namespace Tree

/-- Entering a folder. -/
theorem enter_eq_ok : t.enter at_ part = .ok next ↔ next = advance at_ part ∧ IsUsable part ∧
    (part = ".." ∨ t.get? (at_ ++ [part]) = some .folder) := by
  rw [enter, advance, IsUsable]
  by_cases hup : part = ".."
  · simp [hup, parent, eq_comm]
  · rw [if_neg hup, if_neg hup]
    cases hname : checkName part with
    | error e => simp [hup, bind, Except.bind]
    | ok _ =>
      cases hnode : t.get? (at_ ++ [part]) with
      | none => simp [hup, bind, Except.bind]
      | some node => cases node <;> simp [hup, bind, Except.bind, eq_comm]

/-- A folder that is not there. -/
theorem enter_eq_notFound : t.enter at_ part = .error .notFound ↔
    part ≠ ".." ∧ checkName part = .ok () ∧ t.get? (at_ ++ [part]) = none := by
  rw [enter]
  by_cases hup : part = ".."
  · simp [hup]
  · rw [if_neg hup]
    cases hname : checkName part with
    | error e =>
      have hne := checkName_ne_notFound part
      rw [hname] at hne
      simpa [hup, bind, Except.bind] using hne
    | ok _ =>
      cases hnode : t.get? (at_ ++ [part]) with
      | none => simp [hup, bind, Except.bind]
      | some node => cases node <;> simp [hup, bind, Except.bind]

/-- Following a part that is not the last one. -/
theorem follow_cons (hne : parts ≠ []) :
    t.follow at_ (part :: parts) = (t.enter at_ part).bind fun next => t.follow next parts := by
  rw [follow]
  · rfl
  · exact hne

/-- Following the last part. -/
theorem follow_singleton (h : IsUsable part) : t.follow at_ [part] = .ok (advance at_ part) := by
  rw [follow, advance]
  by_cases hup : part = ".."
  · rw [if_pos hup, if_pos hup, parent]
  · rw [if_neg hup, if_neg hup, h.resolve_left hup]
    rfl

/-- Following parts that lead through folders to a last one. -/
theorem follow_append {front : List String} (husable : ∀ part ∈ front, IsUsable part)
    (hstops : ∀ stop ∈ stops at_ front, t.get? stop = some .folder) (last : String) :
    t.follow at_ (front ++ [last]) = t.follow (front.foldl advance at_) [last] := by
  induction front generalizing at_ with
  | nil => rfl
  | cons part rest ih =>
    obtain ⟨hpart, hrest⟩ := List.forall_mem_cons.mp husable
    have henter : t.enter at_ part = .ok (advance at_ part) := by
      refine enter_eq_ok.mpr ⟨rfl, hpart, ?_⟩
      by_cases hup : part = ".."
      · exact Or.inl hup
      · exact Or.inr (hstops _ (mem_stops_cons.mpr (Or.inl ⟨hup, rfl⟩)))
    rw [List.cons_append, follow_cons (by simp), henter]
    exact ih hrest fun stop hstop => hstops stop (mem_stops_cons.mpr (Or.inr hstop))

/-! ### Making folders -/

/-- What there is after a missing folder was made. -/
theorem get?_set_folder (h : t.get? path = none) :
    (t.set path .folder).get? other = some .folder ↔
      t.get? other = some .folder ∨ other = path := by
  rw [get?_set (by simp [h])]
  by_cases hother : other = path <;> simp [hother]

/-- **Making folders leaves the files alone**, also where it fails. -/
theorem file?_createFolders (fails : Path → Bool) (t : Tree) (made : Bool) (at_ : Path)
    (parts : List String) : (t.createFolders fails made at_ parts).1.file? = t.file? := by
  fun_induction createFolders fails t made at_ parts with
  | case1 t made at_ => rfl
  | case2 t made at_ part rest next henter ih => exact ih
  | case3 t made at_ part rest hmissing folder hfails => rfl
  | case4 t made at_ part rest hmissing folder hfails ih =>
    rw [ih]
    exact file?_set_folder (enter_eq_notFound.mp hmissing).2.2
  | case5 t made at_ part rest henter => rfl
  | case6 t made at_ part rest e henter hmissing hfile => rfl

/-- **When folders are made, they are where the parts lead**, and nothing else has become a folder. -/
theorem createFolders_spec (h : t.createFolders fails made at_ parts = (t', .ok folder)) :
    folder = parts.foldl advance at_ ∧ t'.here = t.here ∧ ∀ path, t'.get? path = some .folder ↔
      t.get? path = some .folder ∨ path ∈ stops at_ parts := by
  fun_induction createFolders fails t made at_ parts with
  | case1 t made at_ =>
    obtain ⟨rfl, hfolder⟩ := Prod.mk.inj h
    cases hfolder
    exact ⟨rfl, rfl, fun path => by simp [stops]⟩
  | case2 t made at_ part rest next henter ih =>
    -- The folder is there, so naming it adds nothing.
    obtain ⟨hfolder, hhere, hiff⟩ := ih h
    obtain ⟨rfl, -, hthere⟩ := enter_eq_ok.mp henter
    refine ⟨hfolder, hhere, fun path => ?_⟩
    rw [hiff, mem_stops_cons]
    constructor
    · exact Or.imp_right Or.inr
    · rintro (hpath | ⟨hup, rfl⟩ | hpath)
      · exact Or.inl hpath
      · exact Or.inl (hthere.resolve_left hup)
      · exact Or.inr hpath
  | case3 t made at_ part rest hmissing folder' hfails => cases (Prod.mk.inj h).2
  | case4 t made at_ part rest hmissing folder' hfails ih =>
    -- The folder is missing and is made; after that the others are.
    obtain ⟨hup, -, hnone⟩ := enter_eq_notFound.mp hmissing
    obtain ⟨hfolder, hhere, hiff⟩ := ih h
    have hnext : advance at_ part = at_ ++ [part] := if_neg hup
    rw [List.foldl_cons, hnext]
    refine ⟨hfolder, hhere, fun path => ?_⟩
    rw [hiff, get?_set_folder hnone, mem_stops_cons, hnext, or_assoc, and_iff_right hup]
  | case5 t made at_ part rest henter => cases (Prod.mk.inj h).2
  | case6 t made at_ part rest e henter hmissing hfile => cases (Prod.mk.inj h).2

/-- Whether parts lead on with what there is and what can be made: they are names, no file is in the
way, and the storage does not fail for a folder that is missing. -/
structure Passable (fails : Path → Bool) (t : Tree) (at_ : Path) (parts : List String) : Prop where
  usable : ∀ part ∈ parts, IsUsable part
  noFile : ∀ stop ∈ stops at_ parts, t.file? stop = none
  made : ∀ stop ∈ stops at_ parts, t.get? stop = none → fails stop = false

/-- The first part leads on, and then the others do. -/
theorem passable_cons : Passable fails t at_ (part :: parts) ↔
    (IsUsable part ∧ (part ≠ ".." → t.file? (at_ ++ [part]) = none ∧
      (t.get? (at_ ++ [part]) = none → fails (at_ ++ [part]) = false))) ∧
    Passable fails t (advance at_ part) parts := by
  constructor
  · rintro ⟨husable, hfile, hmade⟩
    obtain ⟨hpart, hparts⟩ := List.forall_mem_cons.mp husable
    refine ⟨⟨hpart, fun hup => ?_⟩, hparts, fun stop hstop => ?_, fun stop hstop => ?_⟩
    · have hfirst : at_ ++ [part] ∈ stops at_ (part :: parts) :=
        mem_stops_cons.mpr (Or.inl ⟨hup, rfl⟩)
      exact ⟨hfile _ hfirst, hmade _ hfirst⟩
    · exact hfile stop (mem_stops_cons.mpr (Or.inr hstop))
    · exact hmade stop (mem_stops_cons.mpr (Or.inr hstop))
  · rintro ⟨⟨hpart, hfirst⟩, husable, hfile, hmade⟩
    refine ⟨List.forall_mem_cons.mpr ⟨hpart, husable⟩, fun stop hstop => ?_, fun stop hstop => ?_⟩
    · rcases mem_stops_cons.mp hstop with ⟨hup, rfl⟩ | hstop
      · exact (hfirst hup).1
      · exact hfile stop hstop
    · rcases mem_stops_cons.mp hstop with ⟨hup, rfl⟩ | hstop
      · exact (hfirst hup).2
      · exact hmade stop hstop

/-- A folder more where nothing was does not matter, if the storage would not fail for it. -/
theorem passable_set_folder (hnone : t.get? path = none) (hfails : fails path = false) :
    Passable fails (t.set path .folder) at_ parts ↔ Passable fails t at_ parts := by
  have hfiles := file?_set_folder hnone
  have hget : ∀ stop, (t.set path .folder).get? stop =
      if stop = path then some .folder else t.get? stop := get?_set (by simp [hnone]) .folder
  constructor
  · rintro ⟨husable, hfile, hmade⟩
    rw [hfiles] at hfile
    refine ⟨husable, hfile, fun stop hstop hmissing => ?_⟩
    by_cases hsame : stop = path
    · rw [hsame, hfails]
    · exact hmade stop hstop (by rw [hget, if_neg hsame, hmissing])
  · rintro ⟨husable, hfile, hmade⟩
    refine ⟨husable, by rwa [hfiles], fun stop hstop hmissing => ?_⟩
    rw [hget] at hmissing
    split at hmissing
    · cases hmissing
    · exact hmade stop hstop hmissing

/-- Where a folder cannot be entered and is not missing either, the parts do not lead on. -/
theorem not_passable {e : IoError} (henter : t.enter at_ part = .error e) (hne : e ≠ .notFound) :
    ¬Passable fails t at_ (part :: parts) := by
  rw [passable_cons]
  rintro ⟨⟨husable, hfirst⟩, -⟩
  -- With a usable name and no file there, either the folder can be entered or nothing is there.
  have hno : ¬(part = ".." ∨ t.get? (at_ ++ [part]) = some .folder) := by
    intro hthere
    have hok : t.enter at_ part = .ok (advance at_ part) := enter_eq_ok.mpr ⟨rfl, husable, hthere⟩
    cases henter.symm.trans hok
  obtain ⟨hup, hfolder⟩ := not_or.mp hno
  have hnone := (file?_eq_none.mp (hfirst hup).1).resolve_right hfolder
  have hmissing := enter_eq_notFound.mpr ⟨hup, husable.resolve_left hup, hnone⟩
  exact hne (Except.error.inj (henter.symm.trans hmissing))

/-- **All folders are made iff the parts lead on.** -/
theorem isOk_createFolders (fails : Path → Bool) (t : Tree) (made : Bool) (at_ : Path)
    (parts : List String) :
    (t.createFolders fails made at_ parts).2.isOk = true ↔ Passable fails t at_ parts := by
  fun_induction createFolders fails t made at_ parts with
  | case1 t made at_ => exact ⟨fun _ => ⟨by simp, by simp [stops], by simp [stops]⟩, fun _ => rfl⟩
  | case2 t made at_ part rest next henter ih =>
    obtain ⟨rfl, husable, hthere⟩ := enter_eq_ok.mp henter
    rw [ih, passable_cons, iff_and_self]
    intro _
    refine ⟨husable, fun hup => ?_⟩
    have hfolder := hthere.resolve_left hup
    exact ⟨file?_eq_none.mpr (Or.inr hfolder), by simp [hfolder]⟩
  | case3 t made at_ part rest hmissing folder hfails =>
    -- The folder is missing, and the storage fails for it.
    obtain ⟨hup, -, hnone⟩ := enter_eq_notFound.mp hmissing
    refine iff_of_false (fun hok => by cases hok) fun hpassable => ?_
    have hholds := ((passable_cons.mp hpassable).1.2 hup).2 hnone
    rw [show fails (at_ ++ [part]) = true from hfails] at hholds
    cases hholds
  | case4 t made at_ part rest hmissing folder hfails ih =>
    -- A folder that the storage bears does not change what lies ahead.
    obtain ⟨hup, hname, hnone⟩ := enter_eq_notFound.mp hmissing
    have hnext : advance at_ part = at_ ++ [part] := if_neg hup
    have hfails : fails (at_ ++ [part]) = false := eq_false_of_ne_true hfails
    rw [ih, passable_set_folder hnone hfails, passable_cons, hnext, iff_and_self]
    exact fun _ => ⟨Or.inr hname, fun _ => ⟨file?_eq_none.mpr (Or.inl hnone), fun _ => hfails⟩⟩
  | case5 t made at_ part rest henter =>
    exact iff_of_false (fun hok => by cases hok) (not_passable henter (by simp))
  | case6 t made at_ part rest e hmissing hfile henter =>
    exact iff_of_false (fun hok => by cases hok) (not_passable henter hmissing)

end Tree

end ServiceBus.File
