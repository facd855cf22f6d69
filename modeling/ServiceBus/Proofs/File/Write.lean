import Mathlib.Data.List.Nodup
import Mathlib.Data.List.Perm.Subperm
import ServiceBus.File.Write
import ServiceBus.Proofs.File.Tree

/-! # Writing a file is atomic

A file is replaced as a whole or not at all, wherever the storage fails. It is replaced iff its
location can receive a file and none of the steps that are taken fails.

* `get?_freshPath`: there is nothing at the path of a temporary file.
* `Receives`, `Bears`: what the location and the storage have to allow.
* `writeVia_cases`, `writeAtomic_cases`: the two ways that writing can end.
* `read_of_receives`: what was written is read. -/

namespace ServiceBus.File

variable {t t' : Tree} {path temporary folder source target : Path} {location : Location}
  {node : Node} {contents bytes : Bytes} {fails : WriteStep → Bool}

/-! ### Temporary files -/

/-- Temporary files are told apart by their numbers. -/
theorem temporaryName_inj {m n : Nat} : temporaryName m = temporaryName n ↔ m = n := by
  constructor
  · intro h
    rw [temporaryName, temporaryName, String.append_right_inj, Nat.toString_eq_repr,
      Nat.toString_eq_repr] at h
    have hdigits := congrArg String.toList h
    rw [Nat.toList_repr, Nat.toList_repr] at hdigits
    rw [← Nat.ofDigitChars_ten_toDigits (n := m), hdigits, Nat.ofDigitChars_ten_toDigits]
  · rintro rfl
    rfl

namespace Tree

/-- Where there is something, there is a node, or a folder on the way to the working folder. -/
theorem eq_take_or_mem_of_get? (h : t.get? path ≠ none) :
    path = t.here.take path.length ∨ path ∈ t.nodes.map Prod.fst := by
  by_cases hprefix : path <+: t.here
  · exact Or.inl (List.prefix_iff_eq_take.mp hprefix)
  · rw [get?_elsewhere hprefix] at h
    obtain ⟨node, hnode⟩ := Option.ne_none_iff_exists'.mp h
    obtain ⟨before, after, hnodes, -⟩ := List.lookup_eq_some_iff.mp hnode
    refine Or.inr ?_
    rw [hnodes]
    simp

/-- **There is nothing at the path of a new temporary file**: more names are tried than can be taken. -/
theorem get?_freshPath (t : Tree) (folder : Path) : t.get? (t.freshPath folder) = none := by
  rw [freshPath]
  cases hfind : (List.range (t.nodes.length + 2)).find? fun n =>
      (t.get? (folder ++ [temporaryName n])).isNone with
  | some n => simpa using List.find?_some hfind
  | none =>
    exfalso
    -- The names that were tried are all taken: by a node each, but for one on the way to the working
    -- folder.
    let names := (List.range (t.nodes.length + 2)).map fun n => folder ++ [temporaryName n]
    have hnodup : names.Nodup := by
      refine List.Nodup.map (fun m n hmn => ?_) List.nodup_range
      simpa [temporaryName_inj] using hmn
    have hsub : names ⊆ t.here.take (folder.length + 1) :: t.nodes.map Prod.fst := by
      intro path hpath
      obtain ⟨n, hn, rfl⟩ := List.mem_map.mp hpath
      have htaken := List.find?_eq_none.mp hfind n hn
      rw [Option.isNone_iff_eq_none] at htaken
      rcases eq_take_or_mem_of_get? htaken with hway | hnode
      · rw [List.length_append, List.length_singleton] at hway
        exact List.mem_cons.mpr (Or.inl hway)
      · exact List.mem_cons_of_mem _ hnode
    have hlength := (List.subperm_of_subset hnodup hsub).length_le
    rw [List.length_map, List.length_range, List.length_cons, List.length_map] at hlength
    omega

/-! ### Steps -/

/-- Whether the storage takes contents: all their bytes, for good. -/
def Stores (fails : WriteStep → Bool) (contents : Bytes) : Prop :=
  (∀ n < contents.length, fails (.write n) = false) ∧ fails .sync = false

/-- **Filling a file** ends with the contents in it, or with some bytes and a failure. -/
theorem fill_cases (fails : WriteStep → Bool) (t : Tree) (path : Path) (contents : Bytes) :
    (Stores fails contents ∧
      t.fill fails path contents = (t.set path (.file contents), .ok ())) ∨
    (¬Stores fails contents ∧
      ∃ bytes e, t.fill fails path contents = (t.set path (.file bytes), .error e)) := by
  rw [fill]
  cases hfind : (List.range contents.length).find? fun n => fails (.write n) with
  | some n =>
    refine Or.inr ⟨?_, _, _, rfl⟩
    rintro ⟨hwrite, -⟩
    have hlt := List.mem_range.mp (List.mem_of_find?_eq_some hfind)
    have hfails := List.find?_some hfind
    rw [hwrite n hlt] at hfails
    cases hfails
  | none =>
    have hwrite : ∀ n < contents.length, fails (.write n) = false := by
      simpa using List.find?_range_eq_none.mp hfind
    cases hsync : fails .sync with
    | false => exact Or.inl ⟨⟨hwrite, hsync⟩, rfl⟩
    | true =>
      refine Or.inr ⟨?_, contents, .fault, rfl⟩
      rintro ⟨-, hholds⟩
      rw [hsync] at hholds
      cases hholds

/-- The path that the last part of a location leads to from its folder. -/
def lastStop (folder : Path) (location : Location) : Path :=
  location.parts.getLast?.toList.foldl advance folder

/-- The path of a file to be is that of a name in the folder. -/
theorem target_eq_ok : t.target folder location = .ok target ↔ location.ending = .name ∧
    ∃ part, location.parts.getLast? = some part ∧ part ≠ ".." ∧ checkName part = .ok () ∧
      target = lastStop folder location := by
  rw [Tree.target, lastStop]
  cases location.parts.getLast? with
  | none => simp
  | some part =>
    by_cases hup : part = ".."
    · simp [hup]
    · cases hending : location.ending with
      | name =>
        cases hname : checkName part <;>
          simp [hup, hname, advance, bind, Except.bind, pure, Except.pure, eq_comm]
      | slash => cases hname : checkName part <;> simp [hup, hname, bind, Except.bind]
      | dot => cases henter : t.enter folder part <;> simp [hup, henter, bind, Except.bind]

/-- Whether a file can be put to a location in a folder. -/
structure Takes (t : Tree) (folder : Path) (location : Location) : Prop where
  asked : checkParts location.parts.getLast?.toList = .ok ()
  short : location.size ≤ maxPathSize
  ending : location.ending = .name
  named : ∃ part, location.parts.getLast? = some part ∧ part ≠ ".." ∧ checkName part = .ok ()
  free : t.get? (lastStop folder location) ≠ some .folder

/-- **Renaming a file** succeeds iff it can be put to the location. -/
theorem rename_eq_ok (hsource : t.get? source = some node) :
    t.rename source folder location = .ok t' ↔ t.Takes folder location ∧
      (t.remove source).set (lastStop folder location) node = t' := by
  have htakes : t.Takes folder location ↔ checkParts location.parts.getLast?.toList = .ok () ∧
      ¬maxPathSize < location.size ∧
      t.target folder location = .ok (lastStop folder location) ∧
      t.get? (lastStop folder location) ≠ some .folder := by
    rw [target_eq_ok]
    constructor
    · rintro ⟨hasked, hsize, hending, ⟨part, hlast, hup, hname⟩, hfree⟩
      exact ⟨hasked, by omega, ⟨hending, part, hlast, hup, hname, rfl⟩, hfree⟩
    · rintro ⟨hasked, hsize, ⟨hending, part, hlast, hup, hname, -⟩, hfree⟩
      exact ⟨hasked, by omega, hending, ⟨part, hlast, hup, hname⟩, hfree⟩
  rw [htakes, rename]
  -- One case for each check, in the order in which they are made.
  cases hasked : checkParts location.parts.getLast?.toList with
  | error e => simp [bind, Except.bind]
  | ok =>
    by_cases hsize : maxPathSize < location.size
    · simp [hsize, bind, Except.bind]
    · cases htarget : t.target folder location with
      | error e => simp [hsize, bind, Except.bind]
      | ok target =>
        obtain ⟨-, _, -, -, -, rfl⟩ := target_eq_ok.mp htarget
        cases hnode : t.get? (lastStop folder location) with
        | none => simp [hsize, hnode, hsource, bind, Except.bind, pure, Except.pure]
        | some other =>
          cases other <;> simp [hsize, hnode, hsource, bind, Except.bind, pure, Except.pure]

/-- What there is while a temporary file is there, with some bytes in it. -/
theorem get?_filled (hfree : t.get? temporary = none) (bytes : Bytes) (path : Path) :
    ((t.set temporary (.file [])).set temporary (.file bytes)).get? path =
      if path = temporary then some (.file bytes) else t.get? path := by
  have hempty : ∀ other, (t.set temporary (.file [])).get? other = _ :=
    get?_set (by simp [hfree]) (.file [])
  rw [get?_set (by simp [hempty]), hempty]
  split <;> rfl

/-- When the temporary file is gone again, all is as before. -/
theorem get?_remove_filled (hfree : t.get? temporary = none) (bytes : Bytes) (path : Path) :
    (((t.set temporary (.file [])).set temporary (.file bytes)).remove temporary).get? path =
      t.get? path := by
  rw [get?_remove (by simp [get?_filled hfree]), get?_filled hfree]
  split
  · rename_i hpath
    rw [hpath, hfree]
  · rfl

/-- The temporary file is not in the way of the location. -/
theorem takes_filled (hfree : t.get? temporary = none) (bytes : Bytes) :
    ((t.set temporary (.file [])).set temporary (.file bytes)).Takes folder location ↔
      t.Takes folder location := by
  have hsame : ((t.set temporary (.file [])).set temporary (.file bytes)).get?
      (lastStop folder location) = some .folder ↔
      t.get? (lastStop folder location) = some .folder := by
    rw [get?_filled hfree]
    split
    · rename_i hlast
      simp [hlast, hfree]
    · rfl
  constructor
  · rintro ⟨hasked, hsize, hending, hnamed, hplace⟩
    exact ⟨hasked, hsize, hending, hnamed, mt hsame.mpr hplace⟩
  · rintro ⟨hasked, hsize, hending, hnamed, hplace⟩
    exact ⟨hasked, hsize, hending, hnamed, mt hsame.mp hplace⟩

/-- **Writing by way of a temporary file** puts the contents where they belong and changes nothing
else, or changes nothing at all. -/
theorem writeVia_cases (hfree : t.get? temporary = none) (fails : WriteStep → Bool)
    (folder : Path) (location : Location) (contents : Bytes) :
    ((Stores fails contents ∧ fails .rename = false ∧ t.Takes folder location) ∧
      ∃ t', t.writeVia fails temporary folder location contents = (t', .ok ()) ∧ t'.here = t.here ∧
        ∀ path, t'.get? path =
          if path = lastStop folder location then some (.file contents) else t.get? path) ∨
    (¬(Stores fails contents ∧ fails .rename = false ∧ t.Takes folder location) ∧
      ∃ t' e, t.writeVia fails temporary folder location contents = (t', .error e) ∧
        ∀ path, t'.get? path = t.get? path) := by
  rw [writeVia]
  rcases fill_cases fails (t.set temporary (.file [])) temporary contents with
    ⟨hstores, hfill⟩ | ⟨hstores, bytes, e, hfill⟩
  · -- The contents are stored, so what is left is to put the file in its place.
    rw [hfill]
    dsimp only
    rw [persist]
    cases hrename : fails .rename with
    | true => exact Or.inr ⟨by simp, _, _, rfl, get?_remove_filled hfree contents⟩
    | false =>
      have hsource := get?_filled hfree contents temporary
      rw [if_pos rfl] at hsource
      by_cases htakes : t.Takes folder location
      · have hrenamed := (rename_eq_ok hsource).mpr ⟨(takes_filled hfree contents).mpr htakes, rfl⟩
        rw [if_neg Bool.false_ne_true, hrenamed]
        refine Or.inl ⟨⟨hstores, rfl, htakes⟩, _, rfl, rfl, fun path => ?_⟩
        -- The target is free to be replaced once the temporary file is gone.
        have hplace := htakes.free
        rw [← get?_remove_filled hfree contents] at hplace
        rw [get?_set hplace, get?_remove_filled hfree]
      · rw [if_neg Bool.false_ne_true]
        refine Or.inr ⟨fun h => htakes h.2.2, ?_⟩
        split
        · exact ⟨_, _, rfl, get?_remove_filled hfree contents⟩
        · rename_i renamed hrenamed
          have htaken := ((rename_eq_ok hsource).mp hrenamed).1
          exact absurd ((takes_filled hfree contents).mp htaken) htakes
  · rw [hfill]
    exact Or.inr ⟨fun h => hstores h.1, _, _, rfl, get?_remove_filled hfree bytes⟩

/-! ### Writing -/

/-- Whether a file can be put to a location, folders made on the way: its parts are names, the last one
is that of no folder, and no file is in the way. -/
structure Receives (t : Tree) (location : Location) : Prop where
  asked : checkParts location.parts = .ok ()
  short : location.size ≤ maxPathSize
  shortFolder : location.folderSize ≤ maxPathSize
  ending : location.ending = .name
  named : ∃ part, location.parts.getLast? = some part ∧ part ≠ ".."
  usable : ∀ part ∈ location.parts, IsUsable part
  way : ∀ stop ∈ stops (location.start t.here) location.parts.dropLast, t.file? stop = none
  free : t.get? (location.place t.here) ≠ some .folder
  notPassed : location.place t.here ∉ stops (location.start t.here) location.parts.dropLast

/-- Whether the storage bears all steps of writing a file. -/
structure Bears (fails : WriteStep → Bool) (t : Tree) (location : Location) (contents : Bytes) :
    Prop where
  folders : ∀ stop ∈ stops (location.start t.here) location.parts.dropLast, t.get? stop = none →
    fails (.createFolder stop) = false
  temporary : fails .createTemporary = false
  stores : Stores fails contents
  renames : fails .rename = false

/-- The parts of a location are those of its folder and the last one. -/
theorem dropLast_append_getLast? (parts : List String) :
    parts.dropLast ++ parts.getLast?.toList = parts := by
  cases hlast : parts.getLast? with
  | none =>
    rw [List.getLast?_eq_none_iff.mp hlast]
    rfl
  | some last => exact List.dropLast_append_getLast? last hlast

/-- What holds of all parts holds of those of the folder and of the last one. -/
theorem forall_mem_parts {p : String → Prop} (parts : List String) : (∀ part ∈ parts, p part) ↔
    (∀ part ∈ parts.dropLast, p part) ∧ ∀ part ∈ parts.getLast?.toList, p part := by
  rw [← List.forall_mem_append, dropLast_append_getLast?]

/-- The last part of a location leads from its folder to its place. -/
theorem lastStop_eq_place (location : Location) (here : Path) :
    lastStop (location.parts.dropLast.foldl advance (location.start here)) location =
      location.place here := by
  rw [lastStop, ← List.foldl_append, dropLast_append_getLast?, foldl_advance_start]

/-- Where the folders can be made, **a location can receive a file and the storage bears it** iff what
is made of them takes the file and the storage bears the rest. -/
theorem receives_and_bears_iff (hasked : checkParts location.parts.dropLast = .ok ())
    (hshort : location.folderSize ≤ maxPathSize)
    (hpassable : Passable (fun path => fails (.createFolder path)) t (location.start t.here)
      location.parts.dropLast)
    (hfolders : ∀ path, t'.get? path = some .folder ↔
      t.get? path = some .folder ∨ path ∈ stops (location.start t.here) location.parts.dropLast) :
    t.Receives location ∧ Bears fails t location contents ↔ fails .createTemporary = false ∧
      Stores fails contents ∧ fails .rename = false ∧
      t'.Takes (location.parts.dropLast.foldl advance (location.start t.here)) location := by
  have hplace : t'.get? (lastStop (location.parts.dropLast.foldl advance (location.start t.here))
      location) ≠ some .folder ↔ t.get? (location.place t.here) ≠ some .folder ∧
        location.place t.here ∉ stops (location.start t.here) location.parts.dropLast := by
    rw [lastStop_eq_place, Ne, hfolders, not_or]
  have hparts : checkParts location.parts = .ok () ↔
      checkParts location.parts.getLast?.toList = .ok () := by
    rw [checkParts_eq_ok, checkParts_eq_ok, forall_mem_parts]
    exact and_iff_right (checkParts_eq_ok.mp hasked)
  constructor
  · rintro ⟨hreceives, hbears⟩
    refine ⟨hbears.temporary, hbears.stores, hbears.renames, hparts.mp hreceives.asked,
      hreceives.short, hreceives.ending, ?_, hplace.mpr ⟨hreceives.free, hreceives.notPassed⟩⟩
    obtain ⟨part, hlast, hup⟩ := hreceives.named
    exact ⟨part, hlast, hup,
      (hreceives.usable part (List.mem_of_getLast? hlast)).resolve_left hup⟩
  · rintro ⟨htemporary, hstores, hrenames, htakes⟩
    obtain ⟨hfree, hnotPassed⟩ := hplace.mp htakes.free
    obtain ⟨last, hlast, hup, hname⟩ := htakes.named
    refine ⟨⟨hparts.mpr htakes.asked, htakes.short, hshort, htakes.ending, ⟨last, hlast, hup⟩, ?_,
      hpassable.noFile, hfree, hnotPassed⟩, ⟨hpassable.made, htemporary, hstores, hrenames⟩⟩
    rw [forall_mem_parts, hlast]
    refine ⟨hpassable.usable, fun part hpart => ?_⟩
    rw [List.mem_singleton.mp hpart]
    exact Or.inr hname

/-- What a location can receive, and the storage bears, can be reached. -/
theorem passable_of_receives (hreceives : t.Receives location)
    (hbears : Bears fails t location contents) :
    Passable (fun path => fails (.createFolder path)) t (location.start t.here)
      location.parts.dropLast :=
  ⟨fun part hpart => hreceives.usable part (List.dropLast_subset _ hpart), hreceives.way,
    hbears.folders⟩

/-- **How writing a file ends.** If the location can receive a file and the storage bears it, the
file at its place has the contents and all others are as before. If not, it is a failure, and all
files are as before. -/
theorem writeAtomic_cases (fails : WriteStep → Bool) (t : Tree) (location : Location)
    (contents : Bytes) :
    ((t.Receives location ∧ Bears fails t location contents) ∧
      ∃ t', t.writeAtomic fails location contents = (t', .ok ()) ∧ t'.here = t.here ∧
        t'.file? = Function.update t.file? (location.place t.here) (some contents) ∧
        ∀ stop ∈ stops (location.start t.here) location.parts.dropLast,
          t'.get? stop = some .folder) ∨
    (¬(t.Receives location ∧ Bears fails t location contents) ∧
      ∃ t' e, t.writeAtomic fails location contents = (t', .error e) ∧ t'.file? = t.file?) := by
  rw [writeAtomic]
  cases hasked : checkParts location.parts.dropLast with
  | error e =>
    refine Or.inr ⟨fun h => ?_, t, e, rfl, rfl⟩
    have hparts := ((forall_mem_parts location.parts).mp (checkParts_eq_ok.mp h.1.asked)).1
    rw [checkParts_eq_ok.mpr hparts] at hasked
    cases hasked
  | ok =>
    dsimp only
    by_cases hshort : maxPathSize < location.folderSize
    · rw [if_pos hshort]
      exact Or.inr ⟨fun h => absurd h.1.shortFolder (by omega), t, _, rfl, rfl⟩
    rw [if_neg hshort]
    have hok := isOk_createFolders (fun path => fails (.createFolder path)) t false
      (location.start t.here) location.parts.dropLast
    have hfiles := file?_createFolders (fun path => fails (.createFolder path)) t false
      (location.start t.here) location.parts.dropLast
    split
    · -- A folder cannot be made, so the location is out of reach.
      rename_i t₁ e hfolders
      rw [hfolders] at hok hfiles
      refine Or.inr ⟨fun h => ?_, t₁, e, rfl, hfiles⟩
      have hmade := hok.mpr (passable_of_receives h.1 h.2)
      cases hmade
    · -- The folders are there now, and the rest is decided by what they are in.
      rename_i t₁ folder hfolders
      rw [hfolders] at hok hfiles
      obtain ⟨rfl, hhere, hiff⟩ := createFolders_spec hfolders
      have hreceives : t.Receives location ∧ Bears fails t location contents ↔ _ :=
        receives_and_bears_iff hasked (Nat.not_lt.mp hshort) (hok.mp rfl) hiff
      rw [hreceives]
      cases htemporary : fails .createTemporary with
      | true => exact Or.inr ⟨by simp, t₁, _, rfl, hfiles⟩
      | false =>
        rw [if_neg Bool.false_ne_true]
        rcases writeVia_cases (t₁.get?_freshPath _) fails _ location contents with
          ⟨hbears, t₂, hwritten, hstays, hget⟩ | ⟨hbears, t₂, e, hwritten, hget⟩
        · rw [lastStop_eq_place] at hget
          refine Or.inl ⟨⟨rfl, hbears⟩, t₂, hwritten, hstays.trans hhere, ?_, fun stop hstop => ?_⟩
          · rw [file?_eq_update hget, hfiles]
          · -- A folder on the way is not replaced: the file's own place is none of them.
            have hplace : stop ≠ location.place t.here := by
              rintro rfl
              exact (hreceives.mpr ⟨htemporary, hbears⟩).1.notPassed hstop
            rw [hget, if_neg hplace]
            exact (hiff stop).mpr (Or.inr hstop)
        · refine Or.inr ⟨fun h => hbears h.2, t₂, e, hwritten, ?_⟩
          rw [← hfiles]
          exact funext fun path => file?_congr (hget path)

/-! ### Reading back -/

/-- Following a location whose folders are there. -/
theorem follow_eq_place {here : Path} (hne : location.parts ≠ [])
    (husable : ∀ part ∈ location.parts, IsUsable part)
    (hstops : ∀ stop ∈ stops (location.start here) location.parts.dropLast,
      t.get? stop = some .folder) :
    t.follow (location.start here) location.parts = .ok (location.place here) := by
  have hfolder : ∀ part ∈ location.parts.dropLast, IsUsable part :=
    fun part hpart => husable part (List.dropLast_subset _ hpart)
  have hplace : location.place here = advance
      (location.parts.dropLast.foldl advance (location.start here)) (location.parts.getLast hne) := by
    rw [← foldl_advance_start, ← List.foldl_concat advance _ _ location.parts.dropLast,
      List.dropLast_concat_getLast hne]
  have hfollow := follow_append hfolder hstops (location.parts.getLast hne)
  rw [follow_singleton (husable _ (List.getLast_mem hne)), ← hplace,
    List.dropLast_concat_getLast hne] at hfollow
  exact hfollow

/-- The empty text is the only one without bytes, and its location has no parts. -/
theorem parts_ofText_of_size (s : String) (h : (Location.ofText s).size = 0) :
    (Location.ofText s).parts = [] := by
  have hs : s = "" := String.utf8ByteSize_eq_zero_iff.mp h
  subst hs
  rfl

/-- **What was written is read.** -/
theorem read_of_receives {path : String} (hreceives : t.Receives (.ofText path))
    (hhere : t'.here = t.here)
    (hstops : ∀ stop ∈ stops ((Location.ofText path).start t.here)
      (Location.ofText path).parts.dropLast, t'.get? stop = some .folder)
    (hfile : t'.file? ((Location.ofText path).place t.here) = some contents) :
    t'.read (.ofText path) = .ok contents := by
  obtain ⟨last, hlast, -⟩ := hreceives.named
  have hne : (Location.ofText path).parts ≠ [] := by
    intro hnil
    rw [hnil] at hlast
    cases hlast
  have hsize : (Location.ofText path).size ≠ 0 := fun h => hne (parts_ofText_of_size path h)
  have hshort : ¬maxPathSize < (Location.ofText path).size := Nat.not_lt.mpr hreceives.short
  rw [read, hhere, follow_eq_place hne hreceives.usable hstops]
  simp [hreceives.asked, hsize, hshort, file?_eq_some.mp hfile, hreceives.ending, bind, Except.bind,
    pure, Except.pure]

end Tree

end ServiceBus.File
