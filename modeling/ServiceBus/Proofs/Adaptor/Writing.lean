import ServiceBus.Adaptor.Report
import ServiceBus.Proofs.File.Write

/-! # Writing the artifacts of a report

Each artifact is written as a whole or not at all. So wherever the storage fails, the artifacts in
front are there as a whole, and for the one that failed and those behind it nothing has changed.

* `filesWith`: the files when artifacts are written.
* `writeArtifacts_spec`: what writing artifacts leaves, and at which one it stops.
* `writes_whole_files`: the same for a file and for a report. -/

namespace ServiceBus.Adaptor

open File (Location Path Tree WriteStep)

/-- The files with artifacts below a folder, each in place of the file that is there. A relative folder
is below the working folder. -/
def filesWith (here : Path) (root : String) (artifacts : List Artifact)
    (files : Path → Option Bytes) : Path → Option Bytes :=
  artifacts.foldl (fun files artifact => Function.update files
    ((Location.below root artifact.name).place here) (some (Text.utf8 artifact.content))) files

/-- **Writing artifacts** writes those up to the first that fails, and that one fails on the files
that these have made. -/
theorem writeArtifacts_spec (fails : Nat → WriteStep → Bool) (root : String)
    (artifacts : List Artifact) (tree : Tree) :
    ∃ written rest before, artifacts = written ++ rest ∧
      writeArtifacts fails root written tree = (before, .ok ()) ∧
      before.file? = filesWith tree.here root written tree.file? ∧
      (rest = [] ∧ writeArtifacts fails root artifacts tree = (before, .ok ()) ∨
        ∃ failing later after e, rest = failing :: later ∧
          before.writeAtomic (fails written.length) (.below root failing.name)
            (Text.utf8 failing.content) = (after, .error e) ∧
          writeArtifacts fails root artifacts tree = (after, .error e) ∧
          after.file? = before.file?) := by
  induction artifacts generalizing fails tree with
  | nil => exact ⟨[], [], tree, rfl, rfl, rfl, Or.inl ⟨rfl, rfl⟩⟩
  | cons artifact artifacts ih =>
    rcases Tree.writeAtomic_cases (fails 0) tree (.below root artifact.name)
        (Text.utf8 artifact.content) with
      ⟨-, next, hwritten, hhere, hfiles, -⟩ | ⟨-, after, e, hfailed, hfiles⟩
    · -- This artifact is written, and the others start from what it leaves.
      have hnext : ∀ more, writeArtifacts fails root (artifact :: more) tree =
          writeArtifacts (fun n => fails (n + 1)) root more next := by
        intro more
        rw [writeArtifacts, hwritten, Tree.andThen]
      obtain ⟨written, rest, before, rfl, hbefore, hmade, hend⟩ := ih (fun n => fails (n + 1)) next
      refine ⟨artifact :: written, rest, before, rfl, ?_, ?_, ?_⟩
      · rw [hnext, hbefore]
      · rw [hmade, hfiles, hhere]
        rfl
      · rw [hnext]
        exact hend
    · -- This artifact fails, and none of those behind it is tried.
      refine ⟨[], artifact :: artifacts, tree, rfl, rfl, rfl, Or.inr
        ⟨artifact, artifacts, after, e, rfl, hfailed, ?_, hfiles⟩⟩
      rw [writeArtifacts, hfailed, Tree.andThen]

/-- **Files are written as a whole or not at all**, wherever the storage fails. A file is written iff
its location can receive one and the storage bears every step; then it has the contents and can be
read, and all other files are as before. Otherwise all files are as before. Of a report, the
artifacts are written in order up to the first that fails, and that one and those behind it change
nothing. -/
theorem writes_whole_files :
    (∀ (fails : WriteStep → Bool) (tree : Tree) (path : String) (contents : Bytes),
      ((tree.Receives (.ofText path) ∧ Tree.Bears fails tree (.ofText path) contents) ∧
        ∃ after, tree.writeAtomic fails (.ofText path) contents = (after, .ok ()) ∧
          after.file? =
            Function.update tree.file? ((Location.ofText path).place tree.here) (some contents) ∧
          after.read (.ofText path) = .ok contents) ∨
      (¬(tree.Receives (.ofText path) ∧ Tree.Bears fails tree (.ofText path) contents) ∧
        ∃ after e, tree.writeAtomic fails (.ofText path) contents = (after, .error e) ∧
          after.file? = tree.file?)) ∧
    ∀ (report : Report) (fails : Nat → WriteStep → Bool) (root : String) (tree : Tree),
      ∃ written rest before, report.artifacts = written ++ rest ∧
        writeArtifacts fails root written tree = (before, .ok ()) ∧
        before.file? = filesWith tree.here root written tree.file? ∧
        (rest = [] ∧ report.writeAll fails root tree = (before, .ok ()) ∨
          ∃ failing later after e, rest = failing :: later ∧
            before.writeAtomic (fails written.length) (.below root failing.name)
              (Text.utf8 failing.content) = (after, .error e) ∧
            report.writeAll fails root tree = (after, .error e) ∧
            after.file? = before.file?) := by
  refine ⟨fun fails tree path contents => ?_, fun report fails root tree =>
    writeArtifacts_spec fails root report.artifacts tree⟩
  rcases Tree.writeAtomic_cases fails tree (.ofText path) contents with
    ⟨hholds, after, hwritten, hhere, hfiles, hstops⟩ | ⟨hholds, after, e, hfailed, hfiles⟩
  · refine Or.inl ⟨hholds, after, hwritten, hfiles, ?_⟩
    refine Tree.read_of_receives hholds.1 hhere hstops ?_
    rw [hfiles, Function.update_self]
  · exact Or.inr ⟨hholds, after, e, hfailed, hfiles⟩

/-- A file in the working folder and one of the same name in the folder around. -/
def namesakes : Tree where
  nodes := [(["home", "x"], .file [1]), (["home", "work", "x"], .file [2])]
  here := ["home", "work"]

/-- A path that leads out of the working folder leads to the file in the folder around. That one is
written, or is as before if its contents cannot be brought to the storage. -/
theorem writes_whole_files_upwards :
    (∃ after, namesakes.writeAtomic (fun _ => false) (.ofText "../x") [3, 4] = (after, .ok ()) ∧
      after.file? ["home", "x"] = some [3, 4] ∧ after.file? ["home", "work", "x"] = some [2] ∧
      after.read (.ofText "../x") = .ok [3, 4]) ∧
    ∃ after e,
      namesakes.writeAtomic (· == .sync) (.ofText "../x") [3, 4] = (after, .error e) ∧
        after.file? = namesakes.file? := by
  have hplace : (Location.ofText "../x").place namesakes.here = ["home", "x"] := by decide +kernel
  have hok : (namesakes.writeAtomic (fun _ => false) (.ofText "../x") [3, 4]).2 = .ok () := by
    decide +kernel
  obtain ⟨hwrites, -⟩ := writes_whole_files
  constructor
  · rcases hwrites (fun _ => false) namesakes "../x" [3, 4] with
      ⟨-, after, hwritten, hfiles, hread⟩ | ⟨-, after, e, hfailed, -⟩
    · rw [hplace] at hfiles
      refine ⟨after, hwritten, ?_, ?_, hread⟩
      · rw [hfiles, Function.update_self]
      · rw [hfiles, Function.update_of_ne (by decide)]
        decide +kernel
    · rw [hfailed] at hok
      cases hok
  · rcases hwrites (· == .sync) namesakes "../x" [3, 4] with ⟨⟨-, hbears⟩, -⟩ | ⟨-, hfailed⟩
    · cases hbears.stores.2
    · exact hfailed

end ServiceBus.Adaptor
