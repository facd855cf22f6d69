import ServiceBus.Adaptor.Artifact
import ServiceBus.File.Write

/-! # Runs over several files

`generate` makes the artifacts of a list of schema files. A file that fails is reported and leaves
its siblings alone. `Report.writeAll` writes the artifacts below a folder. -/

namespace ServiceBus.Adaptor

/-- Why a file has no artifact. -/
inductive FailureCause where
  | schema (e : Schema.SchemaError)
  | template (e : TemplateError)
deriving DecidableEq, Repr

/-- The wording of a cause. -/
def FailureCause.message : FailureCause → String
  | .schema e => e.message
  | .template e => e.message

/-- A file that failed. -/
structure Failure where
  file : String
  cause : FailureCause
deriving DecidableEq, Repr

/-- The wording of a failure. -/
def Failure.message (f : Failure) : String := f.file ++ ": " ++ f.cause.message

/-- What a run has come to. -/
structure Report where
  artifacts : List Artifact := []
  failures : List Failure := []
deriving DecidableEq, Repr

namespace Report

/-- A report and a later one. -/
def append (a b : Report) : Report where
  artifacts := a.artifacts ++ b.artifacts
  failures := a.failures ++ b.failures

/-- Whether no file failed. -/
def isSuccess (r : Report) : Bool := r.failures.isEmpty

end Report

/-- Makes the artifact of a file, if it has services. -/
def generateFile (templates : TemplateSet) (options : Options) (file : Schema.File) :
    Logged (Except FailureCause (Option Artifact)) :=
  if !file.hasServices then do
    Logged.report (skipRecord .trace file)
    return .ok none
  else do
    match ← Schema.ImportSet.resolve file with
    | .error e => return .error (.schema e)
    | .ok imports =>
      return (← (synthesize templates options file imports).run).mapError .template

/-- What a file adds to a report. -/
def reportFile (templates : TemplateSet) (options : Options) (file : Schema.File) :
    Logged Report := do
  match ← generateFile templates options file with
  | .ok none => return {}
  | .ok (some artifact) =>
    Logged.report { level := .debug, message := "generated",
                    fields := [("file", .text file.name), ("output", .text artifact.name)] }
    return { artifacts := [artifact] }
  | .error cause =>
    Logged.report { level := .error, message := "generation failed",
                    fields := [("file", .text file.name), ("reason", .text cause.message)] }
    return { failures := [{ file := file.name, cause }] }

/-- Makes the artifacts of all files. -/
def generate (templates : TemplateSet) (options : Options) : List Schema.File → Logged Report
  | [] => return {}
  | file :: files => do
    let report ← reportFile templates options file
    return report.append (← generate templates options files)

/-- Writes artifacts below a folder, up to the first that fails; `fails` tells for each of them, by
number, at which steps the storage fails. -/
def writeArtifacts (fails : Nat → File.WriteStep → Bool) (root : String) :
    List Artifact → File.Tree → File.Tree × Except File.IoError Unit
  | [], tree => (tree, .ok ())
  | artifact :: rest, tree =>
    File.Tree.andThen (writeArtifacts (fun n => fails (n + 1)) root rest)
      (tree.writeAtomic (fails 0) (.below root artifact.name) (Text.utf8 artifact.content))

/-- Writes all artifacts of a report below a folder. -/
def Report.writeAll (r : Report) (fails : Nat → File.WriteStep → Bool) (root : String)
    (tree : File.Tree) : File.Tree × Except File.IoError Unit :=
  writeArtifacts fails root r.artifacts tree

end ServiceBus.Adaptor
