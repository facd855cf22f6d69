import Mathlib.Data.List.Perm.Basic
import ServiceBus.Plugin.Basic
import ServiceBus.Proofs.Adaptor.Synthesis

/-! # Files stand alone

What becomes of a file depends on its name, on the descriptors and on the settings, and not on the
other files that artifacts are wanted for.

* `Outcome`, `outcomeOf`: what becomes of the file of a name.
* `setup`: the settings and templates that a request is answered with.
* `value_ofFolder`: the templates of a folder that has one for each kind.
* `answer_append`: an answer for two lists of names is that for the first followed by that for the
  second. -/

namespace ServiceBus.Plugin

open Adaptor (Artifact Failure FailureCause Report TemplateKind TemplateSet)

variable {tree : File.Tree} {settings : Settings} {control : Log.Control} {templates : TemplateSet}
  {request : Request} {name : String}

/-! ### Outcomes -/

/-- What becomes of a file that an artifact is wanted for. -/
inductive Outcome where
  | artifact (a : Artifact)
  | failure (f : Failure)
  /-- The file has no services. -/
  | skipped
deriving DecidableEq, Repr

namespace Outcome

/-- The artifact, if there is one. -/
def artifact? : Outcome → Option Artifact
  | .artifact a => some a
  | _ => none

/-- The failure, if there is one. -/
def failure? : Outcome → Option Failure
  | .failure f => some f
  | _ => none

/-- Whether there is neither. -/
def isSkipped : Outcome → Bool
  | .skipped => true
  | _ => false

/-- What becomes of a schema file, by the result of its generation. -/
def ofGeneration (file : String) : Except FailureCause (Option Artifact) → Outcome
  | .ok none => .skipped
  | .ok (some a) => .artifact a
  | .error cause => .failure { file, cause }

end Outcome

/-- The schema file of a name, or what is wrong with it. -/
def schemaFor (settings : Settings) (files : List Descriptor.File) (name : String) :
    Except Schema.SchemaError Schema.File :=
  (Descriptor.schemaOf settings.modules (.ofFiles settings.modules files) files name).value

/-- The schema files of the names of a request, or what is wrong with them. -/
def conversions (settings : Settings) (request : Request) :
    List (String × Except Schema.SchemaError Schema.File) :=
  request.names.map fun name => (name, schemaFor settings request.files name)

/-- What becomes of a schema file. -/
def generated (settings : Settings) (templates : TemplateSet) (file : Schema.File) : Outcome :=
  .ofGeneration file.name (Adaptor.generateFile templates settings.options file).value

/-- What becomes of the file of a name. -/
def outcomeOf (settings : Settings) (templates : TemplateSet) (files : List Descriptor.File)
    (name : String) : Outcome :=
  match schemaFor settings files name with
  | .error e => .failure { file := name, cause := .schema e }
  | .ok file => generated settings templates file

/-! ### Both loops -/

/-- Conversion goes name by name. -/
theorem value_schemasOf (modules : ModuleMap) (index : Descriptor.TypeIndex)
    (files : List Descriptor.File) (names : List String) :
    (Descriptor.schemasOf modules index files names).value =
      names.map fun name => (name, (Descriptor.schemaOf modules index files name).value) := by
  induction names with
  | nil => rfl
  | cons name names ih =>
    rw [Descriptor.schemasOf, Logged.value_bind, Logged.value_bind, Logged.value_pure, ih,
      List.map_cons]

/-- What a schema file adds to a report is what becomes of it. -/
theorem value_reportFile (file : Schema.File) :
    (Adaptor.reportFile templates settings.options file).value =
      { artifacts := (generated settings templates file).artifact?.toList,
        failures := (generated settings templates file).failure?.toList } := by
  rw [Adaptor.reportFile, Logged.value_bind, generated]
  -- One case for each way in which the generation of the file can end.
  match (Adaptor.generateFile templates settings.options file).value with
  | .ok none => rfl
  | .ok (some artifact) => rfl
  | .error cause => rfl

/-- Generation goes file by file. -/
theorem value_generate (files : List Schema.File) :
    (Adaptor.generate templates settings.options files).value =
      { artifacts := files.filterMap fun file => (generated settings templates file).artifact?,
        failures := files.filterMap fun file => (generated settings templates file).failure? } := by
  induction files with
  | nil => rfl
  | cons file files ih =>
    rw [Adaptor.generate, Logged.value_bind, Logged.value_bind, Logged.value_pure,
      value_reportFile, ih, Report.append, List.filterMap_cons, List.filterMap_cons]
    cases generated settings templates file with
    | artifact | failure | skipped => rfl

/-- The report of a whole request, from its two loops. -/
theorem value_generateAll :
    (generateAll settings templates request).value =
      Report.append { failures := conversionFailures (conversions settings request) }
        (Adaptor.generate templates settings.options
          (convertedFiles (conversions settings request))).value := by
  simp only [generateAll, Logged.value_bind, Logged.value_pure, value_schemasOf]
  rfl

/-- The artifacts of a request, name by name. -/
theorem artifacts_generateAll (settings : Settings) (templates : TemplateSet) (request : Request) :
    (generateAll settings templates request).value.artifacts =
      request.names.filterMap fun name =>
        (outcomeOf settings templates request.files name).artifact? := by
  rw [value_generateAll, value_generate, Report.append, List.nil_append, convertedFiles,
    conversions]
  induction request.names with
  | nil => rfl
  | cons name names ih =>
    rw [List.map_cons, List.filterMap_cons, List.filterMap_cons, outcomeOf]
    cases schemaFor settings request.files name with
    | error e => exact ih
    | ok file =>
      simp only [Except.toOption, List.filterMap_cons]
      cases generated settings templates file with
      | artifact a => exact congrArg (a :: ·) ih
      | failure | skipped => exact ih

/-- The failures of a request, name by name. Those of conversion come before those of generation, so
they are the same up to their order. -/
theorem failures_generateAll (settings : Settings) (templates : TemplateSet) (request : Request) :
    (generateAll settings templates request).value.failures.Perm
      (request.names.filterMap fun name =>
        (outcomeOf settings templates request.files name).failure?) := by
  rw [value_generateAll, value_generate, Report.append, convertedFiles, conversionFailures,
    conversions]
  induction request.names with
  | nil => exact .nil
  | cons name names ih =>
    rw [List.map_cons, List.filterMap_cons, List.filterMap_cons, List.filterMap_cons, outcomeOf]
    cases schemaFor settings request.files name with
    | error e => exact ih.cons _
    | ok file =>
      simp only [Except.toOption, List.filterMap_cons]
      cases generated settings templates file with
      | failure f => exact List.perm_middle.trans (ih.cons f)
      | artifact | skipped => exact ih

/-! ### Accounts -/

/-- Every file is one artifact, one failure or one skip. -/
theorem length_outcomes (outcomes : List Outcome) :
    (outcomes.filterMap Outcome.artifact?).length + (outcomes.filterMap Outcome.failure?).length +
      outcomes.countP Outcome.isSkipped = outcomes.length := by
  induction outcomes with
  | nil => rfl
  | cons outcome outcomes ih =>
    rw [List.filterMap_cons, List.filterMap_cons, List.countP_cons, List.length_cons]
    cases outcome with
    | artifact a =>
      simp only [Outcome.artifact?, Outcome.failure?, Outcome.isSkipped, List.length_cons]
      simp only [Bool.false_eq_true, if_false]
      omega
    | failure f =>
      simp only [Outcome.artifact?, Outcome.failure?, Outcome.isSkipped, List.length_cons]
      simp only [Bool.false_eq_true, if_false]
      omega
    | skipped =>
      simp only [Outcome.artifact?, Outcome.failure?, Outcome.isSkipped, if_true]
      omega

/-- A schema file of a name comes from a descriptor of that name. -/
theorem descriptor_of_schemaFor {files : List Descriptor.File} {schema : Schema.File}
    (h : schemaFor settings files name = .ok schema) :
    ∃ file, files.find? (·.name == name) = some file ∧ schema.name = name ∧
      schema.services.length = file.services.length := by
  rw [schemaFor, Descriptor.schemaOf] at h
  cases hfind : files.find? (·.name == name) with
  | none =>
    rw [hfind] at h
    cases h
  | some file =>
    rw [hfind] at h
    obtain ⟨hname, -, -, hservices, -⟩ := Descriptor.File.resolves_of_toSchema h
    have hfound : (file.name == name) = true :=
      List.find?_some (p := fun f : Descriptor.File => f.name == name) hfind
    have hsame : file.name = name := beq_iff_eq.mp hfound
    exact ⟨file, rfl, hname.trans hsame, hservices⟩

/-- A failure tells of the file that was wanted. -/
theorem file_of_failure {files : List Descriptor.File} {f : Failure}
    (h : outcomeOf settings templates files name = .failure f) : f.file = name := by
  rw [outcomeOf] at h
  cases hschema : schemaFor settings files name with
  | error e =>
    rw [hschema] at h
    cases h
    rfl
  | ok schema =>
    rw [hschema] at h
    obtain ⟨_, -, hname, -⟩ := descriptor_of_schemaFor hschema
    simp only [generated] at h
    match hgen : (Adaptor.generateFile templates settings.options schema).value with
    | .ok none => rw [hgen] at h; cases h
    | .ok (some a) => rw [hgen] at h; cases h
    | .error cause =>
      rw [hgen] at h
      cases h
      exact hname

/-- A file that is skipped has no services. -/
theorem services_of_skipped {files : List Descriptor.File}
    (h : outcomeOf settings templates files name = .skipped) :
    ∃ file, files.find? (·.name == name) = some file ∧ file.services = [] := by
  rw [outcomeOf] at h
  cases hschema : schemaFor settings files name with
  | error e =>
    rw [hschema] at h
    cases h
  | ok schema =>
    rw [hschema] at h
    obtain ⟨file, hfind, -, hlength⟩ := descriptor_of_schemaFor hschema
    refine ⟨file, hfind, ?_⟩
    simp only [generated] at h
    match hgen : (Adaptor.generateFile templates settings.options schema).value with
    | .ok (some a) => rw [hgen] at h; cases h
    | .error cause => rw [hgen] at h; cases h
    | .ok none =>
      obtain ⟨hnone, -⟩ | ⟨-, a, hsome, -⟩ := Adaptor.generateFile_cases hgen
      · rw [Schema.File.hasServices, Bool.not_eq_false', List.isEmpty_iff] at hnone
        rw [hnone] at hlength
        exact List.length_eq_zero_iff.mp hlength.symm
      · cases hsome

/-! ### Answers -/

/-- The settings and the templates that a request is answered with. -/
def setup (tree : File.Tree) (settings : Settings) (parameter : String) :
    Except SetupError (Settings × TemplateSet) :=
  match settings.applyParameter parameter with
  | (_, .error e) => .error (.settings e)
  | (settings, .ok ()) =>
    (templatesFor tree settings).value.map fun templates => (settings, templates)

/-- Templates are taken from a folder kind by kind. -/
theorem value_loadKinds {folder : String} {source : TemplateKind → String}
    (h : ∀ kind, tree.readText (.ofText (File.join folder kind.fileName)) = .ok (source kind))
    (kinds : List TemplateKind) (set : TemplateSet) :
    (TemplateSet.loadKinds tree folder kinds set).value =
      .ok (kinds.foldl (fun set kind => set.withSource kind (source kind)) set) := by
  induction kinds generalizing set with
  | nil => rfl
  | cons kind kinds ih =>
    have hfile : tree.isFile (.ofText (File.join folder kind.fileName)) = true := by
      obtain ⟨bytes, hbytes, -⟩ := bind_eq_ok.mp (h kind)
      rw [File.Tree.isFile, hbytes]
      rfl
    rw [TemplateSet.loadKinds, if_pos hfile, h kind]
    exact ih _

/-- The templates of a folder that has one for each kind. -/
theorem value_ofFolder {folder : String} {source : TemplateKind → String}
    (h : ∀ kind, tree.readText (.ofText (File.join folder kind.fileName)) = .ok (source kind)) :
    (TemplateSet.ofFolder tree folder).value = .ok { source } := by
  rw [TemplateSet.ofFolder, value_loadKinds h]
  refine congrArg Except.ok (congrArg TemplateSet.mk (funext fun kind => ?_))
  cases kind <;> rfl

/-- The answer to a request, without the records that are made on the way. -/
def answer (tree : File.Tree) (settings : Settings) (control : Log.Control) (request : Request) :
    Response :=
  (process tree settings control request).value.2

/-- The report that an answer tells. -/
def reportOf (settings : Settings) (templates : TemplateSet) (request : Request) : Report :=
  (generateAll settings templates request).value

/-- Once the setup has gone well an answer tells a report. -/
theorem answer_of_setup {applied : Settings}
    (h : setup tree settings request.parameter = .ok (applied, templates)) :
    answer tree settings control request = .ofReport (reportOf applied templates request) := by
  rw [setup] at h
  rw [answer, process]
  match hparameter : settings.applyParameter request.parameter with
  | (_, .error e) =>
    rw [hparameter] at h
    cases h
  | (later, .ok ()) =>
    rw [hparameter] at h
    obtain ⟨found, hfound, hsame⟩ := map_eq_ok.mp h
    cases hsame
    simp only [Logged.value_bind, hfound, Logged.value_pure]
    rfl

/-- An answer tells an error exactly if its report has a failure. -/
theorem error?_ofReport (report : Report) :
    (Response.ofReport report).error?.isSome = true ↔ report.failures ≠ [] := by
  rw [Response.ofReport, Report.isSuccess]
  cases report.failures with
  | nil => simp
  | cons f rest => simp

/-- **A request for two lists of files is answered as the two of them are.** The artifacts are those of
the first and then those of the second; the failures are those of both; and there is an error exactly
if there is a failure. What becomes of each file is one artifact, one failure that tells of it, or
nothing if it has no services, and depends on no other file that is wanted. -/
theorem answer_append (control : Log.Control) (names₁ names₂ : List String) {applied : Settings}
    (hsetup : setup tree settings request.parameter = .ok (applied, templates))
    (hnames : request.names = names₁ ++ names₂) :
    let first : Request := { request with names := names₁ }
    let second : Request := { request with names := names₂ }
    let report := reportOf applied templates
    let outcome := outcomeOf applied templates request.files
    (∀ r ∈ [request, first, second], answer tree settings control r = .ofReport (report r) ∧
      ((answer tree settings control r).error?.isSome = true ↔ (report r).failures ≠ [])) ∧
    (answer tree settings control request).artifacts =
      (answer tree settings control first).artifacts ++
        (answer tree settings control second).artifacts ∧
    (report request).failures.Perm ((report first).failures ++ (report second).failures) ∧
    (report request).artifacts = request.names.filterMap (fun name => (outcome name).artifact?) ∧
    (report request).failures.Perm
      (request.names.filterMap fun name => (outcome name).failure?) ∧
    (report request).artifacts.length + (report request).failures.length +
      request.names.countP (fun name => (outcome name).isSkipped) = request.names.length ∧
    (∀ name f, outcome name = .failure f → f.file = name) ∧
    ∀ name, outcome name = .skipped →
      ∃ file, request.files.find? (·.name == name) = some file ∧ file.services = [] := by
  intro first second report outcome
  have hanswer : ∀ r : Request, r.parameter = request.parameter →
      answer tree settings control r = .ofReport (report r) := by
    intro r hr
    apply answer_of_setup
    rw [hr]
    exact hsetup
  have hfirst := hanswer first rfl
  have hsecond := hanswer second rfl
  have hwhole := hanswer request rfl
  have hartifacts : (report request).artifacts =
      (report first).artifacts ++ (report second).artifacts := by
    simp only [report, reportOf, artifacts_generateAll]
    rw [hnames, List.filterMap_append]
  have hfailures : (report request).failures.Perm
      ((report first).failures ++ (report second).failures) := by
    have hboth := failures_generateAll applied templates request
    rw [hnames, List.filterMap_append] at hboth
    exact hboth.trans ((failures_generateAll applied templates first).append
      (failures_generateAll applied templates second)).symm
  have haccount : (report request).artifacts.length + (report request).failures.length +
      request.names.countP (fun name => (outcome name).isSkipped) = request.names.length := by
    have hlength := length_outcomes (request.names.map outcome)
    rw [List.filterMap_map, List.filterMap_map, List.countP_map, List.length_map] at hlength
    have hf := (failures_generateAll applied templates request).length_eq
    simp only [report, reportOf, artifacts_generateAll, hf]
    exact hlength
  refine ⟨?_, ?_, hfailures, artifacts_generateAll _ _ _,
    failures_generateAll _ _ _, haccount, fun name f => file_of_failure, fun name => services_of_skipped⟩
  · intro r hr
    have hsame : r.parameter = request.parameter := by
      simp only [List.mem_cons, List.not_mem_nil, or_false] at hr
      rcases hr with rfl | rfl | rfl
      · rfl
      · rfl
      · rfl
    refine ⟨hanswer r hsame, ?_⟩
    rw [hanswer r hsame]
    exact error?_ofReport (report r)
  · rw [hwhole, hfirst, hsecond]
    exact hartifacts

/-- Templates that are empty but for two: artifacts tell their source, and for endpoints a name is
asked for that nothing is bound to. -/
def strayTemplates : TemplateSet where
  source
    | .file => "\x7b\x7bsource\x7d\x7d"
    | .endpoint => "\x7b\x7bnowhere\x7d\x7d"
    | _ => ""

/-- A folder with these templates. -/
def strayFolder : File.Tree where
  nodes := (["own"], .folder) :: TemplateKind.all.map fun kind =>
    (["own", kind.fileName], .file (Text.utf8 (strayTemplates.source kind)))

/-- A file with a method. -/
def lampDescriptor : Descriptor.File where
  name := "lamp.proto"
  package := "lamp"
  messages := [{ name := "On" }]
  services := [{
    name := "Lamp"
    methods := [{ name := "Switch", input := ".lamp.On", output := ".lamp.On" }] }]

/-- A request for that file, for one whose service has no method, for one that nobody has described and
for one without services. -/
def mixedRequest : Request where
  parameter := "templates=own"
  names := ["lamp.proto", "plain.proto", "absent.proto", "types.proto"]
  files := [lampDescriptor,
    { name := "plain.proto", package := "plain", services := [{ name := "Plain" }] },
    { name := "types.proto" }]

/-- The described file without a method has its artifact, though of the files around it one cannot be
made, one is absent and one is skipped. -/
theorem answer_of_mixed_request :
    setup strayFolder {} mixedRequest.parameter =
        .ok ({ templates? := some "own" }, strayTemplates) ∧
      mixedRequest.names = ["lamp.proto", "plain.proto"] ++ ["absent.proto", "types.proto"] ∧
      (answer strayFolder {} (.start none false) mixedRequest).artifacts =
        [{ name := "plain-bus-adaptor.rs", content := "plain.proto" }] ∧
      (reportOf { templates? := some "own" } strayTemplates mixedRequest).failures.Perm
        [{ file := "lamp.proto", cause := .template (.unbound "endpoint" "nowhere") },
          { file := "absent.proto", cause := .schema (.unresolvedType "absent.proto") }] ∧
      (answer strayFolder {} (.start none false) mixedRequest).error?.isSome = true := by
  have hparameter : ({} : Settings).applyParameter mixedRequest.parameter =
      ({ templates? := some "own" }, .ok ()) := by decide +kernel
  -- The settings of the request name the folder, from which all templates are read.
  have hfolder : (TemplateSet.ofFolder strayFolder "own").value = .ok strayTemplates := by
    refine value_ofFolder fun kind => ?_
    cases kind <;> decide +kernel
  have hsetup : setup strayFolder {} mixedRequest.parameter =
      .ok ({ templates? := some "own" }, strayTemplates) := by
    simp only [setup, hparameter, templatesFor, Logged.value_bind, Logged.value_pure, hfolder]
    rfl
  obtain ⟨hanswers, -, -, hartifacts, hfailures, -⟩ := answer_append (.start none false)
    ["lamp.proto", "plain.proto"] ["absent.proto", "types.proto"] hsetup rfl
  refine ⟨hsetup, rfl, ?_, ?_, ?_⟩
  · rw [(hanswers mixedRequest List.mem_cons_self).1]
    exact hartifacts.trans (by decide +kernel)
  · exact hfailures.trans (.of_eq (by decide +kernel))
  · rw [(hanswers mixedRequest List.mem_cons_self).2]
    intro hnone
    rw [hnone] at hfailures
    have hlength := hfailures.length_eq
    exact absurd hlength (by decide +kernel)
end ServiceBus.Plugin
