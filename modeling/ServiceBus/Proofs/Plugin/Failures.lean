import ServiceBus.Proofs.Adaptor.Embedded
import ServiceBus.Proofs.Descriptor.Structure
import ServiceBus.Proofs.Plugin.Batch
import ServiceBus.Proofs.Schema.Imports

/-! # Which files fail

With the embedded templates, and with descriptors whose names are those of schemas, a file fails only
if nobody has described it or if it uses a type that nobody declares.

* `Fails`: why a file fails.
* `process_fails_iff`: the files that fail, and what the others have. -/

namespace ServiceBus

namespace Plugin

open Adaptor (Artifact Failure TemplateSet)

variable {tree : File.Tree} {settings applied : Settings} {templates : TemplateSet}
  {request : Request} {name : String} {files : List Descriptor.File} {file : Descriptor.File}

/-- A name that some file declares. -/
def Declares (files : List Descriptor.File) (name : String) : Prop :=
  ∃ file ∈ files, name ∈ file.fullNames

/-- Why a file fails: nobody has described it, or it uses a type that nobody declares. -/
inductive Fails (files : List Descriptor.File) (name : String) : Prop where
  | absent (h : files.find? (·.name == name) = none)
  | undeclared (file : Descriptor.File) (h : files.find? (·.name == name) = some file)
      (used : String) (use : used ∈ file.uses) (unknown : ¬ Declares files used)

/-- A setup without a folder of templates takes the embedded ones. Its settings have been checked. -/
theorem setup_embedded {parameter : String}
    (h : setup tree settings parameter = .ok (applied, templates))
    (hnone : applied.templates? = none) : templates = .embedded ∧ applied.check = .ok () := by
  rw [setup] at h
  rcases hparameter : settings.applyParameter parameter with ⟨later, e | ⟨⟩⟩
  · rw [hparameter] at h
    cases h
  · rw [hparameter] at h
    obtain ⟨found, hfound, hsame⟩ := map_eq_ok.mp h
    cases hsame
    refine ⟨?_, Settings.check_of_applyParameter hparameter⟩
    rw [templatesFor, hnone] at hfound
    exact (Except.ok.inj hfound).symm

/-- The schema file of a descriptor that uses declared types only. -/
theorem exists_schemaFor (settings : Settings)
    (hfind : files.find? (·.name == name) = some file)
    (huses : ∀ used ∈ file.uses, Declares files used) :
    ∃ schema, schemaFor settings files name = .ok schema := by
  rw [schemaFor, Descriptor.schemaOf, hfind]
  apply Descriptor.File.toSchema_of_knows
  intro used hused
  exact Descriptor.TypeIndex.knows_ofFiles.mpr (huses used hused)

/-- A descriptor that uses a type which nobody declares has no schema file. -/
theorem declares_of_schemaFor {schema : Schema.File}
    (h : schemaFor settings files name = .ok schema)
    (hfind : files.find? (·.name == name) = some file) : ∀ used ∈ file.uses, Declares files used := by
  rw [schemaFor, Descriptor.schemaOf, hfind] at h
  obtain ⟨-, -, -, -, hresolves⟩ := Descriptor.File.resolves_of_toSchema h
  intro used hused
  exact Descriptor.TypeIndex.knows_ofFiles.mp (hresolves.knows used hused)

/-- **What becomes of a file that uses declared types only**: it has an artifact named after it if it
has services, and is skipped if it has none. -/
theorem outcomeOf_of_declares (hsettings : settings.check = .ok ())
    (hnamed : ∀ file ∈ files, file.IsNamed) (hfind : files.find? (·.name == name) = some file)
    (huses : ∀ used ∈ file.uses, Declares files used) :
    file.services ≠ [] ∧ (∃ content, outcomeOf settings .embedded files name =
      .artifact { name := Descriptor.stem name ++ "-" ++ settings.suffix, content }) ∨
    file.services = [] ∧ outcomeOf settings .embedded files name = .skipped := by
  have hvalid := Settings.valid_modules hsettings
  obtain ⟨schema, hschema⟩ := exists_schemaFor settings hfind huses
  have htoSchema := hschema
  rw [schemaFor, Descriptor.schemaOf, hfind] at htoSchema
  obtain ⟨-, hstem, hmodule, hlength, hresolves⟩ :=
    Descriptor.File.resolves_of_toSchema htoSchema
  have hname : file.name = name := by
    have hfound : (file.name == name) = true :=
      List.find?_some (p := fun f : Descriptor.File => f.name == name) hfind
    exact beq_iff_eq.mp hfound
  rw [outcomeOf, hschema]
  by_cases hservices : file.services = []
  · refine Or.inr ⟨hservices, ?_⟩
    have hnone : schema.hasServices = false := by
      rw [hservices] at hlength
      rw [Schema.File.hasServices, List.length_eq_zero_iff.mp hlength]
      rfl
    show generated settings .embedded schema = .skipped
    rw [generated, Adaptor.generateFile_of_no_services hnone]
    rfl
  · refine Or.inl ⟨hservices, ?_⟩
    have hsome : schema.hasServices = true := by
      rw [Schema.File.hasServices, Bool.not_eq_true', List.isEmpty_eq_false_iff]
      intro hempty
      rw [hempty] at hlength
      exact hservices (List.length_eq_zero_iff.mp hlength.symm)
    -- Every type of the file comes from the index, so its path can be written.
    have hrefs : ∀ ty ∈ schema.typeRefs, ty.check = .ok () := by
      intro ty hty
      obtain ⟨used, hused⟩ := hresolves.mem hty
      exact Descriptor.TypeIndex.check_of_types hvalid hnamed hused
    have hpath : Schema.checkModulePath schema.module = .ok () := by
      rw [hmodule]
      exact ModuleMap.checkModulePath_moduleFor hvalid
        (hnamed file (List.mem_of_find?_eq_some hfind)).package
    obtain ⟨imports, himports⟩ := Schema.ImportSet.exists_resolve hpath hrefs
    obtain ⟨content, hcontent⟩ :=
      Adaptor.exists_synthesize_embedded settings.options imports hsome
    refine ⟨content, ?_⟩
    show generated settings .embedded schema = _
    rw [generated, Adaptor.value_generateFile hsome, himports]
    simp only [hcontent, Except.mapError, Outcome.ofGeneration, Adaptor.artifactName, hstem, hname]
    rfl

/-- **A file fails exactly if there is a reason**: it is absent or uses a type that nobody declares. -/
theorem outcomeOf_failure_iff (hsettings : settings.check = .ok ())
    (hnamed : ∀ file ∈ files, file.IsNamed) :
    (∃ f, outcomeOf settings .embedded files name = .failure f) ↔ Fails files name := by
  constructor
  · rintro ⟨f, hf⟩
    cases hfind : files.find? (·.name == name) with
    | none => exact .absent hfind
    | some file =>
      by_cases huses : ∀ used ∈ file.uses, Declares files used
      · -- Otherwise there would be an artifact or a skip.
        rcases outcomeOf_of_declares hsettings hnamed hfind huses with ⟨-, content, h⟩ | ⟨-, h⟩
        · rw [h] at hf
          cases hf
        · rw [h] at hf
          cases hf
      · rw [not_forall] at huses
        obtain ⟨used, hused⟩ := huses
        rw [Classical.not_imp] at hused
        exact .undeclared file hfind used hused.1 hused.2
  · intro h
    cases hschema : schemaFor settings files name with
    | error e => exact ⟨_, by rw [outcomeOf, hschema]⟩
    | ok schema =>
      cases h with
      | absent hfind =>
        obtain ⟨file, hsome, -⟩ := descriptor_of_schemaFor hschema
        rw [hfind] at hsome
        cases hsome
      | undeclared file hfind used use unknown =>
        exact absurd (declares_of_schemaFor hschema hfind used use) unknown

/-- A file that was asked for has a failure in the report if its outcome is one. -/
theorem mem_failures_iff (hname : name ∈ request.names) :
    (∃ f ∈ (reportOf applied templates request).failures, f.file = name) ↔
      ∃ f, outcomeOf applied templates request.files name = .failure f := by
  have hperm := failures_generateAll applied templates request
  constructor
  · rintro ⟨f, hf, hfile⟩
    obtain ⟨wanted, -, houtcome⟩ := List.mem_filterMap.mp (hperm.mem_iff.mp hf)
    cases hwanted : outcomeOf applied templates request.files wanted with
    | artifact | skipped =>
      rw [hwanted] at houtcome
      cases houtcome
    | failure found =>
      rw [hwanted] at houtcome
      cases houtcome
      rw [← file_of_failure hwanted, hfile] at hwanted
      exact ⟨f, hwanted⟩
  · rintro ⟨f, hf⟩
    refine ⟨f, hperm.mem_iff.mpr (List.mem_filterMap.mpr ⟨name, hname, ?_⟩), file_of_failure hf⟩
    rw [hf]
    rfl

/-- **No file fails without a reason.** Without a folder of templates, and if packages, messages and
enumerations have names as schemas do: a file that is asked for fails exactly if nobody has described
it or if one of its fields, at any depth, or one of its unary methods has a type that no file of the
request declares. Every other file has one artifact, named after it, if it has services, and is
passed over if it has none. -/
theorem process_fails_iff (control : Log.Control)
    (hsetup : setup tree settings request.parameter = .ok (applied, templates))
    (htemplates : applied.templates? = none) (hnamed : ∀ file ∈ request.files, file.IsNamed) :
    answer tree settings control request = .ofReport (reportOf applied templates request) ∧
    (reportOf applied templates request).artifacts = request.names.filterMap (fun name =>
      (outcomeOf applied templates request.files name).artifact?) ∧
    ∀ name ∈ request.names,
      ((∃ f ∈ (reportOf applied templates request).failures, f.file = name) ↔
        Fails request.files name) ∧
      (¬ Fails request.files name →
        ∃ file, request.files.find? (·.name == name) = some file ∧
          (file.services ≠ [] → ∃ content, outcomeOf applied templates request.files name =
            .artifact { name := Descriptor.stem name ++ "-" ++ applied.suffix, content }) ∧
          (file.services = [] →
            outcomeOf applied templates request.files name = .skipped)) := by
  obtain ⟨rfl, hsettings⟩ := setup_embedded hsetup htemplates
  refine ⟨answer_of_setup hsetup, artifacts_generateAll _ _ _, ?_⟩
  intro name hname
  refine ⟨(mem_failures_iff hname).trans (outcomeOf_failure_iff hsettings hnamed), ?_⟩
  intro hfine
  cases hfind : request.files.find? (·.name == name) with
  | none => exact absurd (.absent hfind) hfine
  | some file =>
    have huses : ∀ used ∈ file.uses, Declares request.files used := by
      intro used hused
      by_contra hunknown
      exact hfine (.undeclared file hfind used hused hunknown)
    refine ⟨file, rfl, ?_⟩
    rcases outcomeOf_of_declares hsettings hnamed hfind huses with ⟨hsome, h⟩ | ⟨hnone, h⟩
    · exact ⟨fun _ => h, fun hnone => absurd hnone hsome⟩
    · exact ⟨fun hsome => absurd hnone hsome, fun _ => h⟩

/-- A file whose package, message and enumeration are spelled like reserved words. -/
def reservedFile : Descriptor.File where
  name := "type.proto"
  package := "crate.type"
  messages := [{
    name := "Self"
    fields := [{ name := "mode", kind := .enumeration, typeName := ".crate.type.Self.Mod" }]
    enums := ["Mod"] }]
  services := [{
    name := "Echo"
    methods := [{ name := "Call", input := ".crate.type.Self", output := ".crate.type.Self" }] }]

/-- A request for that file and for one that nobody has described. -/
def reservedRequest : Request where
  names := ["type.proto", "absent.proto"]
  files := [reservedFile]

/-- Reserved words do no harm: the file has its artifact, and only the absent one fails. -/
theorem reservedRequest_fails :
    setup {} {} reservedRequest.parameter = .ok ({}, .embedded) ∧
      (∃ content, outcomeOf {} .embedded reservedRequest.files "type.proto" =
        .artifact { name := "type-bus-adaptor.rs", content }) ∧
      ∃ f ∈ (reportOf {} .embedded reservedRequest).failures, f.file = "absent.proto" := by
  have hsetup : setup {} {} reservedRequest.parameter = .ok ({}, .embedded) := rfl
  have hpackage : ∀ part ∈ Text.splitChars (· == '.') reservedFile.package.toList, part ≠ [] →
      Name.isSchemaName part = true := by decide
  have hnames : ∀ name ∈ Descriptor.namesOf reservedFile.messages ++ reservedFile.enums,
      Name.isSchemaName name.toList = true := by decide
  have hnamed : ∀ file ∈ reservedRequest.files, file.IsNamed := by
    intro file hfile
    rw [List.mem_singleton.mp hfile]
    exact ⟨hpackage, hnames⟩
  have hfind : reservedRequest.files.find? (·.name == "type.proto") = some reservedFile := rfl
  have huses : ∀ used ∈ reservedFile.uses, used ∈ reservedFile.fullNames := by decide
  have hfine : ¬ Fails reservedRequest.files "type.proto" := by
    intro h
    cases h with
    | absent h => cases h
    | undeclared file h used use unknown =>
      cases h
      exact unknown ⟨reservedFile, List.mem_singleton_self _, huses used use⟩
  obtain ⟨-, -, hall⟩ := process_fails_iff (.start none false) hsetup rfl hnamed
  obtain ⟨file, hsome, hartifact, -⟩ := (hall "type.proto" (by decide)).2 hfine
  refine ⟨hsetup, ?_, ?_⟩
  · have hname : Descriptor.stem "type.proto" ++ "-" ++ ({} : Settings).suffix =
        "type-bus-adaptor.rs" := by decide +kernel
    cases hsome
    rw [← hname]
    exact hartifact (List.cons_ne_nil _ _)
  · exact (hall "absent.proto" (by decide)).1.mpr (.absent rfl)

end Plugin

end ServiceBus
