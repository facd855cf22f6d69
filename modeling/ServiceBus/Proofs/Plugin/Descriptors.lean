import ServiceBus.Proofs.Descriptor.Growth
import ServiceBus.Proofs.Plugin.Batch

/-! # The descriptors of a request

A request comes with the descriptors of all files that the wanted ones use. Their order does not
matter as long as names are not given twice, and further descriptors matter only to what failed for
the want of them.

* `Concerns`: a failure for the want of a descriptor.
* `answer_of_descriptors`: answers to requests with descriptors in another order, and with further
  ones. -/

namespace ServiceBus.Plugin

open Adaptor (Artifact Failure TemplateSet)
open Descriptor (Stays)

variable {tree : File.Tree} {settings applied : Settings} {control : Log.Control}
  {templates : TemplateSet} {request : Request} {name : String}
  {files added files' : List Descriptor.File}

/-- **A failure for the want of descriptors**: of a file that uses a type which one of them declares,
or of a file that one of them describes. -/
def Concerns (added : List Descriptor.File) (f : Failure) : Prop :=
  ∃ name, f.cause = .schema (.unresolvedType name) ∧
    (name ∈ added.flatMap Descriptor.File.fullNames ∨
      name = f.file ∧ name ∈ added.map Descriptor.File.name)

/-- Whether descriptors can stand beside others: files and types have other names. -/
def Fresh (added files : List Descriptor.File) : Prop :=
  ∀ file ∈ added, file.name ∉ files.map Descriptor.File.name ∧
    ∀ name ∈ file.fullNames, name ∉ files.flatMap Descriptor.File.fullNames

section Added

variable (hnames : (files.map Descriptor.File.name).Nodup)
  (htypes : (files.flatMap Descriptor.File.fullNames).Nodup) (hfresh : Fresh added files)
  (hperm : files'.Perm (files ++ added))

include hnames htypes hfresh hperm

/-- The schema file of a name. -/
theorem stays_schemaFor (settings : Settings) (name : String) :
    Stays (fun unknown => unknown ∈ added.flatMap Descriptor.File.fullNames ∨
        unknown = name ∧ unknown ∈ added.map Descriptor.File.name)
      (schemaFor settings files name) (schemaFor settings files' name) := by
  have hmem : ∀ file, file ∈ files' ↔ file ∈ files ∨ file ∈ added :=
    fun file => hperm.mem_iff.trans List.mem_append
  rw [schemaFor, schemaFor, Descriptor.schemaOf, Descriptor.schemaOf]
  by_cases hadded : name ∈ added.map Descriptor.File.name
  · -- No descriptor had this name before.
    refine Or.inr ⟨name, Or.inr ⟨rfl, hadded⟩, ?_⟩
    obtain ⟨file, hfile, rfl⟩ := List.mem_map.mp hadded
    have hnone : files.find? (·.name == file.name) = none := by
      rw [List.find?_eq_none]
      intro old hold hsame
      exact (hfresh file hfile).1 (beq_iff_eq.mp hsame ▸ List.mem_map_of_mem hold)
    rw [hnone]
    rfl
  · rw [Descriptor.find?_of_added hnames hmem hadded]
    cases files.find? (·.name == name) with
    | none => exact .refl _
    | some file =>
      have hnew : ∀ name ∈ added.flatMap Descriptor.File.fullNames,
          name ∉ files.flatMap Descriptor.File.fullNames := by
        intro name hname
        obtain ⟨file, hfile, hname⟩ := List.mem_flatMap.mp hname
        exact (hfresh file hfile).2 name hname
      have hgrows := Descriptor.TypeIndex.grows_ofFiles settings.modules htypes hnew hmem
      exact (Descriptor.File.stays_toSchema hgrows settings.modules file).mono fun _ => Or.inl

/-- **What becomes of a file** stays as it is, unless it failed for the want of a descriptor. -/
theorem outcomeOf_of_added (settings : Settings) (templates : TemplateSet) (name : String) :
    outcomeOf settings templates files' name = outcomeOf settings templates files name ∨
      ∃ f, outcomeOf settings templates files name = .failure f ∧ Concerns added f := by
  rw [outcomeOf, outcomeOf]
  rcases stays_schemaFor hnames htypes hfresh hperm settings name with heq | ⟨unknown, hnew, heq⟩
  · exact Or.inl (by rw [heq])
  · rw [heq]
    exact Or.inr ⟨_, rfl, unknown, rfl, hnew⟩

end Added

/-! ### Reports -/

/-- A report depends on the schema files of the names that are wanted. -/
theorem reportOf_congr (h : ∀ name ∈ request.names,
      schemaFor settings files' name = schemaFor settings request.files name) :
    reportOf settings templates { request with files := files' } =
      reportOf settings templates request := by
  have hsame : conversions settings { request with files := files' } =
      conversions settings request :=
    List.map_congr_left fun name hname => congrArg (Prod.mk name) (h name hname)
  rw [reportOf, reportOf, value_generateAll, value_generateAll, hsame]

/-- A failure is reported if it is what becomes of a file that is wanted. -/
theorem mem_failures {f : Failure} : f ∈ (reportOf settings templates request).failures ↔
    ∃ name ∈ request.names, outcomeOf settings templates request.files name = .failure f := by
  rw [reportOf, (failures_generateAll settings templates request).mem_iff, List.mem_filterMap]
  refine exists_congr fun name => and_congr_right fun _ => ?_
  cases outcomeOf settings templates request.files name with
  | artifact a | skipped => simp [Outcome.failure?]
  | failure f => simp [Outcome.failure?]

/-- What is left out of a list need not be left out of another one. -/
theorem sublist_filterMap {α β : Type} {f f' : α → Option β} {as : List α}
    (h : ∀ a ∈ as, f' a = f a ∨ f a = none) : (as.filterMap f).Sublist (as.filterMap f') := by
  induction as with
  | nil => exact .refl _
  | cons a as ih =>
    have hrest := ih fun b hb => h b (List.mem_cons_of_mem a hb)
    rw [List.filterMap_cons, List.filterMap_cons]
    rcases h a List.mem_cons_self with heq | hnone
    · rw [heq]
      cases f a with
      | none => exact hrest
      | some b => exact hrest.cons_cons b
    · rw [hnone]
      cases f' a with
      | none => exact hrest
      | some b => exact hrest.cons b

section Requests

variable (hnames : (request.files.map Descriptor.File.name).Nodup)
  (htypes : (request.files.flatMap Descriptor.File.fullNames).Nodup)
  (hfresh : Fresh added request.files) (hperm : files'.Perm (request.files ++ added))

include hnames htypes hfresh hperm

/-- **A report stays as it is** if nothing failed for the want of the descriptors that are added. -/
theorem reportOf_of_added
    (h : ∀ f ∈ (reportOf settings templates request).failures, ¬ Concerns added f) :
    reportOf settings templates { request with files := files' } =
      reportOf settings templates request := by
  refine reportOf_congr fun name hname => ?_
  rcases stays_schemaFor hnames htypes hfresh hperm settings name with heq | ⟨unknown, hnew, heq⟩
  · exact heq
  · have hfails : outcomeOf settings templates request.files name =
        .failure { file := name, cause := .schema (.unresolvedType unknown) } := by
      rw [outcomeOf, heq]
    exact absurd ⟨unknown, rfl, hnew⟩ (h _ (mem_failures.mpr ⟨name, hname, hfails⟩))

/-- The artifacts of a report are among those with further descriptors, in the same order. -/
theorem artifacts_of_added : (reportOf settings templates request).artifacts.Sublist
    (reportOf settings templates { request with files := files' }).artifacts := by
  rw [reportOf, reportOf, artifacts_generateAll, artifacts_generateAll]
  refine sublist_filterMap fun name _ => ?_
  rcases outcomeOf_of_added hnames htypes hfresh hperm settings templates name with
    heq | ⟨f, hf, -⟩
  · exact Or.inl (congrArg Outcome.artifact? heq)
  · exact Or.inr (congrArg Outcome.artifact? hf)

end Requests

/-! ### Answers -/

/-- A request that cannot be started on is answered with the reason. -/
theorem answer_of_setup_error {e : SetupError}
    (h : setup tree settings request.parameter = .error e) :
    answer tree settings control request = .ofSetupError e := by
  rw [setup] at h
  rw [answer, process]
  rcases hparameter : settings.applyParameter request.parameter with ⟨later, cause | ⟨⟩⟩
  · rw [hparameter] at h
    cases h
    rfl
  · rw [hparameter] at h
    cases htemplates : (templatesFor tree later).value with
    | ok found =>
      simp only [htemplates] at h
      cases h
    | error cause =>
      simp only [htemplates] at h
      cases h
      simp only [Logged.value_bind, htemplates]
      rfl

/-- **The order of descriptors does not matter, and further ones do no harm.** If the descriptors of a
request have different names and declare different types, then the answer is the same with these
descriptors in any other order. With further descriptors anywhere among them, that have other names
and declare other types: a request that could not be started on has the same answer; otherwise every
file has what it had, an artifact, a failure or nothing, unless it failed because it uses a type that a
further descriptor declares, or is described by one only. So all artifacts are still there, in the same
order, and all other failures; and nothing changes at all if nothing failed in such a way. -/
theorem answer_of_descriptors (tree : File.Tree) (settings : Settings) (control : Log.Control)
    (hnames : (request.files.map Descriptor.File.name).Nodup)
    (htypes : (request.files.flatMap Descriptor.File.fullNames).Nodup) :
    (∀ files', files'.Perm request.files →
      answer tree settings control { request with files := files' } =
        answer tree settings control request) ∧
    ∀ added files', Fresh added request.files → files'.Perm (request.files ++ added) →
      let request' : Request := { request with files := files' }
      (∀ e, setup tree settings request.parameter = .error e →
        answer tree settings control request' = answer tree settings control request) ∧
      ∀ applied templates, setup tree settings request.parameter = .ok (applied, templates) →
        let report := reportOf applied templates request
        let report' := reportOf applied templates request'
        answer tree settings control request = .ofReport report ∧
        answer tree settings control request' = .ofReport report' ∧
        (∀ name ∈ request.names,
          outcomeOf applied templates files' name =
              outcomeOf applied templates request.files name ∨
            ∃ f ∈ report.failures, f.file = name ∧ Concerns added f ∧
              outcomeOf applied templates request.files name = .failure f) ∧
        report.artifacts.Sublist report'.artifacts ∧
        (∀ f ∈ report.failures, ¬ Concerns added f → f ∈ report'.failures) ∧
        (∀ f ∈ report'.failures, f ∈ report.failures ∨
          ∃ earlier ∈ report.failures, earlier.file = f.file ∧ Concerns added earlier) ∧
        ((∀ f ∈ report.failures, ¬ Concerns added f) → report' = report) := by
  have hstays : ∀ added files', Fresh added request.files → files'.Perm (request.files ++ added) →
      ∀ applied templates, ∀ name ∈ request.names,
        outcomeOf applied templates files' name = outcomeOf applied templates request.files name ∨
          ∃ f ∈ (reportOf applied templates request).failures, f.file = name ∧ Concerns added f ∧
            outcomeOf applied templates request.files name = .failure f := by
    intro added files' hfresh hperm applied templates name hname
    refine (outcomeOf_of_added hnames htypes hfresh hperm applied templates name).imp_right ?_
    rintro ⟨f, hf, hconcerns⟩
    exact ⟨f, mem_failures.mpr ⟨name, hname, hf⟩, file_of_failure hf, hconcerns, hf⟩
  refine ⟨fun files' hperm => ?_, fun added files' hfresh hperm => ⟨fun e he => ?_, ?_⟩⟩
  · have hfresh : Fresh [] request.files := fun file hfile => absurd hfile List.not_mem_nil
    rw [← List.append_nil request.files] at hperm
    cases hsetup : setup tree settings request.parameter with
    | error e =>
      have hsetup' : setup tree settings ({ request with files := files' } : Request).parameter =
        .error e := hsetup
      rw [answer_of_setup_error hsetup, answer_of_setup_error hsetup']
    | ok found =>
      obtain ⟨applied, templates⟩ := found
      have hsetup' : setup tree settings ({ request with files := files' } : Request).parameter =
        .ok (applied, templates) := hsetup
      rw [answer_of_setup hsetup, answer_of_setup hsetup',
        reportOf_of_added hnames htypes hfresh hperm]
      rintro f - ⟨name, -, hname | ⟨-, hname⟩⟩
      · exact absurd hname List.not_mem_nil
      · exact absurd hname List.not_mem_nil
  · have he' : setup tree settings ({ request with files := files' } : Request).parameter =
      .error e := he
    rw [answer_of_setup_error he, answer_of_setup_error he']
  · intro applied templates hsetup report report'
    have hkept := hstays added files' hfresh hperm applied templates
    refine ⟨answer_of_setup hsetup, answer_of_setup hsetup, hkept,
      artifacts_of_added hnames htypes hfresh hperm, fun f hf hother => ?_, fun f hf => ?_,
      reportOf_of_added hnames htypes hfresh hperm⟩
    · obtain ⟨name, hname, houtcome⟩ := mem_failures.mp hf
      refine mem_failures.mpr ⟨name, hname, ?_⟩
      rcases hkept name hname with heq | ⟨f', -, -, hconcerns, hf'⟩
      · exact heq.trans houtcome
      · rw [houtcome] at hf'
        cases hf'
        exact absurd hconcerns hother
    · obtain ⟨name, hname, houtcome⟩ := mem_failures.mp hf
      rcases hkept name hname with heq | ⟨earlier, hearlier, hfile, hconcerns, -⟩
      · exact Or.inl (mem_failures.mpr ⟨name, hname, heq.symm.trans houtcome⟩)
      · exact Or.inr ⟨earlier, hearlier, hfile.trans (file_of_failure houtcome).symm, hconcerns⟩

/-- A request with the descriptors of a shop and of what it sells, in this order. The shop uses a type
that neither of them declares, and a third file is not described. -/
def shopRequest : Request where
  names := ["goods.proto", "shop.proto", "people.proto"]
  files := [
    { name := "shop.proto", package := "shop",
      messages := [{
        name := "Order"
        fields := [{ name := "item", kind := .message, typeName := ".goods.Item" },
          { name := "buyer", kind := .message, typeName := ".people.Person" }] }] },
    { name := "goods.proto", package := "goods", messages := [{ name := "Item" }],
      services := [{
        name := "Store"
        methods := [{ name := "Take", input := ".goods.Item", output := ".goods.Item" }] }] }]

/-- The descriptor that is missing there. -/
def peopleFile : Descriptor.File where
  name := "people.proto"
  package := "people"
  messages := [{ name := "Person" }]

/-- The descriptors of the shop may come in the other order. With the missing one in front of them the
artifact of the goods is still there, and all that can go away are the two failures for the want of
it. -/
theorem answer_of_descriptors_shop :
    answer {} {} (.start none false) { shopRequest with files := shopRequest.files.reverse } =
      answer {} {} (.start none false) shopRequest ∧
    (reportOf {} .embedded shopRequest).artifacts.Sublist
      (reportOf {} .embedded { shopRequest with files := peopleFile :: shopRequest.files }).artifacts ∧
    ∀ f ∈ (reportOf {} .embedded shopRequest).failures, ¬ Concerns [peopleFile] f →
      f ∈ (reportOf {} .embedded
        { shopRequest with files := peopleFile :: shopRequest.files }).failures := by
  have hnames : (shopRequest.files.map Descriptor.File.name).Nodup := by decide
  have htypes : (shopRequest.files.flatMap Descriptor.File.fullNames).Nodup := by decide
  have hfresh : Fresh [peopleFile] shopRequest.files := by
    intro file hfile
    rw [List.mem_singleton.mp hfile]
    exact ⟨by decide, by decide⟩
  obtain ⟨horder, hadded⟩ := answer_of_descriptors {} {} (.start none false) hnames htypes
  obtain ⟨-, hreports⟩ := hadded [peopleFile] (peopleFile :: shopRequest.files) hfresh
    (List.perm_append_singleton peopleFile shopRequest.files).symm
  obtain ⟨-, -, -, hartifacts, hfailures, -⟩ := hreports {} .embedded rfl
  exact ⟨horder _ (List.reverse_perm _), hartifacts, hfailures⟩

end ServiceBus.Plugin
