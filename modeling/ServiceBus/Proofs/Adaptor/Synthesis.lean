import ServiceBus.Adaptor.Report
import ServiceBus.Proofs.Descriptor.Conversion

/-! # When there is an artifact -/

namespace ServiceBus.Adaptor

variable {templates : TemplateSet} {options : Options} {file : Schema.File}
  {imports : Schema.ImportSet}

namespace Synthesis

variable {α β : Type}

/-- Two steps of a synthesis, without their records. -/
@[simp] theorem value_bind (x : Synthesis α) (f : α → Synthesis β) :
    (x >>= f).run.value = x.run.value >>= fun a => (f a).run.value := by
  show (x.run >>= fun r => (ExceptT.bindCont f r)).value = _
  rw [Logged.value_bind]
  cases x.run.value with
  | ok a => rfl
  | error e => rfl

/-- A value that is given. -/
@[simp] theorem value_pure (a : α) : (pure a : Synthesis α).run.value = .ok a := rfl

/-- A result that is taken over. -/
@[simp] theorem value_ofExcept (r : Except TemplateError α) : (ofExcept r).run.value = r := rfl

/-- A record makes nothing fail. -/
@[simp] theorem value_report (r : Log.Record) : (report r).run.value = .ok () := rfl

end Synthesis

/-- The synthesis of a file with services, without its records. -/
theorem value_synthesize (h : file.hasServices = true) :
    (synthesize templates options file imports).run.value = (do
      let parsed ← templates.parse
      let services ← (renderServices parsed imports file.services).run.value
      let content ← parsed.render .file (fileBindings options file imports services)
      return some { name := artifactName options file, content }) := by
  rw [synthesize, h, Bool.not_true, if_neg Bool.false_ne_true]
  simp only [Synthesis.value_bind, Synthesis.value_ofExcept, Synthesis.value_pure]
  rfl

/-- The artifact of a file, if there is one, is named after the file. -/
theorem exists_content_of_ok (h : file.hasServices = true) {artifact? : Option Artifact}
    (hmade : (synthesize templates options file imports).run.value = .ok artifact?) :
    ∃ content, artifact? = some { name := artifactName options file, content } := by
  rw [value_synthesize h] at hmade
  obtain ⟨parsed, -, hmade⟩ := bind_eq_ok.mp hmade
  obtain ⟨services, -, hmade⟩ := bind_eq_ok.mp hmade
  obtain ⟨content, -, hmade⟩ := bind_eq_ok.mp hmade
  cases hmade
  exact ⟨content, rfl⟩

/-- The generation of a file without services. -/
theorem generateFile_of_no_services (h : file.hasServices = false) :
    (generateFile templates options file).value = .ok none := by
  rw [generateFile, h, Bool.not_false, if_pos rfl, Logged.value_bind, Logged.value_pure]

/-- The generation of a file with services, without its records. -/
theorem value_generateFile (h : file.hasServices = true) :
    (generateFile templates options file).value =
      match (Schema.ImportSet.resolve file).value with
      | .error e => .error (.schema e)
      | .ok imports =>
        (synthesize templates options file imports).run.value.mapError .template := by
  rw [generateFile, h, Bool.not_true, if_neg Bool.false_ne_true, Logged.value_bind]
  cases (Schema.ImportSet.resolve file).value with
  | error e => rfl
  | ok imports => rfl

/-- **A generation that goes well** makes an artifact with the name of the file exactly if the file
has services. -/
theorem generateFile_cases {artifact? : Option Artifact}
    (h : (generateFile templates options file).value = .ok artifact?) :
    file.hasServices = false ∧ artifact? = none ∨
    file.hasServices = true ∧ ∃ a, artifact? = some a ∧ a.name = artifactName options file := by
  cases hservices : file.hasServices with
  | false =>
    rw [generateFile_of_no_services hservices] at h
    exact Or.inl ⟨rfl, (Except.ok.inj h).symm⟩
  | true =>
    refine Or.inr ⟨rfl, ?_⟩
    rw [value_generateFile hservices] at h
    split at h
    · cases h
    · rename_i imports _
      cases hmade : (synthesize templates options file imports).run.value with
      | error e =>
        rw [hmade] at h
        cases h
      | ok made =>
        obtain ⟨content, rfl⟩ := exists_content_of_ok hservices hmade
        rw [hmade] at h
        cases h
        exact ⟨_, rfl, rfl⟩

end ServiceBus.Adaptor
