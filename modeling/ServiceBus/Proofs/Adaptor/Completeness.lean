import ServiceBus.Proofs.Adaptor.Rendering
import ServiceBus.Proofs.Adaptor.Synthesis

/-! # Which templates suffice

The names that placeholders may have are fixed for each kind of template. Whether an artifact can be
made depends on them alone, whatever the names, the types and the documentation are that it is made
for.

* `boundNames`: the names that are bound for a kind of template.
* `TemplateSet.parse_eq_ok`: a set is read template by template.
* `ParsedTemplates.exists_renderServices_iff`: when the code for services is made.
* `synthesize_succeeds_iff`: when there is an artifact. -/

namespace ServiceBus

/-- A service of the file has a method. -/
def Schema.File.HasMethods (file : Schema.File) : Prop :=
  ∃ service ∈ file.services, service.methods ≠ []

namespace Adaptor

open Schema (ImportSet Method Service)

/-- What is bound for each kind of template. -/
def boundNames : TemplateKind → List String
  | .file => ["generator", "source", "imports", "services"]
  | .service => ["service", "service_snake", "service_lower", "service_docs", "server_methods",
      "endpoints", "handlers", "client_methods"]
  | .serverMethod | .endpoint | .handler | .clientMethod => ["service", "method", "method_fn",
      "method_snake", "handler", "input", "output", "docs", "description"]

/-- The kinds of templates that are rendered for each method. -/
def methodKinds : List TemplateKind := [.serverMethod, .endpoint, .handler, .clientMethod]

/-- Two steps can be taken if the first can and the second can after it. -/
theorem exists_bind_iff {ε α β : Type} {x : Except ε α} {f : α → Except ε β} :
    (∃ b, (x >>= f) = .ok b) ↔ ∃ a, x = .ok a ∧ ∃ b, f a = .ok b := by
  simp only [bind_eq_ok]
  constructor
  · rintro ⟨b, a, ha, hb⟩
    exact ⟨a, ha, b, hb⟩
  · rintro ⟨a, ha, b, hb⟩
    exact ⟨b, a, ha, hb⟩

/-! ### Reading a set -/

/-- **A set is read** if the template of every kind is. -/
theorem TemplateSet.parse_eq_ok {set : TemplateSet} {parsed : ParsedTemplates} :
    set.parse = .ok parsed ↔ ∀ kind, set.parseKind kind = .ok (parsed.template kind) := by
  constructor
  · intro h
    unfold TemplateSet.parse at h
    obtain ⟨file, hfile, h⟩ := bind_eq_ok.mp h
    obtain ⟨service, hservice, h⟩ := bind_eq_ok.mp h
    obtain ⟨serverMethod, hserver, h⟩ := bind_eq_ok.mp h
    obtain ⟨endpoint, hendpoint, h⟩ := bind_eq_ok.mp h
    obtain ⟨handler, hhandler, h⟩ := bind_eq_ok.mp h
    obtain ⟨clientMethod, hclient, h⟩ := bind_eq_ok.mp h
    cases h
    intro kind
    cases kind <;> assumption
  · intro h
    obtain ⟨template⟩ := parsed
    unfold TemplateSet.parse
    rw [h .file, h .service, h .serverMethod, h .endpoint, h .handler, h .clientMethod]
    refine congrArg (fun f => Except.ok (ParsedTemplates.mk f)) ?_
    funext kind
    cases kind <;> rfl

/-- A set can be read if the template of every kind can. -/
theorem TemplateSet.exists_parse_iff {set : TemplateSet} :
    (∃ parsed, set.parse = .ok parsed) ↔ ∀ kind, ∃ t, set.parseKind kind = .ok t := by
  simp only [parse_eq_ok]
  constructor
  · rintro ⟨parsed, hparsed⟩ kind
    exact ⟨_, hparsed kind⟩
  · intro h
    choose template htemplate using h
    exact ⟨⟨template⟩, htemplate⟩

namespace ParsedTemplates

variable {parsed : ParsedTemplates} {imports : ImportSet} {service : Service}

/-- The template of a kind asks for nothing but what is bound for it. -/
def Complete (parsed : ParsedTemplates) (kind : TemplateKind) : Prop :=
  ∀ p ∈ (parsed.template kind).placeholders, p ∈ boundNames kind

/-- A template is rendered with what is bound for its kind exactly if it is complete. -/
theorem exists_render_iff {kind : TemplateKind} {bindings : Bindings}
    (hbound : bindings.map Prod.fst = boundNames kind) :
    (∃ s, parsed.render kind bindings = .ok s) ↔ parsed.Complete kind := by
  unfold ParsedTemplates.render Complete
  rw [Template.exists_render_iff, hbound]

/-! ### Rendering -/

/-- **The code for a method** can be made if the templates for methods are complete. -/
theorem exists_renderMethod_iff (imports : ImportSet) (service : Service) (method : Method) :
    (∃ code, renderMethod parsed (methodBindings imports service method) = .ok code) ↔
      ∀ kind ∈ methodKinds, parsed.Complete kind := by
  have hrender : ∀ kind ∈ methodKinds,
      ((∃ s, parsed.render kind (methodBindings imports service method) = .ok s) ↔
        parsed.Complete kind) := by
    intro kind hkind
    apply exists_render_iff
    simp only [methodKinds, List.mem_cons, List.not_mem_nil, or_false] at hkind
    rcases hkind with rfl | rfl | rfl | rfl <;> rfl
  unfold renderMethod
  simp only [exists_bind_iff]
  constructor
  · rintro ⟨server, hserver, endpoint, hendpoint, handler, hhandler, client, hclient, -⟩ kind hkind
    rw [← hrender kind hkind]
    simp only [methodKinds, List.mem_cons, List.not_mem_nil, or_false] at hkind
    rcases hkind with rfl | rfl | rfl | rfl
    exacts [⟨_, hserver⟩, ⟨_, hendpoint⟩, ⟨_, hhandler⟩, ⟨_, hclient⟩]
  · intro h
    have hsome : ∀ kind ∈ methodKinds,
        ∃ s, parsed.render kind (methodBindings imports service method) = .ok s :=
      fun kind hkind => (hrender kind hkind).mpr (h kind hkind)
    obtain ⟨server, hserver⟩ := hsome .serverMethod (by decide)
    obtain ⟨endpoint, hendpoint⟩ := hsome .endpoint (by decide)
    obtain ⟨handler, hhandler⟩ := hsome .handler (by decide)
    obtain ⟨client, hclient⟩ := hsome .clientMethod (by decide)
    exact ⟨server, hserver, endpoint, hendpoint, handler, hhandler, client, hclient, _, rfl⟩

/-- **The code for methods** can be made if there are none or the templates are complete. -/
theorem exists_renderMethods_iff (imports : ImportSet) (service : Service) (methods : List Method) :
    (∃ code, (renderMethods parsed imports service methods).run.value = .ok code) ↔
      (methods ≠ [] → ∀ kind ∈ methodKinds, parsed.Complete kind) := by
  induction methods with
  | nil => simp [renderMethods]
  | cons method methods ih =>
    unfold renderMethods
    simp only [Synthesis.value_bind, Synthesis.value_report, Synthesis.value_ofExcept,
      Synthesis.value_pure, exists_bind_iff]
    constructor
    · rintro ⟨-, -, code, hcode, -⟩ -
      exact (exists_renderMethod_iff imports service method).mp ⟨code, hcode⟩
    · intro h
      have hcomplete := h (List.cons_ne_nil method methods)
      obtain ⟨code, hcode⟩ := (exists_renderMethod_iff imports service method).mpr hcomplete
      obtain ⟨rest, hrest⟩ := ih.mpr fun _ => hcomplete
      exact ⟨(), trivial, code, hcode, rest, hrest, _, rfl⟩

/-- **The code for a service.** -/
theorem exists_renderService_iff (imports : ImportSet) (service : Service) :
    (∃ code, (renderService parsed imports service).run.value = .ok code) ↔
      parsed.Complete .service ∧
        (service.methods ≠ [] → ∀ kind ∈ methodKinds, parsed.Complete kind) := by
  have hservice : ∀ code, (∃ s, parsed.render .service (serviceBindings service code) = .ok s) ↔
      parsed.Complete .service := fun code => exists_render_iff rfl
  unfold renderService
  simp only [Synthesis.value_bind, Synthesis.value_ofExcept, exists_bind_iff, hservice,
    ← exists_renderMethods_iff imports service service.methods]
  constructor
  · rintro ⟨code, hcode, hcomplete⟩
    exact ⟨hcomplete, code, hcode⟩
  · rintro ⟨hcomplete, code, hcode⟩
    exact ⟨code, hcode, hcomplete⟩

/-- **The code for services.** The templates for methods only count if there is a method. -/
theorem exists_renderServices_iff (imports : ImportSet) (services : List Service) :
    (∃ code, (renderServices parsed imports services).run.value = .ok code) ↔
      (services ≠ [] → parsed.Complete .service) ∧
        ((∃ service ∈ services, service.methods ≠ []) →
          ∀ kind ∈ methodKinds, parsed.Complete kind) := by
  induction services with
  | nil => simp [renderServices]
  | cons service services ih =>
    unfold renderServices
    simp only [Synthesis.value_bind, Synthesis.value_pure, exists_bind_iff]
    constructor
    · rintro ⟨code, hcode, rest, hrest, -⟩
      obtain ⟨hservice, hmethods⟩ := (exists_renderService_iff imports service).mp ⟨code, hcode⟩
      refine ⟨fun _ => hservice, ?_⟩
      rintro ⟨other, hother, hne⟩
      rcases List.mem_cons.mp hother with rfl | hother
      · exact hmethods hne
      · exact (ih.mp ⟨rest, hrest⟩).2 ⟨other, hother, hne⟩
    · rintro ⟨hservice, hmethods⟩
      have hcomplete := hservice (List.cons_ne_nil service services)
      obtain ⟨code, hcode⟩ := (exists_renderService_iff imports service).mpr
        ⟨hcomplete, fun hne => hmethods ⟨service, List.mem_cons_self, hne⟩⟩
      have hothers : (∃ other ∈ services, other.methods ≠ []) →
          ∀ kind ∈ methodKinds, parsed.Complete kind := by
        rintro ⟨other, hother, hne⟩
        exact hmethods ⟨other, List.mem_cons_of_mem service hother, hne⟩
      obtain ⟨rest, hrest⟩ := ih.mpr ⟨fun _ => hcomplete, hothers⟩
      exact ⟨code, hcode, rest, hrest, _, rfl⟩

end ParsedTemplates

/-! ### Artifacts -/

/-- The template of a kind asks for nothing but what is bound for it. -/
def TemplateSet.Complete (set : TemplateSet) (kind : TemplateKind) : Prop :=
  ∀ t, set.parseKind kind = .ok t → ∀ p ∈ t.placeholders, p ∈ boundNames kind

/-- A set asks for what its templates ask for once they are read. -/
theorem TemplateSet.complete_iff {set : TemplateSet} {parsed : ParsedTemplates}
    (h : set.parse = .ok parsed) (kind : TemplateKind) :
    parsed.Complete kind ↔ set.Complete kind := by
  have hkind := TemplateSet.parse_eq_ok.mp h kind
  unfold ParsedTemplates.Complete TemplateSet.Complete
  simp [hkind]

/-- The templates suffice for a file with services: all can be read, and those that are rendered ask
for nothing but what is bound for them. -/
structure TemplateSet.Suffices (set : TemplateSet) (file : Schema.File) : Prop where
  readable : ∀ kind, ∃ t, set.parseKind kind = .ok t
  ofFile : set.Complete .file
  ofServices : set.Complete .service
  ofMethods : file.HasMethods → ∀ kind ∈ methodKinds, set.Complete kind

/-- Templates suffice for another file too, if it has methods exactly if this one does. -/
theorem TemplateSet.suffices_congr {set : TemplateSet} {file other : Schema.File}
    (h : other.HasMethods ↔ file.HasMethods) : set.Suffices other ↔ set.Suffices file := by
  constructor
  · rintro ⟨hreadable, hfile, hservices, hmethods⟩
    exact ⟨hreadable, hfile, hservices, fun hmethod => hmethods (h.mpr hmethod)⟩
  · rintro ⟨hreadable, hfile, hservices, hmethods⟩
    exact ⟨hreadable, hfile, hservices, fun hmethod => hmethods (h.mp hmethod)⟩

variable {templates : TemplateSet} {options : Options} {file : Schema.File} {imports : ImportSet}

/-- **A synthesis goes well** exactly if the templates suffice. -/
theorem exists_synthesize_iff (templates : TemplateSet) (options : Options) (imports : ImportSet)
    (h : file.hasServices = true) :
    (∃ artifact?, (synthesize templates options file imports).run.value = .ok artifact?) ↔
      templates.Suffices file := by
  have hne : file.services ≠ [] := by simpa [Schema.File.hasServices] using h
  have hfile : ∀ (parsed : ParsedTemplates) services,
      (∃ s, parsed.render .file (fileBindings options file imports services) = .ok s) ↔
        parsed.Complete .file := fun parsed services => ParsedTemplates.exists_render_iff rfl
  rw [value_synthesize h]
  simp only [exists_bind_iff]
  constructor
  · rintro ⟨parsed, hparsed, services, hservices, content, hcontent, -⟩
    have hcomplete := TemplateSet.complete_iff hparsed
    obtain ⟨hservice, hmethods⟩ :=
      (ParsedTemplates.exists_renderServices_iff imports _).mp ⟨services, hservices⟩
    refine ⟨TemplateSet.exists_parse_iff.mp ⟨parsed, hparsed⟩, ?_, ?_, ?_⟩
    · exact (hcomplete _).mp ((hfile parsed services).mp ⟨content, hcontent⟩)
    · exact (hcomplete _).mp (hservice hne)
    · exact fun hmethod kind hkind => (hcomplete kind).mp (hmethods hmethod kind hkind)
  · rintro ⟨hreadable, hfileComplete, hservice, hmethods⟩
    obtain ⟨parsed, hparsed⟩ := TemplateSet.exists_parse_iff.mpr hreadable
    have hcomplete := TemplateSet.complete_iff hparsed
    obtain ⟨services, hservices⟩ := (ParsedTemplates.exists_renderServices_iff
        imports file.services).mpr
      ⟨fun _ => (hcomplete _).mpr hservice,
        fun hmethod kind hkind => (hcomplete kind).mpr (hmethods hmethod kind hkind)⟩
    obtain ⟨content, hcontent⟩ := (hfile parsed services).mpr ((hcomplete _).mpr hfileComplete)
    exact ⟨parsed, hparsed, services, hservices, content, hcontent, _, rfl⟩

/-- A file without services has no artifact, whatever the templates are. -/
theorem synthesize_of_no_services (h : file.hasServices = false) :
    (synthesize templates options file imports).run.value = .ok none := by
  unfold synthesize
  rw [h, Bool.not_false, if_pos rfl, Synthesis.value_bind, Synthesis.value_report]
  rfl

/-- **Which templates can fail.** A file with services has an artifact exactly if the templates
suffice for it, and otherwise there is an error. So for all files with services and a method it is the
same, and for all with services and no method, whatever else is in them. A file without services has
no artifact and no error. -/
theorem synthesize_succeeds_iff (h : file.hasServices = true) :
    ((∃ content, (synthesize templates options file imports).run.value =
        .ok (some { name := artifactName options file, content })) ↔ templates.Suffices file) ∧
    ((∃ e, (synthesize templates options file imports).run.value = .error e) ↔
      ¬templates.Suffices file) ∧
    (∀ (options' : Options) (other : Schema.File) (imports' : ImportSet),
      other.hasServices = true → (other.HasMethods ↔ file.HasMethods) →
      ((∃ artifact?, (synthesize templates options' other imports').run.value = .ok artifact?) ↔
        ∃ artifact?, (synthesize templates options file imports).run.value = .ok artifact?)) ∧
    (∀ (options' : Options) (other : Schema.File) (imports' : ImportSet),
      other.hasServices = false →
      (synthesize templates options' other imports').run.value = .ok none) := by
  have hiff := exists_synthesize_iff templates options imports h
  refine ⟨?_, ?_, ?_, ?_⟩
  · rw [← hiff]
    constructor
    · rintro ⟨content, hcontent⟩
      exact ⟨_, hcontent⟩
    · rintro ⟨artifact?, hmade⟩
      obtain ⟨content, rfl⟩ := exists_content_of_ok h hmade
      exact ⟨content, hmade⟩
  · rw [← hiff]
    cases (synthesize templates options file imports).run.value <;> simp
  · intro options' other imports' hother hmethods
    rw [hiff, exists_synthesize_iff templates options' imports' hother]
    exact TemplateSet.suffices_congr hmethods
  · exact fun _ _ _ hother => synthesize_of_no_services hother

/-- Templates of which the one for endpoints asks for a name that is not bound. -/
def strayEndpoint : TemplateSet where
  source
    | .endpoint => "\x7b\x7bnowhere\x7d\x7d"
    | _ => ""

/-- A file with one service. -/
def lampFile (methods : List Method) : Schema.File where
  name := "lamp.proto"
  package := "lamp"
  module := "crate::lamp"
  stem := "lamp"
  services := [{ name := "Lamp", methods }]

/-- A method of that service. -/
def switchMethod : Method where
  name := "Switch"
  input := ⟨"crate::lamp", "On"⟩
  output := ⟨"crate::lamp", "On"⟩

/-- A service without methods has an artifact though the template for endpoints is not complete. One
with a method has none. -/
theorem synthesize_strayEndpoint :
    (∃ content, (synthesize strayEndpoint {} (lampFile []) ⟨"crate::lamp", ∅⟩).run.value =
      .ok (some { name := artifactName {} (lampFile []), content })) ∧
    ∃ e, (synthesize strayEndpoint {} (lampFile [switchMethod]) ⟨"crate::lamp", ∅⟩).run.value =
      .error e := by
  have hendpoint : strayEndpoint.parseKind .endpoint =
      .ok ⟨"endpoint", [.placeholder "nowhere" 1]⟩ := by decide +kernel
  have hothers : ∀ kind, kind ≠ .endpoint →
      strayEndpoint.parseKind kind = .ok ⟨kind.name, []⟩ := by
    intro kind hkind
    cases kind <;> first | exact absurd rfl hkind | decide +kernel
  have hcomplete : ∀ kind, kind ≠ .endpoint → strayEndpoint.Complete kind := by
    intro kind hkind t ht
    rw [hothers kind hkind] at ht
    cases ht
    exact fun p hp => absurd hp List.not_mem_nil
  constructor
  · apply (synthesize_succeeds_iff rfl).1.mpr
    refine ⟨?_, hcomplete _ (by decide), hcomplete _ (by decide), ?_⟩
    · intro kind
      by_cases hkind : kind = .endpoint
      · exact ⟨_, hkind ▸ hendpoint⟩
      · exact ⟨_, hothers kind hkind⟩
    · rintro ⟨service, hservice, hne⟩
      rw [List.mem_singleton.mp hservice] at hne
      exact absurd rfl hne
  · apply (synthesize_succeeds_iff rfl).2.1.mpr
    intro hsuffices
    have hmethods : (lampFile [switchMethod]).HasMethods :=
      ⟨_, List.mem_cons_self, List.cons_ne_nil _ _⟩
    -- The name that the template asks for is none of those that are bound.
    have hbound := hsuffices.ofMethods hmethods .endpoint (by decide) _ hendpoint "nowhere"
      (by decide)
    exact absurd hbound (by decide)

end Adaptor

end ServiceBus
