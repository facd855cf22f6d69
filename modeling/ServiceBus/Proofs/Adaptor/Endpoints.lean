import Mathlib.Data.List.Nodup
import ServiceBus.Adaptor.Artifact
import ServiceBus.Proofs.Subject
import ServiceBus.Schema.Walk

/-! # Endpoints of a file

The code of a method names the subject that it is served and called on, and the type that handles it.
Both are put together from the names of service and method in camel case, which is not one to one:
camel case drops underscores, and where one of two names put together ends is not marked.

* `placed?`: what a placeholder stands for in the code of a method.
* `calledOn?`: the subject that the code of a method works out for an instance.
* `endpoints_share_iff`: which methods have one subject.
* `handlers_nodup_iff`: which files have handlers with names of their own. -/

namespace ServiceBus.Adaptor

open Name (camel isSchemaName letters)
open Schema (File ImportSet Method Service)
open Text (IsAscii SameButCase)

variable {imports : ImportSet} {file : File} {endpoint endpoint' : Service × Method} {name : String}

/-- What a placeholder stands for in the code of a method. -/
def placed? (imports : ImportSet) (name : String) (endpoint : Service × Method) : Option String :=
  (methodBindings imports endpoint.1 endpoint.2).lookup name

/-- The subject that the code of a method works out for an instance: of what stands there for the
service and for the method. -/
def calledOn? (imports : ImportSet) (inst : String) (endpoint : Service × Method) :
    Option String := do
  return subject (← placed? imports "service" endpoint) (← placed? imports "method" endpoint)
    (some inst)

/-- The subject that is worked out is the one that the method is served on. -/
theorem calledOn?_eq (imports : ImportSet) (inst : String) (endpoint : Service × Method) :
    calledOn? imports inst endpoint = some (servedOn endpoint.1 endpoint.2 inst) := rfl

/-- The type that stands in the code for the handler. -/
theorem placed?_handler (imports : ImportSet) (endpoint : Service × Method) :
    placed? imports "handler" endpoint = some (handlerType endpoint.1 endpoint.2) := rfl

/-- The methods of a file are those of its services. -/
theorem mem_methods {service : Service} {method : Method} :
    (service, method) ∈ file.methods ↔ service ∈ file.services ∧ method ∈ service.methods := by
  simp only [File.methods, List.mem_flatMap, List.mem_map, Prod.mk.injEq]
  constructor
  · rintro ⟨service, hservice, method, hmethod, rfl, rfl⟩
    exact ⟨hservice, hmethod⟩
  · rintro ⟨hservice, hmethod⟩
    exact ⟨service, hservice, method, hmethod, rfl, rfl⟩

/-! ### Subjects -/

/-- Names in camel case that differ in case only belong to names with the same letters. -/
theorem sameButCase_camel_iff {name' : String} (h : isSchemaName name.toList = true)
    (h' : isSchemaName name'.toList = true) :
    SameButCase (camel name) (camel name') ↔ letters name = letters name' := by
  rw [SameButCase, Name.map_toLower_camel (Name.isAscii_of_isSchemaName h),
    Name.map_toLower_camel (Name.isAscii_of_isSchemaName h')]

/-- The only mark between words that a name of a schema may have is the underscore. -/
theorem letters_of_no_underscore (h : isSchemaName name.toList = true) (hmark : '_' ∉ name.toList) :
    letters name = name.toList.map Char.toLower := by
  rw [letters, List.filter_eq_self.mpr]
  intro c hc
  rcases Name.mem_of_isSchemaName h hc with halnum | rfl
  · obtain ⟨-, -, -, hsep⟩ := Name.toLower_of_isAlphanum halnum
    rw [hsep]
    rfl
  · exact absurd hc hmark

/-- **Two methods are served on one subject** if and only if the names of their services and their
own have the same letters. -/
theorem servedOn_eq_iff {service service' : Service} {method method' : Method} (inst : String)
    (hservice : isSchemaName service.name.toList = true)
    (hmethod : isSchemaName method.name.toList = true)
    (hservice' : isSchemaName service'.name.toList = true)
    (hmethod' : isSchemaName method'.name.toList = true) :
    servedOn service method inst = servedOn service' method' inst ↔
      letters service.name = letters service'.name ∧ letters method.name = letters method'.name := by
  have hsubjects := subject_eq_iff_of_inst (some inst) (Name.isSchemaName_camel hservice)
    (Name.isSchemaName_camel hmethod) (Name.isSchemaName_camel hservice')
    (Name.isSchemaName_camel hmethod')
  rw [sameButCase_camel_iff hservice hservice', sameButCase_camel_iff hmethod hmethod'] at hsubjects
  exact hsubjects

/-- **The endpoints of a file share a subject** exactly if the names of their services and methods have
the same letters, whatever underscores stand between them. Where no name has an underscore, an endpoint
shares its subject only with one whose names are its own up to letter case. -/
theorem endpoints_share_iff (imports : ImportSet) (inst : String)
    (hnames : ∀ endpoint ∈ file.methods, isSchemaName endpoint.1.name.toList = true ∧
      isSchemaName endpoint.2.name.toList = true) :
    ∀ endpoint ∈ file.methods, ∀ endpoint' ∈ file.methods, ∃ own other : String,
      calledOn? imports inst endpoint = some own ∧ calledOn? imports inst endpoint' = some other ∧
        (own = other ↔ letters endpoint.1.name = letters endpoint'.1.name ∧
          letters endpoint.2.name = letters endpoint'.2.name) ∧
        ((∀ name ∈ [endpoint.1.name, endpoint.2.name, endpoint'.1.name, endpoint'.2.name],
            '_' ∉ name.toList) →
          (own = other ↔ SameButCase endpoint.1.name endpoint'.1.name ∧
            SameButCase endpoint.2.name endpoint'.2.name)) := by
  intro endpoint hmem endpoint' hmem'
  obtain ⟨hservice, hmethod⟩ := hnames endpoint hmem
  obtain ⟨hservice', hmethod'⟩ := hnames endpoint' hmem'
  have hiff := servedOn_eq_iff inst hservice hmethod hservice' hmethod'
  refine ⟨_, _, calledOn?_eq imports inst endpoint, calledOn?_eq imports inst endpoint', hiff, ?_⟩
  intro hmarks
  simp only [List.forall_mem_cons, List.not_mem_nil, false_implies, implies_true, and_true] at hmarks
  obtain ⟨hservice₀, hmethod₀, hservice₀', hmethod₀'⟩ := hmarks
  rw [hiff, letters_of_no_underscore hservice hservice₀, letters_of_no_underscore hmethod hmethod₀,
    letters_of_no_underscore hservice' hservice₀', letters_of_no_underscore hmethod' hmethod₀']
  rfl

/-- A file whose service has methods that differ by an underscore. -/
def accounts : File where
  name := "accounts.proto"
  package := "accounts"
  module := "crate::accounts"
  stem := "accounts"
  services := [
    { name := "Accounts",
      methods := [
        ⟨"log_in", ⟨"crate::accounts", "In"⟩, ⟨"crate::accounts", "Out"⟩, []⟩,
        ⟨"login", ⟨"crate::accounts", "In"⟩, ⟨"crate::accounts", "Out"⟩, []⟩,
        ⟨"LogOut", ⟨"crate::accounts", "In"⟩, ⟨"crate::accounts", "Out"⟩, []⟩] }]

/-- The methods of the accounts, by number. -/
def accounts.method (n : Fin 3) : Service × Method :=
  accounts.methods.get n

/-- Of the accounts, `login` is called on a subject of its own as far as `LogOut` is concerned, and not
as far as `log_in` is concerned. -/
theorem endpoints_share_accounts :
    calledOn? (ImportSet.base "crate::accounts") "demo" (accounts.method 1) ≠
      calledOn? (ImportSet.base "crate::accounts") "demo" (accounts.method 2) ∧
    calledOn? (ImportSet.base "crate::accounts") "demo" (accounts.method 0) =
      calledOn? (ImportSet.base "crate::accounts") "demo" (accounts.method 1) := by
  have hnames : ∀ endpoint ∈ accounts.methods, isSchemaName endpoint.1.name.toList = true ∧
      isSchemaName endpoint.2.name.toList = true := by
    decide
  have hshare := endpoints_share_iff (ImportSet.base "crate::accounts") "demo" hnames
  obtain ⟨own, other, hown, hother, hiff, -⟩ := hshare (accounts.method 1) (List.get_mem _ _)
    (accounts.method 2) (List.get_mem _ _)
  obtain ⟨own', other', hown', hother', hiff', -⟩ := hshare (accounts.method 0) (List.get_mem _ _)
    (accounts.method 1) (List.get_mem _ _)
  constructor
  · rw [hown, hother, Ne, Option.some.injEq, hiff]
    decide
  · rw [hown', hother', Option.some.injEq, hiff']
    decide

/-- **Endpoints whose names differ in more than case share a subject**, whatever the instance is. -/
theorem log_in_shares_subject : ∃ endpoint ∈ accounts.methods, ∃ endpoint' ∈ accounts.methods,
    isSchemaName endpoint.2.name.toList = true ∧ isSchemaName endpoint'.2.name.toList = true ∧
      ¬ (SameButCase endpoint.1.name endpoint'.1.name ∧
        SameButCase endpoint.2.name endpoint'.2.name) ∧
      ∀ imports inst, calledOn? imports inst endpoint = calledOn? imports inst endpoint' := by
  refine ⟨accounts.method 0, List.get_mem _ _, accounts.method 1, List.get_mem _ _, by decide,
    by decide, by decide, fun imports inst => ?_⟩
  rw [calledOn?_eq, calledOn?_eq, Option.some.injEq]
  exact (servedOn_eq_iff inst (by decide) (by decide) (by decide) (by decide)).mpr (by decide)

/-! ### Handlers -/

/-- **The name of a handler is the names of service and method put together**, if they are in camel
case already. -/
theorem handlerType_of_camel {service : Service} {method : Method}
    (hservice : camel service.name = service.name) (hmethod : camel method.name = method.name) :
    handlerType service method = service.name ++ method.name ++ "Handler" := by
  rw [handlerType, serviceType, methodType, hservice, hmethod]

/-- Texts that are the same when put together: a part of one second text belongs to the other first
text. -/
theorem append_eq_append_iff {a b c d : String} : a ++ b = c ++ d ↔
    (∃ rest, c = a ++ rest ∧ b = rest ++ d) ∨ ∃ rest, a = c ++ rest ∧ d = rest ++ b := by
  simp only [← String.toList_inj, String.toList_append, List.append_eq_append_iff]
  constructor
  · rintro (⟨rest, h, h'⟩ | ⟨rest, h, h'⟩)
    · exact Or.inl ⟨String.ofList rest, by rwa [String.toList_ofList], by rwa [String.toList_ofList]⟩
    · exact Or.inr ⟨String.ofList rest, by rwa [String.toList_ofList], by rwa [String.toList_ofList]⟩
  · rintro (⟨rest, h, h'⟩ | ⟨rest, h, h'⟩)
    · exact Or.inl ⟨rest.toList, h, h'⟩
    · exact Or.inr ⟨rest.toList, h, h'⟩

/-- The name that two methods' handlers begin with is split in different places: part of the second
service's name stands in front of the second method's name in the first one. -/
def Splits (endpoint endpoint' : Service × Method) : Prop :=
  ∃ rest, rest ≠ "" ∧ endpoint'.1.name = endpoint.1.name ++ rest ∧
    endpoint.2.name = rest ++ endpoint'.2.name

/-- It takes two services to split a name. -/
theorem Splits.service_ne (h : Splits endpoint endpoint') :
    endpoint.1.name ≠ endpoint'.1.name := by
  obtain ⟨rest, hne, hservice, -⟩ := h
  intro hsame
  apply hne
  have hchars := congrArg String.toList (hsame.trans hservice)
  rw [String.toList_append, List.self_eq_append_right] at hchars
  exact String.toList_eq_nil_iff.mp hchars

/-- The pairs of names in a file are distinct if the services' names are, and the methods' in each
service. -/
theorem nodup_names (hservices : (file.services.map (·.name)).Nodup)
    (hmethods : ∀ service ∈ file.services, (service.methods.map (·.name)).Nodup) :
    (file.methods.map fun endpoint => (endpoint.1.name, endpoint.2.name)).Nodup := by
  rw [File.methods, List.map_flatMap, List.nodup_flatMap]
  constructor
  · intro service hservice
    apply List.Nodup.of_map Prod.snd
    rw [List.map_map, List.map_map]
    exact hmethods service hservice
  · refine (List.pairwise_map.mp hservices).imp fun {service service'} hne => ?_
    refine List.disjoint_left.mpr ?_
    intro names hmem hmem'
    simp only [List.map_map, List.mem_map] at hmem hmem'
    obtain ⟨_, -, rfl⟩ := hmem
    obtain ⟨_, -, heq⟩ := hmem'
    exact hne (congrArg Prod.fst heq).symm

/-- Methods whose names are in camel case have one handler if their names are the same or split. -/
theorem placed?_handler_eq_iff
    (hendpoint : camel endpoint.1.name = endpoint.1.name ∧ camel endpoint.2.name = endpoint.2.name)
    (hendpoint' : camel endpoint'.1.name = endpoint'.1.name ∧
      camel endpoint'.2.name = endpoint'.2.name) :
    placed? imports "handler" endpoint = placed? imports "handler" endpoint' ↔
      (endpoint.1.name = endpoint'.1.name ∧ endpoint.2.name = endpoint'.2.name) ∨
        Splits endpoint endpoint' ∨ Splits endpoint' endpoint := by
  have hsuffix : ∀ a b : String, a ++ "Handler" = b ++ "Handler" ↔ a = b := by
    intro a b
    rw [← String.toList_inj, String.toList_append, String.toList_append, List.append_left_inj,
      String.toList_inj]
  rw [placed?_handler, placed?_handler, Option.some.injEq,
    handlerType_of_camel hendpoint.1 hendpoint.2, handlerType_of_camel hendpoint'.1 hendpoint'.2,
    hsuffix, append_eq_append_iff]
  constructor
  · rintro (⟨rest, hservice, hmethod⟩ | ⟨rest, hservice, hmethod⟩) <;> by_cases hempty : rest = ""
    · subst hempty
      rw [String.append_empty] at hservice
      rw [String.empty_append] at hmethod
      exact Or.inl ⟨hservice.symm, hmethod⟩
    · exact Or.inr (Or.inl ⟨rest, hempty, hservice, hmethod⟩)
    · subst hempty
      rw [String.append_empty] at hservice
      rw [String.empty_append] at hmethod
      exact Or.inl ⟨hservice, hmethod.symm⟩
    · exact Or.inr (Or.inr ⟨rest, hempty, hservice, hmethod⟩)
  · rintro (⟨hservice, hmethod⟩ | ⟨rest, -, hservice, hmethod⟩ | ⟨rest, -, hservice, hmethod⟩)
    · exact Or.inl ⟨"", by rw [hservice, String.append_empty], by rw [hmethod, String.empty_append]⟩
    · exact Or.inl ⟨rest, hservice, hmethod⟩
    · exact Or.inr ⟨rest, hservice, hmethod⟩

/-- **No handler is defined twice** if and only if no two methods of the file split one name in
different places. It takes two services for that: the handlers of one service always have names of
their own. -/
theorem handlers_nodup_iff (imports : ImportSet) (hservices : (file.services.map (·.name)).Nodup)
    (hmethods : ∀ service ∈ file.services, (service.methods.map (·.name)).Nodup)
    (hcamel : ∀ endpoint ∈ file.methods, camel endpoint.1.name = endpoint.1.name ∧
      camel endpoint.2.name = endpoint.2.name) :
    ((file.methods.map (placed? imports "handler")).Nodup ↔
      ¬ ∃ endpoint ∈ file.methods, ∃ endpoint' ∈ file.methods, Splits endpoint endpoint') ∧
    ∀ service ∈ file.services,
      (service.methods.map fun method => placed? imports "handler" (service, method)).Nodup := by
  have hnames := nodup_names hservices hmethods
  constructor
  · rw [List.nodup_map_iff_inj_on hnames.of_map]
    constructor
    · rintro hinj ⟨endpoint, hmem, endpoint', hmem', hsplits⟩
      have hsame := hinj endpoint hmem endpoint' hmem'
        ((placed?_handler_eq_iff (hcamel _ hmem) (hcamel _ hmem')).mpr (Or.inr (Or.inl hsplits)))
      exact hsplits.service_ne (congrArg (·.1.name) hsame)
    · intro hno endpoint hmem endpoint' hmem' heq
      rcases (placed?_handler_eq_iff (hcamel _ hmem) (hcamel _ hmem')).mp heq with
        ⟨hservice, hmethod⟩ | hsplits | hsplits
      · exact List.inj_on_of_nodup_map hnames hmem hmem' (Prod.ext hservice hmethod)
      · exact absurd ⟨endpoint, hmem, endpoint', hmem', hsplits⟩ hno
      · exact absurd ⟨endpoint', hmem', endpoint, hmem, hsplits⟩ hno
  · intro service hservice
    refine List.pairwise_map.mpr ((List.pairwise_map.mp (hmethods service hservice)).imp_of_mem ?_)
    intro method method' hmem hmem' hne heq
    have hendpoint := hcamel _ (mem_methods.mpr ⟨hservice, hmem⟩)
    have hendpoint' := hcamel _ (mem_methods.mpr ⟨hservice, hmem'⟩)
    rcases (placed?_handler_eq_iff hendpoint hendpoint').mp heq with
      ⟨-, hmethod⟩ | hsplits | hsplits
    · exact hne hmethod
    · exact hsplits.service_ne rfl
    · exact hsplits.service_ne rfl

/-- A file in which the name of one service begins with the name of the other. -/
def foobar : File where
  name := "foobar.proto"
  package := "foobar"
  module := "crate::foobar"
  stem := "foobar"
  services := [
    { name := "Foo",
      methods := [⟨"BarBaz", ⟨"crate::foobar", "In"⟩, ⟨"crate::foobar", "Out"⟩, []⟩] },
    { name := "FooBar",
      methods := [⟨"Baz", ⟨"crate::foobar", "In"⟩, ⟨"crate::foobar", "Out"⟩, []⟩,
        ⟨"Qux", ⟨"crate::foobar", "In"⟩, ⟨"crate::foobar", "Out"⟩, []⟩] }]

/-- The names of the file are distinct and in camel case. -/
theorem foobar_names : (foobar.services.map (·.name)).Nodup ∧
    (∀ service ∈ foobar.services, (service.methods.map (·.name)).Nodup) ∧
    ∀ endpoint ∈ foobar.methods, camel endpoint.1.name = endpoint.1.name ∧
      camel endpoint.2.name = endpoint.2.name := by
  refine ⟨?_, ?_, ?_⟩ <;> decide

/-- In that file the handlers of each service have names of their own, and those of the file do not. -/
theorem handlers_nodup_foobar :
    (∀ service ∈ foobar.services, (service.methods.map fun method =>
      placed? (ImportSet.base "crate::foobar") "handler" (service, method)).Nodup) ∧
    ¬ (foobar.methods.map (placed? (ImportSet.base "crate::foobar") "handler")).Nodup := by
  obtain ⟨hservices, hmethods, hcamel⟩ := foobar_names
  obtain ⟨hiff, hservice⟩ :=
    handlers_nodup_iff (ImportSet.base "crate::foobar") hservices hmethods hcamel
  refine ⟨hservice, fun hnodup => hiff.mp hnodup ?_⟩
  exact ⟨foobar.methods.get ⟨0, by decide⟩, List.get_mem _ _, foobar.methods.get ⟨1, by decide⟩,
    List.get_mem _ _, "Bar", by decide, by decide, by decide⟩

/-- **A handler is defined twice** although all names are distinct and in camel case. -/
theorem handler_defined_twice : (foobar.services.map (·.name)).Nodup ∧
    (∀ service ∈ foobar.services, (service.methods.map (·.name)).Nodup) ∧
    (∀ endpoint ∈ foobar.methods, camel endpoint.1.name = endpoint.1.name ∧
      camel endpoint.2.name = endpoint.2.name) ∧
    ∃ endpoint ∈ foobar.methods, ∃ endpoint' ∈ foobar.methods, endpoint ≠ endpoint' ∧
      ∀ imports, placed? imports "handler" endpoint = some "FooBarBazHandler" ∧
        placed? imports "handler" endpoint' = some "FooBarBazHandler" := by
  obtain ⟨hservices, hmethods, hcamel⟩ := foobar_names
  refine ⟨hservices, hmethods, hcamel, foobar.methods.get ⟨0, by decide⟩, List.get_mem _ _,
    foobar.methods.get ⟨1, by decide⟩, List.get_mem _ _, by decide, fun imports => ?_⟩
  rw [placed?_handler, placed?_handler]
  decide

end ServiceBus.Adaptor
