import Mathlib.Data.List.Forall2
import ServiceBus.Descriptor.Conversion
import ServiceBus.Proofs.Schema.Walk

/-! # The types that a descriptor uses

A descriptor uses the types of its fields and of its unary methods. The schema file that it is
converted to refers to these types in the same order.

* `File.uses`: the full names of the types that a descriptor uses.
* `File.resolves_of_toSchema`: what conversion gives. -/

namespace ServiceBus

section Results

variable {ε α β : Type}

/-- Two steps go well if the first does and the second does after it. -/
theorem bind_eq_ok {x : Except ε α} {f : α → Except ε β} {b : β} :
    (x >>= f) = .ok b ↔ ∃ a, x = .ok a ∧ f a = .ok b := by
  cases x with
  | error e => simp [Bind.bind, Except.bind]
  | ok a => simp [Bind.bind, Except.bind]

/-- A result is mapped if there is one. -/
theorem map_eq_ok {x : Except ε α} {f : α → β} {b : β} :
    x.map f = .ok b ↔ ∃ a, x = .ok a ∧ f a = b := by
  cases x with
  | error e => simp [Except.map]
  | ok a => simp [Except.map]

/-- A list of results is that of a list of things, one by one. -/
theorem forall₂_of_mapM {f : α → Except ε β} {as : List α} {bs : List β}
    (h : as.mapM f = .ok bs) : List.Forall₂ (fun a b => f a = .ok b) as bs := by
  induction as generalizing bs with
  | nil =>
    cases h
    exact .nil
  | cons a as ih =>
    rw [List.mapM_cons] at h
    obtain ⟨b, hb, h⟩ := bind_eq_ok.mp h
    obtain ⟨rest, hrest, h⟩ := bind_eq_ok.mp h
    cases h
    exact .cons hb (ih hrest)

/-- What is paired with another list has its partner there. -/
theorem exists_of_mem_forall₂ {R : α → β → Prop} {as : List α} {bs : List β} {b : β}
    (h : List.Forall₂ R as bs) (hb : b ∈ bs) : ∃ a ∈ as, R a b := by
  induction h with
  | nil => exact absurd hb List.not_mem_nil
  | cons hhead _ ih =>
    rcases List.mem_cons.mp hb with rfl | hb
    · exact ⟨_, List.mem_cons_self, hhead⟩
    · obtain ⟨a, ha, hab⟩ := ih hb
      exact ⟨a, List.mem_cons_of_mem _ ha, hab⟩

end Results

namespace Descriptor

open Schema (SchemaError TypeRef)

/-! ### Used types -/

/-- The full name of the type of a field, if it is a message or an enumeration. -/
def Field.typeName? (f : Field) : Option String :=
  match f.kind with
  | .scalar _ => none
  | .message | .enumeration => some f.typeName

mutual

/-- The types that the fields of a message have, those of the messages inside it included. -/
def Message.uses : Message → List String
  | ⟨_, fields, nested, _⟩ => fields.filterMap Field.typeName? ++ usesOf nested

/-- The types that the fields of messages have. -/
def usesOf : List Message → List String
  | [] => []
  | m :: rest => m.uses ++ usesOf rest

end

/-- The types of the unary methods of a service. -/
def methodUses (methods : List Method) : List String :=
  (methods.filter fun m => !m.isStreaming).flatMap fun m => [m.input, m.output]

/-- The types that a file uses. -/
def File.uses (file : File) : List String :=
  usesOf file.messages ++ file.services.flatMap fun s => methodUses s.methods

/-- Some names are those of these types. -/
def TypeIndex.Resolves (index : TypeIndex) : List String → List TypeRef → Prop :=
  List.Forall₂ fun name ty => index.types[name]? = some ty

/-- A name is that of a type. -/
def TypeIndex.Knows (index : TypeIndex) (name : String) : Prop :=
  ∃ ty, index.types[name]? = some ty

variable {index : TypeIndex} {names : List String} {refs : List TypeRef} {name : String}
  {ty : TypeRef} {modules : ModuleMap}

/-- Names that are those of types are known. -/
theorem TypeIndex.Resolves.knows (h : index.Resolves names refs) : ∀ n ∈ names, index.Knows n := by
  induction h with
  | nil => exact fun n hn => absurd hn List.not_mem_nil
  | cons hty _ ih =>
    intro n hn
    rcases List.mem_cons.mp hn with rfl | hn
    · exact ⟨_, hty⟩
    · exact ih n hn

/-- Every one of the types has a name. -/
theorem TypeIndex.Resolves.mem (h : index.Resolves names refs) (hty : ty ∈ refs) :
    ∃ n : String, index.types[n]? = some ty := by
  obtain ⟨n, -, hn⟩ := exists_of_mem_forall₂ h hty
  exact ⟨n, hn⟩

/-- A name is resolved if it is that of a type. -/
theorem TypeIndex.resolve_eq_ok : index.resolve name = .ok ty ↔ index.types[name]? = some ty := by
  rw [resolve]
  cases index.types[name]? with
  | none => simp
  | some found => simp

/-! ### Messages -/

/-- The type of a field that was converted. -/
theorem Field.resolves_of_toSchema {f : Field} {f' : Schema.Field}
    (h : f.toSchema index = .ok f') :
    Option.Rel (fun n ty => index.types[n]? = some ty) f.typeName? f'.type.typeRef? := by
  obtain ⟨ty, hty, hf⟩ := bind_eq_ok.mp h
  cases hf
  rw [Field.typeIn] at hty
  rw [Field.typeName?]
  cases hkind : f.kind with
  | scalar =>
    rw [hkind] at hty
    cases hty
    exact .none
  | message | enumeration =>
    rw [hkind] at hty
    obtain ⟨ref, href, rfl⟩ := map_eq_ok.mp hty
    exact .some (TypeIndex.resolve_eq_ok.mp href)

/-- The types of fields that were converted. -/
theorem resolves_of_fields {fields : List Field} {fields' : List Schema.Field}
    (h : fields.mapM (Field.toSchema index) = .ok fields') :
    index.Resolves (fields.filterMap Field.typeName?)
      (fields'.filterMap fun field => field.type.typeRef?) :=
  List.rel_filterMap (fun _ _ hf => Field.resolves_of_toSchema hf) (forall₂_of_mapM h)

/-- Messages that were converted were converted one by one. -/
theorem messagesToSchema_cons {m : Message} {rest : List Message} {ms' : List Schema.Message}
    (h : messagesToSchema index (m :: rest) = .ok ms') : ∃ m' rest', m.toSchema index = .ok m' ∧
      messagesToSchema index rest = .ok rest' ∧ ms' = m' :: rest' := by
  rw [messagesToSchema] at h
  obtain ⟨m', hm, h⟩ := bind_eq_ok.mp h
  obtain ⟨rest', hrest, h⟩ := bind_eq_ok.mp h
  cases h
  exact ⟨m', rest', hm, hrest, rfl⟩

mutual

/-- The types that a message refers to that was converted. -/
theorem Message.resolves_of_toSchema : ∀ {m : Message} {m' : Schema.Message},
    m.toSchema index = .ok m' → index.Resolves m.uses (Schema.fieldRefs [m'])
  | ⟨name, fields, nested, enums⟩, m', h => by
    rw [Message.toSchema] at h
    obtain ⟨fields', hfields, h⟩ := bind_eq_ok.mp h
    obtain ⟨nested', hnested, h⟩ := bind_eq_ok.mp h
    cases h
    have hrest := resolves_of_messagesToSchema hnested
    rw [Message.uses, Schema.fieldRefs, Schema.preorderAll, Schema.preorderAll, List.append_nil,
      Schema.Message.preorder, List.flatMap_cons, List.filterMap_append]
    exact List.rel_append (resolves_of_fields hfields) hrest

/-- The types that messages refer to that were converted. -/
theorem resolves_of_messagesToSchema : ∀ {ms : List Message} {ms' : List Schema.Message},
    messagesToSchema index ms = .ok ms' → index.Resolves (usesOf ms) (Schema.fieldRefs ms')
  | [], ms', h => by
    cases h
    exact .nil
  | m :: rest, ms', h => by
    obtain ⟨m', rest', hm, hrest, rfl⟩ := messagesToSchema_cons h
    have hhead := Message.resolves_of_toSchema hm
    have htail := resolves_of_messagesToSchema hrest
    rw [usesOf]
    have happend : Schema.fieldRefs (m' :: rest') =
        Schema.fieldRefs [m'] ++ Schema.fieldRefs rest' := by
      rw [Schema.fieldRefs, Schema.fieldRefs, Schema.fieldRefs, Schema.preorderAll,
        Schema.preorderAll, Schema.preorderAll, List.append_nil, List.flatMap_append,
        List.filterMap_append]
    rw [happend]
    exact List.rel_append hhead htail

end

/-! ### Services -/

/-- The types of a method that was converted. -/
theorem Method.toSchema_eq_ok {docs : List String} {m : Method} {m' : Schema.Method} :
    m.toSchema index docs = .ok m' ↔ ∃ input output, index.types[m.input]? = some input ∧
      index.types[m.output]? = some output ∧ m' = { name := m.name, input, output, docs } := by
  rw [Method.toSchema]
  constructor
  · intro h
    obtain ⟨input, hinput, h⟩ := bind_eq_ok.mp h
    obtain ⟨output, houtput, h⟩ := bind_eq_ok.mp h
    cases h
    exact ⟨input, output, TypeIndex.resolve_eq_ok.mp hinput, TypeIndex.resolve_eq_ok.mp houtput,
      rfl⟩
  · rintro ⟨input, output, hinput, houtput, rfl⟩
    rw [TypeIndex.resolve_eq_ok.mpr hinput, TypeIndex.resolve_eq_ok.mpr houtput]
    rfl

/-- Methods that were converted were converted one by one, without those that stream. -/
theorem methodsToSchema_cons {locations : List Location} {service : String} {path : List Int}
    {position : Nat} {m : Method} {rest : List Method} {methods' : List Schema.Method}
    (h : (methodsToSchema index locations service path position (m :: rest)).value = .ok methods') :
    m.isStreaming = true ∧
        (methodsToSchema index locations service path (position + 1) rest).value = .ok methods' ∨
      m.isStreaming = false ∧ ∃ m' rest',
        m.toSchema index (docsAt locations (methodPath path position)) = .ok m' ∧
        (methodsToSchema index locations service path (position + 1) rest).value = .ok rest' ∧
        methods' = m' :: rest' := by
  rw [methodsToSchema] at h
  cases hstream : m.isStreaming with
  | true =>
    rw [hstream, if_pos rfl] at h
    exact Or.inl ⟨rfl, h⟩
  | false =>
    rw [hstream, if_neg Bool.false_ne_true] at h
    split at h
    · cases h
    · rename_i m' hm
      rw [Logged.value_bind, Logged.value_pure] at h
      obtain ⟨rest', hrest, rfl⟩ := map_eq_ok.mp h
      exact Or.inr ⟨rfl, m', rest', hm, hrest, rfl⟩

/-- The types that methods refer to that were converted. -/
theorem resolves_of_methodsToSchema {locations : List Location} {service : String}
    {path : List Int} {position : Nat} {methods : List Method} {methods' : List Schema.Method}
    (h : (methodsToSchema index locations service path position methods).value = .ok methods') :
    index.Resolves (methodUses methods)
      (methods'.flatMap fun method => [method.input, method.output]) := by
  induction methods generalizing position methods' with
  | nil =>
    cases h
    exact .nil
  | cons m rest ih =>
    rw [methodUses, List.filter_cons]
    rcases methodsToSchema_cons h with ⟨hstream, h⟩ | ⟨hstream, m', rest', hm, hrest, rfl⟩
    · rw [hstream]
      exact ih h
    · rw [hstream]
      obtain ⟨input, output, hinput, houtput, rfl⟩ := Method.toSchema_eq_ok.mp hm
      exact .cons hinput (.cons houtput (ih hrest))

/-- The types that a service refers to that was converted. -/
theorem Service.resolves_of_toSchema {locations : List Location} {position : Nat} {s : Service}
    {s' : Schema.Service} (h : (s.toSchema index locations position).value = .ok s') :
    index.Resolves (methodUses s.methods) s'.typeRefs := by
  rw [Service.toSchema, Logged.value_bind, Logged.value_pure] at h
  obtain ⟨methods', hmethods, rfl⟩ := map_eq_ok.mp h
  exact resolves_of_methodsToSchema hmethods

/-- Services that were converted were converted one by one. -/
theorem servicesToSchema_cons {locations : List Location} {position : Nat} {s : Service}
    {rest : List Service} {services' : List Schema.Service}
    (h : (servicesToSchema index locations position (s :: rest)).value = .ok services') :
    ∃ s' rest', (s.toSchema index locations position).value = .ok s' ∧
      (servicesToSchema index locations (position + 1) rest).value = .ok rest' ∧
      services' = s' :: rest' := by
  rw [servicesToSchema, Logged.value_bind] at h
  split at h
  · cases h
  · rename_i s' hs
    rw [Logged.value_bind, Logged.value_pure] at h
    obtain ⟨rest', hrest, rfl⟩ := map_eq_ok.mp h
    exact ⟨s', rest', hs, hrest, rfl⟩

/-- The types that services refer to that were converted. There are as many as before. -/
theorem resolves_of_servicesToSchema {locations : List Location} {position : Nat}
    {services : List Service} {services' : List Schema.Service}
    (h : (servicesToSchema index locations position services).value = .ok services') :
    services'.length = services.length ∧
      index.Resolves (services.flatMap fun s => methodUses s.methods)
        (services'.flatMap Schema.Service.typeRefs) := by
  induction services generalizing position services' with
  | nil =>
    cases h
    exact ⟨rfl, .nil⟩
  | cons s rest ih =>
    obtain ⟨s', rest', hs, hrest, rfl⟩ := servicesToSchema_cons h
    obtain ⟨hlength, hresolves⟩ := ih hrest
    refine ⟨congrArg Nat.succ hlength, ?_⟩
    exact List.rel_append (Service.resolves_of_toSchema hs) hresolves

/-! ### Files -/

/-- A file that was converted: its messages and its services were. -/
theorem File.toSchema_cases {file : File} {schema : Schema.File}
    (h : (file.toSchema modules index).value = .ok schema) : ∃ messages services,
      messagesToSchema index file.messages = .ok messages ∧
      (servicesToSchema index file.locations 0 file.services).value = .ok services ∧
      schema = { name := file.name, package := file.package,
                 module := modules.moduleFor file.package, stem := stem file.name,
                 messages, services } := by
  rw [File.toSchema] at h
  split at h
  · cases h
  · rename_i messages hmessages
    rw [Logged.value_bind, Logged.value_pure] at h
    obtain ⟨services, hservices, rfl⟩ := map_eq_ok.mp h
    exact ⟨messages, services, hmessages, hservices, rfl⟩

/-- **What conversion gives**: a schema file named as the descriptor, with as many services, that
refers to the types which the descriptor uses. -/
theorem File.resolves_of_toSchema {file : File} {schema : Schema.File}
    (h : (file.toSchema modules index).value = .ok schema) :
    schema.name = file.name ∧ schema.stem = stem file.name ∧
      schema.module = modules.moduleFor file.package ∧
      schema.services.length = file.services.length ∧ index.Resolves file.uses schema.typeRefs := by
  obtain ⟨messages, services, hmessages, hservices, rfl⟩ := File.toSchema_cases h
  obtain ⟨hlength, hresolves⟩ := resolves_of_servicesToSchema hservices
  refine ⟨rfl, rfl, rfl, hlength, ?_⟩
  rw [File.uses, Schema.File.typeRefs_eq]
  exact List.rel_append (resolves_of_messagesToSchema hmessages) hresolves

end Descriptor

end ServiceBus
