import Mathlib.Data.List.Nodup
import ServiceBus.Proofs.Descriptor.Index

/-! # More declarations

A descriptor that was converted is converted the same way when more types are declared: only a failure
to resolve a name that is declared now can go away.

* `Stays`: a result that is left as it is, unless it was such a failure.
* `TypeIndex.Grows`: an index that knows what another one knows, and some new names.
* `File.stays_toSchema`: conversion with an index that grows. -/

namespace ServiceBus.Descriptor

open Schema (SchemaError TypeRef)

variable {α β : Type} {new : String → Prop} {index index' : TypeIndex} {name : String}
  {modules : ModuleMap}

/-! ### Results -/

/-- **A result that stays as it is**, unless it was the failure to resolve a name that is new. -/
def Stays (new : String → Prop) (before after : Except SchemaError α) : Prop :=
  after = before ∨ ∃ name, new name ∧ before = .error (.unresolvedType name)

namespace Stays

/-- What does not depend on the declarations stays as it is. -/
theorem refl (result : Except SchemaError α) : Stays new result result := Or.inl rfl

/-- One step after another, where both stay as they are. -/
theorem bind {x x' : Except SchemaError α} {f f' : α → Except SchemaError β}
    (hx : Stays new x x') (hf : ∀ a, Stays new (f a) (f' a)) : Stays new (x >>= f) (x' >>= f') := by
  rcases hx with rfl | ⟨name, hnew, rfl⟩
  · cases x' with
    | error e => exact Or.inl rfl
    | ok a => exact hf a
  · exact Or.inr ⟨name, hnew, rfl⟩

/-- What is made of a result stays as the result does. -/
theorem map {x x' : Except SchemaError α} (hx : Stays new x x') (f : α → β) :
    Stays new (x.map f) (x'.map f) := by
  rcases hx with rfl | ⟨name, hnew, rfl⟩
  · exact Or.inl rfl
  · exact Or.inr ⟨name, hnew, rfl⟩

/-- A list of steps, each of which stays as it is. -/
theorem mapM {f f' : α → Except SchemaError β} (hf : ∀ a, Stays new (f a) (f' a)) (as : List α) :
    Stays new (as.mapM f) (as.mapM f') := by
  induction as with
  | nil => exact refl _
  | cons a as ih =>
    rw [List.mapM_cons, List.mapM_cons]
    exact (hf a).bind fun b => ih.bind fun bs => refl _

/-- More names are new. -/
theorem mono {new' : String → Prop} {before after : Except SchemaError α}
    (h : Stays new before after) (hmore : ∀ name, new name → new' name) :
    Stays new' before after :=
  h.imp_right fun ⟨name, hnew, hbefore⟩ => ⟨name, hmore name hnew, hbefore⟩

end Stays

/-! ### Conversion -/

/-- **An index that grows**: it keeps what it knows, and all that it learns is new. -/
structure TypeIndex.Grows (new : String → Prop) (index index' : TypeIndex) : Prop where
  kept : ∀ (name : String) ty, index.types[name]? = some ty → index'.types[name]? = some ty
  learnt : ∀ (name : String), index.types[name]? = none → ¬ new name → index'.types[name]? = none

/-- What a name is resolved to. -/
theorem TypeIndex.Grows.resolve (h : index.Grows new index') (name : String) :
    Stays new (index.resolve name) (index'.resolve name) := by
  cases hbefore : index.types[name]? with
  | some ty =>
    refine Or.inl ?_
    rw [TypeIndex.resolve_eq_ok.mpr hbefore, TypeIndex.resolve_eq_ok.mpr (h.kept name ty hbefore)]
  | none =>
    by_cases hnew : new name
    · refine Or.inr ⟨name, hnew, ?_⟩
      rw [TypeIndex.resolve, hbefore]
    · refine Or.inl ?_
      rw [TypeIndex.resolve, TypeIndex.resolve, hbefore, h.learnt name hbefore hnew]

/-- What a field is converted to. -/
theorem Field.stays_toSchema (h : index.Grows new index') (f : Field) :
    Stays new (f.toSchema index) (f.toSchema index') := by
  refine Stays.bind ?_ fun ty => .refl _
  rw [Field.typeIn, Field.typeIn]
  cases f.kind with
  | scalar ty => exact .refl _
  | message | enumeration => exact (h.resolve f.typeName).map _

mutual

/-- What a message is converted to. -/
theorem Message.stays_toSchema (h : index.Grows new index') : ∀ m : Message,
    Stays new (m.toSchema index) (m.toSchema index')
  | ⟨name, fields, nested, enums⟩ => by
    rw [Message.toSchema, Message.toSchema]
    refine (Stays.mapM (Field.stays_toSchema h) fields).bind fun fields' => ?_
    exact (stays_messagesToSchema h nested).bind fun nested' => .refl _

/-- What messages are converted to. -/
theorem stays_messagesToSchema (h : index.Grows new index') : ∀ ms : List Message,
    Stays new (messagesToSchema index ms) (messagesToSchema index' ms)
  | [] => .refl _
  | m :: rest => by
    rw [messagesToSchema, messagesToSchema]
    refine (Message.stays_toSchema h m).bind fun m' => ?_
    exact (stays_messagesToSchema h rest).bind fun rest' => .refl _

end

section Services

variable (h : index.Grows new index') (locations : List Location)

include h

/-- What a method is converted to. -/
theorem Method.stays_toSchema (docs : List String) (m : Method) :
    Stays new (m.toSchema index docs) (m.toSchema index' docs) :=
  (h.resolve m.input).bind fun _ => (h.resolve m.output).bind fun _ => .refl _

/-- What methods are converted to. -/
theorem stays_methodsToSchema (service : String) (path : List Int) (position : Nat)
    (methods : List Method) :
    Stays new (methodsToSchema index locations service path position methods).value
      (methodsToSchema index' locations service path position methods).value := by
  induction methods generalizing position with
  | nil => exact .refl _
  | cons m rest ih =>
    rw [methodsToSchema, methodsToSchema]
    cases m.isStreaming with
    | true =>
      rw [if_pos rfl, if_pos rfl]
      exact ih (position + 1)
    | false =>
      rw [if_neg Bool.false_ne_true, if_neg Bool.false_ne_true]
      rcases Method.stays_toSchema h (docsAt locations (methodPath path position)) m with
        heq | ⟨name, hnew, heq⟩
      · rw [heq]
        cases m.toSchema index (docsAt locations (methodPath path position)) with
        | error e => exact .refl _
        | ok m' => exact (ih (position + 1)).map _
      · rw [heq]
        exact Or.inr ⟨name, hnew, rfl⟩

/-- What a service is converted to. -/
theorem Service.stays_toSchema (position : Nat) (s : Service) :
    Stays new (s.toSchema index locations position).value
      (s.toSchema index' locations position).value :=
  (stays_methodsToSchema h locations s.name (servicePath position) 0 s.methods).map _

/-- What services are converted to. -/
theorem stays_servicesToSchema (position : Nat) (services : List Service) :
    Stays new (servicesToSchema index locations position services).value
      (servicesToSchema index' locations position services).value := by
  induction services generalizing position with
  | nil => exact .refl _
  | cons s rest ih =>
    rw [servicesToSchema, servicesToSchema, Logged.value_bind, Logged.value_bind]
    rcases Service.stays_toSchema h locations position s with heq | ⟨name, hnew, heq⟩
    · rw [heq]
      cases (s.toSchema index locations position).value with
      | error e => exact .refl _
      | ok s' => exact (ih (position + 1)).map _
    · rw [heq]
      exact Or.inr ⟨name, hnew, rfl⟩

omit locations in
/-- **What a file is converted to** when more types are declared. -/
theorem File.stays_toSchema (modules : ModuleMap) (file : File) :
    Stays new (file.toSchema modules index).value (file.toSchema modules index').value := by
  rw [File.toSchema, File.toSchema]
  rcases stays_messagesToSchema h file.messages with heq | ⟨name, hnew, heq⟩
  · rw [heq]
    cases messagesToSchema index file.messages with
    | error e => exact .refl _
    | ok messages => exact (stays_servicesToSchema h file.locations 0 file.services).map _
  · rw [heq]
    exact Or.inr ⟨name, hnew, rfl⟩

end Services

/-! ### Declarations -/

section Added

variable {files added files' : List File}

/-- A type that an index has was declared, and a declared name is known. -/
theorem TypeIndex.types_ofFiles {ty : TypeRef}
    (h : (ofFiles modules files).types[name]? = some ty) :
    ∃ d ∈ files.flatMap (File.declarations modules), d.fullName = name ∧ d.type = ty := by
  rcases (types_foldl (files.flatMap (File.declarations modules)) ∅ name).1 ty h with h | h
  · simp at h
  · exact h

/-- The full names of files are those of what they declare. -/
theorem map_fullName_declarations (modules : ModuleMap) (files : List File) :
    (files.flatMap (File.declarations modules)).map Declaration.fullName =
      files.flatMap File.fullNames := by
  rw [List.map_flatMap]
  exact List.flatMap_congr fun file _ => file.fullName_declarations modules

/-- **Files that declare new names only** make the index grow. -/
theorem TypeIndex.grows_ofFiles (modules : ModuleMap)
    (hdistinct : (files.flatMap File.fullNames).Nodup)
    (hfresh : ∀ name ∈ added.flatMap File.fullNames, name ∉ files.flatMap File.fullNames)
    (hmem : ∀ file, file ∈ files' ↔ file ∈ files ∨ file ∈ added) :
    TypeIndex.Grows (· ∈ added.flatMap File.fullNames) (ofFiles modules files)
      (ofFiles modules files') where
  kept name ty hty := by
    obtain ⟨d, hd, hname, rfl⟩ := types_ofFiles hty
    have hold : name ∈ files.flatMap File.fullNames := by
      rw [← map_fullName_declarations modules]
      exact List.mem_map.mpr ⟨d, hd, hname⟩
    have hknown : (ofFiles modules files').Knows name := by
      obtain ⟨file, hfile, hdeclared⟩ := List.mem_flatMap.mp hold
      exact knows_ofFiles.mpr ⟨file, (hmem file).mpr (Or.inl hfile), hdeclared⟩
    obtain ⟨ty', hty'⟩ := hknown
    obtain ⟨d', hd', hname', rfl⟩ := types_ofFiles hty'
    obtain ⟨file, hfile, hdeclared⟩ := List.mem_flatMap.mp hd'
    -- The declaration is one of the old files, since the new ones do not declare an old name.
    rcases (hmem file).mp hfile with hfile | hfile
    · have hd' := List.mem_flatMap.mpr ⟨file, hfile, hdeclared⟩
      rw [← map_fullName_declarations modules] at hdistinct
      rw [hty', List.inj_on_of_nodup_map hdistinct hd' hd (hname'.trans hname.symm)]
    · refine absurd hold (hfresh name (List.mem_flatMap.mpr ⟨file, hfile, ?_⟩))
      rw [← file.fullName_declarations modules]
      exact List.mem_map.mpr ⟨d', hdeclared, hname'⟩
  learnt name hnone hnew := by
    rw [Option.eq_none_iff_forall_not_mem]
    intro ty hty
    obtain ⟨file, hfile, hdeclared⟩ := knows_ofFiles.mp ⟨ty, hty⟩
    rcases (hmem file).mp hfile with hfile | hfile
    · obtain ⟨ty', hty'⟩ := knows_ofFiles.mpr ⟨file, hfile, hdeclared⟩
      rw [hnone] at hty'
      cases hty'
    · exact hnew (List.mem_flatMap.mpr ⟨file, hfile, hdeclared⟩)

/-- The file of a name that no added file has is the same among more files. -/
theorem find?_of_added (hdistinct : (files.map File.name).Nodup)
    (hmem : ∀ file, file ∈ files' ↔ file ∈ files ∨ file ∈ added)
    (hname : name ∉ added.map File.name) :
    files'.find? (·.name == name) = files.find? (·.name == name) := by
  have hnamed : ∀ {all : List File} {file : File},
      all.find? (·.name == name) = some file → file ∈ all ∧ file.name = name := by
    intro all file hfind
    have hfound : (file.name == name) = true :=
      List.find?_some (p := fun f : File => f.name == name) hfind
    exact ⟨List.mem_of_find?_eq_some hfind, beq_iff_eq.mp hfound⟩
  have hold : ∀ {file : File}, files'.find? (·.name == name) = some file →
      file ∈ files ∧ file.name = name := by
    intro file hfind
    obtain ⟨hfile, hsame⟩ := hnamed hfind
    refine ⟨((hmem file).mp hfile).resolve_right fun hadded => hname ?_, hsame⟩
    exact hsame ▸ List.mem_map_of_mem hadded
  cases hfind : files.find? (·.name == name) with
  | none =>
    rw [Option.eq_none_iff_forall_not_mem]
    intro file hfind'
    obtain ⟨hfile, hsame⟩ := hold hfind'
    rw [List.find?_eq_none] at hfind
    exact hfind file hfile (beq_iff_eq.mpr hsame)
  | some file =>
    obtain ⟨hfile, hsame⟩ := hnamed hfind
    cases hfind' : files'.find? (·.name == name) with
    | none =>
      rw [List.find?_eq_none] at hfind'
      exact absurd (beq_iff_eq.mpr hsame) (hfind' file ((hmem file).mpr (Or.inl hfile)))
    | some file' =>
      obtain ⟨hfile', hsame'⟩ := hold hfind'
      rw [List.inj_on_of_nodup_map hdistinct hfile' hfile (hsame'.trans hsame.symm)]

end Added

end ServiceBus.Descriptor
