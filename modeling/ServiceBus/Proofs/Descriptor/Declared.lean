import Mathlib.Algebra.GroupWithZero.Nat
import ServiceBus.Proofs.Descriptor.Growth

/-! # What the index tells

Files declare types in a tree of messages. The index of files whose types have different full names
knows exactly the declared types, and tells for each where it lives.

* `Declares`: a type stands among messages and enumerations, inside some of these messages.
* `File.fullNameOf`, `File.typeOf`: the full name of such a type, and where it lives.
* `TypeIndex.exact_ofFiles`: what the index makes of every name, and how many names it knows. -/

namespace ServiceBus.Descriptor

open Schema (SchemaError TypeRef)

variable {scope : Scope} {name : String} {enclosing : List String} {messages : List Message}
  {enums : List String} {d : Declaration} {modules : ModuleMap} {files : List File}

/-! ### Declared types -/

/-- **A type of this name is declared** among messages and enumerations, at any depth. The messages
that enclose it are told by their names, outermost first. -/
inductive Declares : List Message → List String → List String → String → Prop where
  | message {messages : List Message} {enums : List String} {m : Message} (h : m ∈ messages) :
      Declares messages enums [] m.name
  | enumeration {messages : List Message} {enums : List String} {name : String}
      (h : name ∈ enums) : Declares messages enums [] name
  | inside {messages : List Message} {enums enclosing : List String} {name : String} {m : Message}
      (h : m ∈ messages) (hinside : Declares m.nested m.enums enclosing name) :
      Declares messages enums (m.name :: enclosing) name

/-- A type of this name is declared in a file. -/
def File.Declares (file : File) : List String → String → Prop :=
  Descriptor.Declares file.messages file.enums

/-- The full name of a type in a file: a dot, the package if there is one, the enclosing messages and
its own name, with dots between them. -/
def File.fullNameOf (file : File) (enclosing : List String) (name : String) : String :=
  "." ++ ".".intercalate
    ((if file.package.isEmpty then [] else [file.package]) ++ enclosing ++ [name])

/-- Where a type of a file lives: in the module of the package, below one module for each enclosing
message. -/
def File.typeOf (modules : ModuleMap) (file : File) (enclosing : List String) (name : String) :
    TypeRef where
  module := modules.moduleFor file.package
  name := "::".intercalate
    (enclosing.map (fun message => Name.escape (Name.snake message)) ++
      [Name.escape (Name.camel name)])

mutual

/-- How many types a message declares, itself included. -/
def Message.typeCount : Message → Nat
  | ⟨_, _, nested, enums⟩ => 1 + (typeCountOf nested + enums.length)

/-- How many types messages declare. -/
def typeCountOf : List Message → Nat
  | [] => 0
  | m :: rest => m.typeCount + typeCountOf rest

end

/-- How many types a file declares. -/
def File.typeCount (file : File) : Nat := typeCountOf file.messages + file.enums.length

/-! ### Scopes -/

/-- The scope inside messages, outermost first. -/
def Scope.within (scope : Scope) (enclosing : List String) : Scope := enclosing.foldl inside scope

/-- A name for each part, with a dot in front of every part. -/
def dotted (parts : List String) : String := String.join (parts.map ("." ++ ·))

@[simp] theorem dotted_nil : dotted [] = "" := rfl

/-- The first part of a dotted name. -/
@[simp] theorem dotted_cons (part : String) (parts : List String) :
    dotted (part :: parts) = "." ++ part ++ dotted parts := by
  rw [dotted, List.map_cons, String.join_cons, dotted]

/-- A dotted name of parts and further ones. -/
@[simp] theorem dotted_append (parts further : List String) :
    dotted (parts ++ further) = dotted parts ++ dotted further := by
  rw [dotted, List.map_append, String.join_append, dotted, dotted]

/-- The last part of a dotted name. -/
@[simp] theorem dotted_concat (parts : List String) (part : String) :
    dotted (parts ++ [part]) = dotted parts ++ "." ++ part := by
  rw [dotted_append, dotted_cons, dotted_nil, String.append_empty, String.append_assoc]

/-- A dotted name has dots between its parts and one in front. -/
theorem dotted_eq_intercalate {parts : List String} (h : parts ≠ []) :
    dotted parts = "." ++ ".".intercalate parts := by
  induction parts with
  | nil => exact absurd rfl h
  | cons part parts ih =>
    cases parts with
    | nil => simp [dotted]
    | cons next parts =>
      rw [dotted_cons, ih (List.cons_ne_nil _ _), String.intercalate_cons_cons]
      simp only [String.append_assoc]

namespace Scope

@[simp] theorem module_within (scope : Scope) (enclosing : List String) :
    (scope.within enclosing).module = scope.module := by
  induction enclosing generalizing scope with
  | nil => rfl
  | cons message enclosing ih => exact ih (scope.inside message)

@[simp] theorem fullName_within (scope : Scope) (enclosing : List String) :
    (scope.within enclosing).fullName = scope.fullName ++ dotted enclosing := by
  induction enclosing generalizing scope with
  | nil => simp [within, dotted]
  | cons message enclosing ih =>
    rw [dotted_cons]
    refine (ih (scope.inside message)).trans ?_
    simp only [inside, String.append_assoc]

@[simp] theorem parents_within (scope : Scope) (enclosing : List String) :
    (scope.within enclosing).parents =
      scope.parents ++ enclosing.map fun message => Name.escape (Name.snake message) := by
  induction enclosing generalizing scope with
  | nil => simp [within]
  | cons message enclosing ih =>
    refine (ih (scope.inside message)).trans ?_
    simp only [inside, List.append_assoc, List.map_cons, List.singleton_append]

end Scope

/-- A file declares a type under its full name, at the place where it lives. -/
theorem File.declare_within (modules : ModuleMap) (file : File) (enclosing : List String)
    (name : String) : ((file.scope modules).within enclosing).declare name =
      { fullName := file.fullNameOf enclosing name, type := file.typeOf modules enclosing name } := by
  have hpackage : (file.scope modules).fullName =
      dotted (if file.package.isEmpty then [] else [file.package]) := by
    rw [File.scope]
    split
    · rfl
    · simp [dotted]
  have hname : (file.scope modules).fullName ++ dotted enclosing ++ "." ++ name =
      file.fullNameOf enclosing name := by
    rw [fullNameOf, ← dotted_eq_intercalate (by simp), hpackage, dotted_concat, dotted_append]
  rw [Scope.declare, Scope.fullName_within, Scope.module_within, Scope.parents_within, hname]
  rfl

/-! ### Declarations -/

/-- A message declares itself, then what is inside it. -/
theorem Message.declarations_eq (m : Message) (scope : Scope) :
    m.declarations scope = scope.declare m.name ::
      (declarationsOf (scope.inside m.name) m.nested ++
        m.enums.map (scope.inside m.name).declare) := by
  cases m
  rw [Message.declarations]

/-- What messages declare is what each of them declares. -/
theorem mem_declarationsOf :
    d ∈ declarationsOf scope messages ↔ ∃ m ∈ messages, d ∈ m.declarations scope := by
  induction messages with
  | nil => simp [declarationsOf]
  | cons m rest ih => simp [declarationsOf, ih]

mutual

/-- What a message declares is declared inside it, but for itself. -/
theorem Message.declares_of_mem : ∀ {m : Message} {scope : Scope}, d ∈ m.declarations scope →
    d = scope.declare m.name ∨ ∃ enclosing name, Declares m.nested m.enums enclosing name ∧
      d = (scope.within (m.name :: enclosing)).declare name
  | ⟨name, fields, nested, enums⟩, scope, h => by
    rw [Message.declarations] at h
    rcases List.mem_cons.mp h with rfl | h
    · exact Or.inl rfl
    · exact Or.inr (declares_of_mem h)

/-- What messages and enumerations declare is declared among them. -/
theorem declares_of_mem : ∀ {messages : List Message} {enums : List String} {scope : Scope},
    d ∈ declarationsOf scope messages ++ enums.map scope.declare →
    ∃ enclosing name, Declares messages enums enclosing name ∧
      d = (scope.within enclosing).declare name
  | [], enums, scope, h => by
    obtain ⟨name, hname, rfl⟩ := List.mem_map.mp h
    exact ⟨[], name, .enumeration hname, rfl⟩
  | m :: rest, enums, scope, h => by
    rw [declarationsOf, List.append_assoc] at h
    rcases List.mem_append.mp h with h | h
    · rcases m.declares_of_mem h with rfl | ⟨enclosing, name, hinside, rfl⟩
      · exact ⟨[], m.name, .message List.mem_cons_self, rfl⟩
      · exact ⟨m.name :: enclosing, name, .inside List.mem_cons_self hinside, rfl⟩
    · obtain ⟨enclosing, name, hrest, rfl⟩ := declares_of_mem h
      refine ⟨enclosing, name, ?_, rfl⟩
      cases hrest with
      | message hm => exact .message (List.mem_cons_of_mem m hm)
      | enumeration hname => exact .enumeration hname
      | inside hm hinside => exact .inside (List.mem_cons_of_mem m hm) hinside

end

/-- What is declared among messages and enumerations is one of their declarations. -/
theorem Declares.mem_declarations (h : Declares messages enums enclosing name) (scope : Scope) :
    (scope.within enclosing).declare name ∈
      declarationsOf scope messages ++ enums.map scope.declare := by
  induction h generalizing scope with
  | @message _ _ m hm =>
    refine List.mem_append_left _ (mem_declarationsOf.mpr ⟨m, hm, ?_⟩)
    rw [m.declarations_eq]
    exact List.mem_cons_self
  | enumeration hname => exact List.mem_append_right _ (List.mem_map_of_mem hname)
  | @inside _ _ _ _ m hm _ ih =>
    refine List.mem_append_left _ (mem_declarationsOf.mpr ⟨m, hm, ?_⟩)
    rw [m.declarations_eq]
    exact List.mem_cons_of_mem _ (ih (scope.inside m.name))

/-- **The declarations of a file** are those of the types that it declares. -/
theorem File.mem_declarations {file : File} : d ∈ file.declarations modules ↔
    ∃ enclosing name, file.Declares enclosing name ∧
      d = { fullName := file.fullNameOf enclosing name,
            type := file.typeOf modules enclosing name } := by
  simp only [← File.declare_within]
  constructor
  · exact declares_of_mem
  · rintro ⟨enclosing, name, h, rfl⟩
    exact h.mem_declarations (file.scope modules)

mutual

/-- A message has as many declarations as it declares types. -/
theorem Message.length_declarations : ∀ (m : Message) (scope : Scope),
    (m.declarations scope).length = m.typeCount
  | ⟨name, fields, nested, enums⟩, scope => by
    rw [Message.declarations, Message.typeCount, List.length_cons, List.length_append,
      List.length_map, length_declarationsOf nested (scope.inside name), Nat.add_comm 1]

/-- Messages have as many declarations as they declare types. -/
theorem length_declarationsOf : ∀ (messages : List Message) (scope : Scope),
    (declarationsOf scope messages).length = typeCountOf messages
  | [], scope => rfl
  | m :: rest, scope => by
    rw [declarationsOf, typeCountOf, List.length_append, m.length_declarations scope,
      length_declarationsOf rest scope]

end

/-- A file has as many declarations as it declares types. -/
theorem File.length_declarations (modules : ModuleMap) (file : File) :
    (file.declarations modules).length = file.typeCount := by
  rw [File.declarations, List.length_append, List.length_map, length_declarationsOf, typeCount]

/-! ### The index -/

namespace TypeIndex

/-- The index has the types of the declarations under their full names. -/
theorem ofDeclarations_eq (ds : List Declaration) : ofDeclarations ds =
    ⟨Std.TreeMap.ofList (ds.map fun d => (d.fullName, d.type))⟩ := by
  have hinsert : ∀ types : Std.TreeMap String TypeRef,
      ds.foldl (fun types d => types.insert d.fullName d.type) types =
        types.insertMany (ds.map fun d => (d.fullName, d.type)) := by
    induction ds with
    | nil => exact fun types => rfl
    | cons d ds ih =>
      intro types
      rw [List.foldl_cons, List.map_cons, Std.TreeMap.insertMany_cons, ih]
  rw [ofDeclarations, hinsert, Std.TreeMap.ofList_eq_insertMany_empty]

/-- An index knows as many names as there are declarations, if these have different names. -/
theorem size_ofDeclarations {ds : List Declaration} (h : (ds.map Declaration.fullName).Nodup) :
    (ofDeclarations ds).size = ds.length := by
  rw [ofDeclarations_eq, size, Std.TreeMap.size_ofList, List.length_map]
  rw [List.pairwise_map]
  refine (List.pairwise_map.mp h).imp ?_
  intro a b hne heq
  exact hne (Std.compare_eq_iff_eq.mp heq)

/-- The type that the index of files with different types has for a name. -/
theorem types_ofFiles_iff (hdistinct : (files.flatMap File.fullNames).Nodup) {ty : TypeRef} :
    (ofFiles modules files).types[name]? = some ty ↔
      ∃ d ∈ files.flatMap (File.declarations modules), d.fullName = name ∧ d.type = ty := by
  constructor
  · exact types_ofFiles
  · rintro ⟨d, hd, rfl, rfl⟩
    have hknown : (ofFiles modules files).Knows d.fullName := by
      obtain ⟨file, hfile, hd⟩ := List.mem_flatMap.mp hd
      refine knows_ofFiles.mpr ⟨file, hfile, ?_⟩
      rw [← file.fullName_declarations modules]
      exact List.mem_map_of_mem hd
    obtain ⟨ty, hty⟩ := hknown
    obtain ⟨d', hd', hname, rfl⟩ := types_ofFiles hty
    rw [← map_fullName_declarations modules] at hdistinct
    rw [hty, List.inj_on_of_nodup_map hdistinct hd' hd hname]

/-- **The index is exact.** If all types that files declare have different full names, then a name is
resolved exactly if it is the full name of a declared type, and then to the place where this type
lives; any other name is told as unresolved. The index knows as many names as there are declared
types. -/
theorem exact_ofFiles (modules : ModuleMap) (hdistinct : (files.flatMap File.fullNames).Nodup) :
    (∀ fullName ty, (ofFiles modules files).resolve fullName = .ok ty ↔
      ∃ file ∈ files, ∃ enclosing name, file.Declares enclosing name ∧
        fullName = file.fullNameOf enclosing name ∧ ty = file.typeOf modules enclosing name) ∧
    (∀ fullName, (∃ e, (ofFiles modules files).resolve fullName = .error e) ↔
      ¬ ∃ file ∈ files, ∃ enclosing name, file.Declares enclosing name ∧
        fullName = file.fullNameOf enclosing name) ∧
    (∀ fullName e, (ofFiles modules files).resolve fullName = .error e →
      e = .unresolvedType fullName) ∧
    (ofFiles modules files).size = (files.map File.typeCount).sum := by
  have hresolve : ∀ fullName ty, (ofFiles modules files).resolve fullName = .ok ty ↔
      ∃ file ∈ files, ∃ enclosing name, file.Declares enclosing name ∧
        fullName = file.fullNameOf enclosing name ∧ ty = file.typeOf modules enclosing name := by
    intro fullName ty
    rw [resolve_eq_ok, types_ofFiles_iff hdistinct]
    constructor
    · rintro ⟨d, hd, rfl, rfl⟩
      obtain ⟨file, hfile, hd⟩ := List.mem_flatMap.mp hd
      obtain ⟨enclosing, name, hdeclares, rfl⟩ := File.mem_declarations.mp hd
      exact ⟨file, hfile, enclosing, name, hdeclares, rfl, rfl⟩
    · rintro ⟨file, hfile, enclosing, name, hdeclares, rfl, rfl⟩
      have hd : _ ∈ file.declarations modules :=
        File.mem_declarations.mpr ⟨enclosing, name, hdeclares, rfl⟩
      exact ⟨_, List.mem_flatMap.mpr ⟨file, hfile, hd⟩, rfl, rfl⟩
  refine ⟨hresolve, fun fullName => ?_, fun fullName e h => ?_, ?_⟩
  · constructor
    · rintro ⟨e, he⟩ ⟨file, hfile, enclosing, name, hdeclares, hname⟩
      rw [(hresolve fullName _).mpr ⟨file, hfile, enclosing, name, hdeclares, hname, rfl⟩] at he
      cases he
    · intro hnone
      cases hresult : (ofFiles modules files).resolve fullName with
      | error e => exact ⟨e, rfl⟩
      | ok ty =>
        obtain ⟨file, hfile, enclosing, name, hdeclares, hname, -⟩ := (hresolve _ _).mp hresult
        exact absurd ⟨file, hfile, enclosing, name, hdeclares, hname⟩ hnone
  · rw [resolve] at h
    split at h
    · cases h
    · exact (Except.error.inj h).symm
  · rw [ofFiles, size_ofDeclarations, List.length_flatMap]
    · simp only [File.length_declarations]
    · rw [map_fullName_declarations]
      exact hdistinct

/-- Files of which one declares a kind of thing inside two messages, and one has no package. -/
def libraryFiles : List File := [
  { name := "library.proto", package := "library.v1",
    messages := [{
      name := "BookShelf"
      nested := [{ name := "Type", enums := ["self"] }] }] },
  { name := "loose.proto", enums := ["BookShelf"] }]

/-- The index of these files knows four names. An enumeration deep inside lives in a module for every
message around it, and a type without a package in the root. -/
theorem exact_ofFiles_library :
    (libraryFiles.flatMap File.fullNames).Nodup ∧
    let index := ofFiles ({} : Settings).modules libraryFiles
    index.resolve ".library.v1.BookShelf.Type.self" =
      .ok { module := "crate::library::v1", name := "book_shelf::r#type::Self_" } ∧
    index.resolve ".BookShelf" = .ok { module := "crate", name := "BookShelf" } ∧
    index.size = 4 := by
  have hdistinct : (libraryFiles.flatMap File.fullNames).Nodup := by decide
  obtain ⟨hresolve, -, -, hsize⟩ := exact_ofFiles ({} : Settings).modules hdistinct
  refine ⟨hdistinct, (hresolve _ _).mpr ?_, (hresolve _ _).mpr ?_, hsize.trans (by decide)⟩
  · exact ⟨_, List.mem_cons_self, ["BookShelf", "Type"], "self",
      .inside List.mem_cons_self (.inside List.mem_cons_self (.enumeration List.mem_cons_self)),
      by decide, by decide +kernel⟩
  · exact ⟨_, List.mem_cons_of_mem _ List.mem_cons_self, [], "BookShelf",
      .enumeration List.mem_cons_self, by decide, by decide +kernel⟩

end TypeIndex

end ServiceBus.Descriptor
