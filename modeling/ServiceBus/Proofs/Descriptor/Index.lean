import ServiceBus.Proofs.Descriptor.Conversion
import ServiceBus.Proofs.Name.Paths
import ServiceBus.Proofs.Text.Dictionaries
import ServiceBus.Proofs.Text.Parts

/-! # Where declared types live

Settings that were checked place packages in modules that can be written, and names of schemas give
paths that can be written. So the path of every declared type can.

* `TypeIndex.knows_ofFiles`: the index knows the names that are declared.
* `checkModulePath_moduleFor`: the module of a package.
* `check_of_types`: the path of a type that the index knows. -/

namespace ServiceBus

open Name Schema

/-! ### Modules of packages -/

/-- The modules that settings place packages in. -/
structure ModuleMap.Valid (modules : ModuleMap) : Prop where
  root : checkModulePath modules.root = .ok ()
  placed : ∀ e ∈ modules.placed, checkModulePath e.2 = .ok ()

namespace Settings

/-- Packages are placed in module paths if that was checked. -/
theorem checkModulePath_of_checkExternPaths {entries : List (String × String)}
    (h : checkExternPaths entries = .ok ()) : ∀ e ∈ entries, checkModulePath e.2 = .ok () := by
  induction entries with
  | nil => exact fun e he => absurd he List.not_mem_nil
  | cons entry entries ih =>
    obtain ⟨package, module⟩ := entry
    rw [checkExternPaths] at h
    split at h
    · cases h
    · split at h
      · cases h
      · rename_i hmodule
        intro e he
        rcases List.mem_cons.mp he with rfl | he
        · exact hmodule
        · exact ih h e he

/-- **Checked settings place packages in module paths.** -/
theorem valid_modules {s : Settings} (h : s.check = .ok ()) : s.modules.Valid := by
  rw [check] at h
  split at h
  · cases h
  · split at h
    · cases h
    · rename_i hroot
      refine ⟨hroot, ?_⟩
      intro e he
      rcases Text.Dictionary.mem_extend he with he | he
      · rw [List.mem_singleton.mp he]
        rfl
      · exact checkModulePath_of_checkExternPaths h e he

/-- A parameter that can be applied leaves checked settings. -/
theorem check_of_applyParameter {s applied : Settings} {parameter : String}
    (h : s.applyParameter parameter = (applied, .ok ())) : applied.check = .ok () := by
  rw [applyParameter] at h
  generalize parameterParts parameter = parts at h
  induction parts generalizing s with
  | nil =>
    rw [applyParts] at h
    obtain ⟨hs, h⟩ := Prod.mk.inj h
    rw [← hs]
    exact h
  | cons part parts ih =>
    rw [applyParts] at h
    split at h
    · exact ih h
    · obtain ⟨-, h⟩ := Prod.mk.inj h
      cases h

end Settings

namespace ModuleMap

variable {modules : ModuleMap} {package : List Char}

/-- The segments of a package are names. Between two dots in a row there is none. -/
def IsPackage (package : List Char) : Prop :=
  ∀ part ∈ Text.splitChars (· == '.') package, part ≠ [] → isSchemaName part = true

/-- The part of a package below another. -/
theorem isPackage_of_below? {outer rest : List Char} (h : below? outer package = some rest)
    (hp : IsPackage package) : IsPackage rest := by
  rw [below?] at h
  split at h
  · rename_i hcond
    cases h
    rw [Bool.and_eq_true] at hcond
    obtain ⟨hbegins, hhead⟩ := hcond
    obtain ⟨tail, rfl⟩ := List.isPrefixOf_iff_prefix.mp hbegins
    rw [List.drop_left] at hhead ⊢
    -- The part below begins with a dot, unless it is empty.
    cases tail with
    | nil =>
      intro part hpart hne
      exact absurd (List.mem_singleton.mp hpart) hne
    | cons c tail =>
      have hdot : (c == '.') = true := by simpa using hhead
      intro part hpart hne
      rw [Text.splitChars, if_pos hdot] at hpart
      rcases List.mem_cons.mp hpart with rfl | hpart
      · exact absurd rfl hne
      · refine hp part ?_ hne
        rw [Text.splitChars_append (p := (· == '.')) hdot]
        exact List.mem_append_right _ hpart
  · cases h

/-- The module of the nearest placed package, and the part below it. -/
theorem nearest?_cases {placed : List (String × String)} {best : String × List Char}
    (h : nearest? package placed = some best) (hp : IsPackage package) :
    (∃ e ∈ placed, best.1 = e.2) ∧ IsPackage best.2 := by
  induction placed generalizing best with
  | nil => cases h
  | cons entry others ih =>
    obtain ⟨outer, module⟩ := entry
    have hothers : ∀ b, nearest? package others = some b →
        (∃ e ∈ (outer, module) :: others, b.1 = e.2) ∧ IsPackage b.2 := by
      intro b hb
      obtain ⟨⟨e, he, hmodule⟩, hrest⟩ := ih hb
      exact ⟨⟨e, List.mem_cons_of_mem _ he, hmodule⟩, hrest⟩
    have hhere : ∀ rest, below? outer.toList package = some rest →
        (∃ e ∈ (outer, module) :: others, module = e.2) ∧ IsPackage rest :=
      fun rest hrest => ⟨⟨_, List.mem_cons_self, rfl⟩, isPackage_of_below? hrest hp⟩
    rw [nearest?] at h
    split at h
    · exact hothers best h
    · rename_i rest hrest _
      cases h
      exact hhere rest hrest
    · rename_i rest b hrest hb
      split at h
      · cases h
        exact hothers _ hb
      · cases h
        exact hhere rest hrest

/-- **The module of a package is a module path.** -/
theorem checkModulePath_moduleFor {package : String} (hv : modules.Valid)
    (hp : IsPackage package.toList) : checkModulePath (modules.moduleFor package) = .ok () := by
  have hqualified : IsPackage ('.' :: package.toList) := by
    intro part hpart hne
    rcases List.mem_cons.mp hpart with rfl | hpart
    · exact absurd rfl hne
    · exact hp part hpart hne
  rw [moduleFor]
  cases hnearest : nearest? ('.' :: package.toList) modules.placed with
  | none => exact checkModulePath_extend hv.root hqualified
  | some best =>
    obtain ⟨⟨e, he, hmodule⟩, hrest⟩ := nearest?_cases hnearest hqualified
    refine checkModulePath_extend ?_ hrest
    rw [hmodule]
    exact hv.placed e he

end ModuleMap

namespace Descriptor

/-! ### Declarations -/

mutual

/-- The names of a message, of those inside it and of their enumerations. -/
def Message.names : Message → List String
  | ⟨name, _, nested, enums⟩ => name :: (namesOf nested ++ enums)

/-- The names of messages, of those inside them and of their enumerations. -/
def namesOf : List Message → List String
  | [] => []
  | m :: rest => m.names ++ namesOf rest

end

mutual

/-- The full names of a message, of those inside it and of their enumerations. -/
def Message.fullNames (outer : String) : Message → List String
  | ⟨name, _, nested, enums⟩ =>
    (outer ++ "." ++ name) ::
      (fullNamesOf (outer ++ "." ++ name) nested ++ enums.map (outer ++ "." ++ name ++ "." ++ ·))

/-- The full names of messages, of those inside them and of their enumerations. -/
def fullNamesOf (outer : String) : List Message → List String
  | [] => []
  | m :: rest => m.fullNames outer ++ fullNamesOf outer rest

end

/-- The full names of the messages and enumerations of a file. -/
def File.fullNames (file : File) : List String :=
  let outer := if file.package.isEmpty then "" else "." ++ file.package
  fullNamesOf outer file.messages ++ file.enums.map (outer ++ "." ++ ·)

mutual

/-- A message declares its full names. -/
theorem Message.fullName_declarations (scope : Scope) :
    ∀ m : Message, (m.declarations scope).map Declaration.fullName = m.fullNames scope.fullName
  | ⟨name, fields, nested, enums⟩ => by
    rw [Message.declarations, Message.fullNames, List.map_cons, List.map_append, List.map_map,
      fullName_declarationsOf]
    rfl

/-- Messages declare their full names. -/
theorem fullName_declarationsOf (scope : Scope) :
    ∀ ms : List Message,
      (declarationsOf scope ms).map Declaration.fullName = fullNamesOf scope.fullName ms
  | [] => rfl
  | m :: rest => by
    rw [declarationsOf, fullNamesOf, List.map_append, m.fullName_declarations,
      fullName_declarationsOf]

end

/-- A file declares its full names. -/
theorem File.fullName_declarations (modules : ModuleMap) (file : File) :
    (file.declarations modules).map Declaration.fullName = file.fullNames := by
  rw [File.declarations, File.fullNames, List.map_append, fullName_declarationsOf, List.map_map]
  rfl

/-- The package, the messages and the enumerations of a file have names. -/
structure File.IsNamed (file : File) : Prop where
  package : ModuleMap.IsPackage file.package.toList
  names : ∀ name ∈ namesOf file.messages ++ file.enums, isSchemaName name.toList = true

/-- A scope in a module whose path can be written. -/
structure Scope.Valid (scope : Scope) : Prop where
  module : checkModulePath scope.module = .ok ()
  parents : ∀ parent ∈ scope.parents, isIdentifier parent = true

variable {scope : Scope} {name : String} {d : Declaration}

/-- A path to a type can be written if its parts can. -/
theorem check_of_parts {module : String} {parts : List String}
    (hmodule : checkModulePath module = .ok ()) (hne : parts ≠ [])
    (hparts : ∀ part ∈ parts, isIdentifier part = true) :
    TypeRef.check { module, name := "::".intercalate parts } = .ok () := by
  have hpath := isPath_intercalate hne hparts
  have hempty : ("::".intercalate parts).isEmpty = false := by
    rw [String.isEmpty_eq_false_iff]
    intro hempty
    rw [hempty] at hpath
    exact absurd hpath (by decide)
  exact TypeRef.check_eq_ok.mpr ⟨hmodule, hempty, hpath⟩

/-- The path of a declaration. -/
theorem Scope.Valid.check_declare (h : scope.Valid) (hname : isSchemaName name.toList = true) :
    (scope.declare name).type.check = .ok () := by
  refine check_of_parts h.module (by simp) ?_
  intro part hpart
  rcases List.mem_append.mp hpart with hpart | hpart
  · exact h.parents part hpart
  · rw [List.mem_singleton.mp hpart]
    exact isIdentifier_escape (isSchemaName_camel hname)

/-- The scope inside a message. -/
theorem Scope.Valid.inside (h : scope.Valid) (hname : isSchemaName name.toList = true) :
    (scope.inside name).Valid := by
  refine ⟨h.module, ?_⟩
  intro parent hparent
  rcases List.mem_append.mp hparent with hparent | hparent
  · exact h.parents parent hparent
  · rw [List.mem_singleton.mp hparent]
    exact isIdentifier_escape (isSchemaName_snake hname)

mutual

/-- The paths of what a message declares. -/
theorem Message.check_declarations {scope : Scope} (hs : scope.Valid) : ∀ {m : Message},
    (∀ name ∈ m.names, isSchemaName name.toList = true) →
    ∀ d ∈ m.declarations scope, d.type.check = .ok ()
  | ⟨name, fields, nested, enums⟩, h, d, hd => by
    rw [Message.names] at h
    have hname := h name List.mem_cons_self
    have hinside := hs.inside hname
    rw [Message.declarations] at hd
    rcases List.mem_cons.mp hd with rfl | hd
    · exact hs.check_declare hname
    rcases List.mem_append.mp hd with hd | hd
    · refine check_declarationsOf hinside (fun n hn => ?_) d hd
      exact h n (List.mem_cons_of_mem _ (List.mem_append_left _ hn))
    · obtain ⟨enum, henum, rfl⟩ := List.mem_map.mp hd
      exact hinside.check_declare (h enum (List.mem_cons_of_mem _ (List.mem_append_right _ henum)))

/-- The paths of what messages declare. -/
theorem check_declarationsOf {scope : Scope} (hs : scope.Valid) : ∀ {ms : List Message},
    (∀ name ∈ namesOf ms, isSchemaName name.toList = true) →
    ∀ d ∈ declarationsOf scope ms, d.type.check = .ok ()
  | [], _, _, hd => absurd hd List.not_mem_nil
  | m :: rest, h, d, hd => by
    rw [namesOf] at h
    rw [declarationsOf] at hd
    rcases List.mem_append.mp hd with hd | hd
    · exact m.check_declarations hs (fun n hn => h n (List.mem_append_left _ hn)) d hd
    · exact check_declarationsOf hs (fun n hn => h n (List.mem_append_right _ hn)) d hd

end

/-- **The paths of what a file declares.** -/
theorem File.check_declarations {modules : ModuleMap} {file : File} (hv : modules.Valid)
    (h : file.IsNamed) : ∀ d ∈ file.declarations modules, d.type.check = .ok () := by
  have hscope : (file.scope modules).Valid :=
    ⟨ModuleMap.checkModulePath_moduleFor hv h.package, fun p hp => absurd hp List.not_mem_nil⟩
  intro d hd
  rcases List.mem_append.mp hd with hd | hd
  · refine check_declarationsOf hscope (fun n hn => ?_) d hd
    exact h.names n (List.mem_append_left _ hn)
  · obtain ⟨enum, henum, rfl⟩ := List.mem_map.mp hd
    exact hscope.check_declare (h.names enum (List.mem_append_right _ henum))

/-! ### The index -/

namespace TypeIndex

/-- A type that the index has was declared, and every declared name is known. -/
theorem types_foldl (ds : List Declaration) (types : Std.TreeMap String TypeRef) (name : String) :
    (∀ ty, (ds.foldl (fun types d => types.insert d.fullName d.type) types)[name]? = some ty →
      types[name]? = some ty ∨ ∃ d ∈ ds, d.fullName = name ∧ d.type = ty) ∧
    ((∃ ty, types[name]? = some ty) ∨ (∃ d ∈ ds, d.fullName = name) →
      ∃ ty, (ds.foldl (fun types d => types.insert d.fullName d.type) types)[name]? = some ty) := by
  induction ds generalizing types with
  | nil =>
    refine ⟨fun ty h => Or.inl h, fun h => ?_⟩
    rcases h with h | ⟨d, hd, -⟩
    · exact h
    · exact absurd hd List.not_mem_nil
  | cons d ds ih =>
    obtain ⟨hsound, hcomplete⟩ := ih (types.insert d.fullName d.type)
    have hinsert : (types.insert d.fullName d.type)[name]? =
        if d.fullName = name then some d.type else types[name]? := by
      rw [Std.TreeMap.getElem?_insert]
      simp only [Std.LawfulEqCmp.compare_eq_iff_eq]
    rw [List.foldl_cons]
    constructor
    · intro ty hty
      rcases hsound ty hty with h | ⟨d', hd', hname, htype⟩
      · rw [hinsert] at h
        split at h
        · rename_i hname
          exact Or.inr ⟨d, List.mem_cons_self, hname, Option.some.inj h⟩
        · exact Or.inl h
      · exact Or.inr ⟨d', List.mem_cons_of_mem d hd', hname, htype⟩
    · intro h
      apply hcomplete
      rw [hinsert]
      by_cases hname : d.fullName = name
      · rw [if_pos hname]
        exact Or.inl ⟨d.type, rfl⟩
      · rw [if_neg hname]
        rcases h with h | ⟨d', hd', hname'⟩
        · exact Or.inl h
        · rcases List.mem_cons.mp hd' with rfl | hd'
          · exact absurd hname' hname
          · exact Or.inr ⟨d', hd', hname'⟩

/-- **The index knows the names that are declared.** -/
theorem knows_ofFiles {modules : ModuleMap} {files : List File} :
    (ofFiles modules files).Knows name ↔ ∃ file ∈ files, name ∈ file.fullNames := by
  obtain ⟨hsound, hcomplete⟩ := types_foldl (files.flatMap (File.declarations modules)) ∅ name
  constructor
  · rintro ⟨ty, hty⟩
    rcases hsound ty hty with h | ⟨d, hd, hname, -⟩
    · simp at h
    · obtain ⟨file, hfile, hd⟩ := List.mem_flatMap.mp hd
      refine ⟨file, hfile, ?_⟩
      rw [← file.fullName_declarations modules]
      exact List.mem_map.mpr ⟨d, hd, hname⟩
  · rintro ⟨file, hfile, hname⟩
    rw [← file.fullName_declarations modules] at hname
    obtain ⟨d, hd, hname⟩ := List.mem_map.mp hname
    exact hcomplete (Or.inr ⟨d, List.mem_flatMap.mpr ⟨file, hfile, hd⟩, hname⟩)

/-- **The path of a type that the index has** can be written. -/
theorem check_of_types {modules : ModuleMap} {files : List File} {ty : TypeRef}
    (hv : modules.Valid) (hnamed : ∀ file ∈ files, file.IsNamed)
    (h : (ofFiles modules files).types[name]? = some ty) : ty.check = .ok () := by
  rcases (types_foldl (files.flatMap (File.declarations modules)) ∅ name).1 ty h with h | h
  · simp at h
  · obtain ⟨d, hd, -, rfl⟩ := h
    obtain ⟨file, hfile, hd⟩ := List.mem_flatMap.mp hd
    exact file.check_declarations hv (hnamed file hfile) d hd

end TypeIndex

end Descriptor

end ServiceBus
