import ServiceBus.Proofs.Descriptor.Index
import ServiceBus.Proofs.Text.Parts

/-! # What a descriptor is converted to

A schema file has the form of its descriptor: the same tree of messages with the same fields, and the
same services with those methods that do not stream. A conversion that fails tells the first name, in
the order of the descriptor, that nobody declares.

* `TypeIndex.Settles`: a result that goes well if all names are known, and else tells the first that
  is not.
* `Message.ConvertsTo`, `Service.ConvertsTo`: what stands for a message and for a service.
* `Tells`: the lines that a comment tells, with what is kept of each.
* `Documents`: the lines that document the declaration at a path.
* `File.toSchema_structure`: when there is a conversion, what it gives, and what is told otherwise. -/

namespace ServiceBus.Descriptor

open Schema (SchemaError TypeRef)

variable {α β : Type} {index : TypeIndex} {names further : List String} {locations : List Location}
  {path : List Int} {modules : ModuleMap}

/-! ### The first unknown name -/

namespace TypeIndex

/-- The first of some names that is not known. -/
def firstUnknown? (index : TypeIndex) (names : List String) : Option String :=
  names.find? fun name => (index.types[name]?).isNone

/-- **A result is settled by some names**: it goes well if the index knows them all, and otherwise
tells the first that it does not know. -/
def Settles (index : TypeIndex) (names : List String) (result : Except SchemaError α) : Prop :=
  match index.firstUnknown? names with
  | none => ∃ a, result = .ok a
  | some name => result = .error (.unresolvedType name)

/-- What needs no type goes well. -/
theorem settles_ok (a : α) : index.Settles [] (.ok a : Except SchemaError α) := ⟨a, rfl⟩

/-- The resolution of a name. -/
theorem settles_resolve (name : String) : index.Settles [name] (index.resolve name) := by
  rw [Settles, firstUnknown?, resolve]
  cases h : index.types[name]? with
  | none => simp [h]
  | some ty => simp [h]

/-- One step and then another need the names of both. -/
theorem Settles.bind {x : Except SchemaError α} {f : α → Except SchemaError β}
    (hx : index.Settles names x) (hf : ∀ a, index.Settles further (f a)) :
    index.Settles (names ++ further) (x >>= f) := by
  unfold Settles firstUnknown? at *
  rw [List.find?_append]
  split at hx
  · rename_i hknown
    obtain ⟨a, rfl⟩ := hx
    rw [hknown, Option.none_or]
    exact hf a
  · rename_i name hunknown
    rw [hunknown, hx]
    rfl

/-- What is made of a result needs the names that the result does. -/
theorem Settles.map {x : Except SchemaError α} (hx : index.Settles names x) (f : α → β) :
    index.Settles names (x.map f) := by
  unfold Settles at *
  split at hx
  · obtain ⟨a, rfl⟩ := hx
    exact ⟨f a, rfl⟩
  · rw [hx]
    rfl

/-- A list of steps needs the names of each, one after the other. -/
theorem Settles.mapM {f : α → Except SchemaError β} {uses : α → List String}
    (hf : ∀ a, index.Settles (uses a) (f a)) (as : List α) :
    index.Settles (as.flatMap uses) (as.mapM f) := by
  induction as with
  | nil => exact settles_ok []
  | cons a as ih =>
    rw [List.mapM_cons, List.flatMap_cons]
    refine (hf a).bind fun b => ?_
    rw [← List.append_nil (as.flatMap uses)]
    exact ih.bind fun bs => settles_ok (b :: bs)

/-- **When a settled result fails**: some name is not known, and the first such is told. -/
theorem Settles.eq_error_iff {result : Except SchemaError α} {e : SchemaError}
    (h : index.Settles names result) :
    result = .error e ↔ ∃ before name after, names = before ++ name :: after ∧
      (∀ known ∈ before, index.Knows known) ∧ ¬ index.Knows name ∧ e = .unresolvedType name := by
  have hknows : ∀ name : String, (index.types[name]?).isNone = false ↔ index.Knows name := by
    intro name
    rw [Knows, ← Option.isSome_iff_exists, ← Option.not_isNone, Bool.not_eq_true']
  unfold Settles firstUnknown? at h
  constructor
  · rintro rfl
    split at h
    · obtain ⟨a, ha⟩ := h
      cases ha
    · rename_i name hunknown
      obtain ⟨hname, before, after, hnames, hbefore⟩ := List.find?_eq_some_iff_append.mp hunknown
      refine ⟨before, name, after, hnames, fun known hknown => ?_, fun hknown => ?_,
        Except.error.inj h⟩
      · exact (hknows known).mp (by simpa using hbefore known hknown)
      · rw [(hknows name).mpr hknown] at hname
        cases hname
  · rintro ⟨before, name, after, rfl, hbefore, hname, rfl⟩
    have hunknown : (before ++ name :: after).find? (fun name => (index.types[name]?).isNone) =
        some name := by
      refine List.find?_eq_some_iff_append.mpr ⟨?_, before, after, rfl, fun known hknown => ?_⟩
      · rw [← Bool.not_eq_false]
        exact fun hknown => hname ((hknows name).mp hknown)
      · rw [(hknows known).mpr (hbefore known hknown)]
        rfl
    rw [hunknown] at h
    exact h

/-- **When a settled result goes well**: all names are known. -/
theorem Settles.exists_ok {result : Except SchemaError α} (h : index.Settles names result)
    (hknows : ∀ name ∈ names, index.Knows name) : ∃ a, result = .ok a := by
  cases hresult : result with
  | ok a => exact ⟨a, rfl⟩
  | error e =>
    obtain ⟨before, name, after, hnames, -, hunknown, -⟩ := h.eq_error_iff.mp hresult
    refine absurd (hknows name ?_) hunknown
    rw [hnames]
    exact List.mem_append_right _ List.mem_cons_self

end TypeIndex

open TypeIndex (Settles settles_ok settles_resolve)

/-! ### What conversion needs -/

/-- The conversion of a field needs its type. -/
theorem Field.settles_toSchema (index : TypeIndex) (f : Field) :
    index.Settles f.typeName?.toList (f.toSchema index) := by
  have htype : index.Settles f.typeName?.toList (f.typeIn index) := by
    rw [Field.typeName?, Field.typeIn]
    cases f.kind with
    | scalar ty => exact settles_ok _
    | message | enumeration => exact (settles_resolve f.typeName).map _
  rw [← List.append_nil f.typeName?.toList]
  exact htype.bind fun ty => settles_ok _

mutual

/-- The conversion of a message needs the types of its fields, then those of the messages inside. -/
theorem Message.settles_toSchema (index : TypeIndex) : ∀ m : Message,
    index.Settles m.uses (m.toSchema index)
  | ⟨name, fields, nested, enums⟩ => by
    rw [Message.uses, Message.toSchema, List.filterMap_eq_flatMap_toList,
      ← List.append_nil (usesOf nested)]
    refine (Settles.mapM (Field.settles_toSchema index) fields).bind fun fields' => ?_
    exact (settles_messagesToSchema index nested).bind fun nested' => settles_ok _

/-- The conversion of messages needs the types of each. -/
theorem settles_messagesToSchema (index : TypeIndex) : ∀ ms : List Message,
    index.Settles (usesOf ms) (messagesToSchema index ms)
  | [] => settles_ok []
  | m :: rest => by
    rw [usesOf, messagesToSchema, ← List.append_nil (usesOf rest)]
    refine (m.settles_toSchema index).bind fun m' => ?_
    exact (settles_messagesToSchema index rest).bind fun rest' => settles_ok _

end

/-- The conversion of a method needs its input, then its output. -/
theorem Method.settles_toSchema (index : TypeIndex) (docs : List String) (m : Method) :
    index.Settles [m.input, m.output] (m.toSchema index docs) := by
  show index.Settles ([m.input] ++ ([m.output] ++ [])) _
  refine (settles_resolve m.input).bind fun input => ?_
  exact (settles_resolve m.output).bind fun output => settles_ok _

/-- The conversion of methods needs the types of those that do not stream. -/
theorem settles_methodsToSchema (index : TypeIndex) (locations : List Location) (service : String)
    (path : List Int) (position : Nat) (methods : List Method) :
    index.Settles (methodUses methods)
      (methodsToSchema index locations service path position methods).value := by
  induction methods generalizing position with
  | nil => exact settles_ok []
  | cons m rest ih =>
    rw [methodsToSchema, methodUses, List.filter_cons]
    cases m.isStreaming with
    | true => exact ih (position + 1)
    | false =>
      have hm := m.settles_toSchema index (docsAt locations (methodPath path position))
      have hboth := hm.bind fun m' => (ih (position + 1)).map (m' :: ·)
      cases hmethod : m.toSchema index (docsAt locations (methodPath path position)) with
      | error e =>
        rw [hmethod] at hboth
        exact hboth
      | ok m' =>
        rw [hmethod] at hboth
        exact hboth

/-- The conversion of services needs the types of their methods. -/
theorem settles_servicesToSchema (index : TypeIndex) (locations : List Location) (position : Nat)
    (services : List Service) :
    index.Settles (services.flatMap fun s => methodUses s.methods)
      (servicesToSchema index locations position services).value := by
  induction services generalizing position with
  | nil => exact settles_ok []
  | cons s rest ih =>
    have hs : index.Settles (methodUses s.methods) (s.toSchema index locations position).value :=
      (settles_methodsToSchema index locations s.name (servicePath position) 0 s.methods).map _
    have hboth := hs.bind fun s' => (ih (position + 1)).map (s' :: ·)
    rw [servicesToSchema, Logged.value_bind, List.flatMap_cons]
    cases hservice : (s.toSchema index locations position).value with
    | error e =>
      rw [hservice] at hboth
      exact hboth
    | ok s' =>
      rw [hservice] at hboth
      exact hboth

/-- **What the conversion of a file needs**: the types that the file uses. -/
theorem File.settles_toSchema (modules : ModuleMap) (index : TypeIndex) (file : File) :
    index.Settles file.uses (file.toSchema modules index).value := by
  have hservices := settles_servicesToSchema index file.locations 0 file.services
  have hboth := (settles_messagesToSchema index file.messages).bind fun messages =>
    hservices.map fun services =>
      ({ name := file.name, package := file.package, module := modules.moduleFor file.package,
         stem := stem file.name, messages, services } : Schema.File)
  rw [File.toSchema, File.uses]
  cases hmessages : messagesToSchema index file.messages with
  | error e =>
    rw [hmessages] at hboth
    exact hboth
  | ok messages =>
    rw [hmessages] at hboth
    exact hboth

/-- **When there is a conversion**: the descriptor uses known types only. -/
theorem File.toSchema_of_knows {file : File} (h : ∀ n ∈ file.uses, index.Knows n) :
    ∃ schema, (file.toSchema modules index).value = .ok schema :=
  (file.settles_toSchema modules index).exists_ok h

/-! ### Comments -/

/-- **What is kept of a line of a comment**: a blank in front only sets the line off, and blanks at the
end are dropped. -/
inductive KeepsLine : List Char → String → Prop
  | setOff {line : List Char} {doc : String} (kept : Text.TrimsTo line doc.toList) :
      KeepsLine (' ' :: line) doc
  | flush {line : List Char} {doc : String} (first : line.head? ≠ some ' ')
      (kept : Text.TrimsTo line doc.toList) : KeepsLine line doc

/-- **The lines that a comment tells.** Blanks at its end count for nothing, and what is left is divided
at its line breaks. A comment of blanks tells nothing. -/
inductive Tells (comment : String) : List String → Prop
  | nothing (blank : ∀ c ∈ comment.toList, Text.isBlank c = true) : Tells comment []
  | lines {told : List Char} {lines : List (List Char)} {docs : List String}
      (trimmed : Text.TrimsTo comment.toList told) (something : told ≠ [])
      (joined : ['\n'].intercalate lines = told) (whole : ∀ line ∈ lines, '\n' ∉ line)
      (kept : List.Forall₂ KeepsLine lines docs) : Tells comment docs

/-- A carriage return at the end of a line is not kept. -/
theorem KeepsLine.concat_return {line : List Char} {doc : String} (h : KeepsLine line doc) :
    KeepsLine (line ++ ['\r']) doc := by
  have hblank : Text.isBlank '\r' = true := by decide
  cases h with
  | setOff kept => exact .setOff (kept.concat hblank)
  | flush first kept =>
    refine .flush ?_ (kept.concat hblank)
    cases line with
    | nil => decide
    | cons c line => exact first

/-- What a line of a comment is turned into is what is kept of it. -/
theorem keepsLine_commentLine (line : List Char) :
    KeepsLine line (commentLine (String.ofList line)) := by
  have htrim : ∀ cs : List Char, Text.TrimsTo cs (Text.trimEnd (String.ofList cs)).toList := by
    intro cs
    rw [Text.trimEnd, String.toList_ofList, String.toList_ofList]
    exact Text.trimsTo_trimEndChars cs
  rw [commentLine]
  split
  · rename_i hstarts
    obtain ⟨rest, hrest⟩ := String.startsWith_string_iff.mp hstarts
    obtain rfl : ' ' :: rest = line := hrest.trans String.toList_ofList
    rw [String.toList_ofList]
    exact .setOff (htrim rest)
  · rename_i hstarts
    refine .flush (fun hfirst => hstarts ?_) (htrim line)
    obtain ⟨rest, rfl⟩ := List.head?_eq_some_iff.mp hfirst
    exact String.startsWith_string_iff.mpr ⟨rest, String.toList_ofList.symm⟩

/-- The same for a line that a line break ends, of which a carriage return may be a part. -/
theorem keepsLine_dropReturn (line : List Char) :
    KeepsLine line (commentLine (String.ofList (Text.dropReturn line))) := by
  rw [Text.dropReturn]
  split
  · rename_i hreturn
    obtain ⟨front, rfl⟩ := List.getLast?_eq_some_iff.mp (beq_iff_eq.mp hreturn)
    rw [List.dropLast_concat]
    exact (keepsLine_commentLine front).concat_return
  · exact keepsLine_commentLine line

/-- **The lines of a comment are what it tells.** -/
theorem tells_commentLines (comment : String) : Tells comment (commentLines comment) := by
  have htrimmed := Text.trimsTo_trimEndChars comment.toList
  rw [commentLines, Text.lines, Text.trimEnd, String.toList_ofList]
  generalize Text.trimEndChars comment.toList = told at htrimmed
  have hjoined := Text.intercalate_splitChars '\n' told
  have hwhole : ∀ line ∈ Text.splitChars (· == '\n') told, '\n' ∉ line := fun line hline hmem => by
    simpa using Text.eq_false_of_mem_splitChars hline '\n' hmem
  by_cases hnothing : told = []
  · subst hnothing
    obtain ⟨blanks, hblanks, hall⟩ := htrimmed.blanks
    rw [List.nil_append] at hblanks
    exact .nothing (hblanks ▸ hall)
  · -- What is left does not end in a line break, so its last line is one.
    obtain ⟨front, last, hparts⟩ : ∃ front last,
        Text.splitChars (· == '\n') told = front ++ [last] := by
      obtain hnil | hparts := List.eq_nil_or_concat' (Text.splitChars (· == '\n') told)
      · exact absurd hnil (Text.splitChars_ne_nil _ told)
      · exact hparts
    have hlast : last ≠ [] := by
      rintro rfl
      rcases Text.eq_nil_or_of_getLast?_splitChars (by rw [hparts, List.getLast?_concat]) with
        hnil | ⟨c, hc, hbreak⟩
      · exact hnothing hnil
      · have hblank := htrimmed.last c hc
        rw [beq_iff_eq.mp hbreak] at hblank
        cases hblank
    rw [hparts] at hjoined hwhole ⊢
    refine .lines htrimmed hnothing hjoined hwhole ?_
    rw [List.dropLast_concat, List.getLast?_concat]
    obtain ⟨c, cs, rfl⟩ := List.exists_cons_of_ne_nil hlast
    rw [List.map_map, List.map_append, List.map_map]
    refine List.rel_append ?_ (.cons (keepsLine_commentLine _) .nil)
    rw [List.forall₂_map_right_iff]
    exact List.forall₂_same.mpr fun line _ => keepsLine_dropReturn line

/-- What is kept of a line is one line, as the line is. -/
theorem KeepsLine.newline_not_mem {line : List Char} {doc : String} (h : KeepsLine line doc)
    (hline : '\n' ∉ line) : '\n' ∉ doc.toList := by
  cases h with
  | setOff kept =>
    obtain ⟨blanks, rfl, -⟩ := kept.blanks
    exact fun hmem => hline (List.mem_cons_of_mem _ (List.mem_append_left _ hmem))
  | flush _ kept =>
    obtain ⟨blanks, rfl, -⟩ := kept.blanks
    exact fun hmem => hline (List.mem_append_left _ hmem)

/-! ### What conversion gives -/

/-- The type of a field stands for the kind and the name that the descriptor tells. -/
def FieldKind.StandsFor (index : TypeIndex) (typeName : String) :
    FieldKind → Schema.FieldType → Prop
  | .scalar ty, type => type = .scalar ty
  | .message, type => ∃ ref, index.types[typeName]? = some ref ∧ type = .message ref
  | .enumeration, type => ∃ ref, index.types[typeName]? = some ref ∧ type = .enumeration ref

/-- A field and what it is converted to: a field of the same name and the type that it tells. -/
structure Field.ConvertsTo (index : TypeIndex) (f : Field) (f' : Schema.Field) : Prop where
  name : f'.name = f.name
  type : f.kind.StandsFor index f.typeName f'.type

/-- **A message and what it is converted to**: a message of the same name, with the same fields and
the same messages inside it, each in the same order. -/
inductive Message.ConvertsTo (index : TypeIndex) : Message → Schema.Message → Prop where
  | intro {name : String} {fields : List Field} {nested : List Message} {enums : List String}
      {fields' : List Schema.Field} {nested' : List Schema.Message}
      (sameFields : List.Forall₂ (Field.ConvertsTo index) fields fields')
      (sameNested : List.Forall₂ (Message.ConvertsTo index) nested nested') :
      Message.ConvertsTo index ⟨name, fields, nested, enums⟩ ⟨name, fields', nested'⟩

/-- **The lines that document the declaration at a path**: what the comment of the first location with
this path tells, and none if there is no such location. -/
inductive Documents (locations : List Location) (path : List Int) : List String → Prop where
  | first {before after : List Location} {location : Location} {docs : List String}
      (split : locations = before ++ location :: after) (found : location.path = path)
      (earlier : ∀ other ∈ before, other.path ≠ path) (tells : Tells location.leading docs) :
      Documents locations path docs
  | missing (none : ∀ other ∈ locations, other.path ≠ path) : Documents locations path []

/-- A method at a position of its service, and the service at one of its file, and what the method is
converted to. In a file 6 leads to the services, and in a service 2 leads to the methods. -/
structure Method.ConvertsTo (index : TypeIndex) (locations : List Location) (service : Nat)
    (m : Method × Nat) (m' : Schema.Method) : Prop where
  name : m'.name = m.1.name
  input : index.types[m.1.input]? = some m'.input
  output : index.types[m.1.output]? = some m'.output
  docs : Documents locations [6, (service : Int), 2, (m.2 : Int)] m'.docs

/-- **A service at a position of its file and what it is converted to**: a service of the same name
with those methods that do not stream, in the same order. Each is documented by the comment at the
position that it has among all methods, those included that stream. -/
structure Service.ConvertsTo (index : TypeIndex) (locations : List Location) (s : Service × Nat)
    (s' : Schema.Service) : Prop where
  name : s'.name = s.1.name
  docs : Documents locations [6, (s.2 : Int)] s'.docs
  methods : List.Forall₂ (Method.ConvertsTo index locations s.2)
    (s.1.methods.zipIdx.filter fun m => !m.1.isStreaming) s'.methods

/-- The lines that are found at a path document it. -/
theorem documents_docsAt (locations : List Location) (path : List Int) :
    Documents locations path (docsAt locations path) := by
  rw [docsAt]
  split
  · rename_i location hfound
    obtain ⟨hpath, before, after, hsplit, hearlier⟩ := List.find?_eq_some_iff_append.mp hfound
    refine .first hsplit (beq_iff_eq.mp hpath) (fun other hother => ?_) (tells_commentLines _)
    simpa using hearlier other hother
  · rename_i hnone
    exact .missing fun other hother => by simpa using List.find?_eq_none.mp hnone other hother

/-- A field that was converted. -/
theorem Field.convertsTo_of_toSchema {f : Field} {f' : Schema.Field}
    (h : f.toSchema index = .ok f') : f.ConvertsTo index f' := by
  obtain ⟨ty, hty, hf⟩ := bind_eq_ok.mp h
  cases hf
  refine ⟨rfl, ?_⟩
  rw [Field.typeIn] at hty
  cases hkind : f.kind with
  | scalar =>
    rw [hkind] at hty
    exact (Except.ok.inj hty).symm
  | message | enumeration =>
    rw [hkind] at hty
    obtain ⟨ref, href, rfl⟩ := map_eq_ok.mp hty
    exact ⟨ref, TypeIndex.resolve_eq_ok.mp href, rfl⟩

mutual

/-- A message that was converted. -/
theorem Message.convertsTo_of_toSchema : ∀ {m : Message} {m' : Schema.Message},
    m.toSchema index = .ok m' → m.ConvertsTo index m'
  | ⟨name, fields, nested, enums⟩, m', h => by
    rw [Message.toSchema] at h
    obtain ⟨fields', hfields, h⟩ := bind_eq_ok.mp h
    obtain ⟨nested', hnested, h⟩ := bind_eq_ok.mp h
    cases h
    have hsame := (forall₂_of_mapM hfields).imp fun _ _ => Field.convertsTo_of_toSchema
    exact .intro hsame (convertsTo_of_messagesToSchema hnested)

/-- Messages that were converted. -/
theorem convertsTo_of_messagesToSchema : ∀ {ms : List Message} {ms' : List Schema.Message},
    messagesToSchema index ms = .ok ms' → List.Forall₂ (Message.ConvertsTo index) ms ms'
  | [], ms', h => by
    cases h
    exact .nil
  | m :: rest, ms', h => by
    obtain ⟨m', rest', hm, hrest, rfl⟩ := messagesToSchema_cons h
    exact .cons (Message.convertsTo_of_toSchema hm) (convertsTo_of_messagesToSchema hrest)

end

/-- Methods that were converted, from a position on. -/
theorem convertsTo_of_methodsToSchema {service : String} {place position : Nat}
    {methods : List Method} {methods' : List Schema.Method}
    (h : (methodsToSchema index locations service (servicePath place) position methods).value =
      .ok methods') :
    List.Forall₂ (Method.ConvertsTo index locations place)
      ((methods.zipIdx position).filter fun m => !m.1.isStreaming) methods' := by
  induction methods generalizing position methods' with
  | nil =>
    cases h
    exact .nil
  | cons m rest ih =>
    rw [List.zipIdx_cons, List.filter_cons]
    rcases methodsToSchema_cons h with ⟨hstream, h⟩ | ⟨hstream, m', rest', hm, hrest, rfl⟩
    · -- A method that streams is left out, but it has a position.
      rw [hstream]
      exact ih h
    · rw [hstream]
      obtain ⟨input, output, hinput, houtput, rfl⟩ := Method.toSchema_eq_ok.mp hm
      exact .cons ⟨rfl, hinput, houtput, documents_docsAt _ _⟩ (ih hrest)

/-- A service that was converted. -/
theorem Service.convertsTo_of_toSchema {position : Nat} {s : Service} {s' : Schema.Service}
    (h : (s.toSchema index locations position).value = .ok s') :
    Service.ConvertsTo index locations (s, position) s' := by
  rw [Service.toSchema, Logged.value_bind, Logged.value_pure] at h
  obtain ⟨methods', hmethods, rfl⟩ := map_eq_ok.mp h
  exact ⟨rfl, documents_docsAt _ _, convertsTo_of_methodsToSchema hmethods⟩

/-- Services that were converted, from a position on. -/
theorem convertsTo_of_servicesToSchema {position : Nat} {services : List Service}
    {services' : List Schema.Service}
    (h : (servicesToSchema index locations position services).value = .ok services') :
    List.Forall₂ (Service.ConvertsTo index locations) (services.zipIdx position) services' := by
  induction services generalizing position services' with
  | nil =>
    cases h
    exact .nil
  | cons s rest ih =>
    obtain ⟨s', rest', hs, hrest, rfl⟩ := servicesToSchema_cons h
    exact .cons (Service.convertsTo_of_toSchema hs) (ih hrest)

/-- **A file and what it is converted to.** -/
structure File.ConvertsTo (modules : ModuleMap) (index : TypeIndex) (file : File)
    (schema : Schema.File) : Prop where
  name : schema.name = file.name
  package : schema.package = file.package
  module : schema.module = modules.moduleFor file.package
  stem : schema.stem = Descriptor.stem file.name
  messages : List.Forall₂ (Message.ConvertsTo index) file.messages schema.messages
  services : List.Forall₂ (Service.ConvertsTo index file.locations) file.services.zipIdx
    schema.services

/-- A file that was converted. -/
theorem File.convertsTo_of_toSchema {file : File} {schema : Schema.File}
    (h : (file.toSchema modules index).value = .ok schema) :
    file.ConvertsTo modules index schema := by
  obtain ⟨messages, services, hmessages, hservices, rfl⟩ := File.toSchema_cases h
  exact ⟨rfl, rfl, rfl, rfl, convertsTo_of_messagesToSchema hmessages,
    convertsTo_of_servicesToSchema hservices⟩

/-- **Conversion keeps the structure.** It fails exactly if some field, at any depth, or some method
that does not stream uses a type that the index does not know, and then tells the first such name:
messages come in pre-order, with the fields of a message before the messages inside it, then the
services in order, with the input of a method before its output. Otherwise there is a schema file of
the same structure, with the documentation of each service and method. -/
theorem File.toSchema_structure (modules : ModuleMap) (index : TypeIndex) (file : File) :
    ((∃ e, (file.toSchema modules index).value = .error e) ↔
      ∃ name ∈ file.uses, ¬ index.Knows name) ∧
    (∀ e, (file.toSchema modules index).value = .error e ↔
      ∃ before name after, file.uses = before ++ name :: after ∧
        (∀ known ∈ before, index.Knows known) ∧ ¬ index.Knows name ∧ e = .unresolvedType name) ∧
    ((∀ name ∈ file.uses, index.Knows name) →
      ∃ schema, (file.toSchema modules index).value = .ok schema) ∧
    ∀ schema, (file.toSchema modules index).value = .ok schema →
      file.ConvertsTo modules index schema := by
  have herror := fun e => (file.settles_toSchema modules index).eq_error_iff (e := e)
  refine ⟨⟨?_, ?_⟩, herror, File.toSchema_of_knows, fun schema => File.convertsTo_of_toSchema⟩
  · rintro ⟨e, he⟩
    obtain ⟨before, name, after, huses, -, hname, -⟩ := (herror e).mp he
    refine ⟨name, ?_, hname⟩
    rw [huses]
    exact List.mem_append_right _ List.mem_cons_self
  · rintro ⟨name, hname, hunknown⟩
    cases hresult : (file.toSchema modules index).value with
    | error e => exact ⟨e, rfl⟩
    | ok schema =>
      obtain ⟨-, -, -, -, hresolves⟩ := File.resolves_of_toSchema hresult
      exact absurd (hresolves.knows name hname) hunknown

/-- A file with a method that streams in front of one that does not, and a message that is used before
it is declared. -/
def feedFile : File where
  name := "feed.proto"
  package := "feed"
  messages := [{
    name := "Entry"
    fields := [{ name := "body", kind := .message, typeName := ".feed.Entry.Body" }]
    nested := [{ name := "Body", fields := [{ name := "text", kind := .scalar .string }] }] }]
  services := [{
    name := "Feed"
    methods := [
      { name := "Watch", input := ".feed.Nothing", output := ".feed.Entry", serverStreaming := true },
      { name := "Read", input := ".feed.Entry", output := ".feed.Entry.Body" }] }]
  locations := [{ path := [6, 0], leading := " Feeds\n\n  entries. \r\n\n" },
    { path := [6, 0, 2, 0], leading := " Watches.\n" },
    { path := [6, 0, 2, 1], leading := " Reads. \n" }]

/-- Where the types of its package live. -/
def feedModules : ModuleMap := ⟨"crate", []⟩

/-- The file is converted, though the method that streams uses a type that nobody declares, and the other
method keeps its own comment. Without any declarations the first name is told that a field uses. -/
theorem File.toSchema_structure_feed :
    feedFile.uses = [".feed.Entry.Body", ".feed.Entry", ".feed.Entry.Body"] ∧
    (∃ schema, (feedFile.toSchema feedModules (.ofFiles feedModules [feedFile])).value = .ok schema ∧
      feedFile.ConvertsTo feedModules (.ofFiles feedModules [feedFile]) schema ∧
      (schema.services.map fun service =>
        (service.docs, service.methods.map fun method => (method.name, method.docs))) =
          [(["Feeds", "", " entries."], [("Read", ["Reads."])])]) ∧
    (feedFile.toSchema feedModules (.ofFiles feedModules [])).value =
      .error (.unresolvedType ".feed.Entry.Body") := by
  have huses : feedFile.uses = [".feed.Entry.Body", ".feed.Entry", ".feed.Entry.Body"] := rfl
  refine ⟨huses, ?_, ?_⟩
  · obtain ⟨-, -, hall, hgives⟩ :=
      feedFile.toSchema_structure feedModules (.ofFiles feedModules [feedFile])
    obtain ⟨schema, hschema⟩ := hall fun name hname => by
      refine TypeIndex.knows_ofFiles.mpr ⟨feedFile, List.mem_singleton_self _, ?_⟩
      have hdeclared : ∀ name ∈ feedFile.uses, name ∈ feedFile.fullNames := by decide
      exact hdeclared name hname
    have hdocs : ((feedFile.toSchema feedModules (.ofFiles feedModules [feedFile])).value.toOption.map
        fun schema => schema.services.map fun service =>
          (service.docs, service.methods.map fun method => (method.name, method.docs))) =
            some [(["Feeds", "", " entries."], [("Read", ["Reads."])])] := by
      decide +kernel
    rw [hschema] at hdocs
    exact ⟨schema, hschema, hgives schema hschema, Option.some.inj hdocs⟩
  · obtain ⟨-, hfails, -, -⟩ := feedFile.toSchema_structure feedModules (.ofFiles feedModules [])
    refine (hfails _).mpr ⟨[], ".feed.Entry.Body", _, huses, by simp, ?_, rfl⟩
    intro hknown
    obtain ⟨file, hfile, -⟩ := TypeIndex.knows_ofFiles.mp hknown
    exact absurd hfile List.not_mem_nil

end ServiceBus.Descriptor
