import ServiceBus.Adaptor.Artifact
import ServiceBus.Proofs.Descriptor.Structure
import ServiceBus.Proofs.Subject
import ServiceBus.Proofs.Text.Literals
import ServiceBus.Proofs.Text.Parts

/-! # Comments stay comments

The comments of a schema file get into the code in two ways: as the documentation of a service or of a
method, and as the literal that describes an endpoint. Whatever is written in them, neither lets them
be read as code.

* `OnlyComments`: a text of which every line is a comment.
* `onlyComments_methodDocs`, `onlyComments_serviceDocs`: documentation is such a text.
* `comments_contained`: the comments of a file that was converted. -/

namespace ServiceBus

open Name (camel isSchemaName)

/-! ### Lines of comments -/

namespace Descriptor

variable {locations : List Location} {path : List Int} {docs : List String} {line : String}

/-- The lines that document a declaration are one line each. -/
theorem Documents.newline_not_mem (h : Documents locations path docs) (hline : line ∈ docs) :
    '\n' ∉ line.toList := by
  cases h with
  | missing => exact absurd hline List.not_mem_nil
  | first _ _ _ tells =>
    cases tells with
    | nothing => exact absurd hline List.not_mem_nil
    | lines _ _ _ whole kept =>
      obtain ⟨written, hwritten, hkeeps⟩ := exists_of_mem_forall₂ kept hline
      exact hkeeps.newline_not_mem (whole written hwritten)

end Descriptor

namespace Adaptor

open Schema (ImportSet Method Service)

variable {indent line text : String} {docs : List String}

/-- **Every line of a text is a comment** behind an indentation: each part that a line break ends begins
so, and nothing is behind the last line break. -/
def OnlyComments (indent text : String) : Prop :=
  (∀ line ∈ (Text.splitAt '\n' text).dropLast, (indent ++ "///").toList <+: line.toList) ∧
    (Text.splitAt '\n' text).getLast? = some ""

/-- Lines that are comments. -/
theorem onlyComments_lines {whole : List String} (hbreak : ∀ line ∈ whole, '\n' ∉ line.toList)
    (hmark : ∀ line ∈ whole, (indent ++ "///").toList <+: line.toList) :
    OnlyComments indent (String.join (whole.map (· ++ "\n"))) := by
  rw [OnlyComments, Text.splitAt_lines hbreak, List.dropLast_concat, List.getLast?_concat]
  exact ⟨hmark, rfl⟩

/-- A line of documentation without the line break that ends it. -/
def docText (indent line : String) : String :=
  if (Text.trimEnd line).isEmpty then indent ++ "///" else indent ++ "/// " ++ Text.trimEnd line

/-- A line of documentation ends with a line break. -/
theorem docLine_eq (indent line : String) : docLine indent line = docText indent line ++ "\n" := by
  rw [docLine, docText]
  split
  · rw [String.append_assoc]
    rfl
  · rfl

/-- Lines of documentation are whole lines. -/
theorem docLines_eq (docs : List String) (indent : String) :
    docLines docs indent = String.join ((docs.map (docText indent)).map (· ++ "\n")) := by
  rw [docLines, List.map_map]
  exact congrArg String.join (List.map_congr_left fun line _ => docLine_eq indent line)

/-- A line of documentation is a comment. -/
theorem docText_prefix (indent line : String) :
    (indent ++ "///").toList <+: (docText indent line).toList := by
  rw [docText]
  split
  · exact List.prefix_refl _
  · refine ⟨' ' :: (Text.trimEnd line).toList, ?_⟩
    simp [String.toList_append]

/-- A line of documentation is one line. -/
theorem newline_not_mem_docText (hindent : '\n' ∉ indent.toList) (hline : '\n' ∉ line.toList) :
    '\n' ∉ (docText indent line).toList := by
  have htrimmed : '\n' ∉ (Text.trimEnd line).toList :=
    fun hmem => hline ((Text.prefix_trimEnd line).subset hmem)
  rw [docText]
  split
  · simp [String.toList_append, hindent]
  · simp [String.toList_append, hindent, htrimmed]

/-! ### Documentation -/

/-- **The documentation of a method** is comments only. -/
theorem onlyComments_methodDocs {subject : String} (hdocs : ∀ line ∈ docs, '\n' ∉ line.toList)
    (hsubject : '\n' ∉ subject.toList) : OnlyComments "    " (methodDocs docs subject) := by
  have hwhole : methodDocs docs subject = String.join
      (((docs.map (docText "    ") ++ if docs.isEmpty then [] else ["    ///"]) ++
        ["    /// Served on `" ++ subject ++ "`."]).map (· ++ "\n")) := by
    have hgap : String.join ((if docs.isEmpty then [] else ["    ///"]).map (· ++ "\n")) =
        if docs.isEmpty then "" else "    ///\n" := by
      split
      · rfl
      · rfl
    have hlast : String.join (["    /// Served on `" ++ subject ++ "`."].map (· ++ "\n")) =
        "    /// Served on `" ++ subject ++ "`.\n" := by
      rw [List.map_singleton, String.join_cons, String.join_nil, String.append_empty,
        String.append_assoc]
      rfl
    rw [methodDocs, docLines_eq, List.map_append, String.join_append, List.map_append,
      String.join_append, hgap, hlast]
    simp only [String.append_assoc]
  rw [hwhole]
  refine onlyComments_lines (fun line hline => ?_) (fun line hline => ?_)
  · simp only [List.mem_append, List.mem_map, List.mem_singleton] at hline
    rcases hline with (⟨doc, hdoc, rfl⟩ | hline) | rfl
    · exact newline_not_mem_docText (by decide) (hdocs doc hdoc)
    · split at hline
      · exact absurd hline List.not_mem_nil
      · rw [List.mem_singleton.mp hline]
        decide
    · simp [String.toList_append, hsubject]
  · simp only [List.mem_append, List.mem_map, List.mem_singleton] at hline
    rcases hline with (⟨doc, -, rfl⟩ | hline) | rfl
    · exact docText_prefix "    " doc
    · split at hline
      · exact absurd hline List.not_mem_nil
      · rw [List.mem_singleton.mp hline]
        exact List.prefix_refl _
    · refine ⟨" Served on `".toList ++ subject.toList ++ "`.".toList, ?_⟩
      simp [String.toList_append]

/-- **The documentation of a service** is comments only. -/
theorem onlyComments_serviceDocs (hdocs : ∀ line ∈ docs, '\n' ∉ line.toList) :
    OnlyComments "" (serviceDocs docs) := by
  cases docs with
  | nil => exact ⟨fun line hline => absurd hline List.not_mem_nil, rfl⟩
  | cons doc rest =>
    have hwhole : serviceDocs (doc :: rest) =
        String.join (("///" :: (doc :: rest).map (docText "")).map (· ++ "\n")) := by
      rw [serviceDocs, docLines_eq, List.map_cons (f := (· ++ "\n")), String.join_cons]
      rfl
    rw [hwhole]
    refine onlyComments_lines (fun line hline => ?_) (fun line hline => ?_)
    · rcases List.mem_cons.mp hline with rfl | hline
      · decide
      · obtain ⟨doc, hdoc, rfl⟩ := List.mem_map.mp hline
        exact newline_not_mem_docText (by decide) (hdocs doc hdoc)
    · rcases List.mem_cons.mp hline with rfl | hline
      · exact List.prefix_refl _
      · obtain ⟨doc, -, rfl⟩ := List.mem_map.mp hline
        exact docText_prefix "" doc

/-- The subject that documentation tells is one line. -/
theorem newline_not_mem_servedOn {service : Service} {method : Method}
    (hservice : isSchemaName service.name.toList = true)
    (hmethod : isSchemaName method.name.toList = true) :
    '\n' ∉ (servedOn service method instanceInDocs).toList := by
  have hname : ∀ {name : String}, isSchemaName name.toList = true →
      Text.IsAscii (camel name) ∧ '\n' ∉ (camel name).toList.map Char.toLower := by
    intro name hname
    have hcamel := Name.isSchemaName_camel hname
    refine ⟨Name.isAscii_of_isSchemaName hcamel, fun hmem => ?_⟩
    obtain ⟨c, hc, hbreak⟩ := List.mem_map.mp hmem
    obtain rfl : c = '\n' := Name.forall_ascii (fun c => c.toLower = '\n' → c = '\n') (by decide) c
      (Name.isAscii_of_isSchemaName hcamel c hc) hbreak
    exact absurd (Name.mem_of_isSchemaName hcamel hc) (by decide)
  have hstem : '\n' ∉ stem instanceInDocs := by decide
  rw [servedOn, serviceType, methodType, toList_subject (by decide) (hname hservice).1 (hname hmethod).1]
  simp only [List.mem_append, List.mem_cons, not_or]
  exact ⟨⟨hstem, by decide, (hname hservice).2⟩, by decide, (hname hmethod).2⟩

/-! ### Files -/

/-- **The comments of a schema file stay comments.** Whatever they say, in the code of a converted file
whose services and methods have names of a schema every line of the documentation of a service and of
a method is a comment, and the description of an endpoint is a literal of the lines of documentation,
joined by blanks and without blanks at the ends. -/
theorem comments_contained {file : Descriptor.File} {modules : ModuleMap}
    {index : Descriptor.TypeIndex} {schema : Schema.File}
    (hnames : ∀ service ∈ file.services, isSchemaName service.name.toList = true ∧
      ∀ method ∈ service.methods, isSchemaName method.name.toList = true)
    (h : (file.toSchema modules index).value = .ok schema) (imports : ImportSet)
    (code : MethodCode) :
    ∀ service ∈ schema.services,
      (∃ text, (serviceBindings service code).lookup "service_docs" = some text ∧
        OnlyComments "" text) ∧
      ∀ method ∈ service.methods,
        (∃ text, (methodBindings imports service method).lookup "docs" = some text ∧
          OnlyComments "    " text) ∧
        ∃ literal, (methodBindings imports service method).lookup "description" = some literal ∧
          Text.IsLiteral literal (Text.trim (" ".intercalate method.docs)) := by
  intro service hservice
  obtain ⟨declared, hdeclared, hconverts⟩ :=
    exists_of_mem_forall₂ (Descriptor.File.convertsTo_of_toSchema h).services hservice
  obtain ⟨hname, hmethods⟩ := hnames declared.1 (List.fst_mem_of_mem_zipIdx hdeclared)
  refine ⟨⟨_, rfl, onlyComments_serviceDocs fun _ => hconverts.docs.newline_not_mem⟩, ?_⟩
  intro method hmethod
  obtain ⟨told, htold, hmethod⟩ := exists_of_mem_forall₂ hconverts.methods hmethod
  have htold := List.fst_mem_of_mem_zipIdx (List.mem_of_mem_filter htold)
  have hsubject : '\n' ∉ (servedOn service method instanceInDocs).toList := by
    apply newline_not_mem_servedOn
    · rw [hconverts.name]
      exact hname
    · rw [hmethod.name]
      exact hmethods told.1 htold
  refine ⟨⟨_, rfl, onlyComments_methodDocs (fun _ => hmethod.docs.newline_not_mem) hsubject⟩, ?_⟩
  exact ⟨_, rfl, Text.isLiteral_quoted _⟩

/-- A file with comments that look like code. -/
def paintFile : Descriptor.File where
  name := "paint.proto"
  package := "paint"
  messages := [{ name := "Color" }]
  services := [{
    name := "Paint"
    methods := [{ name := "Mix", input := ".paint.Color", output := ".paint.Color" }] }]
  locations := [{ path := [6, 0], leading := " */ struct Paint;\n" },
    { path := [6, 0, 2, 0], leading := " Says \"mixed\\\".\n\n\x7d fn main()\n" }]

/-- What the file is converted to. -/
def paintSchema : Except Schema.SchemaError Schema.File :=
  (paintFile.toSchema ⟨"crate", []⟩
    (.ofDeclarations [⟨".paint.Color", ⟨"crate::paint", "Color"⟩⟩])).value

/-- The comments of that file stay comments, though one of them closes a comment, a quote and a
block. -/
theorem comments_contained_paint : ∃ schema, paintSchema = .ok schema ∧
    (schema.services.map fun service => (service.docs, service.methods.map (·.docs))) =
      [(["*/ struct Paint;"], [["Says \"mixed\\\".", "", "\x7d fn main()"]])] ∧
    ∀ service ∈ schema.services,
      (∃ text, (serviceBindings service {}).lookup "service_docs" = some text ∧
        OnlyComments "" text) ∧
      ∀ method ∈ service.methods,
        (∃ text, (methodBindings ⟨"crate::paint", ∅⟩ service method).lookup "docs" = some text ∧
          OnlyComments "    " text) ∧
        ∃ literal,
          (methodBindings ⟨"crate::paint", ∅⟩ service method).lookup "description" = some literal ∧
          Text.IsLiteral literal (Text.trim (" ".intercalate method.docs)) := by
  have hdocs : (paintSchema.toOption.map fun schema => schema.services.map fun service =>
      (service.docs, service.methods.map (·.docs))) =
        some [(["*/ struct Paint;"], [["Says \"mixed\\\".", "", "\x7d fn main()"]])] := by
    decide +kernel
  cases hvalue : paintSchema with
  | error e =>
    rw [hvalue] at hdocs
    cases hdocs
  | ok schema =>
    rw [hvalue] at hdocs
    exact ⟨schema, rfl, Option.some.inj hdocs,
      comments_contained (by decide) hvalue ⟨"crate::paint", ∅⟩ {}⟩

end Adaptor

end ServiceBus
