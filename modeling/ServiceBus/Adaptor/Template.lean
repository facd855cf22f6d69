import ServiceBus.Text.Blank
import ServiceBus.Adaptor.Embedded
import ServiceBus.File.Tree
import ServiceBus.Log
import ServiceBus.Text.Quoted

/-! # Templates

A template is a text with placeholders, written as a name between double braces. There is no other
control: small templates are rendered in turn and the results are bound into larger ones.

* `Template.parse`: the segments of a source.
* `Template.source`: the source of segments.
* `Template.render`: the text with every placeholder replaced by what is bound to it.
* `TemplateSet`: the sources of all templates that artifacts are made from. -/

namespace ServiceBus.Adaptor

/-- What is wrong with a placeholder. -/
inductive PlaceholderError where
  | unterminated
  | malformed (inner : String)
deriving DecidableEq, Repr

/-- The wording of a placeholder error. -/
def PlaceholderError.message : PlaceholderError → String
  | .unterminated => "unterminated placeholder"
  | .malformed inner => "malformed placeholder `\x7b\x7b" ++ inner ++ "\x7d\x7d`"

/-- Why a template cannot be used. -/
inductive TemplateError where
  | parse (template : String) (line : Nat) (cause : PlaceholderError)
  | unbound (template placeholder : String)
  /-- The file at `path` could not be read. -/
  | unreadable (path : String) (cause : File.IoError)
deriving DecidableEq, Repr

/-- The wording of a template error. -/
def TemplateError.message : TemplateError → String
  | .parse template line cause =>
    "template `" ++ template ++ "` line " ++ toString line ++ ": " ++ cause.message
  | .unbound template placeholder =>
    "template `" ++ template ++ "` has no binding for placeholder `" ++ placeholder ++ "`"
  | .unreadable path cause => "reading template " ++ Text.quoted path ++ ": " ++ cause.message

/-- What is told of a template error, from the general to the particular. -/
def TemplateError.messages (e : TemplateError) : List String :=
  match e with
  | .unreadable _ cause => [e.message, cause.message]
  | _ => [e.message]

/-! ### Segments -/

/-- A part of a template. -/
inductive Segment where
  | text (s : String)
  /-- A placeholder and the line that it begins on. -/
  | placeholder (name : String) (line : Nat)
deriving DecidableEq, Repr

/-- A segment as it is written. -/
def Segment.source : Segment → String
  | .text s => s
  | .placeholder name _ => "\x7b\x7b" ++ name ++ "\x7d\x7d"

/-- A parsed template; the name is for error messages. -/
structure Template where
  name : String
  segments : List Segment
deriving DecidableEq, Repr

/-- The part before the first `c` that is doubled, and the part after the pair, if there is one. -/
def cutAtPair? (c : Char) : List Char → Option (List Char × List Char)
  | a :: b :: rest =>
    if a = c ∧ b = c then some ([], rest)
    else (cutAtPair? c (b :: rest)).map fun (before, after) => (a :: before, after)
  | _ => none

/-- The pair and what is before it are taken off. -/
theorem length_of_cutAtPair? {c : Char} {cs before after : List Char}
    (h : cutAtPair? c cs = some (before, after)) : cs.length = before.length + 2 + after.length := by
  fun_induction cutAtPair? c cs generalizing before with
  | case1 a b rest hab =>
    obtain ⟨rfl, rfl⟩ : [] = before ∧ rest = after := by simpa using h
    simp; omega
  | case2 a b rest hab ih =>
    obtain ⟨⟨x, y⟩, hxy, hcons⟩ := Option.map_eq_some_iff.1 h
    obtain ⟨rfl, rfl⟩ : a :: x = before ∧ y = after := by simpa using hcons
    have := ih hxy
    simp at this ⊢
    omega
  | case3 => simp at h

/-- The number of line breaks. -/
def lineBreaks (cs : List Char) : Nat := cs.count '\n'

/-- Whether a placeholder may have this name: lower-case letters, digits and underscores. -/
def isPlaceholderName (name : List Char) : Bool :=
  !name.isEmpty && name.all fun c => c.isLower || c.isDigit || c == '_'

/-- The text before a placeholder as a segment, unless it is empty. -/
def textSegment (cs : List Char) : List Segment :=
  if cs.isEmpty then [] else [.text (String.ofList cs)]

/-- The segments of a source that begins on `line`, or the line of the first bad placeholder and
what is wrong with it. -/
def scan (line : Nat) (cs : List Char) : Except (Nat × PlaceholderError) (List Segment) :=
  match hopen : cutAtPair? '\x7b' cs with
  | none => .ok (textSegment cs)
  | some (before, tail) =>
    have := length_of_cutAtPair? hopen
    let line := line + lineBreaks before
    match hclose : cutAtPair? '\x7d' tail with
    | none => .error (line, .unterminated)
    | some (inner, rest) =>
      have := length_of_cutAtPair? hclose
      let name := (Text.trim (String.ofList inner)).toList
      if isPlaceholderName name then
        (scan (line + lineBreaks inner) rest).map fun more =>
          textSegment before ++ .placeholder (String.ofList name) line :: more
      else .error (line, .malformed (String.ofList inner))
termination_by cs.length

/-- What names are bound to; of two bindings of a name the first counts. -/
abbrev Bindings := List (String × String)

namespace Template

/-- Reads a source. -/
def parse (name source : String) : Except TemplateError Template :=
  match scan 1 source.toList with
  | .ok segments => .ok { name, segments }
  | .error (line, cause) => .error (.parse name line cause)

/-- The template as it is written. -/
def source (t : Template) : String := String.join (t.segments.map Segment.source)

/-- The names of the placeholders in order. -/
def placeholders (t : Template) : List String :=
  t.segments.filterMap fun
    | .placeholder name _ => some name
    | .text _ => none

/-- What a segment is replaced by. -/
def renderSegment (name : String) (bindings : Bindings) : Segment → Except TemplateError String
  | .text s => .ok s
  | .placeholder placeholder _ =>
    match bindings.lookup placeholder with
    | some value => .ok value
    | none => .error (.unbound name placeholder)

/-- The text with every placeholder replaced; what is bound is not looked into. -/
def render (t : Template) (bindings : Bindings) : Except TemplateError String := do
  return String.join (← t.segments.mapM (renderSegment t.name bindings))

end Template

/-! ### Sets of templates -/

/-- The templates that an artifact is made from. -/
inductive TemplateKind where
  | file
  | service
  | serverMethod
  | endpoint
  | handler
  | clientMethod
deriving DecidableEq, Repr

namespace TemplateKind

/-- All kinds, in the order in which they are read. -/
def all : List TemplateKind := [.file, .service, .serverMethod, .endpoint, .handler, .clientMethod]

/-- The name in messages and of files. -/
def name : TemplateKind → String
  | file => "file"
  | service => "service"
  | serverMethod => "server_method"
  | endpoint => "endpoint"
  | handler => "handler"
  | clientMethod => "client_method"

/-- The name of the file that overrides the template. -/
def fileName (kind : TemplateKind) : String := kind.name ++ ".tmpl"

/-- The kind of a name. -/
def ofName? (name : String) : Option TemplateKind := all.find? (·.name == name)

end TemplateKind

/-- The source of each template. -/
structure TemplateSet where
  source : TemplateKind → String

/-- A parsed set. -/
structure ParsedTemplates where
  template : TemplateKind → Template

namespace TemplateSet

/-- The sources that are used where none is given. -/
def embedded : TemplateSet where
  source
    | .file => Embedded.fileSource
    | .service => Embedded.serviceSource
    | .serverMethod => Embedded.serverMethodSource
    | .endpoint => Embedded.endpointSource
    | .handler => Embedded.handlerSource
    | .clientMethod => Embedded.clientMethodSource

/-- The set with another source for one template. -/
def withSource (set : TemplateSet) (kind : TemplateKind) (source : String) : TemplateSet where
  source k := if k = kind then source else set.source k

/-- The kinds whose source is not the embedded one. -/
def overridden (set : TemplateSet) : List TemplateKind :=
  TemplateKind.all.filter fun kind => set.source kind != embedded.source kind

/-- Takes the sources of `kinds` from the files of a folder, as far as there are such files. -/
def loadKinds (tree : File.Tree) (folder : String) :
    List TemplateKind → TemplateSet → Logged (Except TemplateError TemplateSet)
  | [], set => pure (.ok set)
  | kind :: kinds, set =>
    let path := File.join folder kind.fileName
    if tree.isFile (.ofText path) then
      match tree.readText (.ofText path) with
      | .error e => pure (.error (.unreadable path e))
      | .ok source => do
        Logged.report { level := .debug, message := "template override loaded",
                        fields := [("template", .text kind.name)] }
        loadKinds tree folder kinds (set.withSource kind source)
    else loadKinds tree folder kinds set

/-- The embedded set with the overrides of a folder. -/
def ofFolder (tree : File.Tree) (folder : String) : Logged (Except TemplateError TemplateSet) :=
  loadKinds tree folder TemplateKind.all embedded

/-- The parsed template of a kind. -/
def parseKind (set : TemplateSet) (kind : TemplateKind) : Except TemplateError Template :=
  Template.parse kind.name (set.source kind)

/-- Reads all templates, up to the first that is bad. -/
def parse (set : TemplateSet) : Except TemplateError ParsedTemplates := do
  let file ← set.parseKind .file
  let service ← set.parseKind .service
  let serverMethod ← set.parseKind .serverMethod
  let endpoint ← set.parseKind .endpoint
  let handler ← set.parseKind .handler
  let clientMethod ← set.parseKind .clientMethod
  let template : TemplateKind → Template
    | .file => file
    | .service => service
    | .serverMethod => serverMethod
    | .endpoint => endpoint
    | .handler => handler
    | .clientMethod => clientMethod
  return { template }

end TemplateSet

/-- Renders the template of a kind. -/
def ParsedTemplates.render (templates : ParsedTemplates) (kind : TemplateKind)
    (bindings : Bindings) : Except TemplateError String :=
  (templates.template kind).render bindings

end ServiceBus.Adaptor
