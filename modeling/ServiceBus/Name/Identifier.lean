/-! # Identifiers and paths of the generated code

* `escape`: a name made usable as an identifier. Most reserved words have a raw form `r#word`; four of
  them do not, and get an underscore at the end.
* `isIdentifier`: what is accepted as an identifier, raw form included.
* `segments`: the parts of a path between its `::` marks. -/

namespace ServiceBus.Name

/-- Reserved words that have a raw form. -/
def rawKeywords : List String := [
  "abstract", "as", "async", "await", "become", "box", "break", "const", "continue", "do", "dyn",
  "else", "enum", "extern", "false", "final", "fn", "for", "gen", "if", "impl", "in", "let",
  "loop", "macro", "match", "mod", "move", "mut", "override", "priv", "pub", "ref", "return",
  "static", "struct", "trait", "true", "try", "type", "typeof", "unsafe", "unsized", "use",
  "virtual", "where", "while", "yield"]

/-- Reserved words that have no raw form. -/
def pathKeywords : List String := ["self", "Self", "super", "crate"]

/-- The name as an identifier. -/
def escape (name : String) : String :=
  if pathKeywords.contains name then name ++ "_"
  else if rawKeywords.contains name then "r#" ++ name
  else name

/-- The characters without the mark of a raw identifier. -/
def rawBody : List Char → List Char
  | 'r' :: '#' :: body => body
  | body => body

/-- Whether the character may start an identifier. -/
def startsIdentifier (c : Char) : Bool :=
  c.isAlpha || c == '_'

/-- Whether the character may stand inside an identifier. -/
def insideIdentifier (c : Char) : Bool :=
  c.isAlphanum || c == '_'

/-- Whether the characters form an identifier without a raw mark; a lone underscore is none. -/
def isPlainIdentifier : List Char → Bool
  | [] => false
  | c :: rest => startsIdentifier c && rest.all insideIdentifier && !(c == '_' && rest.isEmpty)

/-- Whether the text is an identifier, with or without a raw mark. -/
def isIdentifier (name : String) : Bool :=
  isPlainIdentifier (rawBody name.toList)

/-- The parts of a path between the marks `::`; there is always at least one. -/
def segmentChars : List Char → List (List Char)
  | [] => [[]]
  | ':' :: ':' :: rest => [] :: segmentChars rest
  | c :: rest =>
    match segmentChars rest with
    | [] => [[c]]
    | part :: parts => (c :: part) :: parts

/-- The segments of a path. -/
def segments (path : String) : List String :=
  (segmentChars path.toList).map String.ofList

/-- The characters before the first mark `::`. -/
def untilMark : List Char → List Char
  | [] => []
  | ':' :: ':' :: _ => []
  | c :: rest => c :: untilMark rest

/-- What follows the last mark of a path. Of three colons in a row the later two are the mark here,
while for `segments` it is the earlier two. -/
def lastSegment (path : String) : String :=
  String.ofList (untilMark path.toList.reverse).reverse

/-- The path without the mark `::` that makes it absolute. -/
def relative (path : String) : String :=
  match path.toList with
  | ':' :: ':' :: rest => String.ofList rest
  | _ => path

end ServiceBus.Name
