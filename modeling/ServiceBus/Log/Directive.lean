import ServiceBus.Log
import ServiceBus.Log.Pattern
import ServiceBus.Number.Double
import ServiceBus.Text.Utf8

/-! # Directives of a log filter

A directive such as `bus[call{id=7}]=debug` says from which level on records are told, and for which:
those of a target, those within a span, those with fields. All of these may be missing.

* `Directive.parse?`: the directive of a text.
* `Directive.text`: the written form of a directive.
* `Directive.order`: how special a directive is; the most special one decides. -/

namespace ServiceBus.Log

/-- From which level on records are told, if any are. -/
inductive Threshold where
  | off
  | atLeast (level : Level)
deriving DecidableEq, Repr

namespace Threshold

/-- All thresholds, from the one that tells least. -/
def all : List Threshold :=
  [.off, .atLeast .error, .atLeast .warn, .atLeast .info, .atLeast .debug, .atLeast .trace]

/-- Whether records of a level are told. -/
def admits (t : Threshold) (level : Level) : Bool :=
  match t with
  | .off => false
  | .atLeast least => decide (least.rank ≤ level.rank)

/-- The written form of a threshold. -/
def name : Threshold → String
  | .off => "off"
  | .atLeast .error => "error"
  | .atLeast .warn => "warn"
  | .atLeast .info => "info"
  | .atLeast .debug => "debug"
  | .atLeast .trace => "trace"

/-- The number of decimal digits, before which a plus may stand. -/
def number? (cs : List Char) : Option Nat :=
  Text.decimal? (if cs.head? = some '+' then cs.tail else cs)

/-- The threshold of a name in any case, or of its place among all. -/
def parse? (s : String) : Option Threshold :=
  match number? s.toList with
  | some n => all[n]?
  | none => all.find? fun t => t.name == s.map Char.toLower

end Threshold

/-! ### Fields -/

/-- What the value of a field has to be. -/
inductive FieldValue where
  | flag (b : Bool)
  | double (x : Number.Double)
  | natural (n : Nat)
  | integer (n : Int)
  /-- The value as a text has to match a pattern. -/
  | pattern (source : String)
deriving DecidableEq, Repr

namespace FieldValue

/-- The flag of a word. -/
def flag? (s : String) : Option Bool :=
  match s with
  | "true" => some true
  | "false" => some false
  | _ => none

/-- The number of decimal digits with 64 bits. -/
def natural? (s : String) : Option Nat :=
  (Threshold.number? s.toList).filter (· < UInt64.size)

/-- The number of decimal digits with a minus in front, with 64 bits. -/
def negative? (s : String) : Option Int :=
  match s.toList with
  | '-' :: digits => ((Text.decimal? digits).filter (2 * · ≤ UInt64.size)).map fun n => -Int.ofNat n
  | _ => none

/-- Reads a value: the first kind that the text fits. -/
def parse? (s : String) : Option FieldValue :=
  ((flag? s).map flag) <|> ((natural? s).map natural) <|> ((negative? s).map integer) <|>
    ((Number.Double.parse? s).map double) <|>
    (if Pattern.isValid s then some (.pattern s) else none)

/-- The written form of a value. -/
def text : FieldValue → String
  | .flag b => if b then "true" else "false"
  | .double x => x.text
  | .natural n => toString n
  | .integer n => toString n
  | .pattern source => source

/-- The place of a value among those of all kinds: of its kind, and within it. -/
def place : FieldValue → Nat × Int × String
  | .flag b => (0, if b then 1 else 0, "")
  | .double x => (1, x.key, "")
  | .natural n => (2, n, "")
  | .integer n => (3, n, "")
  | .pattern source => (4, 0, source)

/-- The order of values. -/
def order (a b : FieldValue) : Ordering :=
  let (kindA, numberA, textA) := a.place
  let (kindB, numberB, textB) := b.place
  (compare kindA kindB).then ((compare numberA numberB).then (compare textA textB))

end FieldValue

/-- A field that a record has to have, with its value if that counts. -/
structure FieldMatch where
  name : String
  value? : Option FieldValue
deriving DecidableEq, Repr

namespace FieldMatch

/-- Reads a field: its name, and behind a sign its value, up to a second sign. -/
def parse? (s : String) : Option FieldMatch :=
  match Text.splitAt '=' s with
  | name :: value :: _ => (FieldValue.parse? value).map fun v => { name, value? := some v }
  | _ => some { name := s, value? := none }

/-- The written form of a field. -/
def text (m : FieldMatch) : String :=
  match m.value? with
  | some v => m.name ++ "=" ++ v.text
  | none => m.name

/-- The order of fields: those with a value are greater. -/
def order (a b : FieldMatch) : Ordering :=
  match a.value?, b.value? with
  | some v, some w => (compare a.name b.name).then (v.order w)
  | none, none => compare a.name b.name
  | some _, none => .gt
  | none, some _ => .lt

end FieldMatch

/-! ### Directives -/

/-- A threshold, and the records that it is for. -/
structure Directive where
  target? : Option String := none
  span? : Option String := none
  fields : List FieldMatch := []
  threshold : Threshold := .atLeast .trace
deriving DecidableEq, Repr

namespace Directive

/-- Whether a directive depends on what a record goes on in. -/
def isDynamic (d : Directive) : Bool := d.span?.isSome || !d.fields.isEmpty

/-- Whether a directive can be decided on without looking at spans and values. -/
def isStatic (d : Directive) : Bool := d.span?.isNone && d.fields.all (·.value?.isNone)

/-- The order of lists of which the shorter is less; of two alike, the first difference counts. -/
def orderFields : List FieldMatch → List FieldMatch → Ordering
  | [], [] => .eq
  | [], _ :: _ => .lt
  | _ :: _, [] => .gt
  | a :: as, b :: bs => (a.order b).then (orderFields as bs)

/-- How special a directive is: a longer target comes before a span, that before the number of
fields. Directives that are alike in this are ordered by their texts. -/
def order (a b : Directive) : Ordering :=
  let size (d : Directive) : Option Nat := d.target?.map String.utf8ByteSize
  (compare (size a) (size b)).then <|
  (compare a.span?.isSome b.span?.isSome).then <|
  (compare a.fields.length b.fields.length).then <|
  (compare a.target? b.target?).then <|
  (compare a.span? b.span?).then <|
  orderFields a.fields b.fields

/-- The written form of the span and the fields. -/
def placeText (d : Directive) : String :=
  let fields := if d.fields.isEmpty then ""
    else "\x7b" ++ ",".intercalate (d.fields.map FieldMatch.text) ++ "\x7d"
  if d.isDynamic then "[" ++ d.span?.getD "" ++ fields ++ "]" else ""

/-- The written form of a directive. -/
def text (d : Directive) : String :=
  let place := d.target?.getD "" ++ d.placeText
  if d.target?.isSome || d.isDynamic then place ++ "=" ++ d.threshold.name else d.threshold.name

/-! ### Reading -/

/-- Where in a directive one is: a number is that of the byte at which a piece begins. -/
inductive Reading where
  | start
  /-- In a target, or in a threshold that stands alone. -/
  | front
  | span (first : Nat)
  | field (first : Nat)
  /-- Behind the closing brace. -/
  | behindFields
  /-- Behind the closing bracket. -/
  | behindSpan
  | threshold (first : Nat)
deriving DecidableEq, Repr

/-- A directive that has been read in part. -/
structure Draft where
  reading : Reading := .start
  directive : Directive := {}
deriving DecidableEq, Repr

/-- Whether a directive without a bracket in front may start with the character. -/
def startsDirective (c : Char) : Bool :=
  Text.isAlphanumeric c || c == '-' || c == ':' || c == '_'

/-- Goes on with the character at `here`. Pieces are given by `cut` from their ends. -/
def Draft.next? (cut : Nat → Nat → Option String) (draft : Draft) (here : Nat) (c : Char) :
    Option Draft := do
  let d := draft.directive
  match draft.reading, c with
  | .start, '[' => return { draft with reading := .span (here + 1) }
  | .start, c => if startsDirective c then return { draft with reading := .front } else none
  | .front, '=' =>
    return { reading := .threshold (here + 1), directive := { d with target? := ← cut 0 here } }
  | .front, '[' =>
    return { reading := .span (here + 1), directive := { d with target? := ← cut 0 here } }
  | .span first, ']' =>
    return { reading := .behindSpan, directive := { d with span? := ← cut first here } }
  | .span first, '\x7b' =>
    let name ← cut first here
    return { reading := .field (here + 1),
             directive := { d with span? := if name.isEmpty then none else some name } }
  | .field first, '\x7d' =>
    let text ← cut first here
    guard (!text.isEmpty)
    return { reading := .behindFields,
             directive := { d with fields := d.fields ++ [← FieldMatch.parse? text] } }
  | .behindFields, ']' => return { draft with reading := .behindSpan }
  | .behindSpan, '=' => return { draft with reading := .threshold (here + 1) }
  | .front, _ | .span _, _ | .field _, _ | .threshold _, _ => return draft
  | .behindFields, _ | .behindSpan, _ => none

/-- Goes on with characters from the one at `here` on. -/
def Draft.run? (cut : Nat → Nat → Option String) (draft : Draft) (here : Nat) :
    List Char → Option Draft
  | [] => some draft
  | c :: rest => do (← draft.next? cut here c).run? cut (here + c.utf8Size) rest

/-- The directive that has been read when a text ends at `last`. A missing threshold lets everything
through. -/
def Draft.finish? (cut : Nat → Nat → Option String) (draft : Draft) (last : Nat) :
    Option Directive := do
  let d := draft.directive
  match draft.reading with
  | .front =>
    let text ← cut 0 last
    match Threshold.parse? text with
    | some threshold => return { d with threshold }
    | none => return { d with target? := some text }
  | .threshold first =>
    let text ← cut first last
    if text.isEmpty then return d else return { d with threshold := ← Threshold.parse? text }
  | .behindSpan => return d
  | _ => none

/-- The part of a text between two of its bytes. -/
def cut (bytes : Bytes) (first last : Nat) : Option String :=
  Text.ofUtf8? ((bytes.drop first).take (last - first))

/-- The directive of a text. Signs are looked for in the text without the blanks at its ends, but the
pieces between them are cut off the whole text, at the same distances from its beginning. -/
def parse? (s : String) : Option Directive := do
  let bytes := Text.utf8 s
  let draft ← ({} : Draft).run? (cut bytes) 0 (Text.trim s).toList
  draft.finish? (cut bytes) bytes.length

end Directive

end ServiceBus.Log
