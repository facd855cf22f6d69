import ServiceBus.Log.Directive

/-! # Log filters

A `Filter` says which records are told. It comes from a text of directives such as `warn,bus=debug`,
or from a switch between two levels where there is no such text.

* `Filter.parse?`: the filter of a text.
* `Filter.text`: the text of a filter.
* `Control`: the filter of a log that may be gone, and the switch to details. -/

namespace ServiceBus.Log

/-- Which records are told: of the directives that fit one, the most special decides. -/
structure Filter where
  /-- The directives that do not depend on spans and values, the most special first. -/
  statics : List Directive := []
  /-- The directives that depend on spans or fields, the most special first. -/
  dynamics : List Directive := []
deriving DecidableEq, Repr

namespace Filter

/-- Puts a directive in its place, the most special ones first; it replaces one for the same
records. -/
def add (d : Directive) : List Directive → List Directive
  | [] => [d]
  | e :: rest =>
    match d.order e with
    | .eq => d :: rest
    | .gt => d :: e :: rest
    | .lt => e :: add d rest

/-- Directives, each in its place. -/
def arrange (ds : List Directive) : List Directive := ds.foldl (fun acc d => add d acc) []

/-- The filter of some directives, of which the last for the same records counts. A directive for
fields of any value belongs to both kinds. -/
def ofDirectives (ds : List Directive) : Filter :=
  let (dynamics, statics) := ds.partition Directive.isDynamic
  { statics := arrange (statics ++ dynamics.filter Directive.isStatic),
    dynamics := arrange dynamics }

/-- The filter with one threshold for everything. -/
def uniform (t : Threshold) : Filter := { statics := [{ threshold := t }] }

/-- The filter of a text of directives with commas between them. Without any, errors are told. -/
def parse? (s : String) : Option Filter :=
  match (Text.splitAt ',' s).filter (· != "") with
  | [] => some (uniform (.atLeast .error))
  | parts => (parts.mapM Directive.parse?).map ofDirectives

/-- The written form of a filter. -/
def text (f : Filter) : String :=
  ",".intercalate ((f.statics ++ f.dynamics).map Directive.text)

/-- Whether records of a level are told that are of no special target and have no fields. -/
def admits (f : Filter) (level : Level) : Bool :=
  match f.statics.find? fun d => d.target?.isNone && d.fields.isEmpty with
  | some d => d.threshold.admits level
  | none => false

/-- The filter of a given text if that is one, else with details or without. -/
def choose (source? : Option String) (debug : Bool) : Filter :=
  (source?.bind parse?).getD (uniform (.atLeast (if debug then .debug else .info)))

end Filter

/-- The filter of a log while there is one. -/
structure Control where
  /-- The text from which the filter comes, if one is given. -/
  source? : Option String
  filter? : Option Filter
deriving DecidableEq, Repr

/-- Why the filter could not be changed. -/
inductive ControlError where
  /-- The log is gone. -/
  | gone
deriving DecidableEq, Repr

/-- What is told of an error, from the general to the particular. -/
def ControlError.messages : ControlError → List String
  | .gone => ["Failed to reload log filter", "subscriber no longer exists"]

namespace Control

/-- A log with details or without, unless a text says otherwise. -/
def start (source? : Option String) (debug : Bool) : Control where
  source? := source?
  filter? := some (.choose source? debug)

/-- The log is gone. -/
def drop (c : Control) : Control := { c with filter? := none }

/-- Switches to details, unless a text says otherwise. -/
def enableDebug (c : Control) : Logged (Control × Except ControlError Unit) :=
  match c.filter? with
  | none => pure (c, .error .gone)
  | some _ => do
    Logged.report { level := .debug, message := "debug logging enabled" }
    return ({ c with filter? := some (.choose c.source? true) }, .ok ())

end Control

end ServiceBus.Log
