/-! # Log records

What happens on the way is reported as data. A `Record` is one report; `Logged` is a value together
with the reports made while it was worked out, oldest first. -/

namespace ServiceBus

namespace Log

/-- How important a record is. -/
inductive Level where
  | trace
  | debug
  | info
  | warn
  | error
deriving DecidableEq, Repr

/-- How important records of a level are. -/
def Level.rank : Level → Nat
  | .trace => 0
  | .debug => 1
  | .info => 2
  | .warn => 3
  | .error => 4

/-- The name of a level. -/
def Level.name : Level → String
  | .trace => "TRACE"
  | .debug => "DEBUG"
  | .info => "INFO"
  | .warn => "WARN"
  | .error => "ERROR"

/-- The value of a field of a record. -/
inductive Value where
  | text (s : String)
  | number (n : Nat)
deriving DecidableEq, Repr

/-- The written form of a value. -/
def Value.show : Value → String
  | .text s => s
  | .number n => toString n

/-- One report: its fields by name, and the spans it was made in, outermost first. -/
structure Record where
  level : Level
  message : String
  fields : List (String × Value) := []
  spans : List String := []
deriving DecidableEq, Repr

/-- The record as a line of a log. -/
def Record.line (r : Record) : String :=
  r.level.name ++ " " ++ String.join (r.spans.map (· ++ ": ")) ++ r.message ++
    String.join (r.fields.map fun (name, value) => " " ++ name ++ "=" ++ value.show)

/-- The record as made inside further spans. -/
def Record.within (spans : List String) (r : Record) : Record :=
  { r with spans := spans ++ r.spans }

end Log

/-- A value and the records made while it was worked out. -/
structure Logged (α : Type) where
  value : α
  log : List Log.Record := []

namespace Logged

variable {α β : Type}

/-- Makes a record. -/
def report (r : Log.Record) : Logged Unit :=
  { value := (), log := [r] }

/-- Makes several records. -/
def reportAll (rs : List Log.Record) : Logged Unit :=
  { value := (), log := rs }

instance : Monad Logged where
  pure a := { value := a }
  bind x f := { value := (f x.value).value, log := x.log ++ (f x.value).log }

@[simp] theorem value_pure (a : α) : (pure a : Logged α).value = a := rfl

@[simp] theorem value_bind (x : Logged α) (f : α → Logged β) :
    (x >>= f).value = (f x.value).value := rfl

@[simp] theorem log_pure (a : α) : (pure a : Logged α).log = [] := rfl

@[simp] theorem log_bind (x : Logged α) (f : α → Logged β) :
    (x >>= f).log = x.log ++ (f x.value).log := rfl

end Logged

end ServiceBus
