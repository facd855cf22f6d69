import ServiceBus.Text.Utf8

/-! # The wire form of messages

A message is a sequence of fields; each starts with a key that holds the field's tag and its wire
type.

* `WireType`: how the bytes of a field are laid out.
* `DecodeError`: why bytes are not a message, with the fields inside which that was noticed.
* `Reader`: a computation that takes bytes from the front of the input. -/

namespace ServiceBus.Wire

/-- How the bytes of a field are laid out. -/
inductive WireType where
  | varint
  | sixtyFourBit
  | lengthDelimited
  | startGroup
  | endGroup
  | thirtyTwoBit
deriving DecidableEq, Repr

namespace WireType

/-- The number that stands for the wire type in a key. -/
def code : WireType → Nat
  | varint => 0
  | sixtyFourBit => 1
  | lengthDelimited => 2
  | startGroup => 3
  | endGroup => 4
  | thirtyTwoBit => 5

/-- The wire type with the given number. -/
def ofCode? : Nat → Option WireType
  | 0 => some varint
  | 1 => some sixtyFourBit
  | 2 => some lengthDelimited
  | 3 => some startGroup
  | 4 => some endGroup
  | 5 => some thirtyTwoBit
  | _ => none

/-- The name of the wire type in error texts. -/
def name : WireType → String
  | varint => "Varint"
  | sixtyFourBit => "SixtyFourBit"
  | lengthDelimited => "LengthDelimited"
  | startGroup => "StartGroup"
  | endGroup => "EndGroup"
  | thirtyTwoBit => "ThirtyTwoBit"

end WireType

/-- What is wrong with the bytes. -/
inductive DecodeCause where
  | invalidVarint
  | bufferUnderflow
  | invalidTag
  | invalidKey (key : Nat)
  | invalidWireType (code : Nat)
  | unexpectedWireType (actual expected : WireType)
  | invalidText
  | unexpectedEndGroup
  | recursionLimit
  | lengthExceeded
deriving DecidableEq, Repr

/-- The text of a cause. -/
def DecodeCause.message : DecodeCause → String
  | .invalidVarint => "invalid varint"
  | .bufferUnderflow => "buffer underflow"
  | .invalidTag => "invalid tag value: 0"
  | .invalidKey key => s!"invalid key value: {key}"
  | .invalidWireType code => s!"invalid wire type value: {code}"
  | .unexpectedWireType actual expected =>
    "invalid wire type: " ++ actual.name ++ " (expected " ++ expected.name ++ ")"
  | .invalidText => "invalid string value: data is not UTF-8 encoded"
  | .unexpectedEndGroup => "unexpected end group tag"
  | .recursionLimit => "recursion limit reached"
  | .lengthExceeded => "delimited length exceeded"

/-- A field of a message, by the names of both. -/
structure FieldName where
  message : String
  field : String
deriving DecidableEq, Repr

/-- Why bytes are not a message; `path` are the fields around the place, innermost first. -/
structure DecodeError where
  path : List FieldName := []
  cause : DecodeCause
deriving DecidableEq, Repr

/-- The text of a decode error. -/
def DecodeError.message (e : DecodeError) : String :=
  "failed to decode Protobuf message: " ++
    String.join (e.path.map fun f => f.message ++ "." ++ f.field ++ ": ") ++ e.cause.message

/-- A computation that takes bytes from the front of the input. -/
abbrev Reader := StateT Bytes (Except DecodeError)

namespace Reader

variable {α : Type}

/-- Stops with an error. -/
def fail (cause : DecodeCause) : Reader α :=
  throw { cause }

/-- Adds the field to the path of every error of the reader. -/
def inField (name : FieldName) (read : Reader α) : Reader α := fun input =>
  match read input with
  | .ok r => .ok r
  | .error e => .error { e with path := e.path ++ [name] }

/-- Takes the next `n` bytes. -/
def take (n : Nat) : Reader Bytes := do
  let input ← get
  if input.length < n then fail .bufferUnderflow
  set (input.drop n)
  return input.take n

end Reader

end ServiceBus.Wire
