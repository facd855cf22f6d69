import ServiceBus.Wire.Varint

/-! # Layouts of messages

A `Layout` says how the fields of a message are read into a value: which tags are known, and for each
how its bytes change the value read so far. Fields that repeat a tag are applied in turn, so the last
scalar wins; unknown tags are passed over.

Messages nest at most `nestingLimit` deep. The number of levels that are left is the `depth` that
every field reader gets, and the recursion of `skipField` and of recursive layouts is on it. -/

namespace ServiceBus.Wire

/-- How deep messages and groups may nest. -/
def nestingLimit : Nat := 100

/-- Takes the fields of a group of tag `tag`, up to its end; `n` bounds the number of fields. -/
def skipGroup (skip : WireType → Nat → Reader Unit) (tag : Nat) : Nat → Reader Unit
  | 0 => Reader.fail .invalidVarint
  | n + 1 => do
    let (inner, wireType) ← readKey
    if wireType = .endGroup then
      if inner ≠ tag then Reader.fail .unexpectedEndGroup
    else
      skip wireType inner
      skipGroup skip tag n

/-- Takes the bytes of a field whose tag is unknown. -/
def skipField : Nat → WireType → Nat → Reader Unit
  | 0, _, _ => Reader.fail .recursionLimit
  | depth + 1, wireType, tag => do
    match wireType with
    | .varint => discard readVarint
    | .thirtyTwoBit => discard (Reader.take 4)
    | .sixtyFourBit => discard (Reader.take 8)
    | .lengthDelimited => discard (Reader.take (← readVarint))
    | .startGroup =>
      -- every field takes a byte at least, so there are no more fields than bytes
      skipGroup (skipField depth) tag ((← get).length + 1)
    | .endGroup => Reader.fail .unexpectedEndGroup

/-- How the bytes of a field, given their wire type, change the value read so far. -/
abbrev FieldReader (α : Type) := (depth : Nat) → WireType → α → Reader α

/-- One known field of a message. -/
structure FieldRule (α : Type) where
  tag : Nat
  name : String
  read : FieldReader α

/-- The known fields of a message. -/
structure Layout (α : Type) where
  name : String
  fields : List (FieldRule α)

namespace Layout

variable {α β : Type}

/-- Reads one field into the value. -/
def readField (layout : Layout α) (depth : Nat) (value : α) : Reader α := do
  let (tag, wireType) ← readKey
  match layout.fields.find? (fun rule => rule.tag == tag) with
  | some rule => Reader.inField ⟨layout.name, rule.name⟩ (rule.read depth wireType value)
  | none =>
    skipField depth wireType tag
    return value

/-- Applies `read` until no more than `limit` bytes are left; `n` bounds the number of times. -/
def readUntil (read : α → Reader α) (limit : Nat) : Nat → α → Reader α
  | 0, value => return value
  | n + 1, value => do
    if (← get).length ≤ limit then return value
    readUntil read limit n (← read value)

/-- Reads a run of bytes whose length stands in front of it, `read` by `read`. -/
def readDelimited (read : α → Reader α) (value : α) : Reader α := do
  let length ← readVarint
  let remaining := (← get).length
  if remaining < length then Reader.fail .bufferUnderflow
  let limit := remaining - length
  let value ← readUntil read limit (length + 1) value
  -- the last field may have taken more than its share
  if (← get).length ≠ limit then Reader.fail .lengthExceeded
  return value

/-- Reads a message from the whole input into the value. -/
def read (layout : Layout α) (value : α) (bytes : Bytes) : Except DecodeError α :=
  (readUntil (layout.readField nestingLimit) 0 (bytes.length + 1) value bytes).map Prod.fst

end Layout

/-! ### Readers of single fields -/

namespace FieldReader

variable {α β : Type}

/-- Refuses a field of another wire type. -/
def expect (expected actual : WireType) : Reader Unit := do
  if actual ≠ expected then Reader.fail (.unexpectedWireType actual expected)

/-- A number. -/
def number (store : Nat → α → α) : FieldReader α := fun _ wireType value => do
  expect .varint wireType
  return store (← readVarint) value

/-- A number of eight bytes, which is not kept. -/
def fixed64 : FieldReader α := fun _ wireType value => do
  expect .sixtyFourBit wireType
  discard (Reader.take 8)
  return value

/-- A run of bytes, which is not kept. -/
def blob : FieldReader α := fun _ wireType value => do
  expect .lengthDelimited wireType
  discard (Reader.take (← readVarint))
  return value

/-- A text. -/
def text (store : String → α → α) : FieldReader α := fun _ wireType value => do
  expect .lengthDelimited wireType
  let bytes ← Reader.take (← readVarint)
  match Text.ofUtf8? bytes with
  | some s => return store s value
  | none => Reader.fail .invalidText

/-- Numbers, one to a field or packed into one run of bytes. -/
def numbers (store : Nat → α → α) : FieldReader α := fun depth wireType value => do
  if wireType = .lengthDelimited then
    Layout.readDelimited (number store depth .varint) value
  else number store depth wireType value

/-- A message inside the message; `inner` is its layout where `depth` levels are left below it, and
`load` and `store` give the value to start from and take the value read. -/
def nested (inner : Nat → Layout β) (load : α → β) (store : β → α → α) : FieldReader α :=
  fun depth wireType value => do
    expect .lengthDelimited wireType
    match depth with
    | 0 => Reader.fail .recursionLimit
    | depth + 1 =>
      let b ← Layout.readDelimited ((inner depth).readField depth) (load value)
      return store b value

end FieldReader

end ServiceBus.Wire
