import ServiceBus.Wire.Layout

/-! # Messages with a wire form

`WireMessage` gives a type its wire form: the bytes of a value, and the layout that reads them back
into the empty value. Fields that hold their default are not written. -/

namespace ServiceBus.Wire

/-- A type with a wire form. -/
class WireMessage (α : Type) where
  /-- The value of a message without fields. -/
  empty : α
  /-- How fields are read. -/
  layout : Layout α
  /-- The wire form of a value. -/
  encode : α → Bytes

/-- The value that the bytes stand for. -/
def decode {α : Type} [WireMessage α] (bytes : Bytes) : Except DecodeError α :=
  WireMessage.layout.read WireMessage.empty bytes

/-- A text field; an empty text is not written. -/
def textField (tag : Nat) (s : String) : Bytes :=
  if s.isEmpty then [] else fieldKey tag .lengthDelimited ++ delimited (Text.utf8 s)

/-- A number field; zero is not written. -/
def numberField (tag n : Nat) : Bytes :=
  if n = 0 then [] else fieldKey tag .varint ++ varint n

/-- A message inside the message. -/
def messageField (tag : Nat) (bytes : Bytes) : Bytes :=
  fieldKey tag .lengthDelimited ++ delimited bytes

end ServiceBus.Wire
