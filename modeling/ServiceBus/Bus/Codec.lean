import ServiceBus.Wire.Message
import ServiceBus.Bus.Status

/-! # The codec of services

Values travel in their wire form. -/

namespace ServiceBus.Bus

variable {α : Type} [Wire.WireMessage α]

/-- The bytes of a value; this never fails for values with a wire form. -/
def encode (a : α) : Except CodecError Bytes :=
  .ok (Wire.WireMessage.encode a)

/-- The value that bytes stand for. -/
def decode (bytes : Bytes) : Except CodecError α :=
  (Wire.decode bytes).mapError fun e => .decode e.message

end ServiceBus.Bus
