import ServiceBus.Wire.Message

/-! # Messages of the greeter

The inputs and outputs of the greeter's methods and their wire forms. -/

namespace ServiceBus.Greeter

open Wire

/-- Whom to greet. -/
structure HelloRequest where
  name : String := ""
deriving DecidableEq, Repr

/-- A greeting. -/
structure HelloReply where
  message : String := ""
deriving DecidableEq, Repr

/-- What is to come back. -/
structure EchoMessage where
  text : String := ""
  count : UInt32 := 0
deriving DecidableEq, Repr

/-- A pair that a caller supplies. -/
structure Metadata where
  key : String := ""
  value : String := ""
deriving DecidableEq, Repr

instance : WireMessage HelloRequest where
  empty := {}
  layout := { name := "HelloRequest", fields := [
    ⟨1, "name", .text fun s m => { m with name := s }⟩] }
  encode m := textField 1 m.name

instance : WireMessage HelloReply where
  empty := {}
  layout := { name := "HelloReply", fields := [
    ⟨1, "message", .text fun s m => { m with message := s }⟩] }
  encode m := textField 1 m.message

instance : WireMessage EchoMessage where
  empty := {}
  layout := { name := "EchoMessage", fields := [
    ⟨1, "text", .text fun s m => { m with text := s }⟩,
    ⟨2, "count", .number fun n m => { m with count := UInt32.ofNat n }⟩] }
  encode m := textField 1 m.text ++ numberField 2 m.count.toNat

instance : WireMessage Metadata where
  empty := {}
  layout := { name := "Metadata", fields := [
    ⟨1, "key", .text fun s m => { m with key := s }⟩,
    ⟨2, "value", .text fun s m => { m with value := s }⟩] }
  encode m := textField 1 m.key ++ textField 2 m.value

end ServiceBus.Greeter
