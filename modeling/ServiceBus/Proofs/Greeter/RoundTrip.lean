import ServiceBus.Bus.Codec
import ServiceBus.Greeter.Message
import ServiceBus.Proofs.Wire.Scalars

/-! # The codec and the messages of the greeter

What the codec writes of a message of the greeter it reads back.

* `RoundTrips`: what the codec does with the bytes of one value, of two values one after the other, and
  with bytes that are cut off.
* `RoundTrips.of_flat`: it holds of every message of scalar fields.
* `Greeter.messages_roundTrip`: the messages of the greeter, with what their fields are where one
  message stands behind another. -/

namespace ServiceBus.Bus

open Wire

variable {α : Type} [WireMessage α]

/-- **The codec reads back what it wrote.** `Told` says of which values the lengths of all texts can be
told in 64 bits, and `overlay` what two values come to of which the second is read over the first. -/
structure RoundTrips (α : Type) [WireMessage α] (Told : α → Prop) (overlay : α → α → α) :
    Prop where
  /-- A value that was written is read back. -/
  whole (v : α) : (encode v).bind decode = .ok v ↔ Told v
  /-- Two values that were written one after the other are read as one. -/
  joined (v w : α) :
    ((encode v).bind fun first => (encode w).bind fun second => decode (first ++ second)) =
      .ok (overlay v w) ↔ Told v ∧ Told w
  /-- Bytes that are cut off are refused or read as another value. -/
  cut {v : α} {bytes part : Bytes} (hwritten : encode v = .ok bytes) (hpart : part <+: bytes)
    (hne : part ≠ bytes) : (∃ e, (decode part : Except CodecError α) = .error e) ∨
      ∃ u, decode part = .ok u ∧ u ≠ v

/-- What the codec reads is what the bytes stand for. -/
theorem decode_eq_ok_iff {bytes : Bytes} {v : α} :
    (decode bytes : Except CodecError α) = .ok v ↔ Wire.decode bytes = .ok v := by
  rw [decode]
  cases (Wire.decode bytes : Except DecodeError α) with
  | error e => exact ⟨fun h => (nomatch h), fun h => (nomatch h)⟩
  | ok u => exact ⟨fun h => congrArg _ (Except.ok.inj h), fun h => congrArg _ (Except.ok.inj h)⟩

/-- **Messages of scalar fields are read back.** -/
theorem RoundTrips.of_flat (flat : Flat α) {Told : α → Prop} {overlay : α → α → α}
    (htold : ∀ v, flat.Fits v ↔ Told v) (hoverlay : ∀ v w, moved flat.scalars w v = overlay v w) :
    RoundTrips α Told overlay where
  whole v := (decode_eq_ok_iff.trans (flat.decode_encode v)).trans (htold v)
  joined v w := by
    rw [← hoverlay, ← htold, ← htold]
    exact decode_eq_ok_iff.trans (flat.decode_encode_append v w)
  cut {v bytes part} hwritten hpart hne := by
    cases hwritten
    cases hread : (decode part : Except CodecError α) with
    | error e => exact Or.inl ⟨e, rfl⟩
    | ok u =>
      refine Or.inr ⟨u, rfl, ?_⟩
      rintro rfl
      exact flat.decode_cut hpart hne (decode_eq_ok_iff.mp hread)

end ServiceBus.Bus

namespace ServiceBus.Greeter

open Wire Bus

/-! ### The fields of the messages -/

/-- What is set only where it is no default is set in any case where the default was before. -/
theorem ite_eq_default {β : Type} [DecidableEq β] (default b : β) :
    (if b = default then default else b) = b := by
  split
  · rename_i hb
    exact hb.symm
  · rfl

namespace HelloRequest

/-- The field of a request to greet. -/
def scalars : List (Scalar HelloRequest) :=
  [.text 1 "name" name fun s m => { m with name := s }]

theorem moved_scalars (v w : HelloRequest) :
    moved scalars w v = { name := if w.name = "" then v.name else w.name } := by
  show (if w.name = "" then v else { v with name := w.name }) = _
  split <;> rfl

/-- A request to greet is a message of scalar fields. -/
def flat : Flat HelloRequest where
  scalars := scalars
  known := List.forall_mem_singleton.mpr ⟨by decide, by decide, rfl⟩
  encode_eq v := (List.append_nil _).symm
  empty := List.forall_mem_singleton.mpr rfl
  apart := List.pairwise_singleton _ _
  whole v := (moved_scalars _ v).trans (congrArg mk (ite_eq_default "" v.name))

end HelloRequest

namespace HelloReply

/-- The field of a greeting. -/
def scalars : List (Scalar HelloReply) :=
  [.text 1 "message" message fun s m => { m with message := s }]

theorem moved_scalars (v w : HelloReply) :
    moved scalars w v = { message := if w.message = "" then v.message else w.message } := by
  show (if w.message = "" then v else { v with message := w.message }) = _
  split <;> rfl

/-- A greeting is a message of scalar fields. -/
def flat : Flat HelloReply where
  scalars := scalars
  known := List.forall_mem_singleton.mpr ⟨by decide, by decide, rfl⟩
  encode_eq v := (List.append_nil _).symm
  empty := List.forall_mem_singleton.mpr rfl
  apart := List.pairwise_singleton _ _
  whole v := (moved_scalars _ v).trans (congrArg mk (ite_eq_default "" v.message))

end HelloReply

namespace EchoMessage

/-- The fields of what is to come back. -/
def scalars : List (Scalar EchoMessage) :=
  [.text 1 "text" text fun s m => { m with text := s },
    .number 2 "count" (fun m => m.count.toNat) fun n m => { m with count := UInt32.ofNat n }]

theorem moved_scalars (v w : EchoMessage) :
    moved scalars w v =
      { text := if w.text = "" then v.text else w.text
        count := if w.count = 0 then v.count else w.count } := by
  have htext : (if w.text = "" then v else { v with text := w.text }) =
      { v with text := if w.text = "" then v.text else w.text } := by
    split <;> rfl
  have hzero : w.count.toNat = 0 ↔ w.count = 0 := UInt32.toNat_inj (b := 0)
  show (if w.count.toNat = 0 then (if w.text = "" then v else { v with text := w.text })
    else { (if w.text = "" then v else { v with text := w.text }) with
      count := UInt32.ofNat w.count.toNat }) = _
  rw [htext, UInt32.ofNat_toNat]
  by_cases h : w.count = 0
  · rw [if_pos h, if_pos (hzero.mpr h)]
  · rw [if_neg h, if_neg fun he => h (hzero.mp he)]

/-- What is to come back is a message of scalar fields. -/
def flat : Flat EchoMessage where
  scalars := scalars
  known := List.forall_mem_cons.mpr ⟨⟨by decide, by decide, rfl⟩,
    List.forall_mem_singleton.mpr ⟨by decide, by decide, rfl⟩⟩
  encode_eq v := congrArg (textField 1 v.text ++ ·) (List.append_nil _).symm
  empty := List.forall_mem_cons.mpr ⟨rfl, List.forall_mem_singleton.mpr rfl⟩
  apart := List.pairwise_pair.mpr fun v acc h => Scalar.isDefault_move id h
  whole v := (moved_scalars _ v).trans
    (congrArg₂ mk (ite_eq_default "" v.text) (ite_eq_default 0 v.count))

end EchoMessage

namespace Metadata

/-- The fields of a pair that a caller supplies. -/
def scalars : List (Scalar Metadata) :=
  [.text 1 "key" key fun s m => { m with key := s },
    .text 2 "value" value fun s m => { m with value := s }]

theorem moved_scalars (v w : Metadata) :
    moved scalars w v =
      { key := if w.key = "" then v.key else w.key
        value := if w.value = "" then v.value else w.value } := by
  have hkey : (if w.key = "" then v else { v with key := w.key }) =
      { v with key := if w.key = "" then v.key else w.key } := by
    split <;> rfl
  show (if w.value = "" then (if w.key = "" then v else { v with key := w.key })
    else { (if w.key = "" then v else { v with key := w.key }) with value := w.value }) = _
  rw [hkey]
  split <;> rfl

/-- A pair that a caller supplies is a message of scalar fields. -/
def flat : Flat Metadata where
  scalars := scalars
  known := List.forall_mem_cons.mpr ⟨⟨by decide, by decide, rfl⟩,
    List.forall_mem_singleton.mpr ⟨by decide, by decide, rfl⟩⟩
  encode_eq v := congrArg (textField 1 v.key ++ ·) (List.append_nil _).symm
  empty := List.forall_mem_cons.mpr ⟨rfl, List.forall_mem_singleton.mpr rfl⟩
  apart := List.pairwise_pair.mpr fun v acc h => Scalar.isDefault_move id h
  whole v := (moved_scalars _ v).trans
    (congrArg₂ mk (ite_eq_default "" v.key) (ite_eq_default "" v.value))

end Metadata

/-! ### The messages -/

/-- Whether the length of a text can be told in 64 bits. It can of every text that a memory holds; a
longer one could be written, but nobody could read how long it is. -/
def Told (s : String) : Prop :=
  (Text.utf8 s).length < 2 ^ 64

instance (s : String) : Decidable (Told s) :=
  inferInstanceAs (Decidable ((Text.utf8 s).length < 2 ^ 64))

/-- **The messages of the greeter are read back** by the codec, whatever texts and counts they hold. Of
two that are written one after the other the second wins, field by field, where it holds no default.
Bytes that are cut off anywhere are refused or read as another message. -/
theorem messages_roundTrip :
    RoundTrips HelloRequest (fun v => Told v.name)
        (fun v w => { name := if w.name = "" then v.name else w.name }) ∧
      RoundTrips HelloReply (fun v => Told v.message)
        (fun v w => { message := if w.message = "" then v.message else w.message }) ∧
      RoundTrips EchoMessage (fun v => Told v.text)
        (fun v w => {
          text := if w.text = "" then v.text else w.text
          count := if w.count = 0 then v.count else w.count }) ∧
      RoundTrips Metadata (fun v => Told v.key ∧ Told v.value)
        (fun v w => {
          key := if w.key = "" then v.key else w.key
          value := if w.value = "" then v.value else w.value }) := by
  have hcount (v : EchoMessage) : v.count.toNat < 2 ^ 64 :=
    v.count.toNat_lt.trans (by decide)
  refine ⟨.of_flat HelloRequest.flat (fun v => List.forall_mem_singleton) HelloRequest.moved_scalars,
    .of_flat HelloReply.flat (fun v => List.forall_mem_singleton) HelloReply.moved_scalars,
    .of_flat EchoMessage.flat (fun v => ?_) EchoMessage.moved_scalars,
    .of_flat Metadata.flat (fun v => ?_) Metadata.moved_scalars⟩
  · refine List.forall_mem_cons.trans (Iff.trans ?_ (and_iff_left (hcount v)))
    exact and_congr_right fun _ => List.forall_mem_singleton
  · exact List.forall_mem_cons.trans (and_congr_right fun _ => List.forall_mem_singleton)

/-- A count alone, behind a greeting with another, changes the count. -/
theorem messages_roundTrip_echo :
    ((encode ({ text := "hi", count := 300 } : EchoMessage)).bind fun first =>
      (encode ({ count := 7 } : EchoMessage)).bind fun second => decode (first ++ second)) =
        (.ok { text := "hi", count := 7 } : Except CodecError EchoMessage) :=
  (messages_roundTrip.2.2.1.joined { text := "hi", count := 300 } { count := 7 }).mpr
    ⟨by decide +kernel, by decide +kernel⟩

end ServiceBus.Greeter
