import ServiceBus.Schema.Basic

/-! # Walking a schema file

* `Message.preorder`: a message and all messages inside it, each before those nested in it.
* `Walk`: the same order step by step. A walk is a stack of the messages still to be visited; a step
  takes the topmost one and pushes those nested in it, the last one first.
* `File.typeRefs`: the named types that a file refers to, in walk order, with repetitions. -/

namespace ServiceBus.Schema

mutual

/-- The message followed by the messages inside it, depth first, in declaration order. -/
def Message.preorder : Message → List Message
  | ⟨name, fields, nested⟩ => ⟨name, fields, nested⟩ :: preorderAll nested

/-- The pre-orders of several messages, one after the other. -/
def preorderAll : List Message → List Message
  | [] => []
  | m :: rest => m.preorder ++ preorderAll rest

end

mutual

/-- The number of messages in a message, itself included. -/
def Message.count : Message → Nat
  | ⟨_, _, nested⟩ => 1 + countAll nested

/-- The number of messages in several messages. -/
def countAll : List Message → Nat
  | [] => 0
  | m :: rest => m.count + countAll rest

end

theorem countAll_append (a b : List Message) : countAll (a ++ b) = countAll a + countAll b := by
  induction a with
  | nil => simp [countAll]
  | cons m rest ih => simp [countAll, ih]; omega

/-- A walk over messages: a stack of those still to be visited, the topmost one first. -/
structure Walk where
  pending : List Message

/-- Puts a message on top. -/
def Walk.push (w : Walk) (m : Message) : Walk := ⟨m :: w.pending⟩

/-- Puts messages on top, one after the other from the last one, so that the first is topmost. -/
def Walk.pushAll (w : Walk) (messages : List Message) : Walk := messages.reverse.foldl push w

@[simp] theorem Walk.pending_pushAll (w : Walk) (messages : List Message) :
    (w.pushAll messages).pending = messages ++ w.pending := by
  unfold pushAll
  induction messages with
  | nil => rfl
  | cons m rest ih =>
    rw [List.reverse_cons, List.foldl_append]
    exact congrArg (m :: ·) ih

/-- Visits the topmost message, if there is one. -/
def Walk.next? (w : Walk) : Option (Message × Walk) :=
  match w.pending with
  | [] => none
  | m :: rest => some (m, (Walk.mk rest).pushAll m.nested)

theorem Walk.countAll_of_next? {w w' : Walk} {m : Message} (h : w.next? = some (m, w')) :
    countAll w'.pending < countAll w.pending := by
  obtain ⟨pending⟩ := w
  match pending, h with
  | ⟨_, _, _⟩ :: _, h =>
    simp only [Walk.next?, Option.some.injEq, Prod.mk.injEq] at h
    obtain ⟨rfl, rfl⟩ := h
    simp only [pending_pushAll, countAll_append, countAll, Message.count]
    omega

/-- The messages that a walk visits. -/
def Walk.toList (w : Walk) : List Message :=
  match h : w.next? with
  | none => []
  | some (m, w') =>
    have := Walk.countAll_of_next? h
    m :: w'.toList
termination_by countAll w.pending

namespace File

/-- All messages of the file, nested ones included, in walk order. -/
def allMessages (file : File) : List Message :=
  ((Walk.mk []).pushAll file.messages).toList

/-- Every method, together with the service that declares it. -/
def methods (file : File) : List (Service × Method) :=
  file.services.flatMap fun service => service.methods.map fun method => (service, method)

/-- Whether the file declares a service. -/
def hasServices (file : File) : Bool :=
  !file.services.isEmpty

/-- The named types that the file refers to: those of fields, in walk order, then the input and the
output of each method. -/
def typeRefs (file : File) : List TypeRef :=
  let fields := file.allMessages.flatMap Message.fields
  fields.filterMap (fun field => field.type.typeRef?) ++
    file.methods.flatMap fun (_, method) => [method.input, method.output]

end File

end ServiceBus.Schema
