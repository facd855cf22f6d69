import Mathlib.Data.List.Basic
import ServiceBus.Schema.Walk

/-! # References of a schema file

A file refers to types in the fields of its messages, at any depth, and in the signatures of its
methods.

* `Walk.toList_eq_preorderAll`: a walk visits messages in pre-order.
* `Message.Within`, `File.Refers`: the messages at any depth, and the types that a file refers to.
* `File.mem_typeRefs`: the list of references has exactly these types. -/

namespace ServiceBus.Schema

variable {m : Message} {messages : List Message} {ty : TypeRef}

/-! ### Walks -/

/-- The pre-orders of messages and of further ones. -/
theorem preorderAll_append (a b : List Message) :
    preorderAll (a ++ b) = preorderAll a ++ preorderAll b := by
  induction a with
  | nil => rfl
  | cons m rest ih => rw [List.cons_append, preorderAll, preorderAll, ih, List.append_assoc]

/-- **A walk visits messages in pre-order.** -/
theorem Walk.toList_eq_preorderAll (w : Walk) : w.toList = preorderAll w.pending := by
  fun_induction Walk.toList w with
  | case1 w hnext =>
    obtain ⟨pending⟩ := w
    cases pending with
    | nil => rfl
    | cons m rest => cases hnext
  | case2 w m w' hnext _ ih =>
    obtain ⟨pending⟩ := w
    -- The step puts the nested messages in the place of the one that is visited.
    match pending, hnext with
    | ⟨name, fields, nested⟩ :: rest, hnext =>
      obtain ⟨rfl, rfl⟩ := Prod.mk.inj (Option.some.inj hnext)
      rw [ih, pending_pushAll, preorderAll_append, preorderAll, Message.preorder, List.cons_append]

/-- The messages of a file are visited in pre-order. -/
theorem File.allMessages_eq (file : File) : file.allMessages = preorderAll file.messages := by
  rw [File.allMessages, Walk.toList_eq_preorderAll, Walk.pending_pushAll, List.append_nil]

/-- The named types that the fields of a message refer to, those of the messages inside it included. -/
def fieldRefs (messages : List Message) : List TypeRef :=
  ((preorderAll messages).flatMap Message.fields).filterMap fun field => field.type.typeRef?

/-- The named types that a service refers to. -/
def Service.typeRefs (s : Service) : List TypeRef :=
  s.methods.flatMap fun method => [method.input, method.output]

/-- The types of fields come first, then those of methods. -/
theorem File.typeRefs_eq (file : File) :
    file.typeRefs = fieldRefs file.messages ++ file.services.flatMap Service.typeRefs := by
  rw [File.typeRefs, File.allMessages_eq, fieldRefs, File.methods, List.flatMap_assoc]
  congr 1
  apply List.flatMap_congr
  intro service _
  rw [List.flatMap_map, Service.typeRefs]

/-! ### Messages at any depth -/

/-- Whether a message is one of some messages, or is nested in one of them at some depth. -/
inductive Message.Within (m : Message) : List Message → Prop where
  | top {messages : List Message} (h : m ∈ messages) : m.Within messages
  | nested {messages : List Message} {outer : Message} (h : outer ∈ messages)
      (inside : m.Within outer.nested) : m.Within messages

/-- A message that is in a list of messages is in a longer one. -/
theorem Message.Within.mono {more : List Message} (h : m.Within messages)
    (hsub : ∀ outer ∈ messages, outer ∈ more) : m.Within more := by
  cases h with
  | top h => exact .top (hsub m h)
  | nested h inside => exact .nested (hsub _ h) inside

mutual

/-- The pre-order of a message has the message itself and what is nested in it. -/
theorem Message.mem_preorder (outer : Message) :
    m ∈ outer.preorder ↔ m = outer ∨ m.Within outer.nested := by
  match outer with
  | ⟨name, fields, nested⟩ => rw [Message.preorder, List.mem_cons, mem_preorderAll nested]

/-- **A walk visits the messages at any depth**, and no others. -/
theorem mem_preorderAll (messages : List Message) :
    m ∈ preorderAll messages ↔ m.Within messages := by
  match messages with
  | [] =>
    rw [preorderAll]
    constructor
    · intro h
      exact absurd h List.not_mem_nil
    · intro h
      cases h with
      | top h => exact h
      | nested h => exact absurd h List.not_mem_nil
  | outer :: rest =>
    rw [preorderAll, List.mem_append, Message.mem_preorder outer, mem_preorderAll rest]
    constructor
    · rintro ((rfl | h) | h)
      · exact .top List.mem_cons_self
      · exact .nested List.mem_cons_self h
      · exact h.mono fun _ hm => List.mem_cons_of_mem _ hm
    · intro h
      cases h with
      | top h =>
        rcases List.mem_cons.mp h with rfl | h
        · exact Or.inl (Or.inl rfl)
        · exact Or.inr (.top h)
      | nested h inside =>
        rcases List.mem_cons.mp h with rfl | h
        · exact Or.inl (Or.inr inside)
        · exact Or.inr (.nested h inside)

end

/-! ### References -/

/-- Whether a file refers to a type: in a field of a message at any depth, or in the signature of a
method. -/
inductive File.Refers (file : File) (ty : TypeRef) : Prop where
  | field {m : Message} {f : Field} (declared : m.Within file.messages) (mem : f ∈ m.fields)
      (type : f.type.typeRef? = some ty)
  | method {service : Service} {method : Method} (declared : service ∈ file.services)
      (mem : method ∈ service.methods) (signature : ty = method.input ∨ ty = method.output)

/-- **The references of a file** are the types it refers to. -/
theorem File.mem_typeRefs {file : File} : ty ∈ file.typeRefs ↔ file.Refers ty := by
  rw [File.typeRefs_eq, List.mem_append, fieldRefs, List.mem_filterMap]
  constructor
  · rintro (⟨f, hf, hty⟩ | h)
    · obtain ⟨m, hm, hf⟩ := List.mem_flatMap.mp hf
      exact .field ((mem_preorderAll _).mp hm) hf hty
    · obtain ⟨service, hservice, h⟩ := List.mem_flatMap.mp h
      obtain ⟨method, hmethod, h⟩ := List.mem_flatMap.mp h
      refine .method hservice hmethod ?_
      rwa [List.mem_cons, List.mem_singleton] at h
  · intro h
    cases h with
    | field hm hf hty =>
      exact Or.inl ⟨_, List.mem_flatMap.mpr ⟨_, (mem_preorderAll _).mpr hm, hf⟩, hty⟩
    | method hservice hmethod h =>
      refine Or.inr (List.mem_flatMap.mpr ⟨_, hservice, List.mem_flatMap.mpr ⟨_, hmethod, ?_⟩⟩)
      rwa [List.mem_cons, List.mem_singleton]

end ServiceBus.Schema
