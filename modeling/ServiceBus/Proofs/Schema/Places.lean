import Mathlib.Data.List.Basic
import ServiceBus.Proofs.Schema.Walk

/-! # Places of messages

A message stands at a place: the number of a message of the file, then that of a message nested in
it, and so on down. In the lexicographic order of places a message comes before those inside it, and
messages beside each other come in the order they are declared in.

* `Walk.Visits`: what a walk visits, step after step, until nothing is left.
* `messageAt?`: the message at a place.
* `pairwise_placesFrom`, `mem_placesFrom`, `map_messageAt?_placesFrom`: the places in pre-order
  ascend, are all there are, and hold the messages in pre-order.
* `File.visits_in_preorder`: a walk visits each message of a file once, in the order of places, and
  the references of the file follow that order. -/

namespace ServiceBus.Schema

variable {w : Walk} {visited : List Message}

/-! ### Runs of a walk -/

/-- The messages that the steps of a walk visit until no message is left. -/
inductive Walk.Visits : Walk → List Message → Prop where
  | done {w : Walk} (h : w.next? = none) : w.Visits []
  | step {w w' : Walk} {m : Message} {visited : List Message} (h : w.next? = some (m, w'))
      (rest : w'.Visits visited) : w.Visits (m :: visited)

/-- A walk comes to its end. -/
theorem Walk.visits_toList (w : Walk) : w.Visits w.toList := by
  fun_induction Walk.toList w with
  | case1 w hnext => exact .done hnext
  | case2 w m w' hnext _ ih => exact .step hnext ih

/-- A walk has one course only. -/
theorem Walk.Visits.eq_toList (h : w.Visits visited) : visited = w.toList := by
  induction h with
  | done hnext =>
    rw [Walk.toList]
    split
    · rfl
    · rename_i hother
      cases hnext.symm.trans hother
  | step hnext _ ih =>
    rw [Walk.toList]
    split
    · rename_i hother
      cases hnext.symm.trans hother
    · rename_i hother
      obtain ⟨rfl, rfl⟩ := Prod.mk.inj (Option.some.inj (hnext.symm.trans hother))
      rw [ih]

/-- **Whatever is on its stack, a walk visits** the pre-orders of those messages, and then ends. -/
theorem Walk.visits_iff : w.Visits visited ↔ visited = preorderAll w.pending := by
  rw [← Walk.toList_eq_preorderAll]
  constructor
  · exact Walk.Visits.eq_toList
  · rintro rfl
    exact w.visits_toList

/-! ### Places -/

/-- The message at a place below a message; the message itself is at the empty place. -/
def Message.at? (m : Message) : List Nat → Option Message
  | [] => some m
  | n :: place => m.nested[n]?.bind fun inner => inner.at? place

/-- The message at a place; the first number counts among the given messages. -/
def messageAt? (messages : List Message) : List Nat → Option Message
  | [] => none
  | n :: place => messages[n]?.bind fun m => m.at? place

mutual

/-- The places of a message and of those inside it, in pre-order. -/
def Message.places : Message → List (List Nat)
  | ⟨_, _, nested⟩ => [] :: placesFrom 0 nested

/-- The places of messages, numbered from `n` on, and of those inside them, in pre-order. -/
def placesFrom (n : Nat) : List Message → List (List Nat)
  | [] => []
  | m :: rest => m.places.map (n :: ·) ++ placesFrom (n + 1) rest

end

/-- A place below a message is the empty one or leads on into the nested messages. -/
theorem Message.at?_eq (m : Message) (place : List Nat) :
    m.at? place = if place = [] then some m else messageAt? m.nested place := by
  cases place with
  | nil => rfl
  | cons n place => rfl

mutual

/-- The places of a message are those at which there is one. -/
theorem Message.mem_places (m : Message) (place : List Nat) :
    place ∈ m.places ↔ (m.at? place).isSome := by
  match m with
  | ⟨name, fields, nested⟩ =>
    rw [Message.places, List.mem_cons, mem_placesFrom nested 0 place, Message.at?_eq]
    cases place with
    | nil => simp
    | cons k place => simp

/-- The places of messages are those at which there is one, counted from `n` on. -/
theorem mem_placesFrom (messages : List Message) (n : Nat) (place : List Nat) :
    place ∈ placesFrom n messages ↔
      ∃ k tail, place = (n + k) :: tail ∧ (messageAt? messages (k :: tail)).isSome := by
  match messages with
  | [] => simp [placesFrom, messageAt?]
  | m :: rest =>
    rw [placesFrom, List.mem_append, List.mem_map, mem_placesFrom rest (n + 1) place]
    constructor
    · rintro (⟨tail, htail, rfl⟩ | ⟨k, tail, rfl, hsome⟩)
      · exact ⟨0, tail, rfl, (Message.mem_places m tail).mp htail⟩
      · exact ⟨k + 1, tail, by rw [Nat.add_right_comm, Nat.add_assoc], hsome⟩
    · rintro ⟨k, tail, rfl, hsome⟩
      cases k with
      | zero => exact Or.inl ⟨tail, (Message.mem_places m tail).mpr hsome, rfl⟩
      | succ k => exact Or.inr ⟨k, tail, by rw [Nat.add_right_comm, Nat.add_assoc], hsome⟩

end

mutual

/-- The places of a message ascend. -/
theorem Message.pairwise_places (m : Message) : m.places.Pairwise (· < ·) := by
  match m with
  | ⟨name, fields, nested⟩ =>
    refine List.pairwise_cons.mpr ⟨?_, pairwise_placesFrom nested 0⟩
    -- What is inside a message has a longer place, so it comes later.
    intro place hplace
    obtain ⟨k, tail, rfl, -⟩ := (mem_placesFrom nested 0 place).mp hplace
    exact List.nil_lt_cons _ _

/-- **The places of messages in pre-order ascend.** -/
theorem pairwise_placesFrom (messages : List Message) (n : Nat) :
    (placesFrom n messages).Pairwise (· < ·) := by
  match messages with
  | [] => exact List.Pairwise.nil
  | m :: rest =>
    refine List.pairwise_append.mpr ⟨?_, pairwise_placesFrom rest (n + 1), ?_⟩
    · refine List.pairwise_map.mpr ((Message.pairwise_places m).imp ?_)
      intro a b hab
      exact List.cons_lt_cons_iff.mpr (Or.inr ⟨rfl, hab⟩)
    · -- The first number decides between a message and those beside it.
      intro a ha b hb
      obtain ⟨tail, -, rfl⟩ := List.mem_map.mp ha
      obtain ⟨k, tail', rfl, -⟩ := (mem_placesFrom rest (n + 1) b).mp hb
      exact List.cons_lt_cons_iff.mpr (Or.inl (by omega))

end

mutual

/-- The places of a message hold its pre-order. -/
theorem Message.map_at?_places (m : Message) : m.places.map m.at? = m.preorder.map some := by
  match m with
  | ⟨name, fields, nested⟩ =>
    have hinside : (placesFrom 0 nested).map (Message.mk name fields nested).at? =
        (placesFrom 0 nested).map (messageAt? nested) := by
      refine List.map_congr_left fun place hplace => ?_
      obtain ⟨k, tail, rfl, -⟩ := (mem_placesFrom nested 0 place).mp hplace
      rfl
    rw [Message.places, Message.preorder, List.map_cons, List.map_cons, hinside]
    exact congrArg _ (map_messageAt?_placesFrom nested [])

/-- **The places of messages hold their pre-orders**, where `before` are the messages in front. -/
theorem map_messageAt?_placesFrom (messages before : List Message) :
    (placesFrom before.length messages).map (messageAt? (before ++ messages)) =
      (preorderAll messages).map some := by
  match messages with
  | [] => rfl
  | m :: rest =>
    have hfirst : m.places.map (fun place => messageAt? (before ++ m :: rest)
        (before.length :: place)) = m.preorder.map some := by
      rw [← Message.map_at?_places m]
      refine List.map_congr_left fun place _ => ?_
      rw [messageAt?, List.getElem?_append_right (Nat.le_refl _), Nat.sub_self]
      rfl
    have hrest := map_messageAt?_placesFrom rest (before ++ [m])
    rw [List.length_append, List.length_singleton, List.append_assoc, List.singleton_append]
      at hrest
    rw [placesFrom, preorderAll, List.map_append, List.map_append, List.map_map, hrest]
    exact congrArg (· ++ _) hfirst

end

/-! ### Files -/

/-- **A walk over a file** ends after it has visited the messages in pre-order. That is the order of
their places, and each place of a message is visited once. The references of the file are those of
the fields of these messages, in this order, and then the input and the output of each method. -/
theorem File.visits_in_preorder (file : File) :
    (∀ visited, ((Walk.mk []).pushAll file.messages).Visits visited ↔
      visited = preorderAll file.messages) ∧
    file.allMessages = preorderAll file.messages ∧
    (∃ places : List (List Nat), places.Pairwise (· < ·) ∧
      (∀ place, place ∈ places ↔ (messageAt? file.messages place).isSome) ∧
      file.allMessages.map some = places.map (messageAt? file.messages)) ∧
    file.typeRefs =
      (file.allMessages.flatMap fun m => m.fields.filterMap fun field => field.type.typeRef?) ++
      file.services.flatMap fun service =>
        service.methods.flatMap fun method => [method.input, method.output] := by
  refine ⟨?_, file.allMessages_eq, ⟨placesFrom 0 file.messages, ?_, ?_, ?_⟩, ?_⟩
  · intro visited
    rw [Walk.visits_iff, Walk.pending_pushAll, List.append_nil]
  · exact pairwise_placesFrom file.messages 0
  · intro place
    rw [mem_placesFrom]
    constructor
    · rintro ⟨k, tail, rfl, hsome⟩
      rwa [Nat.zero_add]
    · intro hsome
      cases place with
      | nil => cases hsome
      | cons k tail => exact ⟨k, tail, by rw [Nat.zero_add], hsome⟩
  · rw [file.allMessages_eq]
    exact (map_messageAt?_placesFrom file.messages []).symm
  · rw [File.typeRefs_eq, fieldRefs, file.allMessages_eq, List.filterMap_flatMap]
    rfl

end ServiceBus.Schema
