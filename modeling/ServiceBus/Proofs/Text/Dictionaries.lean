import Mathlib.Data.String.Basic
import ServiceBus.Text.Dictionary

/-! # Laws of dictionaries

A dictionary that is put together by setting values has its keys in ascending order, each once.

* `Dictionary.get?_extend`: of the values that are set for a key the last one counts.
* `Dictionary.Ascending`: the keys ascend, each once.
* `Dictionary.ascending_extend`: setting values keeps them so. -/

namespace ServiceBus.Text.Dictionary

variable {d : Dictionary} {entries : List (String × String)} {e e' : String × String}
  {key value : String}

/-! ### Entries -/

/-- An entry of a dictionary in which a value was set. -/
theorem mem_insert (h : e ∈ d.insert key value) : e = (key, value) ∨ e ∈ d := by
  induction d with
  | nil => exact Or.inl (List.mem_singleton.mp h)
  | cons entry rest ih =>
    rw [Dictionary.insert] at h
    split at h
    · rcases List.mem_cons.mp h with rfl | h
      · exact Or.inl rfl
      · exact Or.inr (List.mem_cons_of_mem _ h)
    · split at h
      · rcases List.mem_cons.mp h with rfl | h
        · exact Or.inl rfl
        · exact Or.inr h
      · rcases List.mem_cons.mp h with rfl | h
        · exact Or.inr List.mem_cons_self
        · exact (ih h).imp_right (List.mem_cons_of_mem _)

/-- An entry of a dictionary that was extended. -/
theorem mem_extend (h : e ∈ d.extend entries) : e ∈ d ∨ e ∈ entries := by
  induction entries generalizing d with
  | nil => exact Or.inl h
  | cons entry entries ih =>
    rcases ih h with h | h
    · rcases mem_insert h with rfl | h
      · exact Or.inr List.mem_cons_self
      · exact Or.inl h
    · exact Or.inr (List.mem_cons_of_mem _ h)

/-! ### Values -/

/-- The value of a key among entries of which the first is set apart. -/
theorem get?_cons (k value : String) (rest : Dictionary) (key : String) :
    get? ((k, value) :: rest) key = if key = k then some value else rest.get? key := by
  rw [get?, List.lookup_cons]
  by_cases hkey : key = k
  · rw [if_pos hkey, beq_iff_eq.mpr hkey]
  · rw [if_neg hkey, beq_eq_false_iff_ne.mpr hkey]
    rfl

/-- The value of a key after a value was set. -/
theorem get?_insert (d : Dictionary) (k value key : String) :
    (d.insert k value).get? key = if key = k then some value else d.get? key := by
  induction d with
  | nil => rw [Dictionary.insert, get?_cons]
  | cons entry rest ih =>
    obtain ⟨k₀, v₀⟩ := entry
    rw [Dictionary.insert]
    split
    · rename_i hsame
      rw [get?_cons, get?_cons, ← hsame]
      split <;> rfl
    · rename_i hother
      split
      · rw [get?_cons]
      · rw [get?_cons, get?_cons, ih]
        -- The value goes in further back, and the entry in front has another key.
        split
        · rename_i hkey
          rw [if_neg]
          rintro rfl
          exact hother hkey
        · rfl

/-- **The value of a key after values were set** is the last one of them, or the old one if there is
none. -/
theorem get?_extend (d : Dictionary) (entries : List (String × String)) (key : String) :
    (d.extend entries).get? key = (get? entries.reverse key).or (d.get? key) := by
  induction entries generalizing d with
  | nil => rfl
  | cons entry entries ih =>
    obtain ⟨k, value⟩ := entry
    have hstep : d.extend ((k, value) :: entries) = (d.insert k value).extend entries := rfl
    -- The first entry is the last one to be asked: whatever is set for its key later on hides it.
    have hlast : get? (entries.reverse ++ [(k, value)]) key =
        (get? entries.reverse key).or (if key = k then some value else none) := by
      rw [get?, List.lookup_append]
      exact congrArg _ (get?_cons k value [] key)
    rw [hstep, ih, get?_insert, List.reverse_cons, hlast, Option.or_assoc]
    split <;> rfl

/-! ### Order -/

/-- The keys ascend, so each is there once. -/
def Ascending (d : Dictionary) : Prop := d.Pairwise (·.1 < ·.1)

/-- One entry ascends. -/
theorem ascending_singleton (e : String × String) : Ascending [e] := List.pairwise_singleton _ e

/-- A value that is set keeps the keys ascending. -/
theorem Ascending.insert (h : d.Ascending) (key value : String) :
    (d.insert key value).Ascending := by
  induction d with
  | nil => exact ascending_singleton _
  | cons entry rest ih =>
    obtain ⟨k, v⟩ := entry
    obtain ⟨hfirst, hrest⟩ := List.pairwise_cons.mp h
    unfold Dictionary.insert
    split
    · rename_i heq
      subst heq
      exact List.pairwise_cons.mpr ⟨hfirst, hrest⟩
    split
    · rename_i hlt
      -- The new key is below the first one, so it is below all of them.
      refine List.pairwise_cons.mpr ⟨?_, h⟩
      intro e he
      rcases List.mem_cons.mp he with rfl | he
      · exact hlt
      · exact lt_trans hlt (hfirst e he)
    · rename_i hne hlt
      have hgt : k < key := lt_of_le_of_ne (not_lt.mp hlt) (Ne.symm hne)
      refine List.pairwise_cons.mpr ⟨?_, ih hrest⟩
      intro e he
      rcases mem_insert he with rfl | he
      · exact hgt
      · exact hfirst e he

/-- **Values that are set one after the other** keep the keys ascending. -/
theorem ascending_extend (h : d.Ascending) (entries : List (String × String)) :
    (d.extend entries).Ascending := by
  induction entries generalizing d with
  | nil => exact h
  | cons entry entries ih => exact ih (h.insert entry.1 entry.2)

/-- Two entries of one key are the same. -/
theorem Ascending.unique (h : d.Ascending) (he : e ∈ d) (he' : e' ∈ d) (hkey : e.1 = e'.1) :
    e = e' := by
  induction d with
  | nil => simp at he
  | cons entry rest ih =>
    obtain ⟨hfirst, hrest⟩ := List.pairwise_cons.mp h
    rcases List.mem_cons.mp he with rfl | hin
    · rcases List.mem_cons.mp he' with rfl | hin'
      · rfl
      · exact absurd hkey (ne_of_lt (hfirst e' hin'))
    · rcases List.mem_cons.mp he' with rfl | hin'
      · exact absurd hkey (ne_of_gt (hfirst e hin))
      · exact ih hrest hin hin'

/-- A key that has a value has an entry. -/
theorem mem_of_get? (h : d.get? key = some value) : (key, value) ∈ d := by
  unfold get? at h
  obtain ⟨before, after, rfl, -⟩ := List.lookup_eq_some_iff.mp h
  simp

/-- A key that has no value has no entry. -/
theorem ne_of_get?_eq_none (h : d.get? key = none) (he : e ∈ d) : e.1 ≠ key := by
  unfold get? at h
  have hne := List.lookup_eq_none_iff.mp h e he
  intro heq
  simp [heq] at hne

end ServiceBus.Text.Dictionary
