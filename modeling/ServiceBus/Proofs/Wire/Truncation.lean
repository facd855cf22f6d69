import Mathlib.Data.List.Basic
import ServiceBus.Proofs.Wire.Fields

/-! # Bytes that are cut off

A reader that has read what it needs reads the same where more bytes follow. So what it reads to the
end it does not read of less: a field that is cut off anywhere is no field.

* `Reader.Settles`: readers that are not changed by what follows; numbers, keys, runs of bytes and the
  fields made of them are read by such.
* `Layout.readField_cut`: a field that is cut off is refused. -/

namespace ServiceBus.Wire

variable {α β : Type} {tag depth : Nat} {bytes more rest : Bytes} {value a : α}

namespace Reader

/-- **A reader that reads the same where more bytes follow**, and leaves these. -/
def Settles (read : Reader α) : Prop :=
  ∀ bytes more a rest, read bytes = .ok (a, rest) → read (bytes ++ more) = .ok (a, rest ++ more)

namespace Settles

/-- A reader that reads nothing. -/
theorem pure (a : α) : (Pure.pure a : Reader α).Settles := by
  intro bytes more b rest h
  cases h
  rfl

/-- A reader that stops with an error. -/
theorem fail (cause : DecodeCause) : (Reader.fail cause : Reader α).Settles := by
  intro bytes more b rest h
  cases h

/-- A reader that stops with an error, whatever would come next. -/
theorem fail_bind (cause : DecodeCause) (next : β → Reader α) :
    (Reader.fail cause >>= next).Settles := by
  intro bytes more b rest h
  cases h

/-- One reader after another. -/
theorem bind {read : Reader α} {next : α → Reader β} (h : read.Settles)
    (hnext : ∀ a, (next a).Settles) : (read >>= next).Settles := by
  intro bytes more b rest hb
  rw [bind_apply] at hb ⊢
  cases hread : read bytes with
  | error e =>
    rw [hread] at hb
    cases hb
  | ok r =>
    rw [hread] at hb
    rw [h bytes more r.1 r.2 hread]
    exact hnext r.1 r.2 more b rest hb

/-- A run of bytes. -/
theorem take (n : Nat) : (Reader.take n).Settles := by
  intro bytes more b rest h
  by_cases hlen : bytes.length < n
  · simp only [Reader.take, bind_apply, get_apply, Except.bind, if_pos hlen] at h
    cases h
  · have hmore : ¬ (bytes ++ more).length < n := by
      rw [List.length_append]
      omega
    simp only [Reader.take, bind_apply, get_apply, Except.bind, if_neg hlen, set_apply,
      pure_apply] at h
    cases h
    simp only [Reader.take, bind_apply, get_apply, Except.bind, if_neg hmore, set_apply, pure_apply]
    rw [List.take_append_of_le_length (by omega), List.drop_append_of_le_length (by omega)]

end Settles

end Reader

/-! ### Numbers and keys -/

/-- Bytes behind a number are left. -/
theorem varintFrom_append {left shift n : Nat} (h : varintFrom left shift bytes = some (n, rest))
    (more : Bytes) : varintFrom left shift (bytes ++ more) = some (n, rest ++ more) := by
  induction bytes generalizing left shift n with
  | nil =>
    rw [varintFrom] at h
    cases h
  | cons b bytes ih =>
    cases left with
    | zero => cases h
    | succ left =>
      rw [varintFrom] at h
      rw [List.cons_append, varintFrom]
      split at h
      · rename_i hlast
        rw [if_pos hlast]
        split at h
        · cases h
        · rename_i hfits
          cases h
          rw [if_neg hfits]
      · rename_i hgoes
        rw [if_neg hgoes]
        obtain ⟨⟨m, rest'⟩, hm, hn⟩ := Option.map_eq_some_iff.mp h
        cases hn
        rw [ih hm]
        rfl

/-- A number is read alike where more bytes follow. -/
theorem settles_readVarint : readVarint.Settles := by
  intro bytes more n rest h
  rw [readVarint] at h ⊢
  cases hfrom : varintFrom 10 0 bytes with
  | none =>
    rw [hfrom] at h
    cases h
  | some r =>
    rw [hfrom] at h
    cases h
    rw [varintFrom_append hfrom more]

/-- A key is read alike where more bytes follow. -/
theorem settles_readKey : readKey.Settles := by
  refine settles_readVarint.bind fun key => ?_
  dsimp only
  split
  · exact .fail_bind _ _
  · split
    · split
      · exact .fail_bind _ _
      · exact .pure _
    · exact .fail _

/-! ### Fields -/

namespace FieldReader

/-- Wire types are compared without reading. -/
theorem settles_expect (expected actual : WireType) : (expect expected actual).Settles := by
  rw [expect]
  split
  · exact .fail _
  · exact .pure _

/-- A number field is read alike where more bytes follow. -/
theorem settles_number (store : Nat → α → α) (depth : Nat) (wireType : WireType) (value : α) :
    (number store depth wireType value).Settles :=
  (settles_expect _ _).bind fun _ => settles_readVarint.bind fun _ => .pure _

/-- A text field is read alike where more bytes follow. -/
theorem settles_text (store : String → α → α) (depth : Nat) (wireType : WireType) (value : α) :
    (text store depth wireType value).Settles := by
  refine (settles_expect _ _).bind fun _ => settles_readVarint.bind fun length =>
    (Reader.Settles.take length).bind fun bytes => ?_
  split
  · exact .pure _
  · exact .fail _

end FieldReader

namespace Layout

variable {layout : Layout α} {rule : FieldRule α} {wireType : WireType} {payload : Bytes}

/-- **A field that is cut off is refused** if nothing is left of the whole field where it is read. -/
theorem readField_cut
    (hrule : layout.fields.find? (fun rule => rule.tag == tag) = some rule)
    (hpos : 0 < tag) (hlt : tag < 2 ^ 29) (hsettles : (rule.read depth wireType value).Settles)
    (hall : ∀ a rest, rule.read depth wireType value payload = .ok (a, rest) → rest = [])
    (hcut : bytes ++ more = fieldKey tag wireType ++ payload) (hmore : more ≠ []) :
    ∃ e, layout.readField depth value bytes = .error e := by
  cases hread : layout.readField depth value bytes with
  | error e => exact ⟨e, rfl⟩
  | ok r =>
    exfalso
    rw [readField, Reader.bind_apply] at hread
    cases hkey : readKey bytes with
    | error e =>
      rw [hkey] at hread
      cases hread
    | ok k =>
      obtain ⟨⟨tag', wireType'⟩, left⟩ := k
      rw [hkey] at hread
      -- the key that was read is the key of the whole field
      have hwhole := settles_readKey bytes more _ left hkey
      rw [hcut, readKey_fieldKey wireType payload hpos hlt] at hwhole
      cases hwhole
      simp only [Except.bind, hrule] at hread
      obtain ⟨a, rest⟩ := r
      rw [Reader.inField] at hread
      cases hpayload : rule.read depth wireType value left with
      | error e =>
        rw [hpayload] at hread
        cases hread
      | ok q =>
        have hend := hall _ _ (hsettles left more _ _ hpayload)
        exact hmore (List.append_eq_nil_iff.mp hend).2

end Layout

end ServiceBus.Wire
