import Mathlib.Algebra.Group.Nat.Defs
import ServiceBus.Wire.Message

/-! # Reading what was written

A field that was written is read back, and what stands behind it is left for the next. This holds as
long as its length can be told: a run of `2 ^ 64` bytes or more has a length that no varint tells, and
then reading fails.

* `varintFrom_varint`, `readVarint_varint`: numbers.
* `readKey_fieldKey`: keys of fields.
* `Layout.readField_text`: text fields.
* `Layout.readUntil_textField`: a message that begins with a text field. -/

namespace ServiceBus.Wire

variable {n left shift tag depth : Nat} {bytes rest : Bytes}

/-! ### Readers -/

namespace Reader

variable {α β : Type}

/-- A reader that returns reads nothing. -/
theorem pure_apply (a : α) (input : Bytes) : (pure a : Reader α) input = .ok (a, input) := rfl

/-- A reader goes on where the one before it stopped. -/
theorem bind_apply (x : Reader α) (f : α → Reader β) (input : Bytes) :
    (x >>= f) input = (x input).bind fun r => f r.1 r.2 := rfl

/-- What is left of the input. -/
theorem get_apply (input : Bytes) : (get : Reader Bytes) input = .ok (input, input) := rfl

/-- A reader that moves on in the input. -/
theorem set_apply (bytes input : Bytes) : (set bytes : Reader PUnit) input = .ok (⟨⟩, bytes) := rfl

end Reader

/-! ### Numbers -/

/-- The last byte of a number. If it is the tenth it holds a single bit. -/
theorem varintFrom_last (h : n < 128) : varintFrom (left + 1) shift (UInt8.ofNat n :: rest) =
    if left = 0 ∧ 2 ≤ n then none else some (n <<< shift, rest) := by
  have hbyte : (UInt8.ofNat n).toNat = n := Nat.mod_eq_of_lt (by omega)
  rw [varintFrom, hbyte, if_pos h]

/-- A byte of a number that is not the last. -/
theorem varintFrom_more (h : n < 128) : varintFrom (left + 1) shift (UInt8.ofNat (n + 128) :: rest) =
    (varintFrom left (shift + 7) rest).map fun (m, rest') => (n <<< shift + m, rest') := by
  have hbyte : (UInt8.ofNat (n + 128)).toNat = n + 128 := Nat.mod_eq_of_lt (by omega)
  rw [varintFrom, hbyte, if_neg (by omega), Nat.add_sub_cancel]

/-- Where no byte may follow there is no number. -/
theorem varintFrom_zero (shift : Nat) (bytes : Bytes) : varintFrom 0 shift bytes = none := by
  cases bytes <;> rfl

/-- **A number is read back** if it fits into the bytes that may still follow, and not at all
otherwise. -/
theorem varintFrom_varint (left shift n : Nat) (rest : Bytes) :
    varintFrom (left + 1) shift (varint n ++ rest) =
      if n < 2 ^ (7 * left + 1) then some (n <<< shift, rest) else none := by
  have hlow (n : Nat) : n % 128 < 128 := Nat.mod_lt n (by decide)
  -- each byte but the last takes seven bits off the number and one off the bytes that may follow
  induction left generalizing shift n with
  | zero =>
    rw [varint]
    split
    · rename_i hlt
      rw [List.singleton_append, varintFrom_last hlt]
      by_cases h : n < 2
      · rw [if_neg (by omega), if_pos (by omega)]
      · rw [if_pos (by omega), if_neg (by omega)]
    · rw [List.cons_append, varintFrom_more (hlow n), varintFrom_zero, if_neg (by omega)]
      rfl
  | succ left ih =>
    have hpow : 2 ^ (7 * (left + 1) + 1) = 2 ^ (7 * left + 1) * 128 := by
      rw [show 7 * (left + 1) + 1 = 7 * left + 1 + 7 from by omega, Nat.pow_add]
    have hpos : 0 < 2 ^ (7 * left + 1) := Nat.two_pow_pos _
    rw [varint]
    split
    · rename_i hlt
      rw [List.singleton_append, varintFrom_last hlt, if_neg (by omega), if_pos (by omega)]
    · rw [List.cons_append, varintFrom_more (hlow n), ih]
      by_cases h : n < 2 ^ (7 * (left + 1) + 1)
      · have hvalue : (n % 128) <<< shift + (n / 128) <<< (shift + 7) = n <<< shift := by
          rw [Nat.shiftLeft_eq, Nat.shiftLeft_eq, Nat.shiftLeft_eq, Nat.add_comm shift, Nat.pow_add,
            ← Nat.mul_assoc, ← Nat.add_mul, Nat.mul_comm _ (2 ^ 7), Nat.mod_add_div]
        rw [if_pos h, if_pos (by omega)]
        exact congrArg (fun m => some (m, rest)) hvalue
      · rw [if_neg h, if_neg (by omega)]
        rfl

/-- **A number of at most 64 bits is read back**, and no other. -/
theorem readVarint_varint (n : Nat) (rest : Bytes) :
    readVarint (varint n ++ rest) =
      if n < 2 ^ 64 then .ok (n, rest) else .error { cause := .invalidVarint } := by
  rw [readVarint, varintFrom_varint 9 0 n rest, Nat.shiftLeft_zero]
  by_cases h : n < 2 ^ 64
  · rw [if_pos h, if_pos h]
  · rw [if_neg h, if_neg h]

/-! ### Fields -/

/-- The wire type of a number is the one that has it. -/
theorem WireType.ofCode?_code (wireType : WireType) : ofCode? wireType.code = some wireType := by
  cases wireType <;> rfl

/-- **The key of a field is read back** if its tag is one that fields have. -/
theorem readKey_fieldKey (wireType : WireType) (rest : Bytes) (hpos : 0 < tag) (hlt : tag < 2 ^ 29) :
    readKey (fieldKey tag wireType ++ rest) = .ok ((tag, wireType), rest) := by
  have hcode : wireType.code < 8 := by cases wireType <;> decide
  have hdiv : (tag * 8 + wireType.code) / 8 = tag := by omega
  have hmod : (tag * 8 + wireType.code) % 8 = wireType.code := by omega
  have hread : readVarint (fieldKey tag wireType ++ rest) = .ok (tag * 8 + wireType.code, rest) := by
    rw [fieldKey, readVarint_varint, if_pos (by omega)]
  have hsize : ¬ UInt32.size ≤ tag * 8 + wireType.code := by
    rw [show UInt32.size = 2 ^ 32 from rfl]
    omega
  simp only [readKey, Reader.bind_apply, hread, Except.bind, hdiv, hmod, WireType.ofCode?_code,
    if_neg hsize, if_neg (Nat.ne_of_gt hpos), Reader.pure_apply]

/-- A run of bytes is taken off what was written. -/
theorem take_append (bytes rest : Bytes) :
    Reader.take bytes.length (bytes ++ rest) = .ok (bytes, rest) := by
  have hlen : ¬ (bytes ++ rest).length < bytes.length := by
    rw [List.length_append]
    omega
  simp only [Reader.take, Reader.bind_apply, Reader.get_apply, Except.bind, if_neg hlen,
    Reader.set_apply, Reader.pure_apply, List.take_left, List.drop_left]

section Fields

variable {α : Type} {layout : Layout α} {rule : FieldRule α} {store : String → α → α} {value : α}
  {r : α × Bytes} {s : String}

/-- A field may have the wire type that is expected. -/
theorem FieldReader.expect_self (wireType : WireType) (input : Bytes) :
    expect wireType wireType input = .ok ((), input) := by
  rw [expect, if_neg (not_not_intro rfl)]
  rfl

/-- **The bytes of a text are read back** if their length can be told. -/
theorem FieldReader.text_delimited (store : String → α → α) (depth : Nat) (value : α) (s : String)
    (rest : Bytes) : text store depth .lengthDelimited value (delimited (Text.utf8 s) ++ rest) =
      if (Text.utf8 s).length < 2 ^ 64 then .ok (store s value, rest)
      else .error { cause := .invalidVarint } := by
  have hread := readVarint_varint (Text.utf8 s).length (Text.utf8 s ++ rest)
  rw [delimited, List.append_assoc]
  by_cases h : (Text.utf8 s).length < 2 ^ 64
  · rw [if_pos h] at hread ⊢
    simp only [text, Reader.bind_apply, expect_self, hread, Except.bind, take_append,
      Text.ofUtf8?_utf8, Reader.pure_apply]
  · rw [if_neg h] at hread ⊢
    simp only [text, Reader.bind_apply, expect_self, hread, Except.bind]

/-- **The bytes of a number are read back** if they are those of one of at most 64 bits. -/
theorem FieldReader.number_varint (store : Nat → α → α) (depth : Nat) (value : α) (n : Nat)
    (rest : Bytes) : number store depth .varint value (varint n ++ rest) =
      if n < 2 ^ 64 then .ok (store n value, rest) else .error { cause := .invalidVarint } := by
  have hread := readVarint_varint n rest
  by_cases h : n < 2 ^ 64
  · rw [if_pos h] at hread ⊢
    simp only [number, Reader.bind_apply, expect_self, hread, Except.bind, Reader.pure_apply]
  · rw [if_neg h] at hread ⊢
    simp only [number, Reader.bind_apply, expect_self, hread, Except.bind]

namespace Layout

/-- A field that is known is read by its rule. -/
theorem readField_fieldKey (hrule : layout.fields.find? (fun rule => rule.tag == tag) = some rule)
    (hpos : 0 < tag) (hlt : tag < 2 ^ 29) (wireType : WireType) (depth : Nat) (value : α)
    (rest : Bytes) : layout.readField depth value (fieldKey tag wireType ++ rest) =
      Reader.inField ⟨layout.name, rule.name⟩ (rule.read depth wireType value) rest := by
  simp only [readField, Reader.bind_apply, readKey_fieldKey wireType rest hpos hlt, Except.bind,
    hrule]

/-- **A text field is read back** if its length can be told. -/
theorem readField_text
    (hrule : layout.fields.find? (fun rule => rule.tag == tag) = some ⟨tag, s, .text store⟩)
    (hpos : 0 < tag) (hlt : tag < 2 ^ 29) (depth : Nat) (value : α) (text : String) (rest : Bytes) :
    layout.readField depth value
        (fieldKey tag .lengthDelimited ++ (delimited (Text.utf8 text) ++ rest)) =
      if (Text.utf8 text).length < 2 ^ 64 then .ok (store text value, rest)
      else .error { path := [⟨layout.name, s⟩], cause := .invalidVarint } := by
  rw [readField_fieldKey hrule hpos hlt, Reader.inField]
  dsimp only
  rw [FieldReader.text_delimited]
  by_cases h : (Text.utf8 text).length < 2 ^ 64
  · rw [if_pos h, if_pos h]
  · rw [if_neg h, if_neg h]
    rfl

/-- At the end of the input a message is read. -/
theorem readUntil_nil (read : α → Reader α) (n : Nat) (value : α) :
    readUntil read 0 n value [] = .ok (value, []) := by
  cases n <;> rfl

/-- A message goes on behind a field. -/
theorem readUntil_cons {read : α → Reader α} (value : α) (h : bytes ≠ []) :
    readUntil read 0 (n + 1) value bytes =
      (read value bytes).bind fun (value, rest) => readUntil read 0 n value rest := by
  have hlen : ¬ bytes.length ≤ 0 := fun hle => h (List.eq_nil_of_length_eq_zero (by omega))
  simp only [readUntil, Reader.bind_apply, Reader.get_apply, Except.bind, if_neg hlen]

/-- **A message that begins with a text field** is read as far as the field, and then on. A text that is
empty has no field. -/
theorem readUntil_textField (tag : Nat)
    (hrule : layout.fields.find? (fun rule => rule.tag == tag) = some ⟨tag, s, .text store⟩)
    (hpos : 0 < tag) (hlt : tag < 2 ^ 29) {text : String} (hn : (textField tag text ++ rest).length < n)
    (h : readUntil (layout.readField depth) 0 n value (textField tag text ++ rest) = .ok r) :
    ∃ m, rest.length < m ∧
      readUntil (layout.readField depth) 0 m (if text = "" then value else store text value) rest =
        .ok r := by
  by_cases hempty : text = ""
  · rw [if_pos hempty]
    rw [textField, if_pos (String.isEmpty_iff.mpr hempty), List.nil_append] at hn h
    exact ⟨n, hn, h⟩
  · rw [if_neg hempty]
    rw [textField, if_neg fun he => hempty (String.isEmpty_iff.mp he), List.append_assoc] at hn h
    have hkey : 0 < (fieldKey tag .lengthDelimited).length := by
      rw [fieldKey, varint]
      split <;> exact Nat.zero_lt_succ _
    rw [List.length_append, List.length_append] at hn
    obtain ⟨m, rfl⟩ : ∃ m, n = m + 1 := ⟨n - 1, by omega⟩
    refine ⟨m, by omega, ?_⟩
    rw [readUntil_cons value (List.append_ne_nil_of_left_ne_nil (List.ne_nil_of_length_pos hkey) _),
      readField_text hrule hpos hlt] at h
    split at h
    · exact h
    · cases h

/-- What a message is that is read from the whole input. -/
theorem read_eq_ok {a : α} (h : layout.read value bytes = .ok a) :
    ∃ rest, readUntil (layout.readField nestingLimit) 0 (bytes.length + 1) value bytes =
      .ok (a, rest) := by
  rw [read] at h
  generalize readUntil (layout.readField nestingLimit) 0 (bytes.length + 1) value bytes = result at h
  cases result with
  | error e => cases h
  | ok r =>
    cases h
    exact ⟨r.2, rfl⟩

end Layout

end Fields

end ServiceBus.Wire
