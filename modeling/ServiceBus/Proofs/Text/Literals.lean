import Mathlib.Data.List.Induction
import ServiceBus.Text.Digits
import ServiceBus.Text.Quoted

/-! # What literals stand for

A literal is read from left to right: an escape stands for one character, and every other character
stands for itself. A quote or a line break ends the reading, so inside a literal there is none.

* `Escape`, `Denotes`: the escapes, and what the inside of a literal stands for.
* `unescape?`: reads the inside of a literal; `unescape?_eq_some_iff` says what it accepts.
* `isLiteral_quoted`: the written form of a text is a literal of this text. -/

namespace ServiceBus.Text

variable {c d : Char} {cs digits body text : List Char}

/-! ### Escapes -/

/-- The character that a backslash and another character stand for. -/
def shortEscape? (c : Char) : Option Char :=
  [('0', '\x00'), ('t', '\t'), ('r', '\r'), ('n', '\n'), ('\\', '\\'), ('"', '"'),
    ('\'', '\'')].lookup c

/-- The character of a code point that one to six hexadecimal digits tell. -/
def longEscape? (digits : List Char) : Option Char := do
  guard (0 < digits.length ∧ digits.length ≤ 6)
  let n ← hexadecimal? digits
  if n.isValidChar then some (Char.ofNat n) else none

/-- **An escape** and the character that it stands for. -/
inductive Escape : List Char → Char → Prop where
  | short {c d : Char} (h : shortEscape? c = some d) : Escape ['\\', c] d
  | long {digits : List Char} {d : Char} (h : longEscape? digits = some d) :
      Escape ('\\' :: 'u' :: '\x7b' :: (digits ++ ['\x7d'])) d

/-- **What the inside of a literal stands for**: it consists of escapes and of characters that stand
for themselves, which are no quote, no backslash and no line break. -/
inductive Denotes : List Char → List Char → Prop where
  | nil : Denotes [] []
  | escape {written body text : List Char} {c : Char} (h : Escape written c)
      (rest : Denotes body text) : Denotes (written ++ body) (c :: text)
  | plain {body text : List Char} {c : Char} (notSlash : c ≠ '\\') (notQuote : c ≠ '"')
      (notBreak : c ≠ '\n') (rest : Denotes body text) : Denotes (c :: body) (c :: text)

/-! ### Digits -/

/-- A number that is told by digits and one further digit. -/
theorem hexadecimal?_concat (digits : List Char) (c : Char) : hexadecimal? (digits ++ [c]) =
    (hexadecimal? digits).bind fun n => (hexDigit? c).map (16 * n + ·) := by
  rw [hexadecimal?, List.foldlM_append, hexadecimal?]
  simp

/-- What tells a number are digits. -/
theorem hexDigit?_of_mem {n : Nat} (h : hexadecimal? digits = some n) (hc : c ∈ digits) :
    ∃ k, hexDigit? c = some k := by
  induction digits using List.reverseRecOn generalizing n with
  | nil => exact absurd hc List.not_mem_nil
  | append_singleton digits e ih =>
    rw [hexadecimal?_concat] at h
    obtain ⟨m, hm, h⟩ := Option.bind_eq_some_iff.mp h
    obtain ⟨k, hk, -⟩ := Option.map_eq_some_iff.mp h
    rcases List.mem_append.mp hc with hc | hc
    · exact ih hm hc
    · rw [List.mem_singleton.mp hc]
      exact ⟨k, hk⟩

/-- A digit is written and read. -/
theorem hexDigit?_digitChar {k : Nat} (h : k < 16) : hexDigit? k.digitChar = some k := by
  have hall : ∀ k < 16, hexDigit? (Nat.digitChar k) = some k := by decide
  exact hall k h

/-- A number is written and read. -/
theorem hexadecimal?_toDigits (n : Nat) : hexadecimal? (Nat.toDigits 16 n) = some n := by
  induction n using Nat.strongRecOn with
  | ind n ih =>
    rcases Nat.lt_or_ge n 16 with hsmall | hlarge
    · rw [Nat.toDigits_of_lt_base hsmall, ← List.nil_append [n.digitChar], hexadecimal?_concat,
        hexDigit?_digitChar hsmall]
      simp [hexadecimal?]
    · have hlast : hexDigit? (n % 16).digitChar = some (n % 16) :=
        hexDigit?_digitChar (Nat.mod_lt n (by decide))
      rw [Nat.toDigits_of_base_le (by decide) hlarge, hexadecimal?_concat, hlast,
        ih (n / 16) (by omega)]
      simp [Nat.div_add_mod]

/-- The code point of a character is written and read. -/
theorem longEscape?_toDigits (c : Char) : longEscape? (Nat.toDigits 16 c.toNat) = some c := by
  have hbound : c.toNat < 16 ^ 6 := by
    rcases c.valid with h | ⟨-, h⟩
    · exact Nat.lt_trans h (by decide)
    · exact Nat.lt_trans h (by decide)
  have hmost : (Nat.toDigits 16 c.toNat).length ≤ 6 :=
    (Nat.length_toDigits_le_iff (by decide) (by decide)).mpr hbound
  have hsome : 0 < (Nat.toDigits 16 c.toNat).length :=
    List.length_pos_iff.mpr Nat.toDigits_ne_nil
  have hvalid : c.toNat.isValidChar := c.valid
  rw [longEscape?, guard, if_pos ⟨hsome, hmost⟩, hexadecimal?_toDigits]
  simp [hvalid]

/-- What tells a code point are digits. -/
theorem exists_hexDigit_of_mem (h : longEscape? digits = some d) (hc : c ∈ digits) :
    ∃ k, hexDigit? c = some k := by
  rw [longEscape?] at h
  obtain ⟨-, -, h⟩ := Option.bind_eq_some_iff.mp h
  obtain ⟨n, hn, -⟩ := Option.bind_eq_some_iff.mp h
  exact hexDigit?_of_mem hn hc

/-! ### Line breaks -/

/-- No character of an escape ends a line. -/
theorem Escape.newline_not_mem {written : List Char} (h : Escape written c) : '\n' ∉ written := by
  cases h with
  | @short c _ h =>
    have hnone : shortEscape? '\n' = none := by decide
    rintro hmem
    rcases List.mem_cons.mp hmem with hmem | hmem
    · exact absurd hmem (by decide)
    · rw [← List.mem_singleton.mp hmem, hnone] at h
      cases h
  | @long digits _ h =>
    have hnone : hexDigit? '\n' = none := by decide
    have hdigits : '\n' ∉ digits := by
      intro hmem
      obtain ⟨k, hk⟩ := exists_hexDigit_of_mem h hmem
      rw [hnone] at hk
      cases hk
    simp [hdigits]

/-- **The inside of a literal is one line.** -/
theorem Denotes.newline_not_mem (h : Denotes body text) : '\n' ∉ body := by
  induction h with
  | nil => exact List.not_mem_nil
  | escape h _ ih =>
    rw [List.mem_append, not_or]
    exact ⟨h.newline_not_mem, ih⟩
  | plain _ _ hbreak _ ih =>
    rw [List.mem_cons, not_or]
    exact ⟨hbreak.symm, ih⟩

/-! ### Reading -/

/-- How far the reading of a literal is. -/
inductive Reading where
  | outside
  /-- Behind a backslash. -/
  | slash
  /-- Behind a backslash and the letter in front of a code point. -/
  | mark
  /-- Behind these digits of a code point. -/
  | inside (digits : List Char)

/-- The characters of the escape that is being read. -/
def Reading.soFar : Reading → List Char
  | .outside => []
  | .slash => ['\\']
  | .mark => ['\\', 'u']
  | .inside digits => '\\' :: 'u' :: '\x7b' :: digits

/-- The text that the rest of the inside of a literal stands for. -/
def unescapeFrom : Reading → List Char → Option (List Char)
  | .outside, [] => some []
  | .slash, [] | .mark, [] | .inside _, [] => none
  | .outside, c :: cs =>
    if c = '\\' then unescapeFrom .slash cs
    else if c = '"' ∨ c = '\n' then none
    else (unescapeFrom .outside cs).map (c :: ·)
  | .slash, c :: cs =>
    if c = 'u' then unescapeFrom .mark cs
    else (shortEscape? c).bind fun d => (unescapeFrom .outside cs).map (d :: ·)
  | .mark, c :: cs => if c = '\x7b' then unescapeFrom (.inside []) cs else none
  | .inside digits, c :: cs =>
    if c = '\x7d' then (longEscape? digits).bind fun d => (unescapeFrom .outside cs).map (d :: ·)
    else unescapeFrom (.inside (digits ++ [c])) cs

/-- **The text that the inside of a literal stands for**, if it is one. -/
def unescape? (body : List Char) : Option (List Char) := unescapeFrom .outside body

/-- What is read is what the characters stand for. -/
theorem denotes_of_unescapeFrom {reading : Reading} (h : unescapeFrom reading cs = some text) :
    Denotes (reading.soFar ++ cs) text := by
  fun_induction unescapeFrom reading cs generalizing text with
  | case1 =>
    cases h
    exact .nil
  | case2 | case3 | case4 => cases h
  | case5 cs ih | case8 cs ih | case10 cs ih => exact ih h
  | case6 => cases h
  | case7 c cs hslash hother ih =>
    obtain ⟨rest, hrest, rfl⟩ := Option.map_eq_some_iff.mp h
    rw [not_or] at hother
    exact .plain hslash hother.1 hother.2 (ih hrest)
  | case9 c cs _ ih =>
    obtain ⟨d, hd, h⟩ := Option.bind_eq_some_iff.mp h
    obtain ⟨rest, hrest, rfl⟩ := Option.map_eq_some_iff.mp h
    have hescape := Denotes.escape (.short hd) (ih hrest)
    exact hescape
  | case11 => cases h
  | case12 digits cs ih =>
    obtain ⟨d, hd, h⟩ := Option.bind_eq_some_iff.mp h
    obtain ⟨rest, hrest, rfl⟩ := Option.map_eq_some_iff.mp h
    have hescape := Denotes.escape (.long hd) (ih hrest)
    simpa [Reading.soFar] using hescape
  | case13 digits c cs _ ih =>
    have hrest := ih h
    simpa [Reading.soFar] using hrest

/-- The digits of a code point are read up to the brace behind them. -/
theorem unescapeFrom_inside {before : List Char} (h : '\x7d' ∉ digits) :
    unescapeFrom (.inside before) (digits ++ '\x7d' :: cs) =
      (longEscape? (before ++ digits)).bind fun d => (unescapeFrom .outside cs).map (d :: ·) := by
  induction digits generalizing before with
  | nil => rw [List.nil_append, unescapeFrom, if_pos rfl, List.append_nil]
  | cons c digits ih =>
    rw [List.mem_cons, not_or] at h
    rw [List.cons_append, unescapeFrom, if_neg (Ne.symm h.1), ih h.2, List.append_assoc,
      List.singleton_append]

/-- An escape is read as the character that it stands for. -/
theorem Escape.unescapeFrom_append {written : List Char} (h : Escape written c) (cs : List Char) :
    unescapeFrom .outside (written ++ cs) = (unescapeFrom .outside cs).map (c :: ·) := by
  cases h with
  | @short e _ h =>
    have hmark : e ≠ 'u' := by
      have hnone : shortEscape? 'u' = none := by decide
      rintro rfl
      rw [hnone] at h
      cases h
    simp [unescapeFrom, hmark, h]
  | @long digits _ h =>
    have hbrace : '\x7d' ∉ digits := by
      intro hmem
      obtain ⟨k, hk⟩ := exists_hexDigit_of_mem h hmem
      exact absurd hk (by simp [hexDigit?])
    simp [unescapeFrom, unescapeFrom_inside hbrace, h]

/-- **What reading accepts** are the characters that stand for a text, and it gives this text. -/
theorem unescape?_eq_some_iff : unescape? body = some text ↔ Denotes body text := by
  constructor
  · exact denotes_of_unescapeFrom
  · intro h
    rw [unescape?]
    induction h with
    | nil => rfl
    | escape h _ ih => rw [h.unescapeFrom_append, ih, Option.map_some]
    | plain hslash hquote hbreak _ ih => simp [unescapeFrom, hslash, hquote, hbreak, ih]

/-! ### Written forms -/

/-- **A literal of a text**: it begins and ends with a quote. Between them is one line in which every
quote and every backslash belongs to an escape, and it is read as the text. -/
def IsLiteral (literal text : String) : Prop :=
  ∃ body, literal.toList = '"' :: (body ++ ['"']) ∧ '\n' ∉ body ∧ Denotes body text.toList ∧
    unescape? body = some text.toList

/-- The written form of a character stands for it. -/
theorem Denotes.escapeChar (c : Char) (h : Denotes body text) :
    Denotes (escapeChar '"' c ++ body) (c :: text) := by
  by_cases hnul : c = '\x00'
  · rw [hnul]
    exact .escape (.short (by decide)) h
  by_cases htab : c = '\t'
  · rw [htab]
    exact .escape (.short (by decide)) h
  by_cases hreturn : c = '\r'
  · rw [hreturn]
    exact .escape (.short (by decide)) h
  by_cases hbreak : c = '\n'
  · rw [hbreak]
    exact .escape (.short (by decide)) h
  by_cases hslash : c = '\\'
  · rw [hslash]
    exact .escape (.short (by decide)) h
  by_cases hquote : c = '"'
  · rw [hquote]
    exact .escape (.short (by decide)) h
  simp only [Text.escapeChar, beq_iff_eq, hnul, htab, hreturn, hbreak, hslash, hquote, if_false]
  split
  · have hlong := Denotes.escape (.long (longEscape?_toDigits c)) h
    simpa [codePointEscape] using hlong
  · exact .plain hslash hquote hbreak h

/-- **The written form of a text** is a literal of it. -/
theorem isLiteral_quoted (s : String) : IsLiteral (quoted s) s := by
  have hdenotes : Denotes (s.toList.flatMap (escapeChar '"')) s.toList := by
    induction s.toList with
    | nil => exact .nil
    | cons c cs ih =>
      rw [List.flatMap_cons]
      exact ih.escapeChar c
  refine ⟨_, ?_, hdenotes.newline_not_mem, hdenotes, unescape?_eq_some_iff.mpr hdenotes⟩
  rw [quoted, String.toList_ofList]
  rfl

end ServiceBus.Text
