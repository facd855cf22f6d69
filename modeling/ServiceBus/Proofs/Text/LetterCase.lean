import ServiceBus.Proofs.Name.Words

/-! # Letter case of ASCII texts

The lower-case form of an ASCII text is made letter by letter, and case does not touch the marks
between words. So what a name has besides its marks is the same in all of its forms.

* `IsAscii`, `SameButCase`: the texts, and when two of them differ in the case of letters at most.
* `toList_lowercase`: the lower-case form of an ASCII text.
* `letters`: the characters of a name without the marks between its words, in lower case.
* `flatten_words`, `map_toLower_camel`: the letters of a name are all that its words and its
  camel-case form keep of it. -/

namespace ServiceBus

namespace Text

variable {s t : String} {c : Char} {cs ds : List Char}

/-- All characters are ASCII characters. -/
def IsAscii (s : String) : Prop := ∀ c ∈ s.toList, c.toNat < 0x80

/-- The texts are the same up to the case of their ASCII letters. -/
def SameButCase (s t : String) : Prop := s.toList.map Char.toLower = t.toList.map Char.toLower

instance : Decidable (IsAscii s) := List.decidableBAll _ _

instance : Decidable (SameButCase s t) := inferInstanceAs (Decidable (_ = _))

/-- A character in lower case stays as it is. -/
theorem toLower_toLower (hc : c.toNat < 0x80) : c.toLower.toLower = c.toLower :=
  Name.forall_ascii (fun c => c.toLower.toLower = c.toLower) (by decide) c hc

/-- An ASCII character stays one in lower case. -/
theorem toNat_toLower_lt (hc : c.toNat < 0x80) : c.toLower.toNat < 0x80 :=
  Name.forall_ascii (fun c => c.toLower.toNat < 0x80) (by decide) c hc

/-- The lower-case form of ASCII characters does not depend on what is in front of them: the only
letter whose form does is not among them. -/
theorem lowercaseAfter_of_ascii (before : List Char) (h : ∀ c ∈ cs, c.toNat < 0x80) :
    lowercaseAfter before cs = cs.map Char.toLower := by
  induction cs generalizing before with
  | nil => rfl
  | cons c cs ih =>
    have hc := h c List.mem_cons_self
    have hsigma : (c == 'Σ') = false := by
      rw [beq_eq_false_iff_ne]
      rintro rfl
      exact absurd hc (by decide)
    have hlower : toLower c = [c.toLower] := if_pos hc
    have hrest := ih (c :: before) fun d hd => h d (List.mem_cons_of_mem c hd)
    simp only [lowercaseAfter, hsigma, hlower, hrest, Bool.false_eq_true, if_false,
      List.singleton_append, List.map_cons]

/-- What is passed over when a word's end is looked for ends at a character that is not. -/
theorem meetsCased_append (h : isCaseIgnorable c = false) :
    meetsCased (cs ++ c :: ds) = meetsCased (cs ++ [c]) := by
  have hstop (rest : List Char) : (c :: rest).dropWhile isCaseIgnorable = c :: rest :=
    List.dropWhile_cons_of_neg (by rw [h]; exact Bool.false_ne_true)
  induction cs with
  | nil => rw [List.nil_append, List.nil_append, meetsCased, meetsCased, hstop, hstop]
  | cons d cs ih =>
    cases hd : isCaseIgnorable d with
    | true => simpa [meetsCased, hd] using ih
    | false => simp [meetsCased, hd]

/-- **What comes behind does not change the front**: beyond a character at which every search for a
word's end stops, the lower-case form of what is in front has been settled. -/
theorem exists_lowercaseAfter_append (h : isCaseIgnorable c = false) (before cs : List Char) :
    ∃ front, ∀ ds, lowercaseAfter before (cs ++ c :: ds) =
      front ++ lowercaseAfter (cs.reverse ++ before) (c :: ds) := by
  induction cs generalizing before with
  | nil => exact ⟨[], fun ds => rfl⟩
  | cons d cs ih =>
    obtain ⟨front, hfront⟩ := ih (d :: before)
    refine ⟨(if d == 'Σ' then
      if meetsCased before && !meetsCased (cs ++ [c]) then ['ς'] else ['σ'] else toLower d) ++ front,
      fun ds => ?_⟩
    rw [List.cons_append, lowercaseAfter, hfront, meetsCased_append h, List.reverse_cons,
      List.append_assoc, List.append_assoc]
    rfl

/-- The lower-case form of an ASCII text. -/
theorem toList_lowercase (h : IsAscii s) : (lowercase s).toList = s.toList.map Char.toLower := by
  rw [lowercase, String.toList_ofList]
  exact lowercaseAfter_of_ascii [] h

end Text

namespace Name

open Text (IsAscii)

variable {name : String} {c : Char} {cs : List Char}

/-- The letters of a name: what it has besides the marks between its words, in lower case. -/
def letters (name : String) : List Char :=
  (name.toList.filter (!isSeparator ·)).map Char.toLower

/-! ### Words -/

/-- A word that is closed keeps its characters. -/
theorem flatten_closeWord (word : List Char) : (closeWord word).flatten = word := by
  rw [closeWord]
  split
  · rename_i hempty
    rw [List.isEmpty_iff.mp hempty, List.flatten_nil]
  · rw [List.flatten_singleton]

/-- The words of ASCII characters, put together. -/
theorem flatten_wordsFrom (prev : Char) (word : List Char) (h : ∀ c ∈ cs, c.toNat < 0x80) :
    (wordsFrom prev word cs).flatten = word ++ (cs.filter (!isSeparator ·)).map Char.toLower := by
  induction cs generalizing prev word with
  | nil => rw [wordsFrom, flatten_closeWord, List.filter_nil, List.map_nil, List.append_nil]
  | cons c cs ih =>
    have hlower : Text.toLower c = [c.toLower] := if_pos (h c List.mem_cons_self)
    replace ih := fun prev word => ih prev word fun d hd => h d (List.mem_cons_of_mem c hd)
    rw [wordsFrom]
    split
    · rename_i hsep
      rw [List.flatten_append, flatten_closeWord, ih, List.nil_append,
        List.filter_cons_of_neg (by rw [hsep]; decide)]
    · rename_i hsep
      rw [List.filter_cons_of_pos (by rw [Bool.not_eq_true] at hsep; rw [hsep]; decide),
        List.map_cons]
      split
      · rw [List.flatten_cons, ih, hlower, List.singleton_append]
      · rw [ih, hlower, List.append_assoc, List.singleton_append]

/-- **The words of a name are its letters.** -/
theorem flatten_words (h : IsAscii name) : (words name).flatten = letters name := by
  rw [words, flatten_wordsFrom ' ' [] h, List.nil_append]
  rfl

/-- The words of an ASCII name have ASCII characters. -/
theorem toNat_lt_of_mem_words (h : IsAscii name) {w : List Char} (hw : w ∈ words name) :
    ∀ c ∈ w, c.toNat < 0x80 := by
  intro c hc
  have hmem : c ∈ letters name := by
    rw [← flatten_words h]
    exact List.mem_flatten_of_mem hw hc
  obtain ⟨d, hd, rfl⟩ := List.mem_map.mp hmem
  exact Text.toNat_toLower_lt (h d ((List.mem_filter.mp hd).1))

/-! ### The camel-case form -/

/-- A capital first letter is a matter of case. -/
theorem map_toLower_capitalizeChars (h : ∀ c ∈ cs, c.toNat < 0x80) :
    (capitalizeChars cs).map Char.toLower = cs.map Char.toLower := by
  cases cs with
  | nil => rfl
  | cons c cs =>
    have hc := h c List.mem_cons_self
    have hupper : Text.toUpper c = [c.toUpper] := if_pos hc
    have hlower : c.toUpper.toLower = c.toLower :=
      forall_ascii (fun c => c.toUpper.toLower = c.toLower) (by decide) c hc
    rw [capitalizeChars, hupper, List.singleton_append, List.map_cons, List.map_cons, hlower]

/-- **The camel-case form keeps the letters of a name**, and nothing else. -/
theorem map_toLower_camel (h : IsAscii name) :
    (camel name).toList.map Char.toLower = letters name := by
  have hwords : ∀ w ∈ words name, (capitalizeChars w).map Char.toLower = w.map Char.toLower :=
    fun w hw => map_toLower_capitalizeChars (toNat_lt_of_mem_words h hw)
  have hletters : (letters name).map Char.toLower = letters name := by
    rw [letters, List.map_map]
    refine List.map_congr_left fun c hc => Text.toLower_toLower (h c ((List.mem_filter.mp hc).1))
  calc (camel name).toList.map Char.toLower
      = ((words name).map fun w => (capitalizeChars w).map Char.toLower).flatten := by
        rw [camel, String.toList_ofList, List.map_flatMap, List.flatMap_def]
    _ = ((words name).map (List.map Char.toLower)).flatten := by
        rw [List.map_congr_left hwords]
    _ = letters name := by rw [← List.map_flatten, flatten_words h, hletters]

/-! ### Names of schemas -/

/-- What a name of a schema is made of. -/
theorem mem_of_isSchemaName (h : isSchemaName cs = true) (hc : c ∈ cs) :
    c.isAlphanum = true ∨ c = '_' := by
  cases cs with
  | nil => cases h
  | cons d ds =>
    rw [isSchemaName, Bool.and_eq_true, List.all_eq_true] at h
    rcases List.mem_cons.mp hc with rfl | hc
    · exact Or.inl (isAlphanum_of_isAlpha h.1)
    · rcases Bool.or_eq_true _ _ ▸ h.2 c hc with hc | hc
      · exact Or.inl hc
      · exact Or.inr (beq_iff_eq.mp hc)

/-- A name of a schema is an ASCII text. -/
theorem isAscii_of_isSchemaName (h : isSchemaName name.toList = true) : IsAscii name := by
  intro c hc
  rcases mem_of_isSchemaName h hc with hc | rfl
  · exact toNat_lt_of_isAlphanum hc
  · decide

end Name

end ServiceBus
