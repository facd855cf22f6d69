import ServiceBus.Name.Identifier
import ServiceBus.Name.Words

/-! # Names of schemas in generated code

A name of a schema is a letter followed by letters, digits and underscores. Both of its forms in
generated code are again such names, and made usable they are identifiers.

* `isSchemaName`: the names that schemas have.
* `isSchemaName_snake`, `isSchemaName_camel`: the forms of a name.
* `isIdentifier_escape`: a name that is made usable is an identifier. -/

namespace ServiceBus.Name

/-- Whether the characters are a name as schemas have them. -/
def isSchemaName : List Char → Bool
  | [] => false
  | c :: rest => c.isAlpha && rest.all fun d => d.isAlphanum || d == '_'

variable {name : String} {c : Char} {cs : List Char}

/-! ### ASCII letters and digits -/

/-- What holds of all ASCII characters is checked one by one. -/
theorem forall_ascii (holds : Char → Prop) (h : ∀ n < 0x80, holds (Char.ofNat n)) (c : Char)
    (hc : c.toNat < 0x80) : holds c := by
  have hn := h c.toNat hc
  rwa [Char.ofNat_toNat] at hn

/-- Letters and digits are ASCII characters. -/
theorem toNat_lt_of_isAlphanum (h : c.isAlphanum = true) : c.toNat < 0x80 := by
  replace h : (decide (c.val ≥ 'A'.val ∧ c.val ≤ 'Z'.val) || c.val ≥ 'a'.val && c.val ≤ 'z'.val ||
    c.val ≥ '0'.val && c.val ≤ '9'.val) = true := h
  simp only [Bool.or_eq_true, Bool.and_eq_true, decide_eq_true_eq, ge_iff_le,
    UInt32.le_iff_toNat_le] at h
  have hZ : 'Z'.val.toNat = 90 := rfl
  have hz : 'z'.val.toNat = 122 := rfl
  have h9 : '9'.val.toNat = 57 := rfl
  have hc : c.toNat = c.val.toNat := rfl
  omega

/-- A letter is a letter or a digit. -/
theorem isAlphanum_of_isAlpha (h : c.isAlpha = true) : c.isAlphanum = true := by
  rw [Char.isAlphanum, h, Bool.true_or]

/-- A letter or digit in lower case. -/
theorem toLower_of_isAlphanum (h : c.isAlphanum = true) :
    Text.toLower c = [c.toLower] ∧ c.toLower.isAlphanum = true ∧
      (c.isAlpha = true → c.toLower.isAlpha = true) ∧ isSeparator c = false := by
  have hascii := toNat_lt_of_isAlphanum h
  refine ⟨if_pos hascii, ?_⟩
  revert h
  exact forall_ascii (fun c => c.isAlphanum = true → c.toLower.isAlphanum = true ∧
    (c.isAlpha = true → c.toLower.isAlpha = true) ∧ isSeparator c = false) (by decide) c hascii

/-- A letter or digit in upper case. -/
theorem toUpper_of_isAlphanum (h : c.isAlphanum = true) :
    Text.toUpper c = [c.toUpper] ∧ c.toUpper.isAlphanum = true ∧
      (c.isAlpha = true → c.toUpper.isAlpha = true) := by
  have hascii := toNat_lt_of_isAlphanum h
  refine ⟨if_pos hascii, ?_⟩
  revert h
  exact forall_ascii (fun c => c.isAlphanum = true → c.toUpper.isAlphanum = true ∧
    (c.isAlpha = true → c.toUpper.isAlpha = true)) (by decide) c hascii

/-! ### Words -/

/-- A word that is closed is a word as it is. -/
theorem eq_of_mem_closeWord {word w : List Char} (h : w ∈ closeWord word) : w = word := by
  rw [closeWord] at h
  split at h
  · exact absurd h List.not_mem_nil
  · exact List.mem_singleton.mp h

/-- What stands in a name besides underscores is a letter or a digit. -/
theorem isAlphanum_of_not_separator (h : (c.isAlphanum || c == '_') = true)
    (hsep : ¬ isSeparator c = true) : c.isAlphanum = true := by
  rcases Bool.or_eq_true _ _ ▸ h with h | h
  · exact h
  · rw [beq_iff_eq.mp h] at hsep
    exact absurd rfl hsep

/-- The words of a name have letters and digits only. -/
theorem isAlphanum_of_wordsFrom {prev : Char} {word rest : List Char}
    (hword : ∀ d ∈ word, d.isAlphanum = true)
    (hrest : ∀ d ∈ rest, (d.isAlphanum || d == '_') = true) :
    ∀ w ∈ wordsFrom prev word rest, ∀ d ∈ w, d.isAlphanum = true := by
  induction rest generalizing prev word with
  | nil =>
    intro w hw
    rw [eq_of_mem_closeWord hw]
    exact hword
  | cons c rest ih =>
    have hc := hrest c List.mem_cons_self
    have htail : ∀ d ∈ rest, (d.isAlphanum || d == '_') = true :=
      fun d hd => hrest d (List.mem_cons_of_mem c hd)
    rw [wordsFrom]
    split
    · -- A separator closes the word and belongs to none.
      intro w hw
      rcases List.mem_append.mp hw with hw | hw
      · rw [eq_of_mem_closeWord hw]
        exact hword
      · exact ih (fun d hd => absurd hd List.not_mem_nil) htail w hw
    · rename_i hsep
      obtain ⟨hlower, hlowered, -, -⟩ :=
        toLower_of_isAlphanum (isAlphanum_of_not_separator hc hsep)
      have hsingle : ∀ d ∈ [c.toLower], d.isAlphanum = true := by
        intro d hd
        rw [List.mem_singleton.mp hd]
        exact hlowered
      rw [hlower]
      split
      · -- A capital opens the next word.
        intro w hw
        rcases List.mem_cons.mp hw with rfl | hw
        · exact hword
        · exact ih hsingle htail w hw
      · refine ih ?_ htail
        intro d hd
        rcases List.mem_append.mp hd with hd | hd
        · exact hword d hd
        · exact hsingle d hd

/-- No word is empty. -/
theorem ne_nil_of_mem_wordsFrom {prev : Char} {word rest w : List Char}
    (h : w ∈ wordsFrom prev word rest) : w ≠ [] := by
  have hclosed : ∀ word : List Char, w ∈ closeWord word → w ≠ [] := by
    intro word hw
    rw [closeWord] at hw
    split at hw
    · exact absurd hw List.not_mem_nil
    · rename_i hempty
      rw [List.mem_singleton.mp hw]
      rintro rfl
      exact hempty rfl
  induction rest generalizing prev word with
  | nil => exact hclosed word h
  | cons c rest ih =>
    rw [wordsFrom] at h
    split at h
    · rcases List.mem_append.mp h with h | h
      · exact hclosed word h
      · exact ih h
    · split at h
      · -- The word that ends here is not empty: otherwise no new one would begin.
        rename_i hopens
        rcases List.mem_cons.mp h with rfl | h
        · rintro rfl
          simp at hopens
        · exact ih h
      · exact ih h

/-- An open word is not empty any more: its first character begins the first word. -/
theorem wordsFrom_cons (prev a : Char) (word rest : List Char) :
    ∃ w ws, wordsFrom prev (a :: word) rest = (a :: w) :: ws := by
  induction rest generalizing prev word with
  | nil => exact ⟨word, [], rfl⟩
  | cons c rest ih =>
    rw [wordsFrom]
    split
    · exact ⟨word, wordsFrom c [] rest, rfl⟩
    · split
      · exact ⟨word, wordsFrom c (Text.toLower c) rest, rfl⟩
      · exact ih c (word ++ Text.toLower c)

/-- The words of a name: the first one begins with a letter. -/
theorem words_of_isSchemaName (h : isSchemaName name.toList = true) :
    ∃ a w ws, words name = (a :: w) :: ws ∧ a.isAlpha = true ∧
      (∀ d ∈ w, d.isAlphanum = true) ∧ ∀ v ∈ ws, ∀ d ∈ v, d.isAlphanum = true := by
  rw [words]
  match hname : name.toList with
  | [] =>
    rw [hname] at h
    cases h
  | c :: rest =>
    rw [hname, isSchemaName, Bool.and_eq_true, List.all_eq_true] at h
    obtain ⟨hc, hrest⟩ := h
    have halnum := isAlphanum_of_isAlpha hc
    obtain ⟨hlower, hlowered, halpha, hsep⟩ := toLower_of_isAlphanum halnum
    have hfirst : wordsFrom ' ' [] (c :: rest) = wordsFrom c [c.toLower] rest := by
      rw [wordsFrom, hsep, if_neg Bool.false_ne_true, List.isEmpty_nil, Bool.not_true,
        Bool.and_false, Bool.false_and, if_neg Bool.false_ne_true, hlower, List.nil_append]
    obtain ⟨w, ws, hws⟩ := wordsFrom_cons c c.toLower [] rest
    have hall : ∀ v ∈ (c.toLower :: w) :: ws, ∀ d ∈ v, d.isAlphanum = true := by
      rw [← hws]
      refine isAlphanum_of_wordsFrom ?_ hrest
      intro d hd
      rw [List.mem_singleton.mp hd]
      exact hlowered
    refine ⟨c.toLower, w, ws, hfirst.trans hws, halpha hc, ?_, ?_⟩
    · intro d hd
      exact hall _ List.mem_cons_self d (List.mem_cons_of_mem _ hd)
    · intro v hv
      exact hall v (List.mem_cons_of_mem _ hv)

/-! ### Forms of a name -/

/-- A letter before letters, digits and underscores. -/
theorem isSchemaName_cons (hc : c.isAlpha = true)
    (hcs : ∀ d ∈ cs, d.isAlphanum = true ∨ d = '_') : isSchemaName (c :: cs) = true := by
  rw [isSchemaName, hc, Bool.true_and, List.all_eq_true]
  intro d hd
  rw [Bool.or_eq_true, beq_iff_eq]
  exact hcs d hd

/-- Words of letters and digits, with underscores between them. -/
theorem mem_intercalate {ws : List (List Char)} (h : ∀ w ∈ ws, ∀ d ∈ w, d.isAlphanum = true) :
    ∀ d ∈ ['_'].intercalate ws, d.isAlphanum = true ∨ d = '_' := by
  induction ws with
  | nil => exact fun d hd => absurd hd List.not_mem_nil
  | cons w ws ih =>
    intro d hd
    cases ws with
    | nil =>
      rw [List.intercalate_singleton] at hd
      exact Or.inl (h w List.mem_cons_self d hd)
    | cons v ws =>
      rw [List.intercalate_cons_cons, List.mem_append, List.mem_append] at hd
      rcases hd with (hd | hd) | hd
      · exact Or.inl (h w List.mem_cons_self d hd)
      · exact Or.inr (List.mem_singleton.mp hd)
      · exact ih (fun v hv => h v (List.mem_cons_of_mem w hv)) d hd

/-- What begins the first of some words begins all of them together. -/
theorem intercalate_cons (a : Char) (w : List Char) (ws : List (List Char)) :
    ∃ tail, ['_'].intercalate ((a :: w) :: ws) = a :: tail := by
  cases ws with
  | nil => exact ⟨w, List.intercalate_singleton⟩
  | cons v ws => exact ⟨_, List.intercalate_cons_cons⟩

/-- Parts as texts have the characters of the parts. -/
theorem map_toList_ofList (parts : List (List Char)) :
    (parts.map String.ofList).map String.toList = parts := by
  have hsame : String.toList ∘ String.ofList = id := funext fun _ => String.toList_ofList
  rw [List.map_map, hsame, List.map_id]

/-- Parts put together with underscores, as texts or as characters. -/
theorem intercalate_ofList (parts : List (List Char)) :
    "_".intercalate (parts.map String.ofList) = String.ofList (['_'].intercalate parts) := by
  apply String.toList_inj.mp
  have hmark : "_".toList = ['_'] := rfl
  rw [String.toList_intercalate, map_toList_ofList, hmark, String.toList_ofList]

/-- **The snake-case form of a name is a name.** -/
theorem isSchemaName_snake (h : isSchemaName name.toList = true) :
    isSchemaName (snake name).toList = true := by
  obtain ⟨a, w, ws, hwords, ha, hw, hws⟩ := words_of_isSchemaName h
  have hall : ∀ v ∈ words name, ∀ d ∈ v, d.isAlphanum = true := by
    intro v hv
    rw [hwords] at hv
    rcases List.mem_cons.mp hv with rfl | hv
    · intro d hd
      rcases List.mem_cons.mp hd with rfl | hd
      · exact isAlphanum_of_isAlpha ha
      · exact hw d hd
    · exact hws v hv
  have hchars : (snake name).toList = ['_'].intercalate (words name) := by
    rw [snake, intercalate_ofList, String.toList_ofList]
  obtain ⟨tail, htail⟩ := intercalate_cons a w ws
  have hmem := mem_intercalate hall
  rw [hwords, htail] at hmem
  rw [hchars, hwords, htail]
  exact isSchemaName_cons ha fun d hd => hmem d (List.mem_cons_of_mem a hd)

/-- A word of letters and digits, capitalised. -/
theorem isAlphanum_of_capitalizeChars {w : List Char} (h : ∀ d ∈ w, d.isAlphanum = true) :
    ∀ d ∈ capitalizeChars w, d.isAlphanum = true := by
  cases w with
  | nil => exact fun d hd => absurd hd List.not_mem_nil
  | cons c rest =>
    obtain ⟨hupper, huppered, -⟩ := toUpper_of_isAlphanum (h c List.mem_cons_self)
    intro d hd
    rw [capitalizeChars, hupper, List.singleton_append] at hd
    rcases List.mem_cons.mp hd with rfl | hd
    · exact huppered
    · exact h d (List.mem_cons_of_mem c hd)

/-- **The camel-case form of a name is a name.** -/
theorem isSchemaName_camel (h : isSchemaName name.toList = true) :
    isSchemaName (camel name).toList = true := by
  obtain ⟨a, w, ws, hwords, ha, hw, hws⟩ := words_of_isSchemaName h
  obtain ⟨hupper, -, halpha⟩ := toUpper_of_isAlphanum (isAlphanum_of_isAlpha ha)
  rw [camel, String.toList_ofList, hwords, List.flatMap_cons, capitalizeChars, hupper,
    List.singleton_append, List.cons_append]
  refine isSchemaName_cons (halpha ha) ?_
  intro d hd
  rcases List.mem_append.mp hd with hd | hd
  · exact Or.inl (hw d hd)
  · obtain ⟨v, hv, hd⟩ := List.mem_flatMap.mp hd
    exact Or.inl (isAlphanum_of_capitalizeChars (hws v hv) d hd)

/-! ### Identifiers -/

/-- A name is an identifier. -/
theorem isPlainIdentifier_of_isSchemaName (h : isSchemaName cs = true) :
    isPlainIdentifier cs = true := by
  cases cs with
  | nil => cases h
  | cons c rest =>
    rw [isSchemaName, Bool.and_eq_true] at h
    obtain ⟨hc, hrest⟩ := h
    have hletter : (c == '_') = false := by
      rw [beq_eq_false_iff_ne]
      rintro rfl
      exact absurd hc (by decide)
    have hstart : startsIdentifier c = true := by rw [startsIdentifier, hc, Bool.true_or]
    have hinside : rest.all insideIdentifier = true := hrest
    rw [isPlainIdentifier, hstart, hinside, hletter, Bool.false_and, Bool.not_false, Bool.true_and,
      Bool.true_and]

/-- A name has no mark of a raw identifier. -/
theorem rawBody_of_isSchemaName (h : isSchemaName cs = true) : rawBody cs = cs := by
  rw [rawBody]
  rintro body rfl
  -- The mark is no letter and no digit.
  rw [isSchemaName, List.all_cons] at h
  exact absurd h (by simp)

/-- A name with an underscore at the end is a name. -/
theorem isSchemaName_append_underscore (h : isSchemaName name.toList = true) :
    isSchemaName (name ++ "_").toList = true := by
  have hunderscore : "_".toList = ['_'] := rfl
  rw [String.toList_append, hunderscore]
  match hname : name.toList with
  | [] =>
    rw [hname] at h
    cases h
  | c :: rest =>
    rw [hname, isSchemaName, Bool.and_eq_true] at h
    rw [List.cons_append, isSchemaName, h.1, Bool.true_and, List.all_append, h.2]
    rfl

/-- A name of a schema is an identifier as it stands. -/
theorem isIdentifier_of_isSchemaName (h : isSchemaName name.toList = true) :
    isIdentifier name = true := by
  rw [isIdentifier, rawBody_of_isSchemaName h]
  exact isPlainIdentifier_of_isSchemaName h

/-- **A name that is made usable is an identifier.** -/
theorem isIdentifier_escape (h : isSchemaName name.toList = true) :
    isIdentifier (escape name) = true := by
  rw [escape]
  split
  · exact isIdentifier_of_isSchemaName (isSchemaName_append_underscore h)
  · split
    · have hmark : "r#".toList = ['r', '#'] := rfl
      rw [isIdentifier, String.toList_append, hmark]
      exact isPlainIdentifier_of_isSchemaName h
    · exact isIdentifier_of_isSchemaName h

end ServiceBus.Name
