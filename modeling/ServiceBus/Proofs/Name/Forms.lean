import ServiceBus.Proofs.Text.LetterCase

/-! # Normal forms of names

The words of a name are read in one loop over the positions of its characters, which looks back at the
position before and ahead at the one behind. The words are in lower case and hold no mark, so that the
snake-case form can be taken apart again: it is a normal form, from which the camel-case form comes out
the same.

* `readWords?`: the words as the loop over positions reads them; `readWords?_eq` says that it reads no
  position at which there is no character, and that it finds the words of the name.
* `IsWord`: what a word is; `words_snake` says that joining words loses nothing.
* `forms_of_name`: what the words and the two forms of a name keep of it. -/

namespace ServiceBus.Name

open Text (IsAscii)

variable {name : String} {c : Char} {cs : List Char} {ws : List (List Char)}

/-! ### Reading by position -/

/-- What the loop over a name carries along: the words that are closed and the one that is open. -/
structure Reading where
  closed : List (List Char) := []
  word : List Char := []

/-- The character before a position. There is none before the first one. -/
def charBefore? (cs : List Char) : Nat → Option Char
  | 0 => none
  | i + 1 => cs[i]?

/-- One round of the loop: it takes in the character at a position. There is no result if it looks at
a position before the first character or behind the last one; only for the character behind it may
look there. -/
def Reading.round? (cs : List Char) (reading : Reading) (i : Nat) : Option Reading := do
  let c ← cs[i]?
  if isSeparator c then
    return { closed := reading.closed ++ closeWord reading.word, word := [] }
  else if Text.isUpper c && !reading.word.isEmpty then
    let prev ← charBefore? cs i
    let nextIsLower := (cs[i + 1]?.map Text.isLower).getD false
    if Text.isLower prev || prev.isDigit || (Text.isUpper prev && nextIsLower) then
      return { closed := reading.closed ++ [reading.word], word := Text.toLower c }
    else
      return { reading with word := reading.word ++ Text.toLower c }
  else
    return { reading with word := reading.word ++ Text.toLower c }

/-- All words, once the open one is closed. -/
def Reading.all (reading : Reading) : List (List Char) :=
  reading.closed ++ closeWord reading.word

/-- The words of a name, read position by position. -/
def readWords? (name : String) : Option (List (List Char)) :=
  ((List.range name.toList.length).foldlM (Reading.round? name.toList) {}).map Reading.all

/-- The last character that was read. A blank stands for it if none was. -/
def lastRead (done : List Char) : Char :=
  done.getLast?.getD ' '

@[simp] theorem lastRead_concat (done : List Char) (c : Char) : lastRead (done ++ [c]) = c := by
  simp [lastRead]

/-- The character before a position is the last one read, if anything was. -/
theorem charBefore?_eq {done rest : List Char} (h : done ≠ []) :
    charBefore? (done ++ rest) done.length = some (lastRead done) := by
  obtain ⟨front, last, rfl⟩ : ∃ front last, done = front ++ [last] :=
    ⟨_, _, (List.dropLast_concat_getLast h).symm⟩
  rw [lastRead_concat, List.length_append, List.length_singleton, charBefore?]
  simp

/-- **One round** looks at characters only, as long as a word is open only if something was read. -/
theorem Reading.round?_eq {reading : Reading} {done rest : List Char}
    (hopen : reading.word ≠ [] → done ≠ []) :
    reading.round? (done ++ c :: rest) done.length = some (
      if isSeparator c then
        { closed := reading.closed ++ closeWord reading.word, word := [] }
      else if Text.isUpper c && !reading.word.isEmpty && opensWord (lastRead done) rest then
        { closed := reading.closed ++ [reading.word], word := Text.toLower c }
      else { reading with word := reading.word ++ Text.toLower c }) := by
  have hhere : (done ++ c :: rest)[done.length]? = some c := by simp
  have hnext : (done ++ c :: rest)[done.length + 1]? = rest.head? := by
    rw [List.getElem?_append_right (Nat.le_add_right _ _), Nat.add_sub_cancel_left,
      List.getElem?_cons_succ, List.head?_eq_getElem?]
  rw [round?, hhere, hnext]
  by_cases hsep : isSeparator c = true
  · simp [hsep]
  · simp only [hsep, if_false, Option.bind_eq_bind, Option.bind_some, Bool.false_eq_true]
    cases hcapital : Text.isUpper c && !reading.word.isEmpty with
    | false => simp
    | true =>
      -- A word is open here, so there is a character to look back at.
      have hword : reading.word ≠ [] := by
        intro hempty
        simp [hempty] at hcapital
      rw [charBefore?_eq (hopen hword), Bool.true_and, opensWord, if_pos rfl, Option.bind_some]
      split <;> rfl

/-- The rounds that are left find the words that are left. -/
theorem foldlM_round? (reading : Reading) (done rest : List Char)
    (hopen : reading.word ≠ [] → done ≠ []) :
    ((List.range' done.length rest.length).foldlM (Reading.round? (done ++ rest)) reading).map
      Reading.all = some (reading.closed ++ wordsFrom (lastRead done) reading.word rest) := by
  -- By induction on what is left. The invariant is `hopen`: it makes the look back safe, and it holds
  -- after every round because a character was read in it.
  induction rest generalizing done reading with
  | nil => rfl
  | cons c rest ih =>
    have hread : done ++ [c] ≠ [] := List.append_ne_nil_of_right_ne_nil _ (List.cons_ne_nil c [])
    have hsplit : done ++ c :: rest = done ++ [c] ++ rest := by simp
    have hlength : done.length + 1 = (done ++ [c]).length := by simp
    rw [List.length_cons, List.range'_succ, List.foldlM_cons, Reading.round?_eq hopen,
      Option.bind_eq_bind, Option.bind_some, hsplit, hlength, ih _ _ fun _ => hread, lastRead_concat,
      wordsFrom]
    split
    · simp
    · split
      · simp
      · rfl

/-- **No position is read at which there is no character**, and what is read are the words. -/
theorem readWords?_eq (name : String) : readWords? name = some (words name) := by
  have hread := foldlM_round? {} [] name.toList fun hopen => absurd rfl hopen
  rw [readWords?, List.range_eq_range']
  exact hread

/-! ### Words -/

/-- A word: it is not empty and holds neither marks nor capitals, so that lower case leaves it as it
is. -/
structure IsWord (w : List Char) : Prop where
  nonempty : w ≠ []
  separator : ∀ c ∈ w, isSeparator c = false
  upper : ∀ c ∈ w, Text.isUpper c = false
  lower : ∀ c ∈ w, Text.toLower c = [c]

/-- The words of an ASCII name are words. -/
theorem isWord_of_mem_words (h : IsAscii name) {w : List Char} (hw : w ∈ words name) :
    IsWord w := by
  -- A character of a word is the lower-case form of a character that is no mark.
  have hchars : ∀ c ∈ w, ∃ d : Char, d.toNat < 0x80 ∧ isSeparator d = false ∧ d.toLower = c := by
    intro c hc
    have hmem : c ∈ letters name := by
      rw [← flatten_words h]
      exact List.mem_flatten_of_mem hw hc
    obtain ⟨d, hd, hlower⟩ := List.mem_map.mp hmem
    obtain ⟨hd, hsep⟩ := List.mem_filter.mp hd
    exact ⟨d, h d hd, by simpa using hsep, hlower⟩
  refine ⟨ne_nil_of_mem_wordsFrom hw, ?_, ?_, ?_⟩ <;> intro c hc <;>
    obtain ⟨d, hd, hsep, rfl⟩ := hchars c hc
  · revert hsep
    exact forall_ascii (fun d => isSeparator d = false → isSeparator d.toLower = false)
      (by decide) d hd
  · exact forall_ascii (fun d => Text.isUpper d.toLower = false) (by decide) d hd
  · exact forall_ascii (fun d => Text.toLower d.toLower = [d.toLower]) (by decide) d hd

/-- The characters of a word are taken in as they are. -/
theorem wordsFrom_append (prev : Char) (word rest : List Char) {w : List Char}
    (hsep : ∀ c ∈ w, isSeparator c = false) (hupper : ∀ c ∈ w, Text.isUpper c = false)
    (hlower : ∀ c ∈ w, Text.toLower c = [c]) :
    ∃ last, wordsFrom prev word (w ++ rest) = wordsFrom last (word ++ w) rest := by
  -- Without a capital the character before is not looked at, so it does not matter which one it is.
  induction w generalizing prev word with
  | nil => exact ⟨prev, by simp⟩
  | cons c w ih =>
    rw [List.forall_mem_cons] at hsep hupper hlower
    obtain ⟨last, hlast⟩ := ih c (word ++ [c]) hsep.2 hupper.2 hlower.2
    refine ⟨last, ?_⟩
    rw [List.cons_append, wordsFrom, hsep.1, hupper.1, hlower.1]
    simpa using hlast

/-- **Words with underscores between them** are taken apart again. -/
theorem wordsFrom_intercalate (prev : Char) (h : ∀ w ∈ ws, IsWord w) :
    wordsFrom prev [] (['_'].intercalate ws) = ws := by
  induction ws generalizing prev with
  | nil => rfl
  | cons w ws ih =>
    obtain ⟨hw, hws⟩ := List.forall_mem_cons.mp h
    have hclose : closeWord w = [w] := by
      rw [closeWord, if_neg]
      simpa using hw.nonempty
    -- What closes the first word is the end of the name or the mark in front of the next one.
    cases ws with
    | nil =>
      obtain ⟨last, hlast⟩ := wordsFrom_append prev [] [] hw.separator hw.upper hw.lower
      rw [List.append_nil, List.nil_append, wordsFrom, hclose] at hlast
      rw [List.intercalate_singleton, hlast]
    | cons v ws =>
      obtain ⟨last, hlast⟩ := wordsFrom_append prev [] ('_' :: ['_'].intercalate (v :: ws))
        hw.separator hw.upper hw.lower
      have hmark : isSeparator '_' = true := rfl
      rw [List.intercalate_cons_cons, List.append_assoc, List.singleton_append, hlast,
        List.nil_append, wordsFrom, if_pos hmark, hclose, ih '_' hws, List.singleton_append]

/-- **The snake-case form has the words of the name.** -/
theorem words_snake (h : IsAscii name) : words (snake name) = words name := by
  have hchars : (snake name).toList = ['_'].intercalate (words name) := by
    rw [snake, intercalate_ofList, String.toList_ofList]
  rw [words, hchars]
  exact wordsFrom_intercalate ' ' fun w hw => isWord_of_mem_words h hw

/-! ### Letters -/

/-- The letters of an ASCII name are what its lower-case form has besides marks. -/
theorem letters_eq (h : IsAscii name) :
    letters name = (Text.lowercase name).toList.filter (!isSeparator ·) := by
  rw [Text.toList_lowercase h, letters, List.filter_map]
  congr 1
  refine List.filter_congr fun c hc => ?_
  exact forall_ascii (fun c => (!isSeparator c) = (!isSeparator c.toLower)) (by decide) c (h c hc)

/-- The camel-case form of an ASCII name is one. -/
theorem isAscii_camel (h : IsAscii name) : IsAscii (camel name) := by
  intro c hc
  rw [camel, String.toList_ofList] at hc
  obtain ⟨w, hw, hc⟩ := List.mem_flatMap.mp hc
  have hascii := toNat_lt_of_mem_words h hw
  cases w with
  | nil => exact absurd hc List.not_mem_nil
  | cons d w =>
    have hd := hascii d List.mem_cons_self
    have hupper : Text.toUpper d = [d.toUpper] := if_pos hd
    rw [capitalizeChars, hupper, List.singleton_append] at hc
    rcases List.mem_cons.mp hc with rfl | hc
    · exact forall_ascii (fun d => d.toUpper.toNat < 0x80) (by decide) d hd
    · exact hascii c (List.mem_cons_of_mem d hc)

/-- **The forms of a name.** Its words are read without a look at a position that has no character.
They are not empty, hold neither a mark nor a capital, and put together they are the lower-case form
of the name without its marks. The snake-case form is a normal form: it is its own snake-case form and
has the camel-case form of the name. That one in lower case is the name in lower case without marks. -/
theorem forms_of_name (h : IsAscii name) :
    readWords? name = some (words name) ∧
    (∀ w ∈ words name, w ≠ [] ∧ ∀ c ∈ w, isSeparator c = false ∧ Text.isUpper c = false) ∧
    (words name).flatten = (Text.lowercase name).toList.filter (!isSeparator ·) ∧
    snake (snake name) = snake name ∧
    camel (snake name) = camel name ∧
    (Text.lowercase (camel name)).toList =
      (Text.lowercase name).toList.filter (!isSeparator ·) := by
  refine ⟨readWords?_eq name, fun w hw => ?_, ?_, ?_, ?_, ?_⟩
  · obtain ⟨hne, hsep, hupper, -⟩ := isWord_of_mem_words h hw
    exact ⟨hne, fun c hc => ⟨hsep c hc, hupper c hc⟩⟩
  · rw [flatten_words h, letters_eq h]
  · rw [snake, words_snake h, ← snake]
  · rw [camel, words_snake h, ← camel]
  · rw [Text.toList_lowercase (isAscii_camel h), map_toLower_camel h, letters_eq h]

/-- A name with an acronym, a number and all marks in one. -/
theorem forms_of_name_mixed : IsAscii "HTTPServer2Go-to.the Top_" ∧
    readWords? "HTTPServer2Go-to.the Top_" = some ["http".toList, "server2".toList, "go".toList,
      "to".toList, "the".toList, "top".toList] ∧
    snake (snake "HTTPServer2Go-to.the Top_") = "http_server2_go_to_the_top" ∧
    camel "http_server2_go_to_the_top" = camel "HTTPServer2Go-to.the Top_" := by
  have hascii : IsAscii "HTTPServer2Go-to.the Top_" := by decide
  obtain ⟨hread, -, -, hsnake, hcamel, -⟩ := forms_of_name hascii
  have hform : snake "HTTPServer2Go-to.the Top_" = "http_server2_go_to_the_top" := by
    decide +kernel
  refine ⟨hascii, hread.trans (by decide +kernel), hsnake.trans hform, ?_⟩
  rw [← hform]
  exact hcamel

end ServiceBus.Name
