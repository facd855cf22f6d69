import ServiceBus.Text.Blank

/-! # Parts and lines of a text

* `splitChars_append`, `splitChars_eq_singleton`: the parts between separators.
* `intercalate_splitChars`: with separators between them the parts are the text again.
* `TrimsTo`: a text and what it is without the blanks at its end; `trimsTo_trimEndChars`.
* `splitAt_lines`: whole lines are what a text is split into at its line breaks. -/

namespace ServiceBus.Text

variable {p : Char → Bool} {cs ds part : List Char} {c : Char} {s line : String}

/-! ### Parts -/

/-- There is always a part. -/
theorem splitChars_ne_nil (p : Char → Bool) (cs : List Char) : splitChars p cs ≠ [] := by
  fun_cases splitChars p cs with
  | case1 | case2 | case3 | case4 => simp

/-- The parts on both sides of a separator. -/
theorem splitChars_append (hc : p c = true) :
    splitChars p (cs ++ c :: ds) = splitChars p cs ++ splitChars p ds := by
  induction cs with
  | nil =>
    show splitChars p (c :: ds) = [] :: splitChars p ds
    rw [splitChars, if_pos hc]
  | cons a cs ih =>
    rw [List.cons_append, splitChars, splitChars, ih]
    split
    · rfl
    · cases hparts : splitChars p cs with
      | nil => exact absurd hparts (splitChars_ne_nil p cs)
      | cons part parts => rfl

/-- Characters without a separator are one part. -/
theorem splitChars_eq_singleton (h : ∀ c ∈ cs, p c = false) : splitChars p cs = [cs] := by
  induction cs with
  | nil => rfl
  | cons c cs ih =>
    have hc : p c = false := h c List.mem_cons_self
    have hcs := ih fun d hd => h d (List.mem_cons_of_mem c hd)
    simp [splitChars, hc, hcs]

/-- No part has a separator in it. -/
theorem eq_false_of_mem_splitChars (h : part ∈ splitChars p cs) : ∀ c ∈ part, p c = false := by
  induction cs generalizing part with
  | nil =>
    rw [List.mem_singleton.mp h]
    exact fun c hc => absurd hc List.not_mem_nil
  | cons a cs ih =>
    rw [splitChars] at h
    split at h
    · rcases List.mem_cons.mp h with rfl | h
      · exact fun c hc => absurd hc List.not_mem_nil
      · exact ih h
    · rename_i ha
      rw [Bool.not_eq_true] at ha
      -- The character is put in front of the first part.
      cases hparts : splitChars p cs with
      | nil => exact absurd hparts (splitChars_ne_nil p cs)
      | cons first parts =>
        rw [hparts] at h ih
        rcases List.mem_cons.mp h with rfl | h
        · exact List.forall_mem_cons.mpr ⟨ha, ih List.mem_cons_self⟩
        · exact ih (List.mem_cons_of_mem first h)

/-- **With separators between them** the parts are the characters again. -/
theorem intercalate_splitChars (sep : Char) (cs : List Char) :
    [sep].intercalate (splitChars (· == sep) cs) = cs := by
  induction cs with
  | nil => rfl
  | cons c cs ih =>
    rw [splitChars]
    cases hparts : splitChars (· == sep) cs with
    | nil => exact absurd hparts (splitChars_ne_nil _ cs)
    | cons part parts =>
      rw [hparts] at ih
      split
      · rename_i hc
        rw [List.intercalate_cons_cons, ih, beq_iff_eq.mp hc]
        rfl
      · cases parts with
        | nil =>
          rw [List.intercalate_singleton] at ih ⊢
          rw [ih]
        | cons next parts =>
          rw [List.intercalate_cons_cons] at ih ⊢
          rw [← ih]
          rfl

/-- The last part is empty only if a separator is at the end, or there is nothing at all. -/
theorem eq_nil_or_of_getLast?_splitChars (h : (splitChars p cs).getLast? = some []) :
    cs = [] ∨ ∃ c ∈ cs.getLast?, p c = true := by
  induction cs with
  | nil => exact Or.inl rfl
  | cons c cs ih =>
    refine Or.inr ?_
    rw [splitChars] at h
    cases hparts : splitChars p cs with
    | nil => exact absurd hparts (splitChars_ne_nil p cs)
    | cons part parts =>
      rw [hparts] at h ih
      have hlast : ∀ d ∈ cs.getLast?, d ∈ (c :: cs).getLast? := by
        intro d hd
        rw [List.getLast?_cons, Option.mem_def.mp hd]
        rfl
      split at h
      · rename_i hc
        rw [List.getLast?_cons_cons] at h
        rcases ih h with rfl | ⟨d, hd, hp⟩
        · exact ⟨c, rfl, hc⟩
        · exact ⟨d, hlast d hd, hp⟩
      · cases parts with
        | nil => cases h
        | cons next parts =>
          rw [List.getLast?_cons_cons] at h
          rcases ih (List.getLast?_cons_cons.trans h) with rfl | ⟨d, hd, hp⟩
          · cases hparts
          · exact ⟨d, hlast d hd, hp⟩

/-! ### Blanks at the end -/

/-- The characters without the blanks at the end are a beginning of them. -/
theorem prefix_trimEndChars (cs : List Char) : trimEndChars cs <+: cs := by
  have hsuffix := List.dropWhile_suffix isBlank (l := cs.reverse)
  rw [trimEndChars, ← List.reverse_suffix, List.reverse_reverse]
  exact hsuffix

/-- The text without the blanks at its end is a beginning of it. -/
theorem prefix_trimEnd (s : String) : (trimEnd s).toList <+: s.toList := by
  rw [trimEnd, String.toList_ofList]
  exact prefix_trimEndChars s.toList

/-- **What characters are without the blanks at the end**: a beginning that does not end in a blank, with
blanks only behind it. -/
structure TrimsTo (cs ds : List Char) : Prop where
  blanks : ∃ blanks, cs = ds ++ blanks ∧ ∀ c ∈ blanks, isBlank c = true
  last : ∀ c ∈ ds.getLast?, isBlank c = false

/-- Taking the blanks at the end away leaves what there is without them. -/
theorem trimsTo_trimEndChars (cs : List Char) : TrimsTo cs (trimEndChars cs) where
  blanks := by
    refine ⟨(cs.reverse.takeWhile isBlank).reverse, ?_, fun c hc => ?_⟩
    · rw [trimEndChars, ← List.reverse_append, List.takeWhile_append_dropWhile, List.reverse_reverse]
    · exact List.all_eq_true.mp List.all_takeWhile c (List.mem_reverse.mp hc)
  last c hc := by
    rw [trimEndChars, List.getLast?_reverse] at hc
    have hhead := List.head?_dropWhile_not isBlank cs.reverse
    rw [Option.mem_def.mp hc] at hhead
    simpa using hhead

/-- A blank more at the end makes no difference. -/
theorem TrimsTo.concat (h : TrimsTo cs ds) (hc : isBlank c = true) : TrimsTo (cs ++ [c]) ds where
  blanks := by
    obtain ⟨blanks, rfl, hblanks⟩ := h.blanks
    refine ⟨blanks ++ [c], List.append_assoc _ _ _, fun d hd => ?_⟩
    rcases List.mem_append.mp hd with hd | hd
    · exact hblanks d hd
    · rw [List.mem_singleton.mp hd]
      exact hc
  last := h.last

/-! ### Lines -/

/-- **Whole lines** are the parts of a text that consists of them, and nothing is behind the last. -/
theorem splitAt_lines {whole : List String} (h : ∀ line ∈ whole, '\n' ∉ line.toList) :
    splitAt '\n' (String.join (whole.map (· ++ "\n"))) = whole ++ [""] := by
  induction whole with
  | nil => rfl
  | cons line rest ih =>
    have hline : splitChars (· == '\n') line.toList = [line.toList] :=
      splitChars_eq_singleton fun c hc => by
        rw [beq_eq_false_iff_ne]
        rintro rfl
        exact h line List.mem_cons_self hc
    have hrest := ih fun other hother => h other (List.mem_cons_of_mem line hother)
    have hbreak : "\n".toList = ['\n'] := rfl
    rw [splitAt] at hrest ⊢
    rw [List.map_cons, String.join_cons, String.toList_append, String.toList_append, hbreak,
      List.append_assoc, List.singleton_append, splitChars_append (by rfl), hline, List.map_append,
      hrest]
    simp

end ServiceBus.Text
