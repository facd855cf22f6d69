import ServiceBus.Proofs.Adaptor.Completeness
import ServiceBus.Proofs.Adaptor.Substitution

/-! # The embedded templates miss no binding

Every placeholder of an embedded template is one of those that are bound for its kind, whatever the
names and the types are that an artifact is made for.

* `namesIn`: the placeholders of a source, read off its characters.
* `suffices_embedded`: the embedded templates can be read, and what they ask for is bound.
* `exists_synthesize_embedded`: a file with services has an artifact. -/

namespace ServiceBus.Adaptor

/-! ### Reading -/

/-- The names of the placeholders, or nothing if one of them is bad. There may be fewer than
`limit`. -/
def namesIn : Nat → List Char → Option (List (List Char))
  | 0, _ => none
  | limit + 1, cs =>
    match cutAtPair? '\x7b' cs with
    | none => some []
    | some (_, tail) =>
      match cutAtPair? '\x7d' tail with
      | none => none
      | some (inner, rest) =>
        if isPlaceholderName inner then (namesIn limit rest).map (inner :: ·) else none

/-- **What is read off the characters** are the names of the pieces that they are divided into. -/
theorem divided_of_namesIn {limit : Nat} {cs : List Char} {names : List (List Char)}
    (h : namesIn limit cs = some names) :
    ∃ pieces rest, Divided cs pieces rest ∧ NoPair '\x7b' rest ∧ pieces.map Piece.name = names := by
  induction limit generalizing cs names with
  | zero => cases h
  | succ limit ih =>
    rw [namesIn] at h
    split at h
    · rename_i hopen
      cases h
      exact ⟨[], cs, ⟨rfl, by simp⟩, cutAtPair?_eq_none.mp hopen, rfl⟩
    · rename_i before tail hopen
      split at h
      · cases h
      · rename_i inner after hclose
        split at h
        · rename_i hname
          obtain ⟨more, hmore, rfl⟩ := Option.map_eq_some_iff.mp h
          obtain ⟨pieces, rest, hdivided, hrest, rfl⟩ := ih hmore
          obtain ⟨rfl, hbefore⟩ := cutAtPair?_eq_some.mp hopen
          obtain ⟨rfl, hinner⟩ := cutAtPair?_eq_some.mp hclose
          -- The name is as it stands between the braces.
          have hplain : Piece.name ⟨before, inner⟩ = inner :=
            Text.trimChars_of_not_isBlank (not_isBlank_of_isPlaceholderName hname)
          have hpiece : Piece.WellFormed ⟨before, inner⟩ :=
            ⟨hbefore, hinner, by rw [hplain, hname]⟩
          have hmore := hdivided.cons hpiece
          refine ⟨⟨before, inner⟩ :: pieces, rest, ?_, hrest, ?_⟩
          · simpa [Piece.written] using hmore
          · rw [List.map_cons, hplain]
        · cases h

/-! ### Sources -/

open Embedded (ofLines)

/-- A text is put together from literals, which are these characters. -/
inductive Spells : String → List Char → Prop where
  | literal (cs : List Char) : Spells (String.ofList cs) cs
  | append {a b : String} {as bs : List Char} (first : Spells a as) (second : Spells b bs) :
      Spells (a ++ b) (as ++ bs)
  | noLines : Spells (ofLines []) []
  | lines {line : String} {rest : List String} {cs ds : List Char} (first : Spells line cs)
      (others : Spells (ofLines rest) ds) : Spells (ofLines (line :: rest)) (cs ++ '\n' :: ds)

/-- The characters of a text. -/
theorem Spells.toList {s : String} {cs : List Char} (h : Spells s cs) : s.toList = cs := by
  induction h with
  | literal cs => exact String.toList_ofList
  | append _ _ ihfirst ihsecond => rw [String.toList_append, ihfirst, ihsecond]
  | noLines => rfl
  | lines _ _ ihfirst ihothers =>
    have hbreak : "\n".toList = ['\n'] := rfl
    rw [ofLines] at ihothers ⊢
    rw [List.map_cons, String.join_cons, String.toList_append, String.toList_append, ihfirst,
      ihothers, hbreak, List.append_assoc]
    rfl

/-- Whether a source can be read and asks for bound names only. -/
def asksFor (names : List String) (cs : List Char) : Bool :=
  (namesIn 40 cs).any fun found => found.all fun name => names.contains (String.ofList name)

/-- A source that asks for bound names only. -/
theorem parse_of_spells {name source : String} {names : List String} {cs : List Char}
    (hs : Spells source cs) (h : asksFor names cs = true) :
    ∃ t, Template.parse name source = .ok t ∧ ∀ p ∈ t.placeholders, p ∈ names := by
  rw [asksFor] at h
  cases hfound : namesIn 40 cs with
  | none =>
    rw [hfound] at h
    cases h
  | some found =>
    rw [hfound, Option.any_some, List.all_eq_true] at h
    obtain ⟨pieces, rest, hdivided, hrest, rfl⟩ := divided_of_namesIn hfound
    rw [← hs.toList] at hdivided
    refine ⟨Template.ofPieces name pieces rest,
      Template.parse_ok_iff.mpr ⟨pieces, rest, hdivided, hrest, rfl⟩, ?_⟩
    intro p hp
    rw [Template.placeholders_ofPieces] at hp
    obtain ⟨piece, hpiece, rfl⟩ := List.mem_map.mp hp
    exact List.contains_iff_mem.mp (h _ (List.mem_map_of_mem hpiece))

/-- Every embedded template can be read and asks for bound names only. -/
theorem exists_parseKind_embedded (kind : TemplateKind) :
    ∃ t, TemplateSet.embedded.parseKind kind = .ok t ∧ ∀ p ∈ t.placeholders, p ∈ boundNames kind := by
  cases kind with
  | file | service | serverMethod | endpoint | handler | clientMethod =>
    apply parse_of_spells
    · -- A line is one literal or two.
      repeat
        apply Spells.lines
        · first
          | apply Spells.literal
          | apply Spells.append <;> apply Spells.literal
      apply Spells.noLines
    · decide +kernel

/-- **The embedded templates suffice** for every file. -/
theorem suffices_embedded (file : Schema.File) : TemplateSet.embedded.Suffices file := by
  have hcomplete : ∀ kind, TemplateSet.embedded.Complete kind := by
    intro kind t ht
    obtain ⟨t', ht', hnames⟩ := exists_parseKind_embedded kind
    obtain rfl : t' = t := Except.ok.inj (ht'.symm.trans ht)
    exact hnames
  refine ⟨?_, hcomplete _, hcomplete _, fun _ kind _ => hcomplete kind⟩
  intro kind
  obtain ⟨t, ht, -⟩ := exists_parseKind_embedded kind
  exact ⟨t, ht⟩

/-! ### Artifacts -/

/-- **A file with services has an artifact** when it is made from the embedded templates. -/
theorem exists_synthesize_embedded (options : Options) (imports : Schema.ImportSet)
    {file : Schema.File} (h : file.hasServices = true) :
    ∃ content, (synthesize .embedded options file imports).run.value =
      .ok (some { name := artifactName options file, content }) := by
  obtain ⟨artifact?, hmade⟩ :=
    (exists_synthesize_iff .embedded options imports h).mpr (suffices_embedded file)
  obtain ⟨content, rfl⟩ := exists_content_of_ok h hmade
  exact ⟨content, hmade⟩

end ServiceBus.Adaptor
