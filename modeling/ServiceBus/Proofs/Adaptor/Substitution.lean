import Mathlib.Data.List.Basic
import ServiceBus.Proofs.Adaptor.Division

/-! # Templates are written back and rendered

A template that was read can be written back: that is its source but for the blanks inside the braces,
and it is read as the same template. What is rendered is the source with each placeholder, braces and
all, replaced by what is bound to its name.

* `Segment.content`: a segment without its line.
* `Piece.plain`: a piece without blanks inside the braces.
* `Template.parse_render`: what is read, written back, rendered and told of a bad placeholder. -/

namespace ServiceBus.Adaptor

variable {pieces : List Piece} {rest : List Char}

/-! ### Names of placeholders -/

/-- There are no blanks in the name of a placeholder. -/
theorem not_isBlank_of_isPlaceholderName {inner : List Char} (h : isPlaceholderName inner = true) :
    ∀ c ∈ inner, Text.isBlank c = false := by
  intro c hc
  rw [isPlaceholderName, Bool.and_eq_true, List.all_eq_true] at h
  have hname := h.2 c hc
  have hascii : c.toNat < 0x80 := by
    rw [Bool.or_eq_true] at hname
    rcases hname with hname | hname
    · apply Name.toNat_lt_of_isAlphanum
      show (c.isUpper || c.isLower || c.isDigit) = true
      rcases Bool.or_eq_true _ _ ▸ hname with hlower | hdigit
      · rw [hlower, Bool.or_true, Bool.true_or]
      · rw [hdigit, Bool.or_true]
    · rw [beq_iff_eq.mp hname]
      decide
  revert hname
  exact Name.forall_ascii (fun c => (c.isLower || c.isDigit || c == '_') = true →
    Text.isBlank c = false) (by decide) c hascii

/-- There are no braces in the name of a placeholder. -/
theorem not_mem_of_isPlaceholderName {inner : List Char} (h : isPlaceholderName inner = true) :
    '\x7d' ∉ inner := by
  intro hbrace
  unfold isPlaceholderName at h
  rw [Bool.and_eq_true, List.all_eq_true] at h
  exact absurd (h.2 _ hbrace) (by decide)

namespace Piece

variable {p : Piece}

/-- The piece without blanks inside the braces. -/
def plain (p : Piece) : Piece where
  before := p.before
  inner := p.name

/-- A name stays the same when the blanks around it are taken off again. -/
theorem WellFormed.name_plain (h : p.WellFormed) : p.plain.name = p.name :=
  Text.trimChars_of_not_isBlank (not_isBlank_of_isPlaceholderName h.name)

/-- A piece without blanks inside the braces is one. -/
theorem WellFormed.plain (h : p.WellFormed) : p.plain.WellFormed := by
  refine ⟨h.opens, noPair_of_not_mem (not_mem_of_isPlaceholderName h.name), ?_⟩
  rw [h.name_plain]
  exact h.name

/-- Nothing changes if there were no blanks. -/
theorem plain_of_not_isBlank (h : ∀ c ∈ p.inner, Text.isBlank c = false) : p.plain = p := by
  have hname : p.name = p.inner := Text.trimChars_of_not_isBlank h
  rw [Piece.plain, hname]

/-- The piece with a text in place of the placeholder. -/
def filled (bindings : Bindings) (p : Piece) : List Char :=
  p.before ++ ((bindings.lookup (String.ofList p.name)).getD "").toList

end Piece

/-! ### What segments give -/

/-- What the segments of pieces give, if it does not depend on their lines. -/
theorem flatMap_segmentsFrom {α : Type} {f : Segment → List α} {g : String → List α}
    (hg : ∀ name line, f (.placeholder name line) = g name) (line : Nat) :
    (segmentsFrom line pieces).flatMap f =
      pieces.flatMap fun p => (textSegment p.before).flatMap f ++ g (String.ofList p.name) := by
  induction pieces generalizing line with
  | nil => rfl
  | cons p pieces ih =>
    rw [segmentsFrom, List.flatMap_append, ih, List.flatMap_cons, Piece.segments,
      List.flatMap_append]
    simp [hg]

/-- A text gives its characters. -/
theorem flatMap_textSegment {f : Segment → List Char} (hf : ∀ s, f (.text s) = s.toList)
    (cs : List Char) : (textSegment cs).flatMap f = cs := by
  unfold textSegment
  split <;> simp_all

/-- A segment without its line: a text, or the name of a placeholder. -/
def Segment.content : Segment → String ⊕ String
  | .text s => .inl s
  | .placeholder name _ => .inr name

/-- The texts and the names of pieces with a rest behind them. -/
def contents (pieces : List Piece) (rest : List Char) : List (String ⊕ String) :=
  (pieces.flatMap fun p =>
      (textSegment p.before).map Segment.content ++ [.inr (String.ofList p.name)]) ++
    (textSegment rest).map Segment.content

/-- The texts and the names do not depend on lines. -/
theorem map_content (line : Nat) :
    (segmentsFrom line pieces ++ textSegment rest).map Segment.content = contents pieces rest := by
  rw [List.map_append, List.map_eq_flatMap,
    flatMap_segmentsFrom (g := fun name => [.inr name]) (fun _ _ => rfl)]
  simp only [contents, ← List.map_eq_flatMap]

/-- The texts and the names are those of the pieces without blanks. -/
theorem contents_plain (h : ∀ p ∈ pieces, p.WellFormed) :
    contents (pieces.map Piece.plain) rest = contents pieces rest := by
  unfold contents
  rw [List.flatMap_map]
  congr 1
  apply List.flatMap_congr
  intro p hp
  rw [(h p hp).name_plain]
  rfl

namespace Template

variable {name : String} {t : Template}

/-- The template of pieces. -/
def ofPieces (name : String) (pieces : List Piece) (rest : List Char) : Template where
  name
  segments := segmentsFrom 1 pieces ++ textSegment rest

/-- A template is written as its pieces without blanks. -/
theorem toList_source_ofPieces :
    (ofPieces name pieces rest).source.toList =
      (pieces.map Piece.plain).flatMap Piece.written ++ rest := by
  unfold source ofPieces
  rw [String.toList_join, List.flatMap_map, List.flatMap_append,
    flatMap_segmentsFrom (g := fun name => '\x7b' :: '\x7b' :: (name.toList ++ ['\x7d', '\x7d']))
      (fun _ _ => by simp [Segment.source]),
    flatMap_textSegment fun _ => rfl, List.flatMap_map]
  congr 1
  apply List.flatMap_congr
  intro p hp
  rw [flatMap_textSegment fun _ => rfl]
  simp [Piece.written, Piece.plain]

/-- The names of the placeholders are those of the pieces. -/
theorem placeholders_ofPieces :
    (ofPieces name pieces rest).placeholders = pieces.map fun p => String.ofList p.name := by
  have htext : ∀ cs, (textSegment cs).flatMap (fun s => (Segment.name? s).toList) = [] := by
    intro cs
    unfold textSegment
    split <;> rfl
  rw [placeholders_eq, List.filterMap_eq_flatMap_toList]
  unfold ofPieces
  rw [List.flatMap_append, htext, List.append_nil,
    flatMap_segmentsFrom (g := fun name => [name]) (fun _ _ => rfl)]
  simp [htext, List.map_eq_flatMap]

/-- A template is rendered as its pieces with texts in place of the placeholders. -/
theorem render_ofPieces (bindings : Bindings) :
    (ofPieces name pieces rest).render bindings =
      match firstUnbound? bindings (pieces.map fun p => String.ofList p.name) with
      | none => .ok (String.ofList (pieces.flatMap (Piece.filled bindings) ++ rest))
      | some placeholder => .error (.unbound name placeholder) := by
  have hfilled : String.join ((ofPieces name pieces rest).segments.map (Segment.fill bindings)) =
      String.ofList (pieces.flatMap (Piece.filled bindings) ++ rest) := by
    apply String.toList_inj.mp
    rw [String.toList_join, String.toList_ofList, List.flatMap_map]
    unfold ofPieces
    rw [List.flatMap_append,
      flatMap_segmentsFrom (g := fun name => ((bindings.lookup name).getD "").toList)
        (fun _ _ => rfl),
      flatMap_textSegment fun _ => rfl]
    congr 1
    apply List.flatMap_congr
    intro p hp
    rw [flatMap_textSegment fun _ => rfl]
    rfl
  rw [render_eq, placeholders_ofPieces, hfilled]
  rfl

/-- **A template that is written back** is read as the same texts and names. -/
theorem parse_source_ofPieces (name : String) (h : ∀ p ∈ pieces, p.WellFormed)
    (hrest : NoPair '\x7b' rest) :
    parse name (ofPieces name pieces rest).source =
      .ok (ofPieces name (pieces.map Piece.plain) rest) := by
  refine parse_ok_iff.mpr ⟨pieces.map Piece.plain, rest, ⟨toList_source_ofPieces, ?_⟩, hrest, rfl⟩
  intro p hp
  obtain ⟨q, hq, rfl⟩ := List.mem_map.mp hp
  exact (h q hq).plain

/-- **A template without blanks inside the braces** is written back as its source. -/
theorem source_ofPieces {source : String} (hdivided : Divided source.toList pieces rest)
    (hblank : ∀ p ∈ pieces, ∀ c ∈ p.inner, Text.isBlank c = false) :
    (ofPieces name pieces rest).source = source := by
  have hplain : pieces.map Piece.plain = pieces := by
    calc pieces.map Piece.plain = pieces.map id :=
          List.map_congr_left fun p hp => Piece.plain_of_not_isBlank (hblank p hp)
      _ = pieces := List.map_id pieces
  apply String.toList_inj.mp
  rw [toList_source_ofPieces, hplain, hdivided.whole]

/-- **What becomes of the source of a template.** If it is read, it is divided into pieces and a rest
without a pair of opening braces. Then the template can be written back, which gives the same texts
and names again, and the source itself if there are no blanks inside the braces; and it is rendered
by putting the value of each name in place of its placeholder, unless a name has none, of which the
first is told. If it is not read, the error is that of the first bad placeholder behind pieces, on
the line on which its braces open. -/
theorem parse_render (name source : String) :
    (∀ t, parse name source = .ok t →
      ∃ pieces rest, Divided source.toList pieces rest ∧ NoPair '\x7b' rest ∧
        t.segments.map Segment.content = contents pieces rest ∧
        (∃ again, parse name t.source = .ok again ∧
          again.segments.map Segment.content = t.segments.map Segment.content) ∧
        ((∀ p ∈ pieces, ∀ c ∈ p.inner, Text.isBlank c = false) → t.source = source) ∧
        ∀ bindings, t.render bindings =
          match firstUnbound? bindings (pieces.map fun p => String.ofList p.name) with
          | none => .ok (String.ofList (pieces.flatMap (Piece.filled bindings) ++ rest))
          | some placeholder => .error (.unbound name placeholder)) ∧
    (∀ e, parse name source = .error e ↔
      ∃ pieces rest before tail cause, Divided source.toList pieces rest ∧
        StopsAt rest before tail cause ∧
        e = .parse name (1 + lineBreaks (pieces.flatMap Piece.written ++ before)) cause) := by
  refine ⟨?_, fun e => parse_error_iff⟩
  intro t ht
  obtain ⟨pieces, rest, hdivided, hrest, rfl⟩ := parse_ok_iff.mp ht
  have hagain := parse_source_ofPieces name hdivided.wellFormed hrest
  refine ⟨pieces, rest, hdivided, hrest, map_content 1, ⟨_, hagain, ?_⟩,
    source_ofPieces hdivided, render_ofPieces⟩
  show (segmentsFrom 1 (pieces.map Piece.plain) ++ textSegment rest).map Segment.content =
    (segmentsFrom 1 pieces ++ textSegment rest).map Segment.content
  rw [map_content, map_content, contents_plain hdivided.wellFormed]

-- The name of the first placeholder spans a line.
example : parse "t" "a\x7b\x7b b\n\x7d\x7d\n\x7b\x7bc" = .error (.parse "t" 3 .unterminated) := by
  decide +kernel

end Template

end ServiceBus.Adaptor
