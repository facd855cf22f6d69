import ServiceBus.Proofs.Name.Words
import ServiceBus.Proofs.Adaptor.Rendering

/-! # How a template is divided

The source of a template is divided from the front: up to the next two opening braces there is text,
up to the next two closing ones what is inside a placeholder. The pieces say where a source was cut,
so what is read, what is told of a bad placeholder and what is rendered can be read off them.

* `NoPair`, `cutAtPair?_eq_some`: a text is cut at the first pair.
* `Piece`: a placeholder with the text in front of it, as it is written.
* `scan_pieces`: the segments of a source that begins with pieces.
* `exists_ending`: every source is divided up to its end or up to a bad placeholder.
* `Template.parse_ok_iff`, `Template.parse_error_iff`: what is read, and which error is told. -/

namespace ServiceBus

namespace Text

variable {cs : List Char}

/-- Nothing is taken off the front of characters that are no blanks. -/
theorem dropWhile_isBlank (h : ∀ c ∈ cs, isBlank c = false) : cs.dropWhile isBlank = cs := by
  cases cs with
  | nil => rfl
  | cons c cs => simp [h c List.mem_cons_self]

/-- The characters without the blanks at both ends. -/
def trimChars (cs : List Char) : List Char := trimEndChars (cs.dropWhile isBlank)

/-- The characters of a text without the blanks at both ends. -/
theorem toList_trim (cs : List Char) : (trim (String.ofList cs)).toList = trimChars cs := by
  simp [trim, trimChars]

/-- Nothing is taken off characters that are no blanks. -/
theorem trimChars_of_not_isBlank (h : ∀ c ∈ cs, isBlank c = false) : trimChars cs = cs := by
  have hreverse : ∀ c ∈ cs.reverse, isBlank c = false := fun c hc => h c (List.mem_reverse.mp hc)
  simp [trimChars, trimEndChars, dropWhile_isBlank h, dropWhile_isBlank hreverse]

end Text

namespace Adaptor

variable {c : Char} {cs before tail after inner : List Char} {line : Nat}

/-! ### Pairs -/

/-- The character is nowhere doubled. -/
def NoPair (c : Char) (cs : List Char) : Prop := ¬[c, c] <:+: cs

/-- A pair is at the front or behind the first character. -/
theorem noPair_cons_cons {a b : Char} :
    NoPair c (a :: b :: cs) ↔ ¬(a = c ∧ b = c) ∧ NoPair c (b :: cs) := by
  unfold NoPair
  rw [List.infix_cons_iff, not_or]
  simp [List.cons_prefix_cons, eq_comm]

/-- A single character is no pair. -/
theorem noPair_of_length_le (h : cs.length ≤ 1) : NoPair c cs := by
  intro hpair
  have hlength := hpair.length_le
  simp at hlength
  omega

/-- Characters that are not there are not doubled. -/
theorem noPair_of_not_mem (h : c ∉ cs) : NoPair c (cs ++ [c]) := by
  induction cs with
  | nil => exact noPair_of_length_le (by simp)
  | cons a cs ih =>
    rw [List.mem_cons, not_or] at h
    cases cs with
    | nil => exact noPair_cons_cons.mpr ⟨fun hpair => h.1 hpair.1.symm, ih h.2⟩
    | cons b cs => exact noPair_cons_cons.mpr ⟨fun hpair => h.1 hpair.1.symm, ih h.2⟩

/-- **A text is not cut** exactly if there is no pair. -/
theorem cutAtPair?_eq_none : cutAtPair? c cs = none ↔ NoPair c cs := by
  fun_induction cutAtPair? c cs with
  | case1 a b rest hab => simp [noPair_cons_cons, hab]
  | case2 a b rest hab ih => simp [noPair_cons_cons, hab, ih]
  | case3 cs hshort =>
    have hlength : cs.length ≤ 1 := by
      rcases cs with _ | ⟨a, _ | ⟨b, rest⟩⟩
      · simp
      · simp
      · exact absurd rfl (hshort a b rest)
    simp [noPair_of_length_le hlength]

/-- A text is cut in front of a pair if no pair begins before. -/
theorem cutAtPair?_append (after : List Char) (h : NoPair c (before ++ [c])) :
    cutAtPair? c (before ++ c :: c :: after) = some (before, after) := by
  induction before with
  | nil => simp [cutAtPair?]
  | cons a before ih =>
    -- The character behind this one is the next of the text or the first of the pair.
    cases before with
    | nil =>
      have hne : a ≠ c := by simpa using (noPair_cons_cons.mp h).1
      simp [cutAtPair?, hne]
    | cons b before =>
      obtain ⟨hne, hrest⟩ := noPair_cons_cons.mp h
      simp only [List.cons_append] at ih ⊢
      rw [cutAtPair?, if_neg hne, ih hrest]
      rfl

/-- **A text is cut at its first pair**: none is in front of it, not even together with its first
character. -/
theorem cutAtPair?_eq_some :
    cutAtPair? c cs = some (before, after) ↔
      cs = before ++ c :: c :: after ∧ NoPair c (before ++ [c]) := by
  constructor
  · intro h
    fun_induction cutAtPair? c cs generalizing before with
    | case1 a b rest hab =>
      obtain ⟨rfl, rfl⟩ := hab
      cases h
      exact ⟨rfl, noPair_of_length_le (by simp)⟩
    | case2 a b rest hab ih =>
      obtain ⟨⟨front, back⟩, hcut, heq⟩ := Option.map_eq_some_iff.mp h
      cases heq
      obtain ⟨hrest, hno⟩ := ih hcut
      refine ⟨by rw [hrest]; rfl, ?_⟩
      cases front with
      | nil =>
        obtain ⟨rfl, -⟩ := List.cons.inj hrest
        exact noPair_cons_cons.mpr ⟨hab, hno⟩
      | cons d front =>
        obtain ⟨rfl, -⟩ := List.cons.inj hrest
        exact noPair_cons_cons.mpr ⟨hab, hno⟩
    | case3 => cases h
  · rintro ⟨rfl, hno⟩
    exact cutAtPair?_append after hno

/-! ### Pieces -/

/-- The line breaks of two texts. -/
theorem lineBreaks_append (cs ds : List Char) :
    lineBreaks (cs ++ ds) = lineBreaks cs + lineBreaks ds := List.count_append

/-- A placeholder with the text in front of it. -/
structure Piece where
  before : List Char
  /-- What is between the braces. -/
  inner : List Char

namespace Piece

/-- A piece as it is written. -/
def written (p : Piece) : List Char := p.before ++ '\x7b' :: '\x7b' :: (p.inner ++ ['\x7d', '\x7d'])

/-- The name of the placeholder: what is inside without the blanks around it. -/
def name (p : Piece) : List Char := Text.trimChars p.inner

/-- The braces are the first pairs, and the name is one that a placeholder may have. -/
structure WellFormed (p : Piece) : Prop where
  opens : NoPair '\x7b' (p.before ++ ['\x7b'])
  closes : NoPair '\x7d' (p.inner ++ ['\x7d'])
  name : isPlaceholderName p.name = true

/-- The segments of a piece that begins on `line`. -/
def segments (line : Nat) (p : Piece) : List Segment :=
  textSegment p.before ++ [.placeholder (String.ofList p.name) (line + lineBreaks p.before)]

variable {p : Piece}

/-- The braces break no line. -/
theorem lineBreaks_written : lineBreaks p.written = lineBreaks p.before + lineBreaks p.inner := by
  simp [lineBreaks, written]

end Piece

/-- The segments of pieces, the first of which begins on `line`. -/
def segmentsFrom (line : Nat) : List Piece → List Segment
  | [] => []
  | p :: pieces => p.segments line ++ segmentsFrom (line + lineBreaks p.written) pieces

/-! ### Scanning -/

/-- A source without a pair of opening braces is a text. -/
theorem scan_of_noPair (h : NoPair '\x7b' cs) : scan line cs = .ok (textSegment cs) := by
  have hopen := cutAtPair?_eq_none.mpr h
  rw [scan]
  split <;> simp_all

/-- A placeholder is bad if its braces are not closed. -/
theorem scan_unterminated (hbefore : NoPair '\x7b' (before ++ ['\x7b'])) (htail : NoPair '\x7d' tail) :
    scan line (before ++ '\x7b' :: '\x7b' :: tail) =
      .error (line + lineBreaks before, .unterminated) := by
  have hopen := cutAtPair?_append tail hbefore
  have hclose := cutAtPair?_eq_none.mpr htail
  rw [scan]
  split
  · simp_all
  · rename_i before' tail' hopen'
    obtain ⟨rfl, rfl⟩ : before = before' ∧ tail = tail' := by simpa [hopen] using hopen'
    split <;> simp_all

/-- A placeholder whose braces are closed is bad if its name is. -/
theorem scan_closed (hbefore : NoPair '\x7b' (before ++ ['\x7b']))
    (hinner : NoPair '\x7d' (inner ++ ['\x7d'])) :
    scan line (Piece.written ⟨before, inner⟩ ++ after) =
      if isPlaceholderName (Piece.name ⟨before, inner⟩) then
        (scan (line + lineBreaks before + lineBreaks inner) after).map
          (Piece.segments line ⟨before, inner⟩ ++ ·)
      else .error (line + lineBreaks before, .malformed (String.ofList inner)) := by
  have hcs : Piece.written ⟨before, inner⟩ ++ after =
      before ++ '\x7b' :: '\x7b' :: (inner ++ '\x7d' :: '\x7d' :: after) := by simp [Piece.written]
  have hopen := cutAtPair?_append (inner ++ '\x7d' :: '\x7d' :: after) hbefore
  have hclose := cutAtPair?_append after hinner
  rw [hcs, scan]
  split
  · simp_all
  · rename_i before' tail' hopen'
    obtain ⟨rfl, rfl⟩ : before = before' ∧ inner ++ '\x7d' :: '\x7d' :: after = tail' := by
      simpa [hopen] using hopen'
    split
    · simp_all
    · rename_i inner' after' hclose'
      obtain ⟨rfl, rfl⟩ : inner = inner' ∧ after = after' := by simpa [hclose] using hclose'
      simp [Piece.name, Piece.segments, Text.toList_trim]

/-- **A scan of pieces** gives their segments in front of those of the rest. -/
theorem scan_pieces {pieces : List Piece} (h : ∀ p ∈ pieces, p.WellFormed) (line : Nat)
    (rest : List Char) :
    scan line (pieces.flatMap Piece.written ++ rest) =
      (scan (line + lineBreaks (pieces.flatMap Piece.written)) rest).map
        (segmentsFrom line pieces ++ ·) := by
  induction pieces generalizing line with
  | nil =>
    show scan line rest = (scan line rest).map _
    cases scan line rest <;> rfl
  | cons p pieces ih =>
    obtain ⟨hp, hpieces⟩ := List.forall_mem_cons.mp h
    rw [List.flatMap_cons, List.append_assoc, scan_closed hp.opens hp.closes, if_pos hp.name,
      ih hpieces]
    -- The lines of a piece are those of its text and of what is inside the braces.
    have hline : line + lineBreaks p.before + lineBreaks p.inner = line + lineBreaks p.written := by
      rw [Piece.lineBreaks_written, Nat.add_assoc]
    rw [hline, lineBreaks_append, ← Nat.add_assoc]
    cases scan (line + lineBreaks p.written + lineBreaks (pieces.flatMap Piece.written)) rest with
    | error e => rfl
    | ok more => simp [Except.map, segmentsFrom]

/-! ### Divisions -/

/-- A source begins with pieces, behind which there is a rest. -/
structure Divided (cs : List Char) (pieces : List Piece) (rest : List Char) : Prop where
  whole : cs = pieces.flatMap Piece.written ++ rest
  wellFormed : ∀ p ∈ pieces, p.WellFormed

/-- What stands behind opening braces is no placeholder. -/
inductive BadPlaceholder (tail : List Char) : PlaceholderError → Prop
  | unterminated (hno : NoPair '\x7d' tail) : BadPlaceholder tail .unterminated
  | malformed {inner after : List Char} (htail : tail = inner ++ '\x7d' :: '\x7d' :: after)
      (hinner : NoPair '\x7d' (inner ++ ['\x7d']))
      (hname : isPlaceholderName (Text.trimChars inner) = false) :
      BadPlaceholder tail (.malformed (String.ofList inner))

/-- Behind the pieces there is a bad placeholder. -/
structure StopsAt (rest before tail : List Char) (cause : PlaceholderError) : Prop where
  opens : rest = before ++ '\x7b' :: '\x7b' :: tail
  first : NoPair '\x7b' (before ++ ['\x7b'])
  bad : BadPlaceholder tail cause

/-- One more piece in front. -/
theorem Divided.cons {p : Piece} {pieces : List Piece} {rest : List Char}
    (h : Divided cs pieces rest) (hp : p.WellFormed) :
    Divided (p.written ++ cs) (p :: pieces) rest := by
  refine ⟨by rw [h.whole, List.flatMap_cons, List.append_assoc], ?_⟩
  exact List.forall_mem_cons.mpr ⟨hp, h.wellFormed⟩

/-- **Every source is divided**, up to its end or up to a bad placeholder. -/
theorem exists_ending (cs : List Char) :
    ∃ pieces rest, Divided cs pieces rest ∧
      (NoPair '\x7b' rest ∨ ∃ before tail cause, StopsAt rest before tail cause) := by
  -- By induction on the length: what is behind a piece is shorter.
  induction hlength : cs.length using Nat.strongRecOn generalizing cs with
  | ind n ih =>
    have hnone : Divided cs [] cs := ⟨rfl, by simp⟩
    cases hopen : cutAtPair? '\x7b' cs with
    | none => exact ⟨[], cs, hnone, Or.inl (cutAtPair?_eq_none.mp hopen)⟩
    | some cut =>
      obtain ⟨before, tail⟩ := cut
      obtain ⟨hcs, hbefore⟩ := cutAtPair?_eq_some.mp hopen
      cases hclose : cutAtPair? '\x7d' tail with
      | none =>
        have hbad := BadPlaceholder.unterminated (cutAtPair?_eq_none.mp hclose)
        exact ⟨[], cs, hnone, Or.inr ⟨before, tail, _, hcs, hbefore, hbad⟩⟩
      | some cut =>
        obtain ⟨inner, after⟩ := cut
        obtain ⟨htail, hinner⟩ := cutAtPair?_eq_some.mp hclose
        cases hname : isPlaceholderName (Text.trimChars inner) with
        | false =>
          have hbad := BadPlaceholder.malformed htail hinner hname
          exact ⟨[], cs, hnone, Or.inr ⟨before, tail, _, hcs, hbefore, hbad⟩⟩
        | true =>
          have hwhole : cs = Piece.written ⟨before, inner⟩ ++ after := by
            simp [hcs, htail, Piece.written]
          have hshorter : after.length < n := by
            rw [← hlength, hcs, htail]
            simp
            omega
          obtain ⟨pieces, rest, hafter, hending⟩ := ih _ hshorter after rfl
          refine ⟨⟨before, inner⟩ :: pieces, rest, ?_, hending⟩
          rw [hwhole]
          exact hafter.cons ⟨hbefore, hinner, hname⟩

/-- **A scan that goes well** gives the segments of the pieces and the text behind them. -/
theorem Divided.scan_ok {pieces : List Piece} {rest : List Char} (h : Divided cs pieces rest)
    (hrest : NoPair '\x7b' rest) (line : Nat) :
    scan line cs = .ok (segmentsFrom line pieces ++ textSegment rest) := by
  rw [h.whole, scan_pieces h.wellFormed, scan_of_noPair hrest]
  rfl

/-- **A scan that does not** tells the line on which the bad placeholder begins. -/
theorem Divided.scan_error {pieces : List Piece} {rest : List Char} {cause : PlaceholderError}
    (h : Divided cs pieces rest) (hstops : StopsAt rest before tail cause) (line : Nat) :
    scan line cs =
      .error (line + lineBreaks (pieces.flatMap Piece.written ++ before), cause) := by
  rw [h.whole, scan_pieces h.wellFormed, hstops.opens, lineBreaks_append, ← Nat.add_assoc]
  cases hstops.bad with
  | unterminated hno =>
    rw [scan_unterminated hstops.first hno]
    rfl
  | malformed htail hinner hname =>
    rename_i inner after
    have hwritten : before ++ '\x7b' :: '\x7b' :: tail =
        Piece.written ⟨before, inner⟩ ++ after := by simp [htail, Piece.written]
    rw [hwritten, scan_closed hstops.first hinner]
    simp [Piece.name, hname, Except.map]

namespace Template

variable {name source : String} {t : Template} {e : TemplateError}

/-- **What is read**: the segments of the pieces of a source that ends behind them. -/
theorem parse_ok_iff :
    parse name source = .ok t ↔
      ∃ pieces rest, Divided source.toList pieces rest ∧ NoPair '\x7b' rest ∧
        t = { name, segments := segmentsFrom 1 pieces ++ textSegment rest } := by
  constructor
  · intro h
    obtain ⟨pieces, rest, hdivided, hrest | ⟨before, tail, cause, hstops⟩⟩ :=
      exists_ending source.toList
    · refine ⟨pieces, rest, hdivided, hrest, ?_⟩
      simp only [parse, hdivided.scan_ok hrest] at h
      exact (Except.ok.inj h).symm
    · simp [parse, hdivided.scan_error hstops] at h
  · rintro ⟨pieces, rest, hdivided, hrest, rfl⟩
    simp [parse, hdivided.scan_ok hrest]

/-- **Which error is told**: that of the first bad placeholder behind pieces, with the line on which
its braces open. -/
theorem parse_error_iff :
    parse name source = .error e ↔
      ∃ pieces rest before tail cause, Divided source.toList pieces rest ∧
        StopsAt rest before tail cause ∧
        e = .parse name (1 + lineBreaks (pieces.flatMap Piece.written ++ before)) cause := by
  constructor
  · intro h
    obtain ⟨pieces, rest, hdivided, hrest | ⟨before, tail, cause, hstops⟩⟩ :=
      exists_ending source.toList
    · simp [parse, hdivided.scan_ok hrest] at h
    · refine ⟨pieces, rest, before, tail, cause, hdivided, hstops, ?_⟩
      simp only [parse, hdivided.scan_error hstops] at h
      exact (Except.error.inj h).symm
  · rintro ⟨pieces, rest, before, tail, cause, hdivided, hstops, rfl⟩
    simp [parse, hdivided.scan_error hstops]

end Template

end Adaptor

end ServiceBus
