import Mathlib.Data.List.Infix
import ServiceBus.Proofs.Wire.Truncation

/-! # Messages of scalar fields

A message whose fields are texts and numbers is read back as it was written, two messages one after
the other are read as the first overlaid with the second, and a message that is cut off is never read
as the whole one.

* `Scalar`: a field that holds a text or a number, with its bytes (`Scalar.write`), what reading these
  does (`Scalar.move`), and whether their length can be told (`Scalar.Fits`).
* `Flat`: a message of such fields, written one after another.
* `Flat.decode_encode_append`: the wire forms of two values, one after the other.
* `Flat.decode_cut`: the wire form of a value that is cut off. -/

namespace ServiceBus.Wire

variable {α : Type} {depth n : Nat} {bytes more rest : Bytes} {v w acc : α}

/-! ### Scalar fields -/

/-- A field that holds a text or a number: its tag and name, what a value has in it, and how it is
set. -/
inductive Scalar (α : Type) where
  | text (tag : Nat) (name : String) (get : α → String) (set : String → α → α)
  | number (tag : Nat) (name : String) (get : α → Nat) (set : Nat → α → α)

namespace Scalar

/-- The tag of the field. -/
def tag : Scalar α → Nat
  | text tag .. => tag
  | number tag .. => tag

/-- The wire type of the field. -/
def wireType : Scalar α → WireType
  | text .. => .lengthDelimited
  | number .. => .varint

/-- How the field is read. -/
def rule : Scalar α → FieldRule α
  | text tag name _ set => ⟨tag, name, .text set⟩
  | number tag name _ set => ⟨tag, name, .number set⟩

/-- Whether the value has the default in the field. -/
def IsDefault (v : α) : Scalar α → Prop
  | text _ _ get _ => get v = ""
  | number _ _ get _ => get v = 0

instance (v : α) : DecidablePred (IsDefault v)
  | text _ _ get _ => inferInstanceAs (Decidable (get v = ""))
  | number _ _ get _ => inferInstanceAs (Decidable (get v = 0))

/-- Whether the length of the text, or the number itself, is one of 64 bits. -/
def Fits (v : α) : Scalar α → Prop
  | text _ _ get _ => (Text.utf8 (get v)).length < 2 ^ 64
  | number _ _ get _ => get v < 2 ^ 64

instance (v : α) : DecidablePred (Fits v)
  | text _ _ get _ => inferInstanceAs (Decidable ((Text.utf8 (get v)).length < 2 ^ 64))
  | number _ _ get _ => inferInstanceAs (Decidable (get v < 2 ^ 64))

/-- What stands behind the key of the field. -/
def payload (v : α) : Scalar α → Bytes
  | text _ _ get _ => delimited (Text.utf8 (get v))
  | number _ _ get _ => varint (get v)

/-- The bytes of the field; a default has none. -/
def write (v : α) : Scalar α → Bytes
  | text tag _ get _ => textField tag (get v)
  | number tag _ get _ => numberField tag (get v)

/-- Sets the field to what `v` has in it. -/
def copy (v acc : α) : Scalar α → α
  | text _ _ get set => set (get v) acc
  | number _ _ get set => set (get v) acc

/-- What reading the bytes of the field does. -/
def move (v acc : α) (s : Scalar α) : α :=
  if s.IsDefault v then acc else s.copy v acc

theorem write_of_isDefault {s : Scalar α} (h : s.IsDefault v) : s.write v = [] := by
  cases s with
  | text tag name get set => exact if_pos (String.isEmpty_iff.mpr h)
  | number tag name get set => exact if_pos h

theorem write_of_not_isDefault {s : Scalar α} (h : ¬ s.IsDefault v) :
    s.write v = fieldKey s.tag s.wireType ++ s.payload v := by
  cases s with
  | text tag name get set => exact if_neg fun he => h (String.isEmpty_iff.mp he)
  | number tag name get set => exact if_neg h

/-- A default has no bytes to be too long. -/
theorem fits_of_isDefault {s : Scalar α} (h : s.IsDefault v) : s.Fits v := by
  cases s with
  | text tag name get set =>
    show (Text.utf8 (get v)).length < _
    rw [show get v = "" from h]
    decide
  | number tag name get set =>
    show get v < _
    rw [show get v = 0 from h]
    decide

/-- Reading a field leaves another one empty if setting it does. -/
theorem isDefault_move {first later : Scalar α}
    (hcopy : later.IsDefault acc → later.IsDefault (first.copy v acc)) (h : later.IsDefault acc) :
    later.IsDefault (first.move v acc) := by
  rw [move]
  split
  · exact h
  · exact hcopy h

/-- **The bytes behind the key are read back** if their length can be told. -/
theorem read_payload (s : Scalar α) (depth : Nat) (v acc : α) (rest : Bytes) :
    s.rule.read depth s.wireType acc (s.payload v ++ rest) =
      if s.Fits v then .ok (s.copy v acc, rest) else .error { cause := .invalidVarint } := by
  cases s with
  | text tag name get set => exact FieldReader.text_delimited set depth acc (get v) rest
  | number tag name get set => exact FieldReader.number_varint set depth acc (get v) rest

/-- The bytes behind the key are read alike where more bytes follow. -/
theorem settles_read (s : Scalar α) (depth : Nat) (acc : α) :
    (s.rule.read depth s.wireType acc).Settles := by
  cases s with
  | text tag name get set => exact FieldReader.settles_text set depth .lengthDelimited acc
  | number tag name get set => exact FieldReader.settles_number set depth .varint acc

/-- A field that is written has a key at least. -/
theorem write_ne_nil {s : Scalar α} (hv : ¬ s.IsDefault v) : s.write v ≠ [] := by
  rw [write_of_not_isDefault hv, fieldKey, varint]
  refine List.append_ne_nil_of_left_ne_nil ?_ _
  split <;> exact List.cons_ne_nil _ _

end Scalar

/-! ### Flat messages -/

/-- The bytes of the fields, one after another. -/
def written (scalars : List (Scalar α)) (v : α) : Bytes :=
  scalars.flatMap (Scalar.write v)

/-- What reading the bytes of the fields does. -/
def moved (scalars : List (Scalar α)) (v acc : α) : α :=
  scalars.foldl (Scalar.move v) acc

theorem written_cons (s : Scalar α) (scalars : List (Scalar α)) (v : α) :
    written (s :: scalars) v = s.write v ++ written scalars v :=
  List.flatMap_cons

/-- **A message of scalar fields**, which are known to its layout and written one after another. Reading
a field leaves the fields behind it empty, and all of them together make the value. -/
structure Flat (α : Type) [WireMessage α] where
  /-- The fields, in the order in which they are written. -/
  scalars : List (Scalar α)
  known : ∀ s ∈ scalars, 0 < s.tag ∧ s.tag < 2 ^ 29 ∧
    (WireMessage.layout : Layout α).fields.find? (fun rule => rule.tag == s.tag) = some s.rule
  encode_eq (v : α) : WireMessage.encode v = written scalars v
  empty : ∀ s ∈ scalars, s.IsDefault (WireMessage.empty : α)
  apart : scalars.Pairwise fun first later =>
    ∀ v acc, later.IsDefault acc → later.IsDefault (first.move v acc)
  whole (v : α) : moved scalars v WireMessage.empty = v

namespace Flat

variable [WireMessage α] {flat : Flat α} {s : Scalar α} {scalars : List (Scalar α)}

/-- Whether the lengths of all fields can be told. -/
def Fits (flat : Flat α) (v : α) : Prop :=
  ∀ s ∈ flat.scalars, s.Fits v

/-- How the message goes on behind the fields that are read. -/
abbrev readFrom (depth n : Nat) (acc : α) (bytes : Bytes) : Except DecodeError (α × Bytes) :=
  Layout.readUntil ((WireMessage.layout : Layout α).readField depth) 0 n acc bytes

/-! ### Reading what was written -/

/-- A field that is not a default is read by its rule. -/
theorem readField_write (hs : s ∈ flat.scalars) (hv : ¬ s.IsDefault v) :
    (WireMessage.layout : Layout α).readField depth acc (s.write v ++ rest) =
      if s.Fits v then .ok (s.copy v acc, rest)
      else .error ⟨[⟨(WireMessage.layout : Layout α).name, s.rule.name⟩], .invalidVarint⟩ := by
  obtain ⟨hpos, hlt, hrule⟩ := flat.known s hs
  rw [Scalar.write_of_not_isDefault hv, List.append_assoc, Layout.readField_fieldKey hrule hpos hlt,
    Reader.inField, Scalar.read_payload]
  by_cases hfits : s.Fits v
  · rw [if_pos hfits, if_pos hfits]
  · rw [if_neg hfits, if_neg hfits]
    rfl

/-- A field that is not a default takes one turn to read. -/
theorem readFrom_write_succ (hs : s ∈ flat.scalars) (hv : ¬ s.IsDefault v) :
    readFrom depth (n + 1) acc (s.write v ++ rest) =
      if s.Fits v then readFrom depth n (s.copy v acc) rest
      else .error ⟨[⟨(WireMessage.layout : Layout α).name, s.rule.name⟩], .invalidVarint⟩ := by
  rw [readFrom, Layout.readUntil_cons acc
    (List.append_ne_nil_of_left_ne_nil (Scalar.write_ne_nil hv) rest), readField_write hs hv]
  by_cases hfits : s.Fits v
  · rw [if_pos hfits, if_pos hfits]
    rfl
  · rw [if_neg hfits, if_neg hfits]
    rfl

/-- **The bytes of one field are read back**, and what stands behind them is left. -/
theorem readFrom_write (depth : Nat) (acc : α) (hs : s ∈ flat.scalars) (hfits : s.Fits v)
    (hn : (s.write v ++ rest).length < n) : ∃ m, rest.length < m ∧
      readFrom depth n acc (s.write v ++ rest) = readFrom depth m (s.move v acc) rest := by
  by_cases hv : s.IsDefault v
  · rw [Scalar.write_of_isDefault hv, List.nil_append] at hn ⊢
    rw [Scalar.move, if_pos hv]
    exact ⟨n, hn, rfl⟩
  · obtain ⟨m, rfl⟩ : ∃ m, n = m + 1 := ⟨n - 1, by omega⟩
    have hpos := List.length_pos_iff.mpr (Scalar.write_ne_nil hv)
    rw [List.length_append] at hn
    rw [readFrom_write_succ hs hv, if_pos hfits, Scalar.move, if_neg hv]
    exact ⟨m, by omega, rfl⟩

/-- A field whose length cannot be told is refused. -/
theorem readFrom_write_of_not_fits (hs : s ∈ flat.scalars) (hfits : ¬ s.Fits v)
    (hn : (s.write v ++ rest).length < n) :
    ∃ e, readFrom depth n acc (s.write v ++ rest) = .error e := by
  obtain ⟨m, rfl⟩ : ∃ m, n = m + 1 := ⟨n - 1, by omega⟩
  rw [readFrom_write_succ hs fun hv => hfits (Scalar.fits_of_isDefault hv), if_neg hfits]
  exact ⟨_, rfl⟩

/-- **The bytes of several fields are read back**, one after the other. -/
theorem readFrom_written (hs : ∀ s ∈ scalars, s ∈ flat.scalars) (hfits : ∀ s ∈ scalars, s.Fits v)
    (hn : (written scalars v ++ rest).length < n) : ∃ m, rest.length < m ∧
      readFrom depth n acc (written scalars v ++ rest) =
        readFrom depth m (moved scalars v acc) rest := by
  induction scalars generalizing acc n with
  | nil => exact ⟨n, hn, rfl⟩
  | cons s scalars ih =>
    rw [List.forall_mem_cons] at hs hfits
    rw [written_cons, List.append_assoc] at hn ⊢
    obtain ⟨k, hk, hread⟩ := readFrom_write depth acc hs.1 hfits.1 hn
    obtain ⟨m, hm, hreadAll⟩ := ih hs.2 hfits.2 hk
    exact ⟨m, hm, hread.trans hreadAll⟩

/-- Fields of which one has a length that cannot be told are refused. -/
theorem readFrom_written_of_not_fits (hs : ∀ s ∈ scalars, s ∈ flat.scalars)
    (hfits : ¬ ∀ s ∈ scalars, s.Fits v) (hn : (written scalars v ++ rest).length < n) :
    ∃ e, readFrom depth n acc (written scalars v ++ rest) = .error e := by
  induction scalars generalizing acc n with
  | nil => exact absurd (List.forall_mem_nil _) hfits
  | cons s scalars ih =>
    rw [List.forall_mem_cons] at hs hfits
    rw [written_cons, List.append_assoc] at hn ⊢
    by_cases hfirst : s.Fits v
    · obtain ⟨k, hk, hread⟩ := readFrom_write depth acc hs.1 hfirst hn
      rw [hread]
      exact ih hs.2 (fun hlater => hfits ⟨hfirst, hlater⟩) hk
    · exact readFrom_write_of_not_fits hs.1 hfirst hn

/-- What the bytes of a message are read as. -/
theorem decode_eq (bytes : Bytes) : (Wire.decode bytes : Except DecodeError α) =
    (readFrom nestingLimit (bytes.length + 1) WireMessage.empty bytes).map Prod.fst := rfl

/-- **The wire form of a value is read back** exactly if the lengths of all fields can be told. -/
theorem decode_encode (flat : Flat α) (v : α) :
    Wire.decode (WireMessage.encode v) = .ok v ↔ flat.Fits v := by
  have hn := Nat.lt_succ_self (written flat.scalars v ++ []).length
  have hbytes : WireMessage.encode v = written flat.scalars v ++ [] := by
    rw [flat.encode_eq, List.append_nil]
  rw [hbytes, decode_eq]
  refine ⟨fun h => ?_, fun hfits => ?_⟩
  · by_contra hfits
    obtain ⟨e, he⟩ := readFrom_written_of_not_fits (fun _ hs => hs) hfits hn
    rw [he] at h
    cases h
  · obtain ⟨m, -, hread⟩ := readFrom_written (fun _ hs => hs) hfits hn
    rw [hread, readFrom, Layout.readUntil_nil, flat.whole]
    rfl

/-- **The wire forms of two values, one after the other**, are read as the first with what the second
has that is no default, exactly if the lengths of all fields can be told. -/
theorem decode_encode_append (flat : Flat α) (v w : α) :
    Wire.decode (WireMessage.encode v ++ WireMessage.encode w) = .ok (moved flat.scalars w v) ↔
      flat.Fits v ∧ flat.Fits w := by
  have hn := Nat.lt_succ_self
    (written flat.scalars v ++ (written flat.scalars w ++ [])).length
  have hbytes : WireMessage.encode v ++ WireMessage.encode w =
      written flat.scalars v ++ (written flat.scalars w ++ []) := by
    rw [flat.encode_eq, flat.encode_eq, List.append_nil]
  rw [hbytes, decode_eq]
  by_cases hv : flat.Fits v
  · obtain ⟨m, hm, hread⟩ := readFrom_written (fun _ hs => hs) hv hn
    rw [hread, flat.whole]
    refine ⟨fun h => ⟨hv, ?_⟩, fun hfits => ?_⟩
    · by_contra hw
      obtain ⟨e, he⟩ := readFrom_written_of_not_fits (fun _ hs => hs) hw hm
      rw [he] at h
      cases h
    · obtain ⟨k, -, hreadAll⟩ := readFrom_written (fun _ hs => hs) hfits.2 hm
      rw [hreadAll, readFrom, Layout.readUntil_nil]
      rfl
  · obtain ⟨e, he⟩ := readFrom_written_of_not_fits (fun _ hs => hs) hv hn
    rw [he]
    refine ⟨fun h => ?_, fun hfits => absurd hfits.1 hv⟩
    cases h

/-! ### Reading what is cut off -/

/-- Two ways of cutting one list: the first part of one is as long as that of the other at least, or a
part of it is missing. -/
theorem append_eq_append_cases {first : Bytes} (h : bytes ++ more = first ++ rest) :
    (∃ later, bytes = first ++ later ∧ later ++ more = rest) ∨
      ∃ cut, cut ≠ [] ∧ bytes ++ cut = first := by
  rcases List.append_eq_append_iff.mp h with ⟨cut, hfirst, hmore⟩ | ⟨later, hbytes, hrest⟩
  · rcases eq_or_ne cut [] with rfl | hne
    · rw [List.append_nil] at hfirst
      exact Or.inl ⟨[], by rw [hfirst, List.append_nil], hmore⟩
    · exact Or.inr ⟨cut, hne, hfirst.symm⟩
  · exact Or.inl ⟨later, hbytes, hrest.symm⟩

/-- A field that is cut off is refused. -/
theorem readField_cut (depth : Nat) (acc : α) (hs : s ∈ flat.scalars) (hv : ¬ s.IsDefault v)
    (hcut : bytes ++ more = s.write v) (hmore : more ≠ []) :
    ∃ e, (WireMessage.layout : Layout α).readField depth acc bytes = .error e := by
  obtain ⟨hpos, hlt, hrule⟩ := flat.known s hs
  rw [Scalar.write_of_not_isDefault hv] at hcut
  refine Layout.readField_cut hrule hpos hlt (s.settles_read depth acc) (fun a rest hread => ?_)
    hcut hmore
  rw [← List.append_nil (s.payload v), Scalar.read_payload] at hread
  split at hread
  · cases hread
    rfl
  · cases hread

/-- Of a field that is cut off nothing is read. -/
theorem eq_of_cut (hs : s ∈ flat.scalars) (hn : bytes.length < n) (hcut : bytes ++ more = s.write v)
    (hmore : more ≠ []) {a : α} (hread : readFrom depth n acc bytes = .ok (a, rest)) : a = acc := by
  have hv : ¬ s.IsDefault v := fun hv => by
    rw [Scalar.write_of_isDefault hv] at hcut
    exact hmore (List.append_eq_nil_iff.mp hcut).2
  rcases eq_or_ne bytes [] with rfl | hne
  · rw [readFrom, Layout.readUntil_nil] at hread
    cases hread
    rfl
  · obtain ⟨m, rfl⟩ : ∃ m, n = m + 1 := ⟨n - 1, by omega⟩
    obtain ⟨e, he⟩ := readField_cut depth acc hs hv hcut hmore
    rw [readFrom, Layout.readUntil_cons acc hne, he] at hread
    cases hread

/-- **Where the bytes of several fields are cut off**, one of them that is no default is not read. -/
theorem isDefault_of_cut (hs : ∀ s ∈ scalars, s ∈ flat.scalars)
    (hapart : scalars.Pairwise fun first later =>
      ∀ v acc, later.IsDefault acc → later.IsDefault (first.move v acc))
    (hempty : ∀ s ∈ scalars, s.IsDefault acc) (hn : bytes.length < n)
    (hcut : bytes ++ more = written scalars v) (hmore : more ≠ []) {a : α}
    (hread : readFrom depth n acc bytes = .ok (a, rest)) :
    ∃ s ∈ scalars, s.IsDefault a ∧ ¬ s.IsDefault v := by
  induction scalars generalizing acc n bytes with
  | nil => exact absurd (List.append_eq_nil_iff.mp hcut).2 hmore
  | cons s scalars ih =>
    rw [List.forall_mem_cons] at hs hempty
    rw [List.pairwise_cons] at hapart
    rw [written_cons] at hcut
    rcases append_eq_append_cases hcut with ⟨later, rfl, hlater⟩ | ⟨cut, hcutne, hbytes⟩
    -- the first field is whole; past it the ones behind it are still empty
    · by_cases hfits : s.Fits v
      · obtain ⟨k, hk, hread'⟩ := readFrom_write depth acc hs.1 hfits hn
        rw [hread'] at hread
        obtain ⟨s', hs', hfound⟩ := ih hs.2 hapart.2
          (fun s' hs' => hapart.1 s' hs' v acc (hempty.2 s' hs')) hk hlater hread
        exact ⟨s', List.mem_cons_of_mem s hs', hfound⟩
      · obtain ⟨e, he⟩ := readFrom_write_of_not_fits hs.1 hfits hn
        rw [he] at hread
        cases hread
    · refine ⟨s, List.mem_cons_self, ?_, fun hv => ?_⟩
      · rw [eq_of_cut hs.1 hn hbytes hcutne hread]
        exact hempty.1
      · rw [Scalar.write_of_isDefault hv] at hbytes
        exact hcutne (List.append_eq_nil_iff.mp hbytes).2

/-- **The wire form of a value that is cut off** is not read as the value. -/
theorem decode_cut (flat : Flat α) (hcut : bytes <+: WireMessage.encode v)
    (hne : bytes ≠ WireMessage.encode v) : Wire.decode bytes ≠ .ok v := by
  intro h
  obtain ⟨more, hmore⟩ := hcut
  have hmorene : more ≠ [] := by
    rintro rfl
    exact hne (by rw [← hmore, List.append_nil])
  obtain ⟨rest, hread⟩ := Layout.read_eq_ok h
  rw [flat.encode_eq] at hmore
  obtain ⟨s, -, hdefault, hv⟩ := isDefault_of_cut (fun _ hs => hs) flat.apart flat.empty
    (Nat.lt_succ_self _) hmore hmorene hread
  exact hv hdefault

end Flat

end ServiceBus.Wire
