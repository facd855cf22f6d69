import ServiceBus.Proofs.Descriptor.Index

/-! # The module of a package, segment by segment

A package is written with a dot in front of each of its segments. A placed package decides for
itself and for those below it, but not for one that merely begins with the same characters.

* `ModuleMap.Around`: a package is the same as another or lies around it.
* `ModuleMap.nearest?_snoc`: one more segment.
* `ModuleMap.nearest?_eq_of_longest`: the longest placed package around a package.
* `ModuleMap.nearest?_congr`: other placed packages and their order do not count.
* `Settings.moduleFor_segments`: the module of a package, from that of the package around it. -/

namespace ServiceBus

namespace ModuleMap

variable {outer package segment rest : List Char} {module : String}
  {placed : List (String × String)} {e : String × String}

/-- A package is the same as another or lies around it: what the other adds begins with a dot. -/
def Around (outer package : List Char) : Prop := package = outer ∨ outer ++ ['.'] <+: package

/-! ### The part below a package -/

/-- What is below a package is empty or begins with a dot. -/
theorem below?_eq_some : below? outer package = some rest ↔
    package = outer ++ rest ∧ rest.head?.all (· == '.') = true := by
  unfold below?
  by_cases hfront : outer <+: package
  · obtain ⟨tail, rfl⟩ := hfront
    by_cases htail : tail.head?.all (· == '.') = true
    · simp [htail]
      grind
    · simp [htail]
      grind
  · have hno : ∀ tail, package ≠ outer ++ tail := by
      rintro tail rfl
      exact hfront (List.prefix_append outer tail)
    simp [hfront, hno]

/-- A package has a part below one that lies around it. -/
theorem around_iff : Around outer package ↔ ∃ rest, below? outer package = some rest := by
  simp only [below?_eq_some]
  constructor
  · rintro (rfl | ⟨tail, rfl⟩)
    · exact ⟨[], by simp⟩
    · exact ⟨'.' :: tail, by simp⟩
  · rintro ⟨rest, rfl, hrest⟩
    cases rest with
    | nil => exact Or.inl (by simp)
    | cons c tail =>
      have hc : c = '.' := by simpa using hrest
      exact Or.inr ⟨tail, by simp [hc]⟩

/-- A package has no part below one that does not lie around it. -/
theorem below?_eq_none : below? outer package = none ↔ ¬Around outer package := by
  rw [around_iff, ← Option.isSome_iff_exists, Option.not_isSome_iff_eq_none]

/-- Nothing is below a package in itself. -/
theorem below?_self (package : List Char) : below? package package = some [] := by
  simp [below?_eq_some]

/-- **One more segment** is added to what is below a package, unless it is the last of that one. -/
theorem below?_snoc (hsegment : '.' ∉ segment) (hne : outer ≠ package ++ '.' :: segment) :
    below? outer (package ++ '.' :: segment) =
      (below? outer package).map (· ++ '.' :: segment) := by
  cases hpackage : below? outer package with
  | some rest =>
    obtain ⟨rfl, hrest⟩ := below?_eq_some.mp hpackage
    refine below?_eq_some.mpr ⟨by simp, ?_⟩
    cases rest with
    | nil => simp
    | cons c tail => simpa using hrest
  | none =>
    rw [Option.map_none, below?_eq_none]
    intro haround
    obtain ⟨rest, hrest⟩ := around_iff.mp haround
    obtain ⟨heq, hhead⟩ := below?_eq_some.mp hrest
    -- The dot that begins the rest is the one in front of the segment or an earlier one.
    rcases List.append_eq_append_iff.mp heq with ⟨mid, rfl, hmid⟩ | ⟨mid, rfl, rfl⟩
    · cases mid with
      | nil =>
        rw [List.append_nil, below?_self] at hpackage
        cases hpackage
      | cons c mid =>
        obtain ⟨rfl, rfl⟩ := List.cons.inj hmid
        cases rest with
        | nil => exact hne (by simp)
        | cons c tail =>
          have hc : c = '.' := by simpa using hhead
          exact hsegment (by simp [hc])
    · have hsome : below? outer (outer ++ mid) = some mid := by
        refine below?_eq_some.mpr ⟨rfl, ?_⟩
        cases mid with
        | nil => rfl
        | cons c tail => simpa using hhead
      rw [hsome] at hpackage
      cases hpackage

/-! ### The module below a module -/

/-- Nothing below a module. -/
@[simp] theorem extend_nil (module : String) : extend module [] = module := by
  simp [extend, Text.splitChars]

/-- **One more segment** of a package is one more of its module. -/
theorem extend_snoc (module : String) (rest : List Char) (hne : segment ≠ [])
    (hsegment : '.' ∉ segment) :
    extend module (rest ++ '.' :: segment) =
      extend module rest ++ "::" ++ moduleSegment (String.ofList segment) := by
  have hsplit : Text.splitChars (· == '.') (rest ++ '.' :: segment) =
      Text.splitChars (· == '.') rest ++ [segment] := by
    rw [Text.splitChars_append (by rfl)]
    congr 1
    apply Text.splitChars_eq_singleton
    intro c hc
    simp only [beq_eq_false_iff_ne]
    rintro rfl
    exact hsegment hc
  unfold extend
  simp [hsplit, hne, String.append_assoc]

/-! ### The nearest placed package -/

/-- A module and what is below it are those of the longest placed package around the given one. -/
structure Nearest (placed : List (String × String)) (package : List Char)
    (best : String × List Char) : Prop where
  /-- The package is placed in the module. -/
  isPlaced : ∃ e ∈ placed, e.2 = best.1 ∧ below? e.1.toList package = some best.2
  /-- No placed package has less below it. -/
  least : ∀ e ∈ placed, ∀ rest, below? e.1.toList package = some rest →
    best.2.length ≤ rest.length

/-- The nearest package is still the nearest beside one that has as much below it. -/
theorem Nearest.cons {best : String × List Char} (h : Nearest placed package best)
    (hentry : ∀ rest, below? e.1.toList package = some rest → best.2.length ≤ rest.length) :
    Nearest (e :: placed) package best := by
  obtain ⟨entry, hmem, hbest⟩ := h.isPlaced
  refine ⟨⟨entry, List.mem_cons_of_mem e hmem, hbest⟩, ?_⟩
  intro other hother
  rcases List.mem_cons.mp hother with rfl | hother
  · exact hentry
  · exact h.least other hother

/-- Nothing is found if no placed package lies around the given one. -/
theorem nearest?_eq_none :
    nearest? package placed = none ↔ ∀ e ∈ placed, ¬Around e.1.toList package := by
  simp only [← below?_eq_none]
  fun_induction nearest? package placed <;> simp_all

/-- **What is found** belongs to the longest placed package around the given one. -/
theorem nearest_of_nearest? {best : String × List Char}
    (h : nearest? package placed = some best) : Nearest placed package best := by
  fun_induction nearest? package placed generalizing best with
  | case1 => cases h
  | case2 outer module others hnone ih =>
    apply (ih h).cons
    simp [hnone]
  | case3 outer module others rest hothers hrest ih =>
    cases h
    refine ⟨⟨_, List.mem_cons_self, rfl, hrest⟩, ?_⟩
    intro entry hentry other hother
    rcases List.mem_cons.mp hentry with rfl | hentry
    · simp_all
    · have hnone := below?_eq_none.mpr (nearest?_eq_none.mp hothers entry hentry)
      simp [hnone] at hother
  | case4 outer module others rest other hothers hrest hle ih =>
    cases h
    apply (ih hothers).cons
    intro rest' hrest'
    simp_all
  | case5 outer module others rest other hothers hrest hlt ih =>
    cases h
    refine ⟨⟨_, List.mem_cons_self, rfl, hrest⟩, ?_⟩
    intro entry hentry rest' hrest'
    rcases List.mem_cons.mp hentry with rfl | hentry
    · simp_all
    · have hleast := (ih hothers).least entry hentry rest' hrest'
      simp only
      omega

/-- **One more segment** of a package that is not placed itself is one more below the nearest. -/
theorem nearest?_snoc (hsegment : '.' ∉ segment)
    (hplaced : ∀ e ∈ placed, e.1.toList ≠ package ++ '.' :: segment) :
    nearest? (package ++ '.' :: segment) placed =
      (nearest? package placed).map fun best => (best.1, best.2 ++ '.' :: segment) := by
  induction placed with
  | nil => rfl
  | cons entry others ih =>
    obtain ⟨hentry, hothers⟩ := List.forall_mem_cons.mp hplaced
    unfold nearest?
    rw [below?_snoc hsegment hentry, ih hothers]
    -- Each part has grown by the same characters, so the shorter one is still the shorter one.
    cases below? entry.1.toList package <;> cases nearest? package others <;> simp
    split <;> rfl

/-- What is nearest is nearest too among other packages, if the same of them lie around. -/
theorem Nearest.unique {placed' : List (String × String)} {best best' : String × List Char}
    (h : Nearest placed package best) (h' : Nearest placed' package best')
    (hsame : ∀ e, Around e.1.toList package → (e ∈ placed' ↔ e ∈ placed))
    (hunique : ∀ e ∈ placed, ∀ e' ∈ placed, e.1 = e'.1 → e = e') : best = best' := by
  obtain ⟨e, he, hmodule, hbelow⟩ := h.isPlaced
  obtain ⟨e', he', hmodule', hbelow'⟩ := h'.isPlaced
  have hin : e ∈ placed' := (hsame e (around_iff.mpr ⟨_, hbelow⟩)).mpr he
  have hin' : e' ∈ placed := (hsame e' (around_iff.mpr ⟨_, hbelow'⟩)).mp he'
  have hlength : best.2.length = best'.2.length :=
    le_antisymm (h.least e' hin' _ hbelow') (h'.least e hin _ hbelow)
  -- Two parts of one length are below one package.
  obtain ⟨heq, -⟩ := below?_eq_some.mp hbelow
  obtain ⟨heq', -⟩ := below?_eq_some.mp hbelow'
  obtain ⟨hkey, hrest⟩ := List.append_inj' (heq.symm.trans heq') hlength
  have hentry := hunique e he e' hin' (String.toList_inj.mp hkey)
  subst hentry
  exact Prod.ext (hmodule.symm.trans hmodule') hrest

/-- **Other packages and their order** do not count. -/
theorem nearest?_congr {placed' : List (String × String)}
    (hsame : ∀ e, Around e.1.toList package → (e ∈ placed' ↔ e ∈ placed))
    (hunique : ∀ e ∈ placed, ∀ e' ∈ placed, e.1 = e'.1 → e = e') :
    nearest? package placed' = nearest? package placed := by
  cases hnearest : nearest? package placed with
  | none =>
    rw [nearest?_eq_none] at hnearest ⊢
    intro e he haround
    exact hnearest e ((hsame e haround).mp he) haround
  | some best =>
    cases hnearest' : nearest? package placed' with
    | none =>
      obtain ⟨e, he, -, hbelow⟩ := (nearest_of_nearest? hnearest).isPlaced
      have haround := around_iff.mpr ⟨_, hbelow⟩
      exact absurd haround (nearest?_eq_none.mp hnearest' e ((hsame e haround).mpr he))
    | some best' =>
      rw [(nearest_of_nearest? hnearest).unique (nearest_of_nearest? hnearest') hsame hunique]

/-- **The longest placed package** around the given one is the nearest. -/
theorem nearest?_eq_of_longest (he : e ∈ placed) (hbelow : below? e.1.toList package = some rest)
    (hlongest : ∀ e' ∈ placed, Around e'.1.toList package → e'.1.length ≤ e.1.length)
    (hunique : ∀ e ∈ placed, ∀ e' ∈ placed, e.1 = e'.1 → e = e') :
    nearest? package placed = some (e.2, rest) := by
  have hlongest : Nearest placed package (e.2, rest) := by
    refine ⟨⟨e, he, rfl, hbelow⟩, ?_⟩
    intro e' he' other hother
    have hle := hlongest e' he' (around_iff.mpr ⟨_, hother⟩)
    obtain ⟨heq, -⟩ := below?_eq_some.mp hbelow
    obtain ⟨heq', -⟩ := below?_eq_some.mp hother
    have hlength := congrArg List.length (heq.symm.trans heq')
    simp only [List.length_append, String.length_toList] at hlength
    simp only
    omega
  cases hnearest : nearest? package placed with
  | none => exact absurd (around_iff.mpr ⟨_, hbelow⟩) (nearest?_eq_none.mp hnearest e he)
  | some best =>
    rw [(nearest_of_nearest? hnearest).unique hlongest (fun _ _ => Iff.rfl) hunique]

/-! ### The module of a package -/

/-- The placed packages ascend, and each has a dot in front. -/
structure Keyed (m : ModuleMap) : Prop where
  ascending : m.placed.Ascending
  dotted : ∀ e ∈ m.placed, ∃ rest, e.1.toList = '.' :: rest

variable {m : ModuleMap}

/-- The module of a package is that of the nearest placed package, with what is below it. -/
theorem moduleFor_eq (package : String) :
    m.moduleFor package =
      extend ((nearest? ('.' :: package.toList) m.placed).getD (m.root, '.' :: package.toList)).1
        ((nearest? ('.' :: package.toList) m.placed).getD (m.root, '.' :: package.toList)).2 := rfl

/-- A placed package is in its module. -/
theorem Keyed.moduleFor_of_mem {package : String} (hm : m.Keyed)
    (h : ("." ++ package, module) ∈ m.placed) : m.moduleFor package = module := by
  have hself : below? ("." ++ package).toList ('.' :: package.toList) = some [] := by
    simp [below?_self]
  have hlongest : ∀ e ∈ m.placed, Around e.1.toList ('.' :: package.toList) →
      e.1.length ≤ ("." ++ package).length := by
    intro e he haround
    obtain ⟨rest, hrest⟩ := around_iff.mp haround
    have hlength := congrArg List.length (below?_eq_some.mp hrest).1
    rw [← String.length_toList, ← String.length_toList, String.toList_append]
    simp only [List.length_append, List.length_cons] at hlength ⊢
    simp at hlength ⊢
    omega
  have hnearest := nearest?_eq_of_longest h hself hlongest
    fun _ he _ he' => hm.ascending.unique he he'
  simp [moduleFor_eq, hnearest]

/-- **A package that is not placed** is in the module of the package around it. -/
theorem moduleFor_snoc {package segment : String} (hne : segment ≠ "")
    (hsegment : '.' ∉ segment.toList)
    (h : ∀ e ∈ m.placed, e.1 ≠ "." ++ package ++ "." ++ segment) :
    m.moduleFor (package ++ "." ++ segment) =
      m.moduleFor package ++ "::" ++ moduleSegment segment := by
  have hchars : '.' :: (package ++ "." ++ segment).toList =
      ('.' :: package.toList) ++ '.' :: segment.toList := by simp
  have hnil : segment.toList ≠ [] := by simpa using hne
  have hplaced : ∀ e ∈ m.placed,
      e.1.toList ≠ ('.' :: package.toList) ++ '.' :: segment.toList := by
    intro e he heq
    apply h e he
    apply String.toList_inj.mp
    simp [heq]
  rw [moduleFor_eq, moduleFor_eq, hchars, nearest?_snoc hsegment hplaced]
  -- With no placed package around, the segments are below the root.
  cases nearest? ('.' :: package.toList) m.placed with
  | none => simpa using extend_snoc m.root ('.' :: package.toList) hnil hsegment
  | some best => simpa using extend_snoc best.1 best.2 hnil hsegment

/-- **A segment that is not placed** is in the module around all packages. -/
theorem Keyed.moduleFor_segment {segment : String} (hm : m.Keyed) (hne : segment ≠ "")
    (hsegment : '.' ∉ segment.toList) (h : ∀ e ∈ m.placed, e.1 ≠ "." ++ segment) :
    m.moduleFor segment = m.root ++ "::" ++ moduleSegment segment := by
  have hnil : segment.toList ≠ [] := by simpa using hne
  have hnone : nearest? ('.' :: segment.toList) m.placed = none := by
    rw [nearest?_eq_none]
    intro e he haround
    obtain ⟨key, hkey⟩ := hm.dotted e he
    obtain ⟨rest, hrest⟩ := around_iff.mp haround
    obtain ⟨heq, hhead⟩ := below?_eq_some.mp hrest
    rw [hkey, List.cons_append] at heq
    obtain ⟨-, hrest⟩ := List.cons.inj heq
    -- The segment has no dot with which a rest could begin.
    cases rest with
    | nil =>
      apply h e he
      apply String.toList_inj.mp
      simp_all
    | cons c tail =>
      have hc : c = '.' := by simpa using hhead
      exact hsegment (by simp [hrest, hc])
  have hroot := extend_snoc m.root [] hnil hsegment
  simpa [moduleFor_eq, hnone] using hroot

/-- **The longest placed package** around a package decides. -/
theorem Keyed.moduleFor_of_longest {package : String} (hm : m.Keyed) (he : e ∈ m.placed)
    (hlongest : ∀ e' ∈ m.placed, Around e'.1.toList ('.' :: package.toList) →
      e'.1.length ≤ e.1.length)
    (hbelow : below? e.1.toList ('.' :: package.toList) = some rest) :
    m.moduleFor package = extend e.2 rest := by
  have hnearest := nearest?_eq_of_longest he hbelow hlongest
    fun _ he _ he' => hm.ascending.unique he he'
  simp [moduleFor_eq, hnearest]

end ModuleMap

namespace Settings

open ModuleMap

/-- Packages that were checked have a dot in front. -/
theorem dotted_of_checkExternPaths {entries : List (String × String)}
    (h : checkExternPaths entries = .ok ()) :
    ∀ e ∈ entries, ∃ rest, e.1.toList = '.' :: rest := by
  induction entries with
  | nil => simp
  | cons entry entries ih =>
    obtain ⟨package, module⟩ := entry
    unfold checkExternPaths at h
    split at h
    · cases h
    · rename_i hdot
      split at h
      · cases h
      · refine List.forall_mem_cons.mpr ⟨?_, ih h⟩
        have hstarts : package.startsWith "." = true := by simpa using hdot
        obtain ⟨rest, hrest⟩ := String.startsWith_string_iff.mp hstarts
        exact ⟨rest, hrest.symm⟩

/-- **Checked settings** place packages by keys that ascend and begin with a dot. -/
theorem keyed_modules {s : Settings} (h : s.check = .ok ()) : s.modules.Keyed := by
  refine ⟨Text.Dictionary.ascending_extend (Text.Dictionary.ascending_singleton _) _, ?_⟩
  intro e he
  rcases Text.Dictionary.mem_extend he with he | he
  · rw [List.mem_singleton.mp he]
    exact ⟨_, rfl⟩
  · unfold check at h
    split at h
    · cases h
    · split at h
      · cases h
      · exact dotted_of_checkExternPaths h e he

/-- **The module of a package, segment by segment.** A package of checked settings is in its own
module if it is placed, and otherwise below the module of the package around it, or below the root if
it is a single segment. So the longest placed package around it decides, and neither placed packages
that do not lie around it nor the order of those that do count. -/
theorem moduleFor_segments {s : Settings} (h : s.check = .ok ()) :
    (∀ package segment : String, segment ≠ "" → '.' ∉ segment.toList →
      s.modules.moduleFor (package ++ "." ++ segment) =
        (s.resolvedExternPaths.get? ("." ++ package ++ "." ++ segment)).getD
          (s.modules.moduleFor package ++ "::" ++ Name.escape (Name.snake segment))) ∧
    (∀ segment : String, segment ≠ "" → '.' ∉ segment.toList →
      s.modules.moduleFor segment =
        (s.resolvedExternPaths.get? ("." ++ segment)).getD
          (s.moduleRoot ++ "::" ++ Name.escape (Name.snake segment))) ∧
    (∀ (package : String), ∀ e ∈ s.resolvedExternPaths,
      Around e.1.toList ('.' :: package.toList) →
      (∀ e' ∈ s.resolvedExternPaths, Around e'.1.toList ('.' :: package.toList) →
        e'.1.length ≤ e.1.length) →
      ∃ rest, '.' :: package.toList = e.1.toList ++ rest ∧
        s.modules.moduleFor package = extend e.2 rest) ∧
    (∀ (package : String) (placed : List (String × String)),
      (∀ e, Around e.1.toList ('.' :: package.toList) →
        (e ∈ placed ↔ e ∈ s.resolvedExternPaths)) →
      moduleFor ⟨s.moduleRoot, placed⟩ package = s.modules.moduleFor package) := by
  have hkeyed := keyed_modules h
  refine ⟨?_, ?_, ?_, ?_⟩
  · intro package segment hne hsegment
    cases hget : s.resolvedExternPaths.get? ("." ++ package ++ "." ++ segment) with
    | none =>
      exact moduleFor_snoc hne hsegment fun e he => Text.Dictionary.ne_of_get?_eq_none hget he
    | some module =>
      have hmem : ("." ++ package ++ "." ++ segment, module) ∈ s.modules.placed :=
        Text.Dictionary.mem_of_get? hget
      apply hkeyed.moduleFor_of_mem
      simpa [String.append_assoc] using hmem
  · intro segment hne hsegment
    cases hget : s.resolvedExternPaths.get? ("." ++ segment) with
    | none =>
      exact hkeyed.moduleFor_segment hne hsegment
        fun e he => Text.Dictionary.ne_of_get?_eq_none hget he
    | some module => exact hkeyed.moduleFor_of_mem (Text.Dictionary.mem_of_get? hget)
  · intro package e he haround hlongest
    obtain ⟨rest, hbelow⟩ := around_iff.mp haround
    exact ⟨rest, (below?_eq_some.mp hbelow).1, hkeyed.moduleFor_of_longest he hlongest hbelow⟩
  · intro package placed hsame
    have hnearest := nearest?_congr hsame fun _ he _ he' => hkeyed.ascending.unique he he'
    simp only [moduleFor_eq, hnearest]
    rfl

/-- A package that is placed inside another one, and one that merely begins like it. -/
def nestedPlaces : Settings where
  externPaths := [(".acme", "::acme"), (".acme.billing", "::billing")]

/-- The package inside decides for those below it, and none for the one that merely begins alike. -/
theorem moduleFor_nestedPlaces :
    nestedPlaces.check = .ok () ∧
      nestedPlaces.modules.moduleFor ("acme.billing" ++ "." ++ "v1") = "::billing::v1" ∧
      nestedPlaces.modules.moduleFor ("acme" ++ "." ++ "users") = "::acme::users" ∧
      nestedPlaces.modules.moduleFor "acmecorp" = "crate::acmecorp" := by
  have hcheck : nestedPlaces.check = .ok () := by decide +kernel
  obtain ⟨hsnoc, hsegment, -, -⟩ := moduleFor_segments hcheck
  refine ⟨hcheck, ?_, ?_, ?_⟩
  · rw [hsnoc "acme.billing" "v1" (by decide) (by decide)]
    decide +kernel
  · rw [hsnoc "acme" "users" (by decide) (by decide)]
    decide +kernel
  · rw [hsegment "acmecorp" (by decide) (by decide)]
    decide +kernel

end Settings

end ServiceBus
