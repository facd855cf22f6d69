import ServiceBus.Proofs.Text.Dictionaries
import ServiceBus.Proofs.Text.Parts
import ServiceBus.Settings.Basic

/-! # Parameters as layers

A parameter is a list of parts, each of which sets one thing. So a parameter that is accepted is a
layer over the settings: the last part of each key decides, and a parameter behind another one is a
layer over that.

* `assignment?`: the key and the value of a part.
* `Acceptable`: the parts that can be applied.
* `overridden`: settings with the values of parts in place of their own.
* `applyParts_eq_ok`: which settings come of parts, and when.
* `applyParameter_layers`: what an accepted parameter makes of settings, and of parameters behind
  it. -/

namespace ServiceBus.Settings

variable {s s' : Settings} {part key value : String} {parts more : List String}

/-! ### Parts -/

/-- The key and the value of a part. -/
def assignment? (part : String) : Option (String × String) :=
  (Text.cutAt? '=' part).map fun (key, value) => (Text.trim key, value)

/-- The values that parts give a key, in order. -/
def valuesOf (key : String) (parts : List String) : List String :=
  (parts.filterMap assignment?).filterMap fun (k, value) => if k = key then some value else none

/-- The value that the last part with a key gives it. -/
def lastOf? (key : String) (parts : List String) : Option String := (valuesOf key parts).getLast?

/-- The packages that parts place, each with its module, in order. -/
def placements (parts : List String) : List (String × String) :=
  (valuesOf "extern_path" parts).filterMap (Text.cutAt? '=')

/-- The values of a key are those that some part gives it. -/
theorem mem_valuesOf :
    value ∈ valuesOf key parts ↔ ∃ part ∈ parts, assignment? part = some (key, value) := by
  simp only [valuesOf, List.mem_filterMap, Option.ite_none_right_eq_some, Option.some.injEq]
  constructor
  · rintro ⟨⟨k, v⟩, ⟨part, hpart, hassign⟩, rfl, rfl⟩
    exact ⟨part, hpart, hassign⟩
  · rintro ⟨part, hpart, hassign⟩
    exact ⟨(key, value), ⟨part, hpart, hassign⟩, rfl, rfl⟩

/-- The values of parts and of further ones. -/
theorem valuesOf_append (key : String) (parts more : List String) :
    valuesOf key (parts ++ more) = valuesOf key parts ++ valuesOf key more := by
  rw [valuesOf, List.filterMap_append, List.filterMap_append]
  rfl

/-- The value of one part. -/
theorem valuesOf_singleton (h : assignment? part = some (key, value)) (k : String) :
    valuesOf k [part] = if key = k then [value] else [] := by
  rw [valuesOf, List.filterMap_cons_some h]
  by_cases hk : key = k <;> simp [hk]

/-- The last value of parts and of further ones, which come first in this. -/
theorem lastOf?_append (key : String) (parts more : List String) :
    lastOf? key (parts ++ more) = (lastOf? key more).or (lastOf? key parts) := by
  rw [lastOf?, valuesOf_append, List.getLast?_append]
  rfl

/-- The last value of one part. -/
theorem lastOf?_singleton (h : assignment? part = some (key, value)) (k : String) :
    lastOf? k [part] = if key = k then some value else none := by
  rw [lastOf?, valuesOf_singleton h]
  split <;> rfl

/-- The placements of parts and of further ones. -/
theorem placements_append (parts more : List String) :
    placements (parts ++ more) = placements parts ++ placements more := by
  rw [placements, valuesOf_append, List.filterMap_append]
  rfl

/-- The placement of one part. -/
theorem placements_singleton (h : assignment? part = some (key, value)) :
    placements [part] = if key = "extern_path" then (Text.cutAt? '=' value).toList else [] := by
  rw [placements, valuesOf_singleton h]
  split
  · cases hcut : Text.cutAt? '=' value <;> simp [hcut]
  · rfl

/-- Whether a part can be applied: it has a key that is known and a value that the key can have. -/
def Acceptable (part : String) : Prop :=
  ∃ key value, assignment? part = some (key, value) ∧
    (key ∈ ["suffix", "module_root", "templates"] ∨
      key = "debug" ∧ value ∈ ["true", "false"] ∨
      key = "extern_path" ∧ (Text.cutAt? '=' value).isSome)

/-! ### Layers -/

/-- Settings with the values of parts in place of their own. -/
def overridden (s : Settings) (parts : List String) : Settings where
  debug := ((lastOf? "debug" parts).map (· == "true")).getD s.debug
  suffix := (lastOf? "suffix" parts).getD s.suffix
  moduleRoot := (lastOf? "module_root" parts).getD s.moduleRoot
  externPaths := s.externPaths.extend (placements parts)
  templates? := (lastOf? "templates" parts).or s.templates?

/-- No parts leave settings as they are. -/
@[simp] theorem overridden_nil (s : Settings) : s.overridden [] = s := rfl

/-- **Further parts are a layer over those in front of them.** -/
theorem overridden_append (s : Settings) (parts more : List String) :
    s.overridden (parts ++ more) = (s.overridden parts).overridden more := by
  have hextend : s.externPaths.extend (placements (parts ++ more)) =
      (s.externPaths.extend (placements parts)).extend (placements more) := by
    rw [placements_append]
    exact List.foldl_append
  simp [overridden, lastOf?_append, hextend, Option.getD_or, Option.map_or, Option.or_assoc]

/-- Settings with the value of one part. -/
theorem overridden_singleton (h : assignment? part = some (key, value)) :
    s.overridden [part] = {
      debug := if key = "debug" then value == "true" else s.debug
      suffix := if key = "suffix" then value else s.suffix
      moduleRoot := if key = "module_root" then value else s.moduleRoot
      externPaths := s.externPaths.extend
        (if key = "extern_path" then (Text.cutAt? '=' value).toList else [])
      templates? := if key = "templates" then some value else s.templates? } := by
  rw [overridden, placements_singleton h, lastOf?_singleton h, lastOf?_singleton h,
    lastOf?_singleton h, lastOf?_singleton h]
  congr 1
  all_goals split <;> rfl

/-- A part with a key and a value can be applied if the key can have the value. -/
theorem acceptable_iff (h : assignment? part = some (key, value)) :
    Acceptable part ↔ key ∈ ["suffix", "module_root", "templates"] ∨
      key = "debug" ∧ value ∈ ["true", "false"] ∨
      key = "extern_path" ∧ (Text.cutAt? '=' value).isSome := by
  constructor
  · rintro ⟨key', value', h', haccepted⟩
    obtain ⟨rfl, rfl⟩ := Prod.mk.inj (Option.some.inj (h.symm.trans h'))
    exact haccepted
  · exact fun haccepted => ⟨key, value, h, haccepted⟩

/-- The flag that acceptable parts set is written as it is. -/
theorem toString_debug_overridden (h : ∀ part ∈ parts, Acceptable part) :
    toString (s.overridden parts).debug = (lastOf? "debug" parts).getD (toString s.debug) := by
  cases hlast : lastOf? "debug" parts with
  | none => simp [overridden, hlast]
  | some value =>
    obtain ⟨part, hpart, hassign⟩ := mem_valuesOf.mp (List.mem_of_getLast? hlast)
    have hvalue : value = "true" ∨ value = "false" := by
      simpa using (acceptable_iff hassign).mp (h part hpart)
    rw [overridden, hlast]
    rcases hvalue with rfl | rfl <;> rfl

/-- **What applying a part comes to.** -/
theorem applyPart_eq_ok :
    s.applyPart part = .ok s' ↔ Acceptable part ∧ s.overridden [part] = s' := by
  cases hcut : Text.cutAt? '=' part with
  | none => simp [applyPart, Acceptable, assignment?, hcut]
  | some assignment =>
    obtain ⟨key, value⟩ := assignment
    have hassign : assignment? part = some (Text.trim key, value) := by simp [assignment?, hcut]
    rw [acceptable_iff hassign, overridden_singleton hassign, applyPart, hcut]
    dsimp only
    -- A case for each key: three take any text, then the flag, the packages, and no key at all.
    split
    case h_1 hkey | h_2 hkey | h_3 hkey => simp [hkey, Text.Dictionary.extend]
    case h_4 hkey => split <;> simp_all [Text.Dictionary.extend]
    case h_5 hkey => split <;> simp_all [Text.Dictionary.extend]
    case h_6 => simp_all

/-- **What applying parts comes to**: each of them can be applied, and the settings with the values
of the parts are without fault. -/
theorem applyParts_eq_ok : applyParts parts s = (s', .ok ()) ↔
    (∀ part ∈ parts, Acceptable part) ∧ s.overridden parts = s' ∧ s'.check = .ok () := by
  induction parts generalizing s with
  | nil =>
    rw [applyParts, Prod.mk.injEq, overridden_nil]
    constructor
    · rintro ⟨rfl, hcheck⟩
      exact ⟨fun _ hpart => absurd hpart List.not_mem_nil, rfl, hcheck⟩
    · rintro ⟨-, rfl, hcheck⟩
      exact ⟨rfl, hcheck⟩
  | cons part parts ih =>
    have hlayer : s.overridden (part :: parts) = (s.overridden [part]).overridden parts :=
      overridden_append s [part] parts
    rw [applyParts, List.forall_mem_cons, hlayer]
    split
    · rename_i first hpart
      obtain ⟨haccepted, rfl⟩ := applyPart_eq_ok.mp hpart
      rw [ih]
      simp [haccepted]
    · -- The first fault ends it, so a part that has one is not acceptable.
      rename_i e hpart
      have hbad : ¬ Acceptable part := by
        intro haccepted
        have hok : s.applyPart part = .ok (s.overridden [part]) :=
          applyPart_eq_ok.mpr ⟨haccepted, rfl⟩
        rw [hpart] at hok
        cases hok
      simp [hbad]

/-- Parts behind those that are applied are applied to what came of them. -/
theorem applyParts_append (h : applyParts parts s = (s', .ok ())) (more : List String) :
    applyParts (parts ++ more) s = applyParts more s' := by
  induction parts generalizing s with
  | nil =>
    rw [applyParts, Prod.mk.injEq] at h
    rw [List.nil_append, h.1]
  | cons part parts ih =>
    rw [applyParts] at h
    rw [List.cons_append, applyParts]
    split at h
    · exact ih h
    · cases (Prod.mk.inj h).2

/-! ### Parameters -/

/-- The parts of two parameters with a comma between them. -/
theorem parameterParts_append (parameter more : String) :
    parameterParts (parameter ++ "," ++ more) = parameterParts parameter ++ parameterParts more := by
  have hcomma : ",".toList = [','] := rfl
  rw [parameterParts, Text.splitAt, String.toList_append, String.toList_append, hcomma,
    List.append_assoc, List.singleton_append, Text.splitChars_append (by rfl), List.map_append,
    List.map_append, List.filter_append]
  rfl

/-- **An accepted parameter is a layer over settings.** Another one behind it does what that one does
to the settings that the first one makes. These are without fault; the last part with a key decides
its setting, and a key that no part has leaves it as it was; packages are placed by the parts in
order, over the old placements. -/
theorem applyParameter_layers {parameter : String}
    (h : s.applyParameter parameter = (s', .ok ())) :
    (∀ more, s.applyParameter (parameter ++ "," ++ more) = s'.applyParameter more) ∧
    s'.check = .ok () ∧
    s'.suffix = (lastOf? "suffix" (parameterParts parameter)).getD s.suffix ∧
    s'.moduleRoot = (lastOf? "module_root" (parameterParts parameter)).getD s.moduleRoot ∧
    s'.templates? = (lastOf? "templates" (parameterParts parameter)).or s.templates? ∧
    toString s'.debug = (lastOf? "debug" (parameterParts parameter)).getD (toString s.debug) ∧
    s'.externPaths = s.externPaths.extend (placements (parameterParts parameter)) ∧
    ∀ package, s'.externPaths.get? package =
      ((placements (parameterParts parameter)).reverse.lookup package).or
        (s.externPaths.get? package) := by
  obtain ⟨haccepted, rfl, hcheck⟩ := applyParts_eq_ok.mp h
  refine ⟨?_, hcheck, rfl, rfl, rfl, toString_debug_overridden haccepted, rfl,
    Text.Dictionary.get?_extend _ _⟩
  intro more
  rw [applyParameter, parameterParts_append]
  exact applyParts_append h _

/-- A parameter with blanks, empty parts, a key that comes twice and values with equals signs. -/
def layeredParameter : String := "suffix=a,, suffix =b=c,debug=true,extern_path=.x=a,extern_path=.x=b"

/-- What the layered parameter makes of the settings that hold by default. -/
def layeredSettings : Settings where
  debug := true
  suffix := "b=c"
  externPaths := [(".x", "b")]

/-- The last value of each key counts, and a fault behind is the fault of what comes behind. -/
theorem applyParameter_layeredParameter :
    applyParameter {} layeredParameter = (layeredSettings, .ok ()) ∧
      lastOf? "suffix" (parameterParts layeredParameter) = some "b=c" ∧
      layeredSettings.suffix =
        (lastOf? "suffix" (parameterParts layeredParameter)).getD ({} : Settings).suffix ∧
      layeredSettings.moduleRoot =
        (lastOf? "module_root" (parameterParts layeredParameter)).getD ({} : Settings).moduleRoot ∧
      applyParameter {} (layeredParameter ++ "," ++ "suffix=d,debug=no") =
        ({ layeredSettings with suffix := "d" }, .error (.notFlag "no")) := by
  have h : applyParameter {} layeredParameter = (layeredSettings, .ok ()) := by decide +kernel
  obtain ⟨hmore, -, hsuffix, hroot, -⟩ := applyParameter_layers h
  refine ⟨h, by decide +kernel, hsuffix, hroot, ?_⟩
  rw [hmore]
  decide +kernel

end ServiceBus.Settings
