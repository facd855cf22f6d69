import ServiceBus.Bus.World
import ServiceBus.Proofs.Text.LetterCase

/-! # Routing by subject

Nobody tells a client where a method is served: it finds the method by putting together the same
subject. A subject is read from its end, since the names of services and methods have no dots; what is
left over in front is the instance, dots included.

* `subject_eq_iff`: when the subjects of two methods are the same.
* `subject_eq_iff_of_inst`: the same for methods of one instance, which may have any name.
* `ServiceConfig.check_eq_ok`: the configurations that are accepted.
* `Client.subject_eq_served_iff`: which endpoints the calls of a client reach. -/

namespace ServiceBus

open Name (isSchemaName)
open Text (IsAscii SameButCase lowercase)

variable {s inst inst' service service' method method' : String}

/-! ### Texts with a mark between them -/

/-- Two lists are told apart at the last mark. -/
theorem append_cons_inj_of_not_mem {α : Type} {mark : α} {front front' back back' : List α}
    (h : mark ∉ back) (h' : mark ∉ back') :
    front ++ mark :: back = front' ++ mark :: back' ↔ front = front' ∧ back = back' := by
  constructor
  · intro heq
    -- If one front went on after the other, the mark behind it would stand in the other's back.
    rcases List.append_eq_append_iff.mp heq with ⟨rest, hfront, hback⟩ | ⟨rest, hfront, hback⟩
    · cases rest with
      | nil => exact ⟨(hfront.trans (List.append_nil _)).symm, (List.cons.inj hback).2⟩
      | cons c rest =>
        rw [(List.cons.inj hback).2] at h
        exact absurd (List.mem_append_right rest List.mem_cons_self) h
    · cases rest with
      | nil => exact ⟨hfront.trans (List.append_nil _), (List.cons.inj hback).2.symm⟩
      | cons c rest =>
        rw [(List.cons.inj hback).2] at h'
        exact absurd (List.mem_append_right rest List.mem_cons_self) h'
  · rintro ⟨rfl, rfl⟩
    rfl

/-- A name of a schema has no dot, in lower case either. -/
theorem dot_not_mem_of_isSchemaName (h : isSchemaName s.toList = true) :
    '.' ∉ s.toList.map Char.toLower := by
  intro hmem
  obtain ⟨c, hc, hdot⟩ := List.mem_map.mp hmem
  have hascii := Name.isAscii_of_isSchemaName h c hc
  obtain rfl : c = '.' :=
    Name.forall_ascii (fun c => c.toLower = '.' → c = '.') (by decide) c hascii hdot
  exact absurd (Name.mem_of_isSchemaName h hc) (by decide)

/-! ### Subjects -/

/-- What a subject has behind its instance. -/
def path (service method : String) : String :=
  subjectSegment ++ "." ++ service ++ "." ++ method

/-- The subject without an instance. -/
theorem subject_empty : subject service method (some "") = lowercase (path service method) := rfl

/-- The subject with an instance. -/
theorem subject_some (h : inst ≠ "") :
    subject service method (some inst) = lowercase (inst ++ "." ++ path service method) := by
  rw [subject]
  · rfl
  · intro hempty
    exact absurd hempty h

/-- The characters of a path, with its two last dots set apart. -/
theorem toList_path : (path service method).toList =
    (subjectSegment.toList ++ '.' :: service.toList) ++ '.' :: method.toList := by
  have hdot : ".".toList = ['.'] := rfl
  simp only [path, String.toList_append, hdot, List.append_assoc, List.cons_append, List.nil_append]

/-- The path of ASCII names. -/
theorem isAscii_path (hservice : IsAscii service) (hmethod : IsAscii method) :
    IsAscii (path service method) := by
  have hsegment : IsAscii subjectSegment := by decide
  intro c hc
  rw [toList_path] at hc
  simp only [List.mem_append, List.mem_cons] at hc
  rcases hc with (hc | rfl | hc) | rfl | hc
  · exact hsegment c hc
  · decide
  · exact hservice c hc
  · decide
  · exact hmethod c hc

/-- What the subjects of an instance begin with, up to the service. -/
def stem (inst : String) : List Char :=
  if inst = "" then subjectSegment.toList
  else inst.toList.map Char.toLower ++ '.' :: subjectSegment.toList

/-- The characters of a subject. -/
theorem toList_subject (hinst : IsAscii inst) (hservice : IsAscii service)
    (hmethod : IsAscii method) : (subject service method (some inst)).toList =
      (stem inst ++ '.' :: service.toList.map Char.toLower) ++
        '.' :: method.toList.map Char.toLower := by
  have hpath := isAscii_path hservice hmethod
  by_cases hempty : inst = ""
  · subst hempty
    rw [subject_empty, Text.toList_lowercase hpath, toList_path, stem, if_pos rfl, List.map_append,
      List.map_append]
    rfl
  · have hwhole : IsAscii (inst ++ "." ++ path service method) := by
      intro c hc
      rw [String.toList_append, String.toList_append, List.mem_append, List.mem_append] at hc
      rcases hc with (hc | hc) | hc
      · exact hinst c hc
      · rw [List.mem_singleton.mp hc]
        decide
      · exact hpath c hc
    rw [subject_some hempty, Text.toList_lowercase hwhole, stem, if_neg hempty, String.toList_append,
      String.toList_append, toList_path]
    simp only [List.map_append, List.append_assoc]
    rfl

/-- **The subjects of an instance have one beginning**, whatever the instance is. The segment behind
it keeps the names from having a say in its lower-case form. -/
theorem exists_front (inst : Option String) : ∃ front, ∀ service method : String,
    IsAscii service → IsAscii method → (subject service method inst).toList =
      (front ++ '.' :: service.toList.map Char.toLower) ++ '.' :: method.toList.map Char.toLower := by
  have hnone : ∃ front, ∀ service method : String, IsAscii service → IsAscii method →
      (lowercase (path service method)).toList =
        (front ++ '.' :: service.toList.map Char.toLower) ++
          '.' :: method.toList.map Char.toLower := by
    have hempty : IsAscii "" := by decide
    refine ⟨stem "", fun service method hservice hmethod => ?_⟩
    rw [← subject_empty]
    exact toList_subject hempty hservice hmethod
  match inst with
  | none => exact hnone
  | some inst =>
    by_cases hempty : inst = ""
    · subst hempty
      exact hnone
    · obtain ⟨front, hfront⟩ := Text.exists_lowercaseAfter_append (c := 's') (by decide) []
        (inst.toList ++ ['.'])
      refine ⟨front ++ subjectSegment.toList, fun service method hservice hmethod => ?_⟩
      have hpath := isAscii_path hservice hmethod
      obtain ⟨rest, hrest⟩ : ∃ rest, (path service method).toList = 's' :: rest := ⟨_, toList_path⟩
      have hchars : (inst ++ "." ++ path service method).toList = inst.toList ++ ['.'] ++ 's' :: rest := by
        rw [String.toList_append, String.toList_append, hrest]
        rfl
      rw [subject_some hempty, lowercase, String.toList_ofList, hchars, hfront, ← hrest,
        Text.lowercaseAfter_of_ascii _ hpath, toList_path]
      simp only [List.map_append, List.append_assoc]
      rfl

/-- Case does not make a text empty. -/
theorem eq_empty_of_sameButCase (h : SameButCase s "") : s = "" := by
  have hnil : s.toList = [] := List.map_eq_nil_iff.mp h
  rw [← String.toList_inj, hnil]
  rfl

/-- **The beginnings of subjects tell instances apart**, up to letter case. Only the empty instance
leaves no dot in front of the segment. -/
theorem stem_eq_iff : stem inst = stem inst' ↔ SameButCase inst inst' := by
  have hsegment : '.' ∉ subjectSegment.toList := by decide
  rw [stem, stem]
  split
  · rename_i hempty
    subst hempty
    split
    · rename_i hempty'
      subst hempty'
      exact ⟨fun _ => rfl, fun _ => rfl⟩
    · rename_i hne
      constructor
      · intro heq
        rw [heq] at hsegment
        exact absurd (List.mem_append_right _ List.mem_cons_self) hsegment
      · intro h
        exact absurd (eq_empty_of_sameButCase h.symm) hne
  · rename_i hne
    split
    · rename_i hempty'
      subst hempty'
      constructor
      · intro heq
        rw [← heq] at hsegment
        exact absurd (List.mem_append_right _ List.mem_cons_self) hsegment
      · intro h
        exact absurd (eq_empty_of_sameButCase h) hne
    · rw [append_cons_inj_of_not_mem hsegment hsegment, SameButCase]
      exact and_iff_left rfl

/-- **The subjects of two methods are the same** if instances, services and methods are, up to letter
case. -/
theorem subject_eq_iff (hinst : IsAscii inst) (hinst' : IsAscii inst')
    (hservice : isSchemaName service.toList = true) (hmethod : isSchemaName method.toList = true)
    (hservice' : isSchemaName service'.toList = true)
    (hmethod' : isSchemaName method'.toList = true) :
    subject service method (some inst) = subject service' method' (some inst') ↔
      SameButCase inst inst' ∧ SameButCase service service' ∧ SameButCase method method' := by
  rw [← String.toList_inj,
    toList_subject hinst (Name.isAscii_of_isSchemaName hservice)
      (Name.isAscii_of_isSchemaName hmethod),
    toList_subject hinst' (Name.isAscii_of_isSchemaName hservice')
      (Name.isAscii_of_isSchemaName hmethod'),
    append_cons_inj_of_not_mem (dot_not_mem_of_isSchemaName hmethod)
      (dot_not_mem_of_isSchemaName hmethod'),
    append_cons_inj_of_not_mem (dot_not_mem_of_isSchemaName hservice)
      (dot_not_mem_of_isSchemaName hservice'),
    stem_eq_iff, and_assoc]
  rfl

/-- **The endpoints of one instance have subjects of their own**, up to letter case. -/
theorem subject_eq_iff_of_inst (inst : Option String) (hservice : isSchemaName service.toList = true)
    (hmethod : isSchemaName method.toList = true)
    (hservice' : isSchemaName service'.toList = true)
    (hmethod' : isSchemaName method'.toList = true) :
    subject service method inst = subject service' method' inst ↔
      SameButCase service service' ∧ SameButCase method method' := by
  obtain ⟨front, hfront⟩ := exists_front inst
  rw [← String.toList_inj,
    hfront _ _ (Name.isAscii_of_isSchemaName hservice) (Name.isAscii_of_isSchemaName hmethod),
    hfront _ _ (Name.isAscii_of_isSchemaName hservice') (Name.isAscii_of_isSchemaName hmethod'),
    append_cons_inj_of_not_mem (dot_not_mem_of_isSchemaName hmethod)
      (dot_not_mem_of_isSchemaName hmethod'),
    append_cons_inj_of_not_mem (dot_not_mem_of_isSchemaName hservice)
      (dot_not_mem_of_isSchemaName hservice')]
  exact and_congr (and_iff_right rfl) Iff.rfl

namespace Bus

variable {config : ServiceConfig} {client : Client} {c : Char}

/-! ### Names of services -/

/-- A character of a service name is an ASCII character, and its case does not matter. -/
theorem ServiceConfig.toNat_lt_of_isNameChar (h : ServiceConfig.isNameChar c = true) :
    c.toNat < 0x80 := by
  rw [isNameChar, Bool.or_eq_true, Bool.or_eq_true, beq_iff_eq, beq_iff_eq] at h
  rcases h with (h | rfl) | rfl
  · exact Name.toNat_lt_of_isAlphanum h
  · decide
  · decide

/-- **The configurations that are accepted.** -/
theorem ServiceConfig.check_eq_ok : config.check = .ok () ↔
    config.name ≠ "" ∧ (∀ c ∈ config.name.toList, isNameChar c = true) ∧
      config.version ≠ "" ∧ config.queueGroup? ≠ some "" := by
  have hchars : config.name.toList.find? (!isNameChar ·) = none ↔
      ∀ c ∈ config.name.toList, isNameChar c = true := by
    simp [List.find?_eq_none]
  rw [← hchars, ← String.isEmpty_eq_false_iff, ← String.isEmpty_eq_false_iff, check]
  cases hname : config.name.isEmpty <;>
    cases hfind : config.name.toList.find? (!isNameChar ·) <;>
    cases hversion : config.version.isEmpty <;>
    by_cases hgroup : config.queueGroup? = some "" <;>
    simp [hgroup, bind, Except.bind, pure, Except.pure, throw, throwThe, MonadExceptOf.throw]

/-- An instance that reaches a service could itself be the name of one: case changes nothing in
that. -/
theorem ServiceConfig.check_of_sameButCase {name : String} (h : config.check = .ok ())
    (hname : IsAscii name) (hsame : SameButCase name config.name) :
    { config with name }.check = .ok () := by
  obtain ⟨hne, hchars, hversion, hgroup⟩ := check_eq_ok.mp h
  refine check_eq_ok.mpr ⟨?_, ?_, hversion, hgroup⟩
  · rintro rfl
    exact hne (eq_empty_of_sameButCase hsame.symm)
  · intro c hc
    have hmem : c.toLower ∈ config.name.toList.map Char.toLower := by
      rw [← hsame]
      exact List.mem_map_of_mem hc
    obtain ⟨d, hd, hlower⟩ := List.mem_map.mp hmem
    have hcase (e : Char) (he : e.toNat < 0x80) : isNameChar e.toLower = isNameChar e :=
      Name.forall_ascii (fun e => isNameChar e.toLower = isNameChar e) (by decide) e he
    have hd' := hchars d hd
    rw [← hcase c (hname c hc), ← hlower, hcase d (toNat_lt_of_isNameChar hd')]
    exact hd'

/-! ### Clients -/

/-- **A call of a client reaches an endpoint** of an accepted service if and only if the instance is
the name of the service and the names of service and method are those of the endpoint, up to letter
case. An instance that would not be accepted as the name of a service reaches no endpoint. -/
theorem Client.subject_eq_served_iff (hconfig : config.check = .ok ())
    (hinst : IsAscii client.inst) (hservice : isSchemaName service.toList = true)
    (hmethod : isSchemaName method.toList = true)
    (hservice' : isSchemaName service'.toList = true)
    (hmethod' : isSchemaName method'.toList = true) :
    (client.subject service method = ServiceBus.subject service' method' (some config.name) ↔
      SameButCase client.inst config.name ∧ SameButCase service service' ∧
        SameButCase method method') ∧
    ({ config with name := client.inst }.check ≠ .ok () →
      client.subject service method ≠ ServiceBus.subject service' method' (some config.name)) := by
  have hname : IsAscii config.name := fun c hc =>
    ServiceConfig.toNat_lt_of_isNameChar ((ServiceConfig.check_eq_ok.mp hconfig).2.1 c hc)
  have hiff := subject_eq_iff hinst hname hservice hmethod hservice' hmethod'
  refine ⟨hiff, fun hcheck heq => hcheck ?_⟩
  exact ServiceConfig.check_of_sameButCase hconfig hinst (hiff.mp heq).1

/-- A client with another spelling of the names reaches the endpoint; one whose instance has the
endpoint's instance behind a dot does not. -/
theorem Client.subject_eq_served_orders :
    (⟨0, "Orders-2", false⟩ : Client).subject "Shop" "Get_Item" =
      ServiceBus.subject "shop" "get_item" (some "orders-2") ∧
    (⟨0, "eu.svc.orders-2", false⟩ : Client).subject "Shop" "Get_Item" ≠
      ServiceBus.subject "Shop" "Get_Item" (some "orders-2") := by
  have hconfig : (⟨"orders-2", "1.0.0", none, none, []⟩ : ServiceConfig).check = .ok () := rfl
  have hrefused : (⟨"eu.svc.orders-2", "1.0.0", none, none, []⟩ : ServiceConfig).check ≠
      .ok () := by
    intro h
    exact absurd (congrArg Except.isOk h) (by decide)
  constructor
  · apply (subject_eq_served_iff hconfig _ _ _ _ _).1.mpr <;> decide
  · exact (subject_eq_served_iff hconfig (by decide) (by decide) (by decide) (by decide)
      (by decide)).2 hrefused

end Bus

end ServiceBus
