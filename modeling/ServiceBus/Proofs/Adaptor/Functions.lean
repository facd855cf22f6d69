import ServiceBus.Proofs.Adaptor.Endpoints
import ServiceBus.Proofs.Name.Words

/-! # Functions of methods

In the code a method is a function, named by the snake-case form of the method's name. Where that
form is taken, by the language of the code or by a function that every client has, it is marked: with
an underscore behind it or, if the language allows that, as a raw identifier.

* `getLast?_snake`: a snake-case form has no underscore at its end.
* `functionName_cases`: the three shapes that a function's name has.
* `unmark_functionName`: the mark can be taken off again, so marking keeps names apart.
* `functions_of_methods`: the functions of methods are usable, and two of them have one name only if
  the snake-case forms are the same. -/

namespace ServiceBus

namespace Name

variable {name : String}

/-! ### The end of a snake-case form -/

/-- Words put together end as the last of them does. -/
theorem getLast?_intercalate {ws : List (List Char)} (hne : ws ≠ []) (hwords : ∀ w ∈ ws, w ≠ [])
    (h : ∀ w ∈ ws, ∀ d ∈ w, d.isAlphanum = true) :
    ∃ d, (['_'].intercalate ws).getLast? = some d ∧ d.isAlphanum = true := by
  induction ws with
  | nil => exact absurd rfl hne
  | cons w ws ih =>
    cases ws with
    | nil =>
      have hw := hwords w List.mem_cons_self
      rw [List.intercalate_singleton, List.getLast?_eq_some_getLast hw]
      exact ⟨_, rfl, h w List.mem_cons_self _ (List.getLast_mem hw)⟩
    | cons v ws =>
      obtain ⟨d, hlast, hd⟩ := ih (List.cons_ne_nil v ws)
        (fun w hw => hwords w (List.mem_cons_of_mem _ hw))
        (fun w hw => h w (List.mem_cons_of_mem _ hw))
      rw [List.intercalate_cons_cons, List.getLast?_append, hlast]
      exact ⟨d, rfl, hd⟩

/-- **The snake-case form of a name has no underscore at its end.** -/
theorem getLast?_snake (h : isSchemaName name.toList = true) :
    (snake name).toList.getLast? ≠ some '_' := by
  obtain ⟨a, w, ws, hwords, ha, hw, hws⟩ := words_of_isSchemaName h
  have hne : words name ≠ [] := by
    rw [hwords]
    exact List.cons_ne_nil _ _
  have hall : ∀ v ∈ words name, ∀ d ∈ v, d.isAlphanum = true := by
    rw [hwords, List.forall_mem_cons, List.forall_mem_cons]
    exact ⟨⟨isAlphanum_of_isAlpha ha, hw⟩, hws⟩
  obtain ⟨d, hlast, hd⟩ := getLast?_intercalate hne (fun v hv => ne_nil_of_mem_wordsFrom hv) hall
  rw [snake, intercalate_ofList, String.toList_ofList, hlast]
  rintro heq
  rw [Option.some.inj heq] at hd
  exact absurd hd (by decide)

end Name

namespace Adaptor

open Name (isIdentifier isSchemaName rawBody snake)
open Schema (ImportSet Method Service)

variable {s w : String}

/-! ### Names of functions -/

/-- The words that the language of the code keeps for itself: those that it uses, those that came
with a later edition, and those that it has set aside. -/
def reservedWords : List String :=
  ["as", "break", "const", "continue", "crate", "else", "enum", "extern", "false", "fn", "for",
    "if", "impl", "in", "let", "loop", "match", "mod", "move", "mut", "pub", "ref", "return", "self",
    "Self", "static", "struct", "super", "trait", "true", "type", "unsafe", "use", "where",
    "while"] ++
  ["async", "await", "dyn"] ++
  ["abstract", "become", "box", "do", "final", "gen", "macro", "override", "priv", "try", "typeof",
    "unsized", "virtual", "yield"]

/-- Every reserved word is known as one with or without a raw form. -/
theorem mem_of_mem_reservedWords (h : w ∈ reservedWords) :
    w ∈ Name.rawKeywords ∨ w ∈ Name.pathKeywords := by
  have hall : ∀ w ∈ reservedWords, w ∈ Name.rawKeywords ∨ w ∈ Name.pathKeywords := by decide
  exact hall w h

/-- **The shapes of a function's name**: with an underscore behind it, raw, or as it is. -/
theorem functionName_cases (s : String) :
    functionName s = s ++ "_" ∨ functionName s = "r#" ++ s ∨
      functionName s = s ∧ s ∉ Adaptor.clientFunctions ∧ s ∉ Name.pathKeywords ∧
        s ∉ Name.rawKeywords := by
  rw [functionName]
  split
  · exact Or.inl rfl
  · rename_i hclient
    rw [Name.escape]
    split
    · exact Or.inl rfl
    · rename_i hpath
      split
      · exact Or.inr (Or.inl rfl)
      · rename_i hraw
        rw [List.contains_iff_mem] at hpath hraw
        exact Or.inr (Or.inr ⟨rfl, hclient, hpath, hraw⟩)

/-- The characters of a function's name without its mark. -/
def unmark (f : List Char) : List Char :=
  if (rawBody f).getLast? = some '_' then (rawBody f).dropLast else rawBody f

/-- Characters that do not end with an underscore have none to be taken off. -/
theorem unmark_of_rawBody {f : List Char} (hbody : rawBody f = s.toList)
    (hlast : s.toList.getLast? ≠ some '_') : unmark f = s.toList := by
  rw [unmark, hbody, if_neg hlast]

/-- **The mark of a function's name can be taken off again.** -/
theorem unmark_functionName (h : isSchemaName s.toList = true)
    (hlast : s.toList.getLast? ≠ some '_') : unmark (functionName s).toList = s.toList := by
  rcases functionName_cases s with hf | hf | ⟨hf, -⟩
  · have hunderscore : "_".toList = ['_'] := rfl
    have hbody := Name.rawBody_of_isSchemaName (Name.isSchemaName_append_underscore h)
    rw [String.toList_append, hunderscore] at hbody
    rw [hf, String.toList_append, hunderscore, unmark, hbody, List.getLast?_concat, if_pos rfl,
      List.dropLast_concat]
  · have hmark : "r#".toList = ['r', '#'] := rfl
    rw [hf, String.toList_append, hmark]
    exact unmark_of_rawBody rfl hlast
  · rw [hf]
    exact unmark_of_rawBody (Name.rawBody_of_isSchemaName h) hlast

/-- A function's name is an identifier. -/
theorem isIdentifier_functionName (h : isSchemaName s.toList = true) :
    isIdentifier (functionName s) = true := by
  rw [functionName]
  split
  · exact Name.isIdentifier_of_isSchemaName (Name.isSchemaName_append_underscore h)
  · exact Name.isIdentifier_escape h

/-- A function's name is none that is taken: a marked name has an underscore at its end or the mark
of a raw identifier, and no word that is taken has either. -/
theorem functionName_not_taken (s : String) :
    functionName s ∉ reservedWords ∧ functionName s ∉ clientFunctions := by
  have hplain : ∀ w ∈ reservedWords ++ clientFunctions,
      w.toList.getLast? ≠ some '_' ∧ '#' ∉ w.toList := by decide
  rw [← not_or, ← List.mem_append]
  intro hmem
  obtain ⟨hend, hmark⟩ := hplain _ hmem
  rcases functionName_cases s with hf | hf | ⟨hf, hclient, hpath, hraw⟩
  · have hunderscore : "_".toList = ['_'] := rfl
    rw [hf, String.toList_append, hunderscore] at hend
    exact hend List.getLast?_concat
  · rw [hf, String.toList_append] at hmark
    exact hmark (List.mem_append_left _ (by decide))
  · rw [hf] at hmem
    rcases List.mem_append.mp hmem with hmem | hmem
    · rcases mem_of_mem_reservedWords hmem with hword | hword
      · exact hraw hword
      · exact hpath hword
    · exact hclient hmem

/-! ### Methods -/

/-- The function that stands in the code for a method. -/
theorem placed?_method_fn (imports : ImportSet) (endpoint : Service × Method) :
    placed? imports "method_fn" endpoint = some (functionName (snake endpoint.2.name)) := rfl

/-- **The functions of methods.** What stands in the code for the function of a method is an
identifier, and neither a reserved word nor the name of a function that every client has. Two methods
have one function name iff the snake-case forms of their names are the same. -/
theorem functions_of_methods (imports : ImportSet) (endpoint endpoint' : Service × Method)
    (h : isSchemaName endpoint.2.name.toList = true)
    (h' : isSchemaName endpoint'.2.name.toList = true) :
    ∃ f f', placed? imports "method_fn" endpoint = some f ∧
      placed? imports "method_fn" endpoint' = some f' ∧
      isIdentifier f = true ∧ f ∉ reservedWords ∧ f ∉ ["new", "with_parent_span"] ∧
      (f = f' ↔ snake endpoint.2.name = snake endpoint'.2.name) := by
  have hform := Name.isSchemaName_snake h
  have hform' := Name.isSchemaName_snake h'
  obtain ⟨hreserved, hclient⟩ := functionName_not_taken (snake endpoint.2.name)
  refine ⟨_, _, placed?_method_fn imports endpoint, placed?_method_fn imports endpoint',
    isIdentifier_functionName hform, hreserved, hclient, ?_, fun hsame => by rw [hsame]⟩
  intro hf
  -- Equal names are equal without their marks, and then they are the snake-case forms.
  apply String.toList_inj.mp
  rw [← unmark_functionName hform (Name.getLast?_snake h), hf,
    unmark_functionName hform' (Name.getLast?_snake h')]

/-- A method of a service with a name that is given. -/
def methodNamed (name : String) : Service × Method :=
  let method : Method := ⟨name, ⟨"crate::words", "In"⟩, ⟨"crate::words", "Out"⟩, []⟩
  ({ name := "Words", methods := [method] }, method)

/-- Two methods whose names are a reserved word in snake case have one function, and a method that is
named like a function of every client has another. -/
theorem functions_of_methods_words :
    isSchemaName (methodNamed "SELF").2.name.toList = true ∧
    isSchemaName (methodNamed "self_").2.name.toList = true ∧
    isSchemaName (methodNamed "New").2.name.toList = true ∧
    placed? (ImportSet.base "crate::words") "method_fn" (methodNamed "SELF") =
      placed? (ImportSet.base "crate::words") "method_fn" (methodNamed "self_") ∧
    placed? (ImportSet.base "crate::words") "method_fn" (methodNamed "New") ≠
      placed? (ImportSet.base "crate::words") "method_fn" (methodNamed "SELF") := by
  have hself : isSchemaName (methodNamed "SELF").2.name.toList = true := by decide
  have hself' : isSchemaName (methodNamed "self_").2.name.toList = true := by decide
  have hnew : isSchemaName (methodNamed "New").2.name.toList = true := by decide
  refine ⟨hself, hself', hnew, ?_, ?_⟩
  · obtain ⟨f, f', hf, hf', -, -, -, hiff⟩ :=
      functions_of_methods (ImportSet.base "crate::words") _ _ hself hself'
    rw [hf, hf', Option.some.injEq, hiff]
    decide +kernel
  · obtain ⟨f, f', hf, hf', -, -, -, hiff⟩ :=
      functions_of_methods (ImportSet.base "crate::words") _ _ hnew hself
    rw [hf, hf', Ne, Option.some.injEq, hiff]
    decide +kernel

end Adaptor

end ServiceBus
