import ServiceBus.Settings.Basic

/-! # Arguments

What the words of a command line ask for. They are read from left to right; the first that settles
the matter does, be it a wish for help or something that cannot be understood. What the words leave
open, the environment may tell.

* `Wish.ofWords`: what is asked for. -/

namespace ServiceBus.CommandLine

/-- What the environment tells. -/
structure Environment where
  debug? : Option String := none
  config? : Option String := none
  home? : Option String := none
  log? : Option String := none
deriving DecidableEq, Repr

/-- What help may be about. -/
inductive Topic where
  | program
  | exportTemplates
  | help
deriving DecidableEq, Repr

/-- What is to be done. -/
inductive Action where
  /-- Answer the request on the input. -/
  | generate
  /-- Write the templates to a folder. -/
  | exportTemplates (folder : String)
deriving DecidableEq, Repr

/-- What is to be done, and how. -/
structure Invocation where
  debug : Bool
  config? : Option String
  action : Action
deriving DecidableEq, Repr

/-- What the words of a command line ask for. -/
inductive Wish where
  | invoke (i : Invocation)
  | help (topic : Topic)
  | version
  /-- They cannot be understood. -/
  | misuse
deriving DecidableEq, Repr

/-- The options that words have given so far. -/
structure Options where
  debug : Bool := false
  config? : Option String := none
deriving DecidableEq, Repr

/-- Whether a word cannot be the value of an option or an operand. -/
def isOption (word : String) : Bool := word.startsWith "-" && word != "-"

/-- The wish for an action, with what the environment tells of options that no word gives. -/
def complete (environment : Environment) (options : Options) (action : Action) : Wish :=
  let config? := options.config? <|> environment.config?
  let debug? :=
    if options.debug then some true
    else match environment.debug? with
      | none | some "false" => some false
      | some "true" => some true
      | some _ => none
  match debug?, config? with
  | none, _ => .misuse
  | _, some "" => .misuse
  | some debug, config? => .invoke { debug, config?, action }

/-- Reads the words after the command that writes the templates. -/
def readExport (environment : Environment) (options : Options) (folder? : Option String) :
    List String → Wish
  | [] =>
    match folder? with
    | none => .misuse
    | some folder => complete environment options (.exportTemplates folder)
  | "--help" :: _ => .help .exportTemplates
  | word :: rest =>
    if word == "--" then
      match folder?, rest with
      | none, [folder] =>
        if folder.isEmpty then .misuse else complete environment options (.exportTemplates folder)
      | some folder, [] => complete environment options (.exportTemplates folder)
      | _, _ => .misuse
    else if word.startsWith "-h" then .help .exportTemplates
    else if isOption word || folder?.isSome || word.isEmpty then .misuse
    else readExport environment options (some word) rest

/-- Reads the words after the command that asks for help. -/
def readHelp : List String → Wish
  | [] => .help .program
  | ["export-templates"] => .help .exportTemplates
  | ["help"] => .help .help
  | _ => .misuse

/-- Reads the words of a command line. -/
def readWords (environment : Environment) (options : Options) : List String → Wish
  | [] => complete environment options .generate
  | ["--"] => complete environment options .generate
  | "--help" :: _ => .help .program
  | "--version" :: _ => .version
  | "--debug" :: rest =>
    if options.debug then .misuse else readWords environment { options with debug := true } rest
  | "--config" :: path :: rest =>
    if options.config?.isSome || isOption path || path.isEmpty then .misuse
    else readWords environment { options with config? := some path } rest
  | "export-templates" :: rest => readExport environment options none rest
  | "help" :: rest => readHelp rest
  | word :: rest =>
    match Text.cutAt? '=' word with
    | some ("--config", path) =>
      if options.config?.isSome || path.isEmpty then .misuse
      else readWords environment { options with config? := some path } rest
    | _ =>
      if word.startsWith "-h" then .help .program
      else if word.startsWith "-V" then .version
      else .misuse

/-- What the words of a command line ask for. -/
def Wish.ofWords (environment : Environment) (words : List String) : Wish :=
  readWords environment {} words

end ServiceBus.CommandLine
