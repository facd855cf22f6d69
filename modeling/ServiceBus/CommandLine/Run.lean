import ServiceBus.CommandLine.Arguments
import ServiceBus.Plugin.Run

/-! # The program

What the program does with a command line, its input and the files around it. -/

namespace ServiceBus.CommandLine

/-- How the program ends. -/
inductive Ending where
  | success
  /-- Something went wrong; the message tells what. -/
  | failure (message : String)
  /-- The command line could not be understood. -/
  | misuse
deriving DecidableEq, Repr

/-- The exit code. -/
def Ending.code : Ending → Nat
  | success => 0
  | failure _ => 1
  | misuse => 2

/-- What the program leaves. -/
structure Outcome where
  ending : Ending := .success
  output : Bytes := []
  tree : File.Tree
  /-- The log, if there is one. -/
  control? : Option Log.Control := none

/-- The failure with several things to tell, of which the message holds the first. -/
def Ending.ofMessages (messages : List String) : Ending :=
  .failure ("Error: " ++ messages.headD "")

/-! ### Help -/

/-- A value of the environment as help shows it, its further lines below the first. -/
def shown (value? : Option String) : String :=
  (value?.getD "").replace "\n" ("\n" ++ String.ofList (List.replicate 25 ' '))

/-- The text of help. -/
def helpText (environment : Environment) : Topic → String
  | .program =>
    "protoc plugin for message-bus service adaptors\n\n" ++
    "Usage: protoc-gen-busbridge [OPTIONS] [COMMAND]\n\n" ++
    "Commands:\n" ++
    "  export-templates  Write the embedded templates to a directory\n" ++
    "  help              Print this message or the help of the given subcommand(s)\n\n" ++
    "Options:\n" ++
    "      --debug            Enable debug logging on stderr [env: BUSBRIDGE_DEBUG=" ++
      shown environment.debug? ++ "]\n" ++
    "      --config <CONFIG>  Path to a config file (default: ~/.busbridge.toml if present)" ++
      " [env: BUSBRIDGE_CONFIG=" ++ shown environment.config? ++ "]\n" ++
    "  -h, --help             Print help\n" ++
    "  -V, --version          Print version\n"
  | .exportTemplates =>
    "Write the embedded templates to a directory\n\n" ++
    "Usage: protoc-gen-busbridge export-templates <OUTPUT>\n\n" ++
    "Arguments:\n" ++
    "  <OUTPUT>  Output directory\n\n" ++
    "Options:\n" ++
    "  -h, --help  Print help\n"
  | .help =>
    "Print this message or the help of the given subcommand(s)\n\n" ++
    "Usage: protoc-gen-busbridge help [COMMAND]...\n\n" ++
    "Arguments:\n" ++
    "  [COMMAND]...  Print help for the subcommand(s)\n"

/-! ### Templates -/

/-- The files that the embedded templates are written to: their paths and contents. -/
def templateFiles (folder : String) : List (String × Bytes) :=
  Adaptor.TemplateKind.all.map fun kind =>
    (File.join folder kind.fileName, Text.utf8 (Adaptor.TemplateSet.embedded.source kind))

/-- What is told of a file that was written. -/
def writtenLine (path : String) : Bytes := Text.utf8 ("wrote " ++ path ++ "\n")

/-- What is told of a file that could not be written. -/
def unwrittenMessage (path : String) : String :=
  "Failed to write template " ++ Text.quoted path

/-- Writes files, up to the first that cannot be written. -/
def writeFiles (tree : File.Tree) (output : Bytes) : List (String × Bytes) → Outcome
  | [] => { output, tree }
  | (path, contents) :: rest =>
    match tree.writeAtomic (fun _ => false) (.ofText path) contents with
    | (tree, .error _) => { ending := .ofMessages [unwrittenMessage path], output, tree }
    | (tree, .ok ()) => writeFiles tree (output ++ writtenLine path) rest

/-! ### Runs -/

/-- Does what is asked for, with the settings that hold. -/
def perform (environment : Environment) (tree : File.Tree) (input : Bytes) (i : Invocation)
    (settings : Settings) : Logged Outcome := do
  let control := Log.Control.start environment.log? (i.debug || settings.debug)
  match i.action with
  | .exportTemplates folder =>
    return { writeFiles tree [] (templateFiles folder) with control? := some control }
  | .generate =>
    let r ← Plugin.run tree settings control {} {} input
    let ending := match r.result with
      | .ok () => .success
      | .error e => .ofMessages e.messages
    return { ending, output := r.written, tree, control? := some r.control }

/-- Does what the words of a command line ask for. -/
def run (environment : Environment) (tree : File.Tree) (words : List String) (input : Bytes) :
    Logged Outcome :=
  match Wish.ofWords environment words with
  | .misuse => return { ending := .misuse, tree }
  | .version => return { output := Text.utf8 (Settings.generatorName ++ "\n"), tree }
  | .help topic => return { output := Text.utf8 (helpText environment topic), tree }
  | .invoke i =>
    match Settings.load tree i.config? environment.home? with
    | .error e => return { ending := .ofMessages e.messages, tree }
    | .ok settings => perform environment tree input i settings

end ServiceBus.CommandLine
