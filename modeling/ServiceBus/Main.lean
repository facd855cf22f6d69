import ServiceBus.CommandLine.Run

/-! # The executable

Reads what the program needs from the system, runs it, and puts what it leaves back. -/

namespace ServiceBus.CommandLine

/-- What the environment of the process tells. -/
def readEnvironment : IO Environment := do
  return { debug? := ← IO.getEnv "BUSBRIDGE_DEBUG", config? := ← IO.getEnv "BUSBRIDGE_CONFIG",
           home? := ← IO.getEnv "HOME", log? := ← IO.getEnv "RUST_LOG" }

/-- All bytes of a stream. -/
partial def readAll (stream : IO.FS.Stream) (sofar : ByteArray) : IO ByteArray := do
  let bytes ← stream.read 65536
  if bytes.isEmpty then return sofar else readAll stream (sofar ++ bytes)

/-- A tree with nothing but the working folder. -/
def takeFolder : IO File.Tree := do
  let here ← IO.FS.realPath "."
  return { here := (File.Location.ofText here.toString).parts }

/-- Takes the file at a path, if there is one, into a tree. -/
def takeFile (tree : File.Tree) (path : String) : IO File.Tree := do
  try
    let bytes ← IO.FS.readBinFile path
    return tree.put (.ofText path) (.file bytes.toList)
  catch _ => return tree

/-- Makes a new file in a folder, by the first name that is not in use. -/
partial def createTemporary (folder : String) (n : Nat) : IO (String × IO.FS.Handle) := do
  let path := File.join folder (File.temporaryName n)
  try
    return (path, ← IO.FS.Handle.mk path .writeNew)
  catch
    | .alreadyExists .. => createTemporary folder (n + 1)
    | e => throw e

/-- Replaces a file in a folder, step by step as `File.Tree.writeAtomic` does. A handle can be flushed,
but the storage cannot be told to keep what it was given. -/
def writeFile (folder path : String) (contents : Bytes) : IO Unit := do
  IO.FS.createDirAll folder
  let (temporary, handle) ← createTemporary folder 0
  try
    handle.write ⟨contents.toArray⟩
    handle.flush
    IO.FS.rename temporary path
  catch e =>
    try IO.FS.removeFile temporary catch _ => pure ()
    throw e

/-- Writes the templates to a folder, up to the first that cannot be written. -/
def exportTemplates (folder : String) : IO UInt32 := do
  for (path, contents) in templateFiles folder do
    try
      writeFile folder path contents
      (← IO.getStdout).write ⟨(writtenLine path).toArray⟩
    catch e =>
      IO.eprintln ("Error: " ++ unwrittenMessage path ++ "\n\nCaused by:\n    " ++ toString e)
      return 1
  return 0

/-- Tells the records that the log admits. -/
def tellLog (control? : Option Log.Control) (records : List Log.Record) : IO Unit := do
  let some filter := control?.bind (·.filter?) | return
  for r in records do
    if filter.admits r.level then IO.eprintln r.line

/-- Tells what a run leaves. -/
def tell (outcome : Logged Outcome) : IO UInt32 := do
  tellLog outcome.value.control? outcome.log
  (← IO.getStdout).write ⟨outcome.value.output.toArray⟩
  match outcome.value.ending with
  | .success => pure ()
  | .failure message => IO.eprintln message
  | .misuse => IO.eprintln "Usage: protoc-gen-busbridge [OPTIONS] [COMMAND]"
  return UInt32.ofNat outcome.value.ending.code

/-- The files that may be asked for, in a tree. -/
def takeFiles (environment : Environment) (i : Invocation) (input : Bytes) : IO File.Tree := do
  let path? := i.config? <|> environment.home?.map fun home => File.join home Settings.fileName
  let tree ← path?.elim takeFolder fun path => do takeFile (← takeFolder) path
  match Settings.load tree i.config? environment.home?, Plugin.Request.decode input with
  | .ok settings, .ok request =>
    match (settings.applyParameter request.parameter).1.templates? with
    | none => return tree
    | some folder =>
      (templateFiles folder).foldlM (fun tree (path, _) => takeFile tree path) tree
  | _, _ => return tree

/-- Runs the program. -/
def execute (words : List String) : IO UInt32 := do
  let environment ← readEnvironment
  match Wish.ofWords environment words with
  | .invoke i =>
    match i.action with
    | .exportTemplates folder =>
      let tree ← takeFiles environment i []
      match Settings.load tree i.config? environment.home? with
      | .ok _ => exportTemplates folder
      | .error _ => tell (run environment tree words [])
    | .generate =>
      let input := (← readAll (← IO.getStdin) .empty).toList
      tell (run environment (← takeFiles environment i input) words input)
  | _ => tell (run environment {} words [])

end ServiceBus.CommandLine

/-- Answers the command line. -/
def main (words : List String) : IO UInt32 := ServiceBus.CommandLine.execute words
