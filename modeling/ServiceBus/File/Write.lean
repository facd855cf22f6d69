import ServiceBus.File.Tree

/-! # Writing files at once

`Tree.writeAtomic` replaces a file so that nobody ever finds half of it: the contents go to a new
file in the same folder, which is then renamed. Each step may fail, on its own account or by a fault
of the storage; the new file is then taken away again. -/

namespace ServiceBus.File

/-- The steps of writing a file. -/
inductive WriteStep where
  /-- Making a folder that is missing. -/
  | createFolder (path : Path)
  | createTemporary
  /-- Writing on when so many bytes are written. -/
  | write (written : Nat)
  | sync
  | rename
deriving DecidableEq, Repr

/-- The name of the `n`th temporary file. -/
def temporaryName (n : Nat) : String := ".tmp" ++ toString n

namespace Tree

/-- A path in a folder at which there is nothing: one of more names than there are nodes, and the
working folder may have another. -/
def freshPath (t : Tree) (folder : Path) : Path :=
  folder ++ [temporaryName
    (((List.range (t.nodes.length + 2)).find? fun n =>
      (t.get? (folder ++ [temporaryName n])).isNone).getD 0)]

/-- Fills a file up to where the storage fails, and brings it to the storage. -/
def fill (fails : WriteStep → Bool) (t : Tree) (path : Path) (contents : Bytes) :
    Tree × Except IoError Unit :=
  match (List.range contents.length).find? fun n => fails (.write n) with
  | some n => (t.set path (.file (contents.take n)), .error .fault)
  | none => (t.set path (.file contents), if fails .sync then .error .fault else .ok ())

/-- The path in a folder to which a file may be put. A path that ends in a folder leads to none, and
whatever leads to a folder by no name of its own is in use. -/
def target (t : Tree) (folder : Path) (location : Location) : Except IoError Path :=
  match location.parts.getLast? with
  | none => .error (if location.size = 0 then .notFound else .busy)
  | some part =>
    if part = ".." then .error .busy
    else match location.ending with
      | .name => do checkName part; return folder ++ [part]
      | .slash => do checkName part; throw .notFolder
      | .dot => do let _ ← t.enter folder part; throw .busy

/-- Puts the file at one path to another. -/
def rename (t : Tree) (source : Path) (folder : Path) (location : Location) :
    Except IoError Tree := do
  checkParts location.parts.getLast?.toList
  if maxPathSize < location.size then throw .nameTooLong
  let target ← t.target folder location
  match t.get? target with
  | some .folder => throw .isFolder
  | _ =>
    match t.get? source with
    | none => throw .notFound
    | some node => return (t.remove source).set target node

/-- Puts a file to another path, unless the storage fails. -/
def persist (fails : WriteStep → Bool) (t : Tree) (source folder : Path) (location : Location) :
    Except IoError Tree :=
  if fails .rename then .error .fault else t.rename source folder location

/-- Replaces the file at a location, by way of a temporary file in its folder. The temporary file is
removed when a step fails. -/
def writeVia (fails : WriteStep → Bool) (t : Tree) (temporary folder : Path) (location : Location)
    (contents : Bytes) : Tree × Except IoError Unit :=
  match (t.set temporary (.file [])).fill fails temporary contents with
  | (t, .error e) => (t.remove temporary, .error e)
  | (t, .ok ()) =>
    match t.persist fails temporary folder location with
    | .error e => (t.remove temporary, .error e)
    | .ok t => (t, .ok ())

/-- Replaces the file at a location; `fails` tells at which steps the storage fails. -/
def writeAtomic (fails : WriteStep → Bool) (t : Tree) (location : Location) (contents : Bytes) :
    Tree × Except IoError Unit :=
  match checkParts location.parts.dropLast with
  | .error e => (t, .error e)
  | .ok () =>
    if maxPathSize < location.folderSize then (t, .error .nameTooLong)
    else match t.createFolders (fun path => fails (.createFolder path)) false
        (location.start t.here) location.parts.dropLast with
      | (t, .error e) => (t, .error e)
      | (t, .ok folder) =>
        if fails .createTemporary then (t, .error .fault)
        else t.writeVia fails (t.freshPath folder) folder location contents

/-- Goes on from what a write has left, unless it has failed. -/
def andThen (next : Tree → Tree × Except IoError Unit) :
    Tree × Except IoError Unit → Tree × Except IoError Unit
  | (t, .error e) => (t, .error e)
  | (t, .ok ()) => next t

end Tree

end ServiceBus.File
