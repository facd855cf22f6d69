import ServiceBus.Text.Blank
import ServiceBus.Text.Utf8

/-! # File trees

A `Tree` is a hierarchy of folders and files below one root, given by its nodes, with a working folder
in it. A `Location` is a path as it is written; `Tree.follow` follows it through the tree, from the
root or from the working folder.

* `Tree.createFolders`: makes all folders on a path, up to the first that cannot be made.
* `Tree.read`: the bytes of a file.
* `Tree.files`: all files with their paths. -/

namespace ServiceBus.File

/-- Why a file operation failed. -/
inductive IoError where
  | notFound
  /-- There is something else already. -/
  | alreadyThere
  | busy
  | isFolder
  | notFolder
  | nameTooLong
  | badName
  | notText
  /-- The storage failed. -/
  | fault
deriving DecidableEq, Repr

/-- The wording of an error. -/
def IoError.message : IoError → String
  | .notFound => "No such file or directory (os error 2)"
  | .alreadyThere => "File exists (os error 17)"
  | .busy => "Device or resource busy (os error 16)"
  | .isFolder => "Is a directory (os error 21)"
  | .notFolder => "Not a directory (os error 20)"
  | .nameTooLong => "File name too long (os error 36)"
  | .badName => "file name contained an unexpected NUL byte"
  | .notText => "stream did not contain valid UTF-8"
  | .fault => "Input/output error (os error 5)"

/-- The names of the folders on the way from the root to a node, and its own. -/
abbrev Path := List String

/-- The path of the folder around; nothing is around the root. -/
def parent (path : Path) : Path := path.dropLast

/-- Whether a part of a path stays where it is. -/
def stays (part : String) : Bool := part == "" || part == "."

/-- How a path ends. -/
inductive Ending where
  /-- In its last part. -/
  | name
  /-- In slashes, so that its last part has to be a folder. -/
  | slash
  /-- In a part that stays in the folder that it leads to. -/
  | dot
deriving DecidableEq, Repr

/-- A path as it is written. -/
structure Location where
  /-- Whether it begins at the root. -/
  isAbsolute : Bool
  /-- The parts that lead on. -/
  parts : List String
  ending : Ending
  /-- The length of the path in bytes. -/
  size : Nat
  /-- The length of the path to the folder that it leads through last. -/
  folderSize : Nat
deriving DecidableEq, Repr

/-- The folder in which a path begins, from a working folder. -/
def Location.start (location : Location) (here : Path) : Path :=
  if location.isAbsolute then [] else here

/-- The longest path that can be followed, in bytes. -/
def maxPathSize : Nat := 4095

/-- The path that a text stands for. -/
def Location.ofText (s : String) : Location :=
  let raw := Text.splitAt '/' s
  let behind := raw.reverse.takeWhile stays
  let folder := ((raw.reverse.dropWhile stays).tail.dropWhile stays).reverse
  { isAbsolute := s.startsWith "/",
    parts := raw.filter fun part => !stays part,
    ending := if behind.contains "." then .dot else if behind.isEmpty then .name else .slash,
    size := s.utf8ByteSize,
    folderSize := ("/".intercalate folder).utf8ByteSize }

/-- The path that leads to a folder and on from there, unless the second part starts anew. -/
def join (folder path : String) : String :=
  if path.startsWith "/" || folder.isEmpty then path
  else if folder.endsWith "/" then folder ++ path
  else folder ++ "/" ++ path

/-- A path below a folder without the parts in front that stay in the folder. -/
def direct (path : String) : String :=
  "/".intercalate ((Text.splitAt '/' path).dropWhile stays)

/-- A location below a folder that is given by its text. -/
def Location.below (folder path : String) : Location := .ofText (join folder path)

/-- Says what is wrong with parts that no system is asked for. -/
def checkParts (parts : List String) : Except IoError Unit :=
  if parts.any fun part => part.toList.contains '\x00' then .error .badName else .ok ()

/-- Says what is wrong with a name. -/
def checkName (name : String) : Except IoError Unit :=
  if 255 < name.utf8ByteSize then .error .nameTooLong else .ok ()

/-- A file or a folder. -/
inductive Node where
  | file (bytes : Bytes)
  | folder
deriving DecidableEq, Repr

/-- A hierarchy of files and folders. -/
structure Tree where
  nodes : List (Path × Node) := []
  /-- The working folder. -/
  here : Path := []
deriving DecidableEq, Repr

namespace Tree

/-- The node at a path; the working folder and those around it are there. -/
def get? (t : Tree) (path : Path) : Option Node :=
  if path <+: t.here then some .folder else t.nodes.lookup path

/-- Puts a node at a path. -/
def set (t : Tree) (path : Path) (node : Node) : Tree :=
  { t with nodes := (path, node) :: t.nodes.filter (·.1 != path) }

/-- Takes the node at a path away. -/
def remove (t : Tree) (path : Path) : Tree :=
  { t with nodes := t.nodes.filter (·.1 != path) }

/-- The bytes of the file at a path. -/
def file? (t : Tree) (path : Path) : Option Bytes :=
  match t.get? path with
  | some (.file bytes) => some bytes
  | _ => none

/-- The folder that a name leads to from a folder. -/
def enter (t : Tree) (at_ : Path) (part : String) : Except IoError Path :=
  if part = ".." then .ok (parent at_)
  else do
    checkName part
    match t.get? (at_ ++ [part]) with
    | some .folder => .ok (at_ ++ [part])
    | some (.file _) => .error .notFolder
    | none => .error .notFound

/-- The path that parts lead to; all but the last have to be folders. -/
def follow (t : Tree) (at_ : Path) : List String → Except IoError Path
  | [] => .ok at_
  | [part] => if part = ".." then .ok (parent at_) else do checkName part; return at_ ++ [part]
  | part :: rest => do t.follow (← t.enter at_ part) rest

/-- Makes the folders on the way from a folder, as far as they are missing; `fails` tells for which
of them the storage fails, and `made` whether one was made already. The whole way is tried first, and
only from a missing folder on each step of it: so a file on the way is in the way of a new folder if it
is at the end or behind a folder that was made, and is taken for a folder otherwise. -/
def createFolders (fails : Path → Bool) (t : Tree) (made : Bool) (at_ : Path) :
    List String → Tree × Except IoError Path
  | [] => (t, .ok at_)
  | part :: rest =>
    match t.enter at_ part with
    | .ok next => t.createFolders fails made next rest
    | .error .notFound =>
      let folder := at_ ++ [part]
      if fails folder then (t, .error .fault)
      else (t.set folder .folder).createFolders fails true folder rest
    | .error .notFolder =>
      (t, .error (if made || rest.isEmpty then .alreadyThere else .notFolder))
    | .error e => (t, .error e)

/-- The bytes of the file at a location. -/
def read (t : Tree) (location : Location) : Except IoError Bytes := do
  checkParts location.parts
  if location.size = 0 then throw .notFound
  if maxPathSize < location.size then throw .nameTooLong
  match t.get? (← t.follow (location.start t.here) location.parts) with
  | some (.file bytes) => if location.ending = .name then return bytes else throw .notFolder
  | some .folder => throw .isFolder
  | none => throw .notFound

/-- Whether there is a file at a location. -/
def isFile (t : Tree) (location : Location) : Bool := (t.read location).isOk

/-- The text of the file at a location. -/
def readText (t : Tree) (location : Location) : Except IoError String := do
  match Text.ofUtf8? (← t.read location) with
  | some s => return s
  | none => throw .notText

/-- Puts a node at a location and makes the folders that lead there. -/
def put (t : Tree) (location : Location) (node : Node) : Tree :=
  match t.createFolders (fun _ => false) false (location.start t.here) location.parts.dropLast,
      location.parts.getLast? with
  | (t, .ok folder), some name => t.set (folder ++ [name]) node
  | (t, _), _ => t

/-- All files with their paths. -/
def files (t : Tree) : List (Path × Bytes) :=
  t.nodes.filterMap fun (path, node) =>
    match node with
    | .file bytes => some (path, bytes)
    | .folder => none

end Tree

end ServiceBus.File
