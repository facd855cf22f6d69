import ServiceBus.Plugin.Wire

/-! # A run of the plugin

One request comes in over a pipe and its response goes out over another. The whole request is read
before any of it is looked at. Only a request that cannot be read, or a response that cannot be
written, ends a run with an error: all else is told in the response. -/

namespace ServiceBus.Plugin

/-- A pipe, which may break. -/
structure Pipe where
  /-- The number of bytes after which the pipe is broken, if it is ever. -/
  capacity? : Option Nat := none
  /-- What is told of the break. -/
  fault : String := ""
deriving DecidableEq, Repr

namespace Pipe

/-- Reads all bytes; that takes one more look after the last. -/
def read (pipe : Pipe) (bytes : Bytes) : Except String Bytes :=
  match pipe.capacity? with
  | some n => if n ≤ bytes.length then .error pipe.fault else .ok bytes
  | none => .ok bytes

/-- Writes bytes: those that go through, and whether that is all. -/
def write (pipe : Pipe) (bytes : Bytes) : Bytes × Except String Unit :=
  match pipe.capacity? with
  | some n => if n < bytes.length then (bytes.take n, .error pipe.fault) else (bytes, .ok ())
  | none => (bytes, .ok ())

end Pipe

/-- Why a run has failed. -/
inductive RunError where
  | unreadable (cause : String)
  | malformed (cause : Wire.DecodeError)
  | unwritable (cause : String)
deriving DecidableEq, Repr

/-- What is told of an error, from the general to the particular. -/
def RunError.messages : RunError → List String
  | .unreadable cause => ["Failed to read CodeGeneratorRequest", cause]
  | .malformed cause => ["Failed to decode CodeGeneratorRequest", cause.message]
  | .unwritable cause => ["Failed to write CodeGeneratorResponse", cause]

/-- The wording of an error. -/
def RunError.message (e : RunError) : String := ": ".intercalate e.messages

/-- What a run leaves: the log, what was written, and whether all went well. -/
structure Run where
  control : Log.Control
  written : Bytes := []
  result : Except RunError Unit := .ok ()

/-- Answers the request that comes over a pipe. -/
def run (tree : File.Tree) (settings : Settings) (control : Log.Control) (input output : Pipe)
    (bytes : Bytes) : Logged Run :=
  match input.read bytes with
  | .error cause => return { control, result := .error (.unreadable cause) }
  | .ok bytes =>
    match Request.decode bytes with
    | .error cause => return { control, result := .error (.malformed cause) }
    | .ok request => do
      let (control, response) ← process tree settings control request
      let (written, result) := output.write response.encode
      return { control, written, result := result.mapError .unwritable }

end ServiceBus.Plugin
