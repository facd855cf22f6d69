import ServiceBus.Descriptor.Layout
import ServiceBus.Plugin.Basic
import ServiceBus.Wire.Message

/-! # The wire form of requests and responses

* `Request.decode`: the request that bytes stand for.
* `Response.encode`: the bytes of a response. -/

namespace ServiceBus.Plugin

open Descriptor (ignoredNumber ignoredText ignoredMessage messages)
open Wire (Layout)

/-- The version of the schema compiler. -/
def versionLayout : Layout Unit where
  name := "Version"
  fields := [ignoredNumber 1 "major", ignoredNumber 2 "minor", ignoredNumber 3 "patch",
    ignoredText 4 "suffix"]

/-- A request. -/
def requestLayout : Layout Request where
  name := "CodeGeneratorRequest"
  fields := [
    ⟨1, "file_to_generate", .text fun s r => { r with names := r.names ++ [s] }⟩,
    ⟨2, "parameter", .text fun s r => { r with parameter := s }⟩,
    messages 15 "proto_file" Descriptor.fileLayout {} fun f r => { r with files := r.files ++ [f] },
    ignoredMessage 3 "compiler_version" versionLayout]

/-- The request that bytes stand for. -/
def Request.decode (bytes : Bytes) : Except Wire.DecodeError Request :=
  requestLayout.read {} bytes

/-- A text field that is written even if the text is empty. -/
def presentText (tag : Nat) (s : String) : Bytes := Wire.messageField tag (Text.utf8 s)

/-- The wire form of an artifact. -/
def encodeArtifact (a : Adaptor.Artifact) : Bytes := presentText 1 a.name ++ presentText 15 a.content

/-- The wire form of a response. -/
def Response.encode (r : Response) : Bytes :=
  r.error?.elim [] (presentText 1) ++ Wire.fieldKey 2 .varint ++ Wire.varint r.features ++
    r.artifacts.flatMap fun a => Wire.messageField 15 (encodeArtifact a)

end ServiceBus.Plugin
