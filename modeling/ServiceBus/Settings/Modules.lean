import ServiceBus.Name.Words
import ServiceBus.Settings.Basic

/-! # Modules of packages

A package `a.b` lives in the module below the module root that its segments spell, unless settings
place it, or a package around it, in a module of its own.

* `ModuleMap.moduleFor`: the module of a package. The longest package that is placed decides. -/

namespace ServiceBus

/-- Where packages live. -/
structure ModuleMap where
  /-- The module around those of packages. -/
  root : String
  /-- Packages, each with a dot in front, that have a module of their own. -/
  placed : Text.Dictionary
deriving DecidableEq, Repr

/-- The places that settings tell. -/
def Settings.modules (s : Settings) : ModuleMap where
  root := s.moduleRoot
  placed := s.resolvedExternPaths

namespace ModuleMap

/-- The part of a package below another that is the same or lies around it. -/
def below? (outer package : List Char) : Option (List Char) :=
  let rest := package.drop outer.length
  if outer.isPrefixOf package && rest.head?.all (· == '.') then some rest else none

/-- The module of the longest placed package that is the given one or lies around it, and the part
of the given one below it. -/
def nearest? (package : List Char) : List (String × String) → Option (String × List Char)
  | [] => none
  | (outer, module) :: others =>
    match below? outer.toList package, nearest? package others with
    | none, best? => best?
    | some rest, none => some (module, rest)
    | some rest, some best =>
      if best.2.length ≤ rest.length then some best else some (module, rest)

/-- The segment of a module path for a segment of a package. -/
def moduleSegment (segment : String) : String := Name.escape (Name.snake segment)

/-- The module for what is below a module. -/
def extend (module : String) (rest : List Char) : String :=
  let parts := (Text.splitChars (· == '.') rest).filter (· != [])
  module ++ String.join (parts.map fun part => "::" ++ moduleSegment (String.ofList part))

/-- The module of a package. -/
def moduleFor (m : ModuleMap) (package : String) : String :=
  let qualified := '.' :: package.toList
  let (module, rest) := (nearest? qualified m.placed).getD (m.root, qualified)
  extend module rest

end ModuleMap

end ServiceBus
