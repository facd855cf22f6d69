import ServiceBus.Text.Blank
import ServiceBus.Text.Digits
import ServiceBus.Text.LetterTable

/-! # Patterns

A pattern is a regular expression for the values of fields. Filters only show patterns, so all that
counts is whether a text is one: `Pattern.isValid`.

Letter case, classes with a letter for a name and borders of words are known for ASCII only. A
pattern that uses them has to leave all other characters out by `(?-u)`, and then must not stand for
half of a character. There are no repetitions with a count, since a directive cannot hold the brace
that ends one. -/

namespace ServiceBus.Log.Pattern

/-- How a part of a pattern is read. -/
structure Mode where
  ignoreCase : Bool := false
  /-- Whether characters are those of Unicode, not bytes. -/
  unicode : Bool := true
  /-- Whether blanks and comments may stand between parts. -/
  verbose : Bool := false
deriving DecidableEq, Repr

/-- What a part of a pattern stands for. -/
inductive Part where
  | literal (c : Char)
  /-- One of several characters. -/
  | oneOf
  /-- A border between characters. -/
  | border
deriving DecidableEq, Repr

/-- The characters from the next one on that is neither a blank nor in a comment. -/
def skipBlanks (inComment : Bool) : List Char → List Char
  | [] => []
  | c :: rest =>
    if inComment then skipBlanks (c != '\n') rest
    else if Text.isBlank c then skipBlanks false rest
    else if c = '#' then skipBlanks true rest
    else c :: rest

/-- The characters from the next one on that counts. -/
def skip (mode : Mode) (cs : List Char) : List Char :=
  if mode.verbose then skipBlanks false cs else cs

/-! ### Escapes -/

/-- Controls that a letter stands for behind a backslash. -/
def controls : List (Char × Char) :=
  [('a', '\x07'), ('f', '\x0c'), ('t', '\t'), ('n', '\n'), ('r', '\r'), ('v', '\x0b')]

/-- Whether a backslash makes the character stand for itself. -/
def isEscapable (c : Char) : Bool :=
  decide (c.toNat < 0x80) && !c.isAlphanum && c != '<' && c != '>'

/-- Takes a character that is given by `count` hexadecimal digits. -/
def codePoint? (mode : Mode) (count : Nat) (cs : List Char) : Option (Part × List Char) := do
  guard (count ≤ cs.length)
  let n ← Text.hexadecimal? (cs.take count)
  guard (mode.unicode || count != 2 || n < 0x80)
  if h : n.isValidChar then return (.literal (Char.ofNatAux n h), cs.drop count) else none

/-- Takes what follows a backslash. -/
def escape? (mode : Mode) : List Char → Option (Part × List Char)
  | [] => none
  | 'x' :: rest => codePoint? mode 2 rest
  | 'u' :: rest => codePoint? mode 4 rest
  | 'U' :: rest => codePoint? mode 8 rest
  | c :: rest =>
    if ['A', 'z'].contains c then some (.border, rest)
    else if ['b', 'B', '<', '>'].contains c then
      if mode.unicode then none else some (.border, rest)
    else if ['d', 's', 'w'].contains c then
      if mode.unicode then none else some (.oneOf, rest)
    else if isEscapable c then some (.literal c, rest)
    else (controls.lookup c).map fun control => (.literal control, rest)

/-! ### Classes of characters -/

/-- The classes that have a name within brackets. -/
def namedClasses : List String := [
  "alnum", "alpha", "ascii", "blank", "cntrl", "digit", "graph", "lower", "print", "punct", "space",
  "upper", "word", "xdigit"]

/-- Takes a class that has a name, after its opening bracket. -/
def namedClass? (mode : Mode) : List Char → Option (List Char)
  | ':' :: rest =>
    let isNegated := rest.head? = some '^'
    let rest := if isNegated then rest.tail else rest
    match rest.dropWhile (· != ':') with
    | ':' :: ']' :: after =>
      if namedClasses.contains (String.ofList (rest.takeWhile (· != ':'))) &&
          (mode.unicode || !isNegated) then some after else none
    | _ => none
  | _ => none

/-- Takes up to `n` hyphens, with which a class may begin. -/
def hyphens (mode : Mode) : Nat → List Char → List Char
  | n + 1, '-' :: rest => hyphens mode n (skip mode rest)
  | _, cs => cs

/-- Takes the beginning of a class after its opening bracket: a circumflex that turns it around, and
hyphens, or else a closing bracket, that stand for themselves. -/
def classStart? (mode : Mode) (cs : List Char) : Option (List Char) :=
  let cs := skip mode cs
  let isNegated := cs.head? = some '^'
  let cs := if isNegated then skip mode cs.tail else cs
  if isNegated && !mode.unicode then none
  else match cs with
    | '-' :: _ => some (hyphens mode cs.length cs)
    | ']' :: rest => some rest
    | cs => some cs

/-- Takes a character of a class. -/
def classPart? (mode : Mode) : List Char → Option (Part × List Char)
  | [] => none
  | '\\' :: rest => do
    let (part, rest) ← escape? mode rest
    guard (part != .border)
    return (part, rest)
  | c :: rest => if mode.unicode || c.toNat < 0x80 then some (.literal c, rest) else none

/-- Takes a character of a class or all characters from one to another. -/
def classRange? (mode : Mode) (cs : List Char) : Option (List Char) := do
  let (first, rest) ← classPart? mode cs
  match skip mode rest with
  | '-' :: rest =>
    match skip mode rest with
    | [] => none
    | ']' :: _ | '-' :: _ => return '-' :: rest
    | rest =>
      match first, ← classPart? mode rest with
      | .literal a, (.literal b, rest) => if a ≤ b then return rest else none
      | _, _ => none
  | rest => return rest

/-- Takes the rest of a class and `depth` classes around it; `n` bounds the number of their parts. -/
def classRest? (mode : Mode) : Nat → Nat → List Char → Option (List Char)
  | 0, _, _ => none
  | n + 1, depth, cs =>
    match skip mode cs with
    | [] => none
    | ']' :: rest =>
      match depth with
      | 0 => some rest
      | depth + 1 => classRest? mode n depth rest
    | '[' :: rest =>
      match namedClass? mode rest with
      | some rest => classRest? mode n depth rest
      | none => (classStart? mode rest).bind (classRest? mode n (depth + 1))
    | '&' :: '&' :: rest | '-' :: '-' :: rest | '~' :: '~' :: rest => classRest? mode n depth rest
    | cs => (classRange? mode cs).bind (classRest? mode n depth)

/-- Takes a class after its opening bracket. -/
def charClass? (mode : Mode) (cs : List Char) : Option (List Char) := do
  guard (!mode.ignoreCase || !mode.unicode)
  classRest? mode (cs.length + 1) 0 (← classStart? mode cs)

/-! ### Groups -/

/-- What is known of the part of a pattern that has been read. -/
structure State where
  mode : Mode := {}
  /-- The modes outside the groups that are open. -/
  groups : List Mode := []
  /-- The names of groups. -/
  names : List String := []
  /-- Whether there is something that may be repeated. -/
  isRepeatable : Bool := false
deriving DecidableEq, Repr

/-- The state in a new group. -/
def State.push (s : State) (mode : Mode) : State :=
  { s with mode, groups := s.mode :: s.groups, isRepeatable := false }

/-- Whether a group may have the name. -/
def isGroupName : List Char → Bool
  | [] => false
  | c :: rest =>
    (c == '_' || (Text.isAlphanumeric c && !c.isDigit)) &&
      rest.all fun c => Text.isAlphanumeric c || ['_', '.', '[', ']'].contains c

/-- Takes the name of a group and the bracket at its end. -/
def namedGroup? (s : State) (cs : List Char) : Option (State × List Char) := do
  let name := cs.takeWhile (· != '>')
  guard (isGroupName name && !s.names.contains (String.ofList name))
  match cs.dropWhile (· != '>') with
  | [] => none
  | _ :: rest => return ({ s with names := String.ofList name :: s.names }.push s.mode, rest)

/-- The mode with a flag set; flags without a field do not change what a pattern is. -/
def Mode.set (mode : Mode) (flag : Char) (value : Bool) : Mode :=
  match flag with
  | 'i' => { mode with ignoreCase := value }
  | 'u' => { mode with unicode := value }
  | 'x' => { mode with verbose := value }
  | _ => mode

/-- Takes flags, of which those of `seen` have been read, and the sign at their end. -/
def flags? (s : State) (mode : Mode) (seen : List Char) : List Char → Option (State × List Char)
  | [] => none
  | c :: rest =>
    if c = ':' || c = ')' then do
      guard (seen.head? != some '-')
      if c = ':' then return (s.push mode, rest)
      guard (!seen.isEmpty)
      return ({ s with mode, isRepeatable := false }, rest)
    else if ['-', 'i', 'm', 's', 'U', 'u', 'R', 'x'].contains c && !seen.contains c then
      flags? s (mode.set c (!seen.contains '-')) (c :: seen) rest
    else none

/-- Takes the beginning of a group after its opening bracket. -/
def group? (s : State) (cs : List Char) : Option (State × List Char) :=
  match skip s.mode cs with
  | '?' :: 'P' :: '<' :: rest | '?' :: '<' :: rest => namedGroup? s rest
  | '?' :: rest => flags? s s.mode [] rest
  | cs => some (s.push s.mode, cs)

/-! ### Patterns -/

/-- Whether a part may stand in a pattern that is read in the given way. -/
def Part.isAllowed (mode : Mode) : Part → Bool
  | .literal _ => !mode.ignoreCase || !mode.unicode
  | .oneOf | .border => true

/-- Takes the part of a pattern that begins with `c`. -/
def State.take? (s : State) (c : Char) (rest : List Char) : Option (State × List Char) :=
  let operand : State := { s with isRepeatable := true }
  match c with
  | '(' => group? s rest
  | ')' =>
    match s.groups with
    | [] => none
    | mode :: groups => some ({ operand with mode, groups }, rest)
  | '|' => some ({ s with isRepeatable := false }, rest)
  | '*' | '+' | '?' => if s.isRepeatable then some (s, rest) else none
  | '\x7b' => none
  | '[' => (charClass? s.mode rest).map (operand, ·)
  | '.' => if s.mode.unicode then some (operand, rest) else none
  | '^' | '$' => some (operand, rest)
  | '\\' => do
    let (part, rest) ← escape? s.mode rest
    guard (part.isAllowed s.mode)
    return (operand, rest)
  | c => if (Part.literal c).isAllowed s.mode then some (operand, rest) else none

/-- Whether the rest of a text completes a pattern; `n` bounds the number of its parts. -/
def completes : Nat → State → List Char → Bool
  | 0, _, _ => false
  | n + 1, s, cs =>
    match skip s.mode cs with
    | [] => s.groups.isEmpty
    | c :: rest =>
      match s.take? c rest with
      | some (s, rest) => completes n s rest
      | none => false

/-- Whether a text is a pattern. -/
def isValid (s : String) : Bool :=
  completes (s.length + 1) {} s.toList

end ServiceBus.Log.Pattern
