import ServiceBus.Text.Digits

/-! # Settings files

The statements of a settings file in TOML: assignments, and headers that say where the assignments
after them belong. Values are flags, texts, tables of these, and moments; settings have no others, so
a file with any other value is refused.

* `Toml.statements?`: the statements of a file. -/

namespace ServiceBus.Settings.Toml

/-- A value that is no table. -/
inductive Scalar where
  | flag (b : Bool)
  | text (s : String)
deriving DecidableEq, Repr

/-- The parts of a key, which are written with dots between them. -/
abbrev Key := List String

/-- A value. -/
inductive Value where
  | scalar (s : Scalar)
  | table (entries : List (Key × Scalar))
  /-- A date, a time, or both, as it is written. -/
  | moment (text : String)
deriving DecidableEq, Repr

/-- A statement. -/
inductive Statement where
  | header (key : Key)
  | assign (key : Key) (value : Value)
deriving DecidableEq, Repr

/-- Reads something off the front of a text, or refuses. -/
abbrev Parser (α : Type) := StateT (List Char) Option α

/-! ### Characters -/

/-- Blanks within a line. -/
def isLineBlank (c : Char) : Bool := c == ' ' || c == '\t'

/-- Characters of keys without quotes. -/
def isBareKeyChar (c : Char) : Bool := c.isAlphanum || c == '_' || c == '-'

/-- Characters that may stand in comments and texts. -/
def isTextChar (c : Char) : Bool := c == '\t' || 0x20 ≤ c.toNat && c.toNat != 0x7f

/-- Takes the next character. -/
def next : Parser Char := fun
  | [] => none
  | c :: rest => some (c, rest)

/-- Takes a given character. -/
def char (c : Char) : Parser Unit := do guard ((← next) == c)

/-- Takes blanks. -/
def blanks : Parser Unit := modify (·.dropWhile isLineBlank)

/-- Takes a line break, if one comes next. -/
def lineBreak? : List Char → Option (List Char)
  | '\n' :: rest => some rest
  | '\r' :: '\n' :: rest => some rest
  | _ => none

/-- Takes a comment, if one comes next. -/
def comment : Parser Unit := do
  if (← get).head? = some '#' then modify (·.dropWhile isTextChar)

/-- Takes the rest of a line, which may hold a comment only, and the break at its end. -/
def lineEnd : Parser Unit := do
  blanks
  comment
  match ← get with
  | [] => return
  | cs => set (← lineBreak? cs)

/-- Takes blanks, comments and line breaks; `n` bounds their number. -/
def blankLines : Nat → Parser Unit
  | 0 => return
  | n + 1 => do
    blanks
    comment
    match lineBreak? (← get) with
    | some rest => set rest; blankLines n
    | none => return

/-! ### Texts -/

/-- Takes a character that is given by `count` hexadecimal digits. -/
def codePoint (count : Nat) : Parser Char := do
  let cs ← get
  guard (count ≤ cs.length)
  set (cs.drop count)
  let n ← Text.hexadecimal? (cs.take count)
  if h : n.isValidChar then return Char.ofNatAux n h else failure

/-- Takes what follows a backslash. -/
def escape : Parser Char := do
  match ← next with
  | 'b' => return '\x08'
  | 't' => return '\t'
  | 'n' => return '\n'
  | 'f' => return '\x0c'
  | 'r' => return '\r'
  | 'e' => return '\x1b'
  | '"' => return '"'
  | '\\' => return '\\'
  | 'x' => codePoint 2
  | 'u' => codePoint 4
  | 'U' => codePoint 8
  | _ => failure

/-- Takes a text up to the quote that ends it; `n` bounds its length. -/
def basicText (quote : Char) : Nat → Parser (List Char)
  | 0 => failure
  | n + 1 => do
    let c ← next
    if c = quote then return []
    if c = '\\' && quote = '"' then return (← escape) :: (← basicText quote n)
    guard (isTextChar c)
    return c :: (← basicText quote n)

/-- The text without the blanks and line breaks at its front. -/
def dropGap : List Char → List Char
  | '\r' :: '\n' :: rest => dropGap rest
  | '\n' :: rest => dropGap rest
  | c :: rest => if isLineBlank c then dropGap rest else c :: rest
  | [] => []

/-- The text after a backslash at the end of a line, from the next character that shows. -/
def lineContinuation? (cs : List Char) : Option (List Char) :=
  (lineBreak? (cs.dropWhile isLineBlank)).map dropGap

/-- Takes a text of several lines up to the three quotes that end it, before which two more may
stand; `n` bounds its length. Line breaks are kept as they are written. -/
def longText (quote : Char) : Nat → Parser (List Char)
  | 0 => failure
  | n + 1 => do
    let cs ← get
    match lineBreak? cs with
    | some rest =>
      set rest
      return cs.take (cs.length - rest.length) ++ (← longText quote n)
    | none =>
      let quotes := (cs.takeWhile (· == quote)).length
      if 3 ≤ quotes then
        guard (quotes ≤ 5)
        set (cs.drop quotes)
        return List.replicate (quotes - 3) quote
      let c ← next
      if c = '\\' && quote = '"' then
        match lineContinuation? (← get) with
        | some rest => set rest; longText quote n
        | none => return (← escape) :: (← longText quote n)
      else
        guard (isTextChar c)
        return c :: (← longText quote n)

/-- Takes a text between quotes on one line. -/
def quotedText : Parser String := do
  let quote ← next
  guard (quote == '"' || quote == '\'')
  return String.ofList (← basicText quote ((← get).length + 1))

/-- Takes a text of any form. -/
def text : Parser String := do
  match ← get with
  | a :: b :: c :: rest =>
    if a = b && b = c && (a = '"' || a = '\'') then
      set ((lineBreak? rest).getD rest)
      return String.ofList (← longText a ((← get).length + 1))
    else quotedText
  | _ => quotedText

/-! ### Moments -/

/-- Takes a number of `count` decimal digits, which is at most `greatest`. -/
def number (count greatest : Nat) : Parser Nat := do
  let cs ← get
  guard (count ≤ cs.length)
  set (cs.drop count)
  let n ← Text.decimal? (cs.take count)
  guard (n ≤ greatest)
  return n

/-- The number of days in a month. -/
def daysInMonth (year month : Nat) : Nat :=
  if month = 2 then
    if year % 4 = 0 && (year % 100 ≠ 0 || year % 400 = 0) then 29 else 28
  else if month = 4 || month = 6 || month = 9 || month = 11 then 30
  else 31

/-- Takes a date. -/
def date : Parser Unit := do
  let year ← number 4 9999
  char '-'
  let month ← number 2 12
  guard (1 ≤ month)
  char '-'
  let day ← number 2 (daysInMonth year month)
  guard (1 ≤ day)

/-- Takes a part of a second. -/
def fraction : Parser Unit := do
  char '.'
  guard ((← get).head?.any Char.isDigit)
  modify (·.dropWhile Char.isDigit)

/-- Takes the seconds of a time; a leap second has the number 60. -/
def seconds : Parser Unit := do
  char ':'
  discard (number 2 60)
  if (← get).head? = some '.' then fraction

/-- Takes a time of day, which need not tell seconds. -/
def time : Parser Unit := do
  discard (number 2 23)
  char ':'
  discard (number 2 59)
  if (← get).head? = some ':' then seconds

/-- Takes the distance of a local time from the universal one, if it is given. -/
def offset : Parser Unit := do
  match (← get).head? with
  | some 'Z' | some 'z' => discard next
  | some '+' | some '-' =>
    discard next
    discard (number 2 23)
    char ':'
    discard (number 2 59)
  | _ => return

/-- Whether a time follows a date here. -/
def timeFollows : List Char → Bool
  | 'T' :: _ | 't' :: _ => true
  | ' ' :: c :: _ => c.isDigit
  | _ => false

/-- Takes a date, a time, or both. -/
def moment : Parser Unit := do
  if (← get)[2]? = some ':' then time
  else
    date
    if timeFollows (← get) then
      discard next
      time
      offset

/-- Takes what `parser` takes, as it is written. -/
def written (parser : Parser Unit) : Parser String := do
  let before ← get
  parser
  return String.ofList (before.take (before.length - (← get).length))

/-! ### Keys and values -/

/-- Takes a part of a key. -/
def keyPart : Parser String := do
  match (← get).span isBareKeyChar with
  | ([], _) => quotedText
  | (part, rest) => set rest; return String.ofList part

/-- Takes the further parts of a key; `n` bounds their number. -/
def keyParts : Nat → Parser Key
  | 0 => failure
  | n + 1 => do
    let part ← keyPart
    blanks
    match ← get with
    | '.' :: rest => set rest; blanks; return part :: (← keyParts n)
    | _ => return [part]

/-- Takes a key and the blanks around it. -/
def key : Parser Key := do
  blanks
  keyParts ((← get).length + 1)

/-- Takes a given word. -/
def word (w : String) : Parser Unit := do
  let cs ← get
  guard (w.toList.isPrefixOf cs)
  set (cs.drop w.length)

/-- Takes a value that is no table. -/
def scalar : Parser Scalar :=
  (do word "true"; return .flag true) <|> (do word "false"; return .flag false) <|>
    (do return .text (← text))

/-- Takes an assignment of a value that is read by `value`, with what is read by `space` on either
side of the sign. -/
def assignment {α : Type} (space : Parser Unit) (value : Parser α) : Parser (Key × α) := do
  let k ← key
  space
  char '='
  space
  return (k, ← value)

/-- Takes blanks and line breaks within a table. -/
def gap : Parser Unit := do blankLines ((← get).length + 1)

/-- Takes the entries of a table up to its closing brace; `n` bounds their number. -/
def entries : Nat → Parser (List (Key × Scalar))
  | 0 => failure
  | n + 1 => do
    gap
    match ← get with
    | '\x7d' :: rest => set rest; return []
    | _ =>
      let entry ← assignment gap scalar
      gap
      match ← next with
      | ',' => return entry :: (← entries n)
      | '\x7d' => return [entry]
      | _ => failure

/-- Takes a value. -/
def value : Parser Value := do
  match ← get with
  | '\x7b' :: rest => set rest; return .table (← entries (rest.length + 1))
  | c :: _ => if c.isDigit then return .moment (← written moment) else return .scalar (← scalar)
  | [] => failure

/-! ### Statements -/

/-- Takes a statement and the rest of its line. -/
def statement : Parser Statement := do
  match ← get with
  | '[' :: rest =>
    set rest
    let k ← key
    char ']'
    lineEnd
    return .header k
  | _ =>
    let (k, v) ← assignment blanks value
    lineEnd
    return .assign k v

/-- Takes all statements; `n` bounds their number. -/
def statements : Nat → Parser (List Statement)
  | 0 => failure
  | n + 1 => do
    gap
    if (← get).isEmpty then return []
    return (← statement) :: (← statements n)

/-- The statements of a file. A mark of the byte order at its front is passed over. -/
def statements? (source : String) : Option (List Statement) :=
  let cs := match source.toList with
    | '\ufeff' :: rest => rest
    | cs => cs
  (statements (cs.length + 1) cs).map (·.1)

end ServiceBus.Settings.Toml
