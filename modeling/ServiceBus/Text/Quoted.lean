import ServiceBus.Text.PrintTable

/-! # Quoted literals

The written form of a text or a character between quotes: the quote and the backslash are preceded
by a backslash, the usual controls have a letter, and what has no printed form of its own is given
by its code point in hexadecimal. -/

namespace ServiceBus.Text

/-- Whether the character is shown as it is. -/
def isPrintable (c : Char) : Bool :=
  if c.toNat < 0x80 then decide (0x20 ≤ c.toNat) && decide (c.toNat < 0x7f)
  else !unprintableSet.contains c.toNat

/-- Whether the character only extends the one before it. -/
def extendsGrapheme (c : Char) : Bool :=
  if c.toNat < 0x80 then false else graphemeExtendSet.contains c.toNat

/-- The escape that gives a character by its code point. -/
def codePointEscape (c : Char) : List Char :=
  ['\\', 'u', '\x7b'] ++ Nat.toDigits 16 c.toNat ++ ['\x7d']

/-- One character of a literal between two `quote`s. -/
def escapeChar (quote c : Char) : List Char :=
  if c == '\x00' then ['\\', '0']
  else if c == '\t' then ['\\', 't']
  else if c == '\r' then ['\\', 'r']
  else if c == '\n' then ['\\', 'n']
  else if c == '\\' then ['\\', '\\']
  else if c == quote then ['\\', quote]
  else if extendsGrapheme c || !isPrintable c then codePointEscape c
  else [c]

/-- The text as a literal between double quotes. -/
def quoted (s : String) : String :=
  String.ofList ('"' :: s.toList.flatMap (escapeChar '"') ++ ['"'])

/-- The character as a literal between single quotes. -/
def quotedChar (c : Char) : String :=
  String.ofList ('\'' :: escapeChar '\'' c ++ ['\''])

/-- The written form of a text that may be missing. -/
def quotedOption : Option String → String
  | none => "None"
  | some s => "Some(" ++ quoted s ++ ")"

end ServiceBus.Text
