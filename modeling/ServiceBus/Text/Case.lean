import ServiceBus.Text.CaseTable

/-! # Letter case

Case tests and full case mappings of characters, and the lower-case form of a text.

* `isUpper`, `isLower`: the Unicode properties Uppercase and Lowercase.
* `toLower`, `toUpper`: the full mapping of one character, which may be several characters.
* `lowercase`: the lower-case form of a text, in which a capital sigma at the end of a word becomes
  a final sigma. -/

namespace ServiceBus.Text

/-- Whether the character is an upper-case letter. -/
def isUpper (c : Char) : Bool :=
  if c.toNat < 0x80 then c.isUpper else upperSet.contains c.toNat

/-- Whether the character is a lower-case letter. -/
def isLower (c : Char) : Bool :=
  if c.toNat < 0x80 then c.isLower else lowerSet.contains c.toNat

/-- The image of a code point under a case mapping: the expansion if it has one, else its shift. -/
def mapCase (expansions : List (Nat × List Nat)) (shifts : List CaseShift) (c : Char) : List Char :=
  match expansions.lookup c.toNat with
  | some cs => cs.map Char.ofNat
  | none => [((shiftOf? shifts c.toNat).map Char.ofNat).getD c]

/-- The lower-case form of one character, without regard to its neighbours. -/
def toLower (c : Char) : List Char :=
  if c.toNat < 0x80 then [c.toLower] else mapCase lowerExpansions lowerShifts c

/-- The upper-case form of one character. -/
def toUpper (c : Char) : List Char :=
  if c.toNat < 0x80 then [c.toUpper] else mapCase upperExpansions upperShifts c

/-- Whether the character takes part in case: upper, lower or title case. -/
def isCased (c : Char) : Bool :=
  if c.toNat < 0x80 then c.isAlpha else casedSet.contains c.toNat

/-- Whether the character is passed over when a word's end is looked for. -/
def isCaseIgnorable (c : Char) : Bool :=
  if c.toNat < 0x80 then c == '\'' || c == '.' || c == ':' || c == '^' || c == '\x60'
  else caseIgnorableSet.contains c.toNat

/-- Whether the first character that is not passed over takes part in case. -/
def meetsCased (cs : List Char) : Bool :=
  match cs.dropWhile isCaseIgnorable with
  | [] => false
  | c :: _ => isCased c

/-- The lower-case form of `cs`, where `before` are the characters in front of it, nearest first. -/
def lowercaseAfter (before : List Char) : List Char → List Char
  | [] => []
  | c :: rest =>
    let lowered :=
      if c == 'Σ' then
        -- the end of a word: a letter before, none after
        if meetsCased before && !meetsCased rest then ['ς'] else ['σ']
      else toLower c
    lowered ++ lowercaseAfter (c :: before) rest

/-- The lower-case form of a text. -/
def lowercase (s : String) : String :=
  String.ofList (lowercaseAfter [] s.toList)

end ServiceBus.Text
