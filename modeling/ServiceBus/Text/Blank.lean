/-! # Blanks and lines

* `isBlank`: the Unicode property White_Space.
* `trim`, `trimEnd`: a text without the blanks at its ends, or at its end.
* `lines`: the lines of a text, without their line breaks. -/

namespace ServiceBus.Text

/-- Whether the character is white space. -/
def isBlank (c : Char) : Bool :=
  let n := c.toNat
  (decide (0x9 ≤ n) && decide (n ≤ 0xd)) || n == 0x20 || n == 0x85 || n == 0xa0 || n == 0x1680 ||
    (decide (0x2000 ≤ n) && decide (n ≤ 0x200a)) || n == 0x2028 || n == 0x2029 || n == 0x202f ||
    n == 0x205f || n == 0x3000

/-- The characters without the blanks at the end. -/
def trimEndChars (cs : List Char) : List Char :=
  (cs.reverse.dropWhile isBlank).reverse

/-- The text without the blanks at its end. -/
def trimEnd (s : String) : String :=
  String.ofList (trimEndChars s.toList)

/-- The text without the blanks at both ends. -/
def trim (s : String) : String :=
  String.ofList (trimEndChars (s.toList.dropWhile isBlank))

/-- The parts of `cs` between the characters that satisfy `p`; there is always at least one. -/
def splitChars (p : Char → Bool) : List Char → List (List Char)
  | [] => [[]]
  | c :: rest =>
    if p c then [] :: splitChars p rest
    else
      match splitChars p rest with
      | [] => [[c]]
      | part :: parts => (c :: part) :: parts

/-- The parts of a text between the occurrences of `sep`. -/
def splitAt (sep : Char) (s : String) : List String :=
  (splitChars (· == sep) s.toList).map String.ofList

/-- The part before the first occurrence of `sep` and the part after it, if there is one. -/
def cutAt? (sep : Char) (s : String) : Option (String × String) :=
  let cs := s.toList
  match cs.dropWhile (· != sep) with
  | [] => none
  | _ :: rest => some (String.ofList (cs.takeWhile (· != sep)), String.ofList rest)

/-- A line without the carriage return that ended it. -/
def dropReturn (line : List Char) : List Char :=
  if line.getLast? == some '\r' then line.dropLast else line

/-- The lines of a text. A line break ends a line, so a text that ends with one has no empty last
line; a carriage return directly before a line break belongs to the break. -/
def lines (s : String) : List String :=
  let parts := splitChars (· == '\n') s.toList
  let whole := parts.dropLast.map dropReturn
  let rest := match parts.getLast? with
    | none | some [] => []
    | some last => [last]
  (whole ++ rest).map String.ofList

end ServiceBus.Text
