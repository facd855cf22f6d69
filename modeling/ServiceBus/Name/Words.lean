import ServiceBus.Text.Case

/-! # Words of a name

Schema names are written in many styles. `words` splits a name into lower-case words, from which the
snake-case form `snake` and the upper camel-case form `camel` are put together. -/

namespace ServiceBus.Name

/-- The characters that separate words and belong to none. -/
def isSeparator (c : Char) : Bool :=
  c == '_' || c == '-' || c == '.' || c == ' '

/-- Whether the upper-case letter in front of `rest` opens a new word after the letter `prev`: it
does after a lower-case letter or a digit, and as the last capital of an acronym. -/
def opensWord (prev : Char) (rest : List Char) : Bool :=
  Text.isLower prev || prev.isDigit || (Text.isUpper prev && (rest.head?.map Text.isLower).getD false)

/-- The word as a list of words: none if it is empty. -/
def closeWord (word : List Char) : List (List Char) :=
  if word.isEmpty then [] else [word]

/-- The words of the remaining characters, where `prev` is the last character read and `word` is the
word that is still open. -/
def wordsFrom (prev : Char) (word : List Char) : List Char → List (List Char)
  | [] => closeWord word
  | c :: rest =>
    if isSeparator c then closeWord word ++ wordsFrom c [] rest
    else if Text.isUpper c && !word.isEmpty && opensWord prev rest then
      word :: wordsFrom c (Text.toLower c) rest
    else wordsFrom c (word ++ Text.toLower c) rest

/-- The lower-case words of a name. -/
def words (name : String) : List (List Char) :=
  wordsFrom ' ' [] name.toList

/-- The name with its words in lower case, joined by underscores. -/
def snake (name : String) : String :=
  "_".intercalate ((words name).map String.ofList)

/-- The characters with the first one in upper case. -/
def capitalizeChars : List Char → List Char
  | [] => []
  | c :: rest => Text.toUpper c ++ rest

/-- The name with its first character in upper case. -/
def capitalize (name : String) : String :=
  String.ofList (capitalizeChars name.toList)

/-- The name with its words capitalised and joined. -/
def camel (name : String) : String :=
  String.ofList ((words name).flatMap capitalizeChars)

end ServiceBus.Name
