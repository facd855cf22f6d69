/-! # Dictionaries

A `Dictionary` maps texts to texts. Its entries are kept ascending, each key once. -/

namespace ServiceBus.Text

/-- Values by key, ascending. -/
abbrev Dictionary := List (String × String)

namespace Dictionary

/-- Sets the value of a key. -/
def insert (key value : String) : Dictionary → Dictionary
  | [] => [(key, value)]
  | (k, v) :: rest =>
    if key = k then (key, value) :: rest
    else if key < k then (key, value) :: (k, v) :: rest
    else (k, v) :: insert key value rest

/-- The value of a key. -/
def get? (d : Dictionary) (key : String) : Option String := d.lookup key

/-- The dictionary with the entries of a list; the last of each key counts. -/
def extend (d : Dictionary) (entries : List (String × String)) : Dictionary :=
  entries.foldl (fun d (key, value) => d.insert key value) d

/-- The entries of a list; the last of each key counts. -/
def ofList (entries : List (String × String)) : Dictionary := extend [] entries

end Dictionary

end ServiceBus.Text
