import HouseholdAccess.Number.Decimal
import HouseholdAccess.Text.Quoted
import HouseholdAccess.Value

/-!
# Values in messages

How messages and identifiers spell a value: a text in quotes, a number by its
digits, a list in brackets, a tuple in parentheses, an object in braces.
`Value.shown` is that spelling, and `Value.asText` is the same but leaves a
text as it is and drops the frame around a record.
-/

namespace HouseholdAccess

/-- The spelling of a truth value. -/
def boolShown (b : Bool) : String := if b then "True" else "False"

/-- Items between brackets. -/
def bracketed (left : String) (items : List String) (right : String) : String :=
  left ++ ", ".intercalate items ++ right

/-- A tuple from the spellings of its items; a single item is followed by a comma. -/
def tupleShown : List String → String
  | [item] => "(" ++ item ++ ",)"
  | items => bracketed "(" items ")"

/-- An object from the spellings of its entries. -/
def objectShown (items : List String) : String := bracketed "\x7b" items "\x7d"

namespace Key

mutual

/-- The spelling of a key in a message. -/
def shown : Key → String
  | .text s => Quoted.text s
  | .null => "None"
  | .bool b => boolShown b
  | .int n => toString n
  | .float x => x.text
  | .bytes bs => Quoted.bytes bs
  | .tuple items => tupleShown (shownAll items)
  | .absent => "ABSENT"
  | .unreadable => "Opaque"
  | .foreign o => o.shown

/-- The spellings of a list of keys. -/
def shownAll : List Key → List String
  | [] => []
  | key :: rest => key.shown :: shownAll rest

end

end Key

namespace Value

mutual

/-- The spelling of a value in a message. -/
def shown : Value → String
  | .null => "None"
  | .bool b => boolShown b
  | .int n => toString n
  | .float x => x.text
  | .text s => Quoted.text s
  | .bytes bs => Quoted.bytes bs
  | .list items => bracketed "[" (shownAll items) "]"
  | .tuple items => tupleShown (shownAll items)
  | .object entries => objectShown (shownEntries entries)
  | .model fields => bracketed "Model(" (shownFields fields) ")"
  | .readable _ => "Readable"
  | .unreadable => "Opaque"
  | .absent => "ABSENT"
  | .foreign o | .mapping o _ => o.shown

/-- The spellings of a list of values. -/
def shownAll : List Value → List String
  | [] => []
  | v :: rest => v.shown :: shownAll rest

/-- The spellings of the entries of an object. -/
def shownEntries : List (Key × Value) → List String
  | [] => []
  | (key, v) :: rest => (key.shown ++ ": " ++ v.shown) :: shownEntries rest

/-- The spellings of the fields of a record. -/
def shownFields : List (String × Value) → List String
  | [] => []
  | (name, v) :: rest => (name ++ "=" ++ v.shown) :: shownFields rest

end

/-- The spelling of a value where a text stands for itself, and a record for its fields alone. -/
def asText : Value → String
  | .text s => s
  | .model fields => " ".intercalate (shownFields fields)
  | v => v.shown

end Value

end HouseholdAccess
