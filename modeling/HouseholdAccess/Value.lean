import HouseholdAccess.Number.Binary64

/-!
# Values

The data that conditions are written in and that subjects are made of: what a
JSON text can hold, and kinds of data beyond it (tuples, byte strings, records
with fields that can be read). An object keeps its entries in the order in which
they were written; its keys may be other scalars than text.

Objects of other hands, such as dates, members of enumerations, numbers of other
kinds and locks, are known by what can be found out about them (`Foreign`): what
they are told apart by, the number that they equal, whether they can be copied.
One may have entries like an object (`Value.mapping`). Each record that declares
its fields (`Value.model`) is of a class of its own.

`Value.absent` stands for a field that a subject does not have. It differs from
`Value.null`, a field that is there and holds nothing.

Two keys of an object are the same (`Key.same`) when they are equal as data,
where numbers and booleans count by their numeric value.
-/

namespace HouseholdAccess

/-- What is known of an object of another hand. -/
structure Foreign where
  /-- The name of its kind. -/
  kind : String
  /-- How messages spell it. -/
  shown : String
  /-- What objects of its kind that are no numbers are told apart by. -/
  content : Nat := 0
  /-- The number that it equals, if it is one. -/
  number : Option Rat := none
  /-- Whether it can be copied. -/
  copies : Bool := true
  deriving DecidableEq

/-- Whether two objects of other hands are equal: as numbers, or in what their kind is told apart
    by. -/
def Foreign.same (a b : Foreign) : Bool :=
  match a.number, b.number with
  | some p, some q => p == q
  | none, none => a.kind == b.kind && a.content == b.content
  | _, _ => false

/-- A key of an object. -/
inductive Key
  /-- A text, the usual key. -/
  | text (s : String)
  /-- The null key. -/
  | null
  /-- A boolean key. -/
  | bool (b : Bool)
  /-- An integer key. -/
  | int (n : Int)
  /-- A floating-point key. -/
  | float (x : Binary64)
  /-- A byte string key. -/
  | bytes (bs : List UInt8)
  /-- A tuple of keys. -/
  | tuple (items : List Key)
  /-- The marker of an absent field, as a key. -/
  | absent
  /-- An object of no known kind, as a key. -/
  | unreadable
  /-- An object of another hand, as a key. -/
  | foreign (o : Foreign)
  deriving Inhabited

/-- A piece of data. -/
inductive Value
  /-- Nothing. -/
  | null
  /-- A truth value. -/
  | bool (b : Bool)
  /-- An integer of any size. -/
  | int (n : Int)
  /-- A floating-point number. -/
  | float (x : Binary64)
  /-- A text. -/
  | text (s : String)
  /-- A byte string. -/
  | bytes (bs : List UInt8)
  /-- A list. -/
  | list (items : List Value)
  /-- A tuple, which compares like a list but is not one. -/
  | tuple (items : List Value)
  /-- An object with its entries in written order. -/
  | object (entries : List (Key × Value))
  /-- A record whose declared fields can be read. -/
  | model (fields : List (String × Value))
  /-- A record that answers for each field name. -/
  | readable (fields : List (String × Value))
  /-- An object of no known kind. -/
  | unreadable
  /-- The marker of a field that a subject does not have. -/
  | absent
  /-- An object of another hand. -/
  | foreign (o : Foreign)
  /-- An object of another hand with entries, which counts as an object but is not one. -/
  | mapping (o : Foreign) (entries : List (Key × Value))
  deriving Inhabited

/-- The entries of an object. -/
abbrev Entries := List (Key × Value)

namespace Key

/-- The exact value of a finite numeric key; booleans count as zero and one. -/
def toRat? : Key → Option Rat
  | .bool b => some (if b then 1 else 0)
  | .int n => some n
  | .float x => x.toRat?
  | .foreign o => o.number
  | _ => none

mutual

/-- Whether two keys are the same key of an object. -/
def same : Key → Key → Bool
  | .text a, .text b => a == b
  | .null, .null => true
  | .bytes a, .bytes b => a == b
  | .tuple a, .tuple b => sameAll a b
  | .absent, .absent => true
  | .float (.infinity a), .float (.infinity b) => a == b
  | .foreign a, .foreign b => a.same b
  | a, b =>
    match a.toRat?, b.toRat? with
    | some p, some q => p == q
    | _, _ => false

/-- Whether two lists of keys are the same, one by one. -/
def sameAll : List Key → List Key → Bool
  | [], [] => true
  | a :: as, b :: bs => same a b && sameAll as bs
  | _, _ => false

end

mutual

/-- The key as a value. -/
def toValue : Key → Value
  | .text s => .text s
  | .null => .null
  | .bool b => .bool b
  | .int n => .int n
  | .float x => .float x
  | .bytes bs => .bytes bs
  | .tuple items => .tuple (toValues items)
  | .absent => .absent
  | .unreadable => .unreadable
  | .foreign o => .foreign o

/-- A list of keys as values. -/
def toValues : List Key → List Value
  | [] => []
  | key :: rest => key.toValue :: toValues rest

end

/-- Whether the key is a text. -/
def isTextual : Key → Bool
  | .text _ => true
  | _ => false

/-- Whether the key is the given text. -/
def isText (s : String) : Key → Bool
  | .text t => t == s
  | _ => false

end Key

namespace Entries

/-- The value at a key. -/
def get? (entries : Entries) (key : Key) : Option Value :=
  (entries.find? fun entry => entry.1.same key).map Prod.snd

/-- The value at a text key. -/
def field? (entries : Entries) (name : String) : Option Value :=
  (entries.find? fun entry => entry.1.isText name).map Prod.snd

/-- Puts a value at a key: in place of the old one, or at the end. -/
def put : Entries → Key → Value → Entries
  | [], key, value => [(key, value)]
  | (k, v) :: rest, key, value =>
    if k.same key then (k, value) :: rest else (k, v) :: put rest key value

/-- Puts all entries in turn, so that of two entries with one key the last value stays, at the
    place of the first. -/
def ofPairs (pairs : List (Key × Value)) : Entries :=
  pairs.foldl (fun entries (key, value) => put entries key value) []

/-- The entries of a record's fields. -/
def ofFields (fields : List (String × Value)) : Entries :=
  fields.map fun (name, value) => (.text name, value)

end Entries

namespace Value

/-- An object with text keys. -/
def record (fields : List (String × Value)) : Value := .object (Entries.ofFields fields)

/-- A text, or null if there is none. -/
def ofText? : Option String → Value
  | some s => .text s
  | none => .null

/-- Whether the value is an object. -/
def isObject : Value → Bool
  | .object _ => true
  | _ => false

/-- The entries of an object, and of what counts as one. -/
def entries? : Value → Option Entries
  | .object entries | .mapping _ entries => some entries
  | _ => none

/-- Whether the value counts as true: everything does but nothing, false, zeros and what is
    empty. -/
def isTruthy : Value → Bool
  | .null | .absent => false
  | .bool b => b
  | .int n => n ≠ 0
  | .float x => !x.isZero
  | .text s => !s.isEmpty
  | .bytes bs => !bs.isEmpty
  | .list items | .tuple items => !items.isEmpty
  | .object entries | .mapping _ entries => !entries.isEmpty
  | .foreign o => o.number ≠ some 0
  | .model _ | .readable _ | .unreadable => true

mutual

/-- Whether the value can be a key: lists, objects and records that declare their fields cannot. -/
def isKey : Value → Bool
  | .list _ | .object _ | .model _ | .mapping _ _ => false
  | .tuple items => areKeys items
  | .null | .bool _ | .int _ | .float _ | .text _ | .bytes _ => true
  | .readable _ | .unreadable | .absent | .foreign _ => true

/-- Whether all values can be keys. -/
def areKeys : List Value → Bool
  | [] => true
  | v :: rest => isKey v && areKeys rest

end

/-- The name of the value's kind, as messages give it. -/
def kindName : Value → String
  | .null => "NoneType"
  | .bool _ => "bool"
  | .int _ => "int"
  | .float _ => "float"
  | .text _ => "str"
  | .bytes _ => "bytes"
  | .list _ => "list"
  | .tuple _ => "tuple"
  | .object _ => "dict"
  | .model _ => "Model"
  | .readable _ => "Readable"
  | .unreadable => "Opaque"
  | .absent => "_Absent"
  | .foreign o | .mapping o _ => o.kind

end Value

namespace Key

/-- The name of the key's kind, as messages give it. -/
def kindName : Key → String
  | .null => "NoneType"
  | .bool _ => "bool"
  | .int _ => "int"
  | .float _ => "float"
  | .text _ => "str"
  | .bytes _ => "bytes"
  | .tuple _ => "tuple"
  | .absent => "_Absent"
  | .unreadable => "Opaque"
  | .foreign o => o.kind

end Key

end HouseholdAccess
