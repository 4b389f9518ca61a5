import HouseholdAccess.Number.Decimal
import HouseholdAccess.Text.Quoted
import HouseholdAccess.Value

/-!
# Writing JSON

Values as JSON text in ASCII: other characters are written as `\u` escapes, in
pairs beyond the first plane. Numbers that are not finite are written as `NaN`
and `Infinity`. Keys that are other scalars than text are written as the text of
what they are. What JSON has no form for is refused (`Json.Unwritable`).

The form of a text is a record (`Json.Layout`): `Json.compact` has no blanks,
`Json.spaced` has one after each comma and colon, and `Json.strict` refuses
numbers that are not finite.
-/

namespace HouseholdAccess.Json

/-- The form of a JSON text. -/
structure Layout where
  /-- What stands between items. -/
  comma : String
  /-- What stands between a key and its value. -/
  colon : String
  /-- Whether numbers that are not finite are refused. -/
  finiteOnly : Bool := false

/-- No blanks. -/
def compact : Layout := { comma := ",", colon := ":" }

/-- A blank after each separator. -/
def spaced : Layout := { comma := ", ", colon := ": " }

/-- No blanks, and nothing that is beyond the standard. -/
def strict : Layout := { compact with finiteOnly := true }

/-- What has no JSON form. -/
inductive Unwritable
  /-- A value of this kind. -/
  | kind (name : String)
  /-- A key of this kind. -/
  | key (name : String)
  /-- A number that is not finite. -/
  | notFinite (x : Binary64)

/-- The message of what has no JSON form. -/
def Unwritable.message : Unwritable → String
  | .kind name => "Object of type " ++ name ++ " is not JSON serializable"
  | .key name => "keys must be str, int, float, bool or None, not " ++ name
  | .notFinite x => "Out of range float values are not JSON compliant: " ++ x.text

/-- A unit of two bytes as an escape. -/
def unitEscape (n : Nat) : List Char := '\\' :: 'u' :: Quoted.hex 4 n

/-- A character as it stands in a JSON text. -/
def escape (c : Char) : List Char :=
  if c = '"' then ['\\', '"']
  else if c = '\\' then ['\\', '\\']
  else if c = '\n' then ['\\', 'n']
  else if c = '\r' then ['\\', 'r']
  else if c = '\t' then ['\\', 't']
  else if c = '\x0c' then ['\\', 'f']
  else if c = '\x08' then ['\\', 'b']
  else if ' ' ≤ c ∧ c ≤ '~' then [c]
  else if c.toNat < 0x10000 then unitEscape c.toNat
  else
    let n := c.toNat - 0x10000
    unitEscape (0xd800 + n / 0x400) ++ unitEscape (0xdc00 + n % 0x400)

/-- A text in quotes. -/
def quote (s : String) : String := String.ofList ('"' :: s.toList.flatMap escape ++ ['"'])

/-- Floating-point numbers are written as everywhere, except that those that are not finite have
    the names that readers of JSON know. -/
def floatLayout : Decimal.Layout := { Decimal.plain with nan := "NaN", infinity := "Infinity" }

/-- A truth value. -/
def boolean (b : Bool) : String := if b then "true" else "false"

/-- A floating-point number. -/
def writeFloat (layout : Layout) (x : Binary64) : Except Unwritable String :=
  if layout.finiteOnly && x.toRat?.isNone then .error (.notFinite x)
  else .ok (x.textIn floatLayout)

/-- A key in quotes. -/
def writeKey (layout : Layout) : Key → Except Unwritable String
  | .text s => .ok (quote s)
  | .null => .ok (quote "null")
  | .bool b => .ok (quote (boolean b))
  | .int n => .ok (quote (toString n))
  | .float x => (writeFloat layout x).map quote
  | key => .error (.key key.kindName)

mutual

/-- The JSON text of a value. -/
def write (layout : Layout) : Value → Except Unwritable String
  | .null => .ok "null"
  | .bool b => .ok (boolean b)
  | .int n => .ok (toString n)
  | .float x => writeFloat layout x
  | .text s => .ok (quote s)
  | .list items | .tuple items => do
    let texts ← writeItems layout items
    return "[" ++ layout.comma.intercalate texts ++ "]"
  | .object entries => do
    let texts ← writeEntries layout entries
    return "\x7b" ++ layout.comma.intercalate texts ++ "\x7d"
  | v => .error (.kind v.kindName)

/-- The JSON texts of a list of values. -/
def writeItems (layout : Layout) : List Value → Except Unwritable (List String)
  | [] => .ok []
  | v :: rest => do
    let text ← write layout v
    return text :: (← writeItems layout rest)

/-- The JSON texts of the entries of an object. -/
def writeEntries (layout : Layout) : List (Key × Value) → Except Unwritable (List String)
  | [] => .ok []
  | (key, v) :: rest => do
    let name ← writeKey layout key
    let text ← write layout v
    return (name ++ layout.colon ++ text) :: (← writeEntries layout rest)

end

end HouseholdAccess.Json
