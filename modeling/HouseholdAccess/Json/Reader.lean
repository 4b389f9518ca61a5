import HouseholdAccess.Json.Writer
import HouseholdAccess.Text.Encoding

/-!
# Reading JSON

A JSON text as a value, read by recursive descent. Beyond the standard, `NaN`
and the infinities are numbers; of two entries with one key the last value
stays, at the place of the first; an integer of more than `Json.digitLimit`
digits is refused, and so are lists and objects in each other beyond
`Json.depthLimit`.

`Json.read` reads a text, `Json.readBytes` a byte string in the encoding that
its first bytes show. The first thing that is wrong is what they report
(`Json.ReadFault`).
-/

namespace HouseholdAccess.Json

/-- The greatest number of digits of an integer. -/
def digitLimit : Nat := 4300

/-- The greatest number of lists and objects in each other. -/
def depthLimit : Nat := 980

/-- What is wrong with a JSON text. -/
inductive ReadFault
  /-- It does not follow the grammar. -/
  | malformed
  /-- The bytes are no text in their encoding. -/
  | encoding
  /-- An integer has too many digits. -/
  | tooLong
  /-- A list, or else an object, is in too many others. -/
  | tooDeep (isList : Bool)
  deriving DecidableEq

/-- What messages say when lists and objects are in too many others. -/
def depthMessage (isList : Bool) : String :=
  "maximum recursion depth exceeded while decoding a JSON " ++
    (if isList then "array" else "object") ++ " from a unicode string"

/-- The text without the blanks in front of it. -/
def skipBlanks (cs : List Char) : List Char :=
  cs.dropWhile fun c => c = ' ' || c = '\t' || c = '\n' || c = '\r'

/-- The value of a hexadecimal digit. -/
def hexValue? (c : Char) : Option Nat :=
  if '0' ≤ c ∧ c ≤ '9' then some (c.toNat - 48)
  else if 'a' ≤ c ∧ c ≤ 'f' then some (c.toNat - 87)
  else if 'A' ≤ c ∧ c ≤ 'F' then some (c.toNat - 55)
  else none

/-- The unit that four hexadecimal digits spell. -/
def unit? (a b c d : Char) : Option Nat := do
  let a ← hexValue? a
  let b ← hexValue? b
  let c ← hexValue? c
  let d ← hexValue? d
  return ((a * 16 + b) * 16 + c) * 16 + d

/-- The character that a letter after a backslash stands for. -/
def letterEscape? : Char → Option Nat
  | '"' => some 34
  | '\\' => some 92
  | '/' => some 47
  | 'b' => some 8
  | 'f' => some 12
  | 'n' => some 10
  | 'r' => some 13
  | 't' => some 9
  | _ => none

/-- The units of a text up to its closing quote, and what follows. -/
def readUnits : List Char → Option (List Nat × List Char)
  | [] => none
  | '"' :: rest => some ([], rest)
  | '\\' :: 'u' :: a :: b :: c :: d :: rest => do
    let unit ← unit? a b c d
    let (units, rest) ← readUnits rest
    return (unit :: units, rest)
  | '\\' :: e :: rest => do
    let unit ← letterEscape? e
    let (units, rest) ← readUnits rest
    return (unit :: units, rest)
  | c :: rest =>
    if c < ' ' || c = '\\' then none
    else do
      let (units, rest) ← readUnits rest
      return (c.toNat :: units, rest)

/-- The characters that units stand for, two halves of a pair being one. -/
def joinUnits : List Nat → List Char
  | [] => []
  | [n] => [Char.ofNat n]
  | n :: m :: rest =>
    if 0xd800 ≤ n && n < 0xdc00 && 0xdc00 ≤ m && m < 0xe000 then
      Char.ofNat (Encoding.pairCode n m) :: joinUnits rest
    else Char.ofNat n :: joinUnits (m :: rest)

/-- A text after its opening quote, and what follows. -/
def readText (cs : List Char) : Except ReadFault (String × List Char) :=
  match readUnits cs with
  | some (units, rest) => .ok (String.ofList (joinUnits units), rest)
  | none => .error .malformed

/-- The fraction of a number with its point, if there is one, and what follows. -/
def readFraction : List Char → List Char × List Char
  | '.' :: rest =>
    let (digits, after) := Decimal.spanDigits rest
    if digits.isEmpty then ([], '.' :: rest) else (digits, after)
  | cs => ([], cs)

/-- The exponent of a number, if there is one, and what follows. -/
def readExponent (cs : List Char) : Option Int × List Char :=
  match cs with
  | c :: rest =>
    if c = 'e' || c = 'E' then
      let (negative, digits) := match rest with
        | '-' :: rest => (true, rest)
        | '+' :: rest => (false, rest)
        | rest => (false, rest)
      let (digits, after) := Decimal.spanDigits digits
      if digits.isEmpty then (none, cs)
      else
        let n : Int := Decimal.natOf digits
        (some (if negative then -n else n), after)
    else (none, cs)
  | [] => (none, cs)

/-- The whole part of a number: no digit follows a leading zero. -/
def readWhole : List Char → Option (List Char × List Char)
  | '0' :: rest => some (['0'], rest)
  | cs =>
    let (digits, rest) := Decimal.spanDigits cs
    if digits.isEmpty then none else some (digits, rest)

/-- A number after its sign, and what follows. -/
def readNumber (negative : Bool) (cs : List Char) : Except ReadFault (Value × List Char) :=
  match readWhole cs with
  | none => .error .malformed
  | some (whole, rest) =>
  let (fraction, rest) := readFraction rest
  let (exponent, rest) := readExponent rest
  if fraction.isEmpty && exponent.isNone then
    if digitLimit < whole.length then .error .tooLong
    else
      let n : Int := Decimal.natOf whole
      .ok (.int (if negative then -n else n), rest)
  else
    let digits := Decimal.natOf (whole ++ fraction)
    let x := Decimal.ofDigits negative digits (exponent.getD 0 - fraction.length)
    .ok (.float x, rest)

/-- What follows a word, if the text starts with it. -/
def afterWord? (word : String) (cs : List Char) : Option (List Char) :=
  if word.toList.isPrefixOf cs then some (cs.drop word.length) else none

/-- A word that is a value, and what follows. -/
def readWord (cs : List Char) : Option (Value × List Char) :=
  [("null", Value.null), ("true", .bool true), ("false", .bool false), ("NaN", .float .nan),
    ("Infinity", .float (.infinity false)),
    ("-Infinity", .float (.infinity true))].findSome? fun (word, v) =>
      (afterWord? word cs).map fun rest => (v, rest)

/-- A scalar that is no text, and what follows. -/
def readScalar (cs : List Char) : Except ReadFault (Value × List Char) :=
  match readWord cs with
  | some found => .ok found
  | none =>
    match cs with
    | '-' :: rest => readNumber true rest
    | cs => readNumber false cs

mutual

/-- A value, with no blanks in front of it, and what follows; `depth` says how many lists and
    objects may still be in each other. -/
def readValue : Nat → Nat → List Char → Except ReadFault (Value × List Char)
  | 0, _, _ => .error .malformed
  | fuel + 1, depth, cs =>
    match cs with
    | '"' :: rest => do
      let (s, rest) ← readText rest
      return (.text s, rest)
    | '[' :: rest =>
      if depth = 0 then .error (.tooDeep true)
      else
        match skipBlanks rest with
        | ']' :: rest => .ok (.list [], rest)
        | rest => do
          let (items, rest) ← readItems fuel (depth - 1) rest
          return (.list items, rest)
    | '\x7b' :: rest =>
      if depth = 0 then .error (.tooDeep false)
      else
        match skipBlanks rest with
        | '\x7d' :: rest => .ok (.object [], rest)
        | rest => do
          let (pairs, rest) ← readMembers fuel (depth - 1) rest
          return (.object (Entries.ofPairs pairs), rest)
    | cs => readScalar cs

/-- The items of a list up to its closing bracket, and what follows. -/
def readItems : Nat → Nat → List Char → Except ReadFault (List Value × List Char)
  | 0, _, _ => .error .malformed
  | fuel + 1, depth, cs => do
    let (item, rest) ← readValue fuel depth cs
    match skipBlanks rest with
    | ',' :: rest =>
      let (items, rest) ← readItems fuel depth (skipBlanks rest)
      return (item :: items, rest)
    | ']' :: rest => return ([item], rest)
    | _ => .error .malformed

/-- The members of an object up to its closing brace, and what follows. -/
def readMembers : Nat → Nat → List Char → Except ReadFault (List (Key × Value) × List Char)
  | 0, _, _ => .error .malformed
  | fuel + 1, depth, cs => do
    match cs with
    | '"' :: rest =>
      let (name, rest) ← readText rest
      match skipBlanks rest with
      | ':' :: rest =>
        let (v, rest) ← readValue fuel depth (skipBlanks rest)
        match skipBlanks rest with
        | ',' :: rest =>
          let (pairs, rest) ← readMembers fuel depth (skipBlanks rest)
          return ((.text name, v) :: pairs, rest)
        | '\x7d' :: rest => return ([(.text name, v)], rest)
        | _ => .error .malformed
      | _ => .error .malformed
    | _ => .error .malformed

end

/-- The value that a list of characters spells. -/
def readChars (cs : List Char) : Except ReadFault Value := do
  let (v, rest) ← readValue (2 * cs.length + 2) depthLimit (skipBlanks cs)
  if (skipBlanks rest).isEmpty then .ok v else .error .malformed

/-- The value that a JSON text spells. -/
def read (s : String) : Except ReadFault Value := readChars s.toList

/-- The value that a JSON text in bytes spells. -/
def readBytes (bs : List UInt8) : Except ReadFault Value :=
  let (encoding, bs) := Encoding.detect bs
  match encoding.decode bs with
  | some s => read s
  | none => .error .encoding

end HouseholdAccess.Json
