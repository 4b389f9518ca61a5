import HouseholdAccess.Condition
import HouseholdAccess.Value.Shown

/-!
# Condition documents

Conditions are written as documents: an object whose keys are paths or the
combinators `$and`, `$or` and `$not`. At a path stands an operand to compare
with, an object of operators and operands, or an object of nested fields, whose
paths are joined to the one above.

* `Condition.ofDocument` reads a document. A document that constrains nothing
  gives no condition, and one that does not follow the grammar a
  `Condition.Fault`;
* `Condition.toDocument` writes a condition. Conditions on fields that differ
  in path or operator are grouped by path, and a lone `$eq` is written as its
  operand unless that is an object.

What it takes to parse a document is said in `HouseholdAccess.Condition.Parsing`.
-/

namespace HouseholdAccess

/-- A way to combine documents. -/
inductive Combinator
  /-- All of a list of documents. -/
  | and
  /-- Some of a list of documents. -/
  | or
  /-- Not the one document. -/
  | not
  deriving DecidableEq

/-- How documents write the combinator. -/
def Combinator.token : Combinator → String
  | .and => "$and"
  | .or => "$or"
  | .not => "$not"

/-- The combinator that a token stands for. -/
def Combinator.ofToken? (s : String) : Option Combinator :=
  [Combinator.and, .or, .not].find? fun c => c.token == s

namespace Condition

/-- What is wrong with a document. -/
inductive Fault
  /-- It is not an object. -/
  | notObject (v : Value)
  /-- A key is not a text. -/
  | keyNotText (key : Key)
  /-- A key starts like an operator where none may stand. -/
  | misplacedOperator (token : String)
  /-- `$not` does not hold an object. -/
  | notWithoutObject
  /-- A combinator does not hold a list. -/
  | withoutList (combinator : Combinator)
  /-- An item of a combinator is not an object. -/
  | itemNotObject (combinator : Combinator)
  /-- The keys at a path are neither all operators nor all fields. -/
  | mixedKeys (path : String)

/-- The message of a fault. -/
def Fault.message : Fault → String
  | .notObject v => "Conditions must be an object, got " ++ v.kindName
  | .keyNotText key => "Field names must be strings, got " ++ key.shown
  | .misplacedOperator token => "Unknown or misplaced operator " ++ Quoted.text token
  | .notWithoutObject => "$not expects an object"
  | .withoutList combinator => combinator.token ++ " expects a list"
  | .itemNotObject combinator => combinator.token ++ " items must be objects"
  | .mixedKeys path =>
    "Field " ++ Quoted.text path ++
      " mixes operators with nested fields or uses an unknown operator"

/-! ## Reading -/

/-- Whether a text starts like an operator. -/
def isDollar (s : String) : Bool := s.toList.head? == some '$'

/-- Whether a key starts like an operator. -/
def isDollarKey : Key → Bool
  | .text s => isDollar s
  | _ => false

/-- The operator that a key stands for. -/
def keyOperator? : Key → Option Operator
  | .text s => Operator.ofToken? s
  | _ => none

/-- The conditions at a path, if all keys are operators. -/
def operators? (path : String) : Entries → Option (List Condition)
  | [] => some []
  | (key, operand) :: rest => do
    let op ← keyOperator? key
    return .field path op operand :: (← operators? path rest)

/-- One condition stands for itself, several or none for all of them. -/
def conjunction : List Condition → Condition
  | [c] => c
  | cs => .all cs

mutual

/-- The conditions that the value at a path stands for. -/
def readField (path : String) : Value → Except Fault (List Condition)
  | .object entries | .mapping _ entries =>
    match operators? path entries with
    | some conditions => .ok conditions
    | none =>
      if entries.any fun entry => isDollarKey entry.1 then .error (.mixedKeys path)
      else readNested path entries
  | v => .ok [.field path .eq v]

/-- The conditions that fields nested under a path stand for. -/
def readNested (path : String) : List (Key × Value) → Except Fault (List Condition)
  | [] => .ok []
  | (key, v) :: rest => do
    match key with
    | .text s =>
      let first ← readField (Path.join path s) v
      return first ++ (← readNested path rest)
    | key => .error (.keyNotText key)

end

mutual

/-- The conditions that the entries of a document stand for. -/
def readEntries : List (Key × Value) → Except Fault (List Condition)
  | [] => .ok []
  | (key, v) :: rest => do
    match key with
    | .text s =>
      match Combinator.ofToken? s with
      | some combinator =>
        let first ← readCombinator combinator v
        return first :: (← readEntries rest)
      | none =>
        if isDollar s then .error (.misplacedOperator s)
        else
          let first ← readField s v
          return first ++ (← readEntries rest)
    | key => .error (.keyNotText key)

/-- The condition that a combinator with its value stands for. -/
def readCombinator (combinator : Combinator) : Value → Except Fault Condition
  | .object entries | .mapping _ entries =>
    match combinator with
    | .not => return .not (conjunction (← readEntries entries))
    | _ => .error (.withoutList combinator)
  | .list items | .tuple items =>
    match combinator with
    | .not => .error .notWithoutObject
    | .and => return .all (← readItems .and items)
    | .or => return .any (← readItems .or items)
  | _ =>
    match combinator with
    | .not => .error .notWithoutObject
    | _ => .error (.withoutList combinator)

/-- The conditions that a list of documents stands for. -/
def readItems (combinator : Combinator) : List Value → Except Fault (List Condition)
  | [] => .ok []
  | item :: rest => do
    let first ← readItem combinator item
    return first :: (← readItems combinator rest)

/-- The condition that an item of a combinator stands for. -/
def readItem (combinator : Combinator) : Value → Except Fault Condition
  | .object entries | .mapping _ entries => return conjunction (← readEntries entries)
  | _ => .error (.itemNotObject combinator)

end

/-- The condition that a document stands for, if it constrains anything. -/
def ofDocument : Value → Except Fault (Option Condition)
  | .null => .ok none
  | .object entries | .mapping _ entries => do
    match conjunction (← readEntries entries) with
    | .all [] => return none
    | condition => return some condition
  | v => .error (.notObject v)

/-! ## Writing -/

/-- A condition on one field. -/
structure FieldTest where
  /-- The path of the field. -/
  path : String
  /-- The operator. -/
  operator : Operator
  /-- The operand. -/
  operand : Value

/-- The conditions of a list, if all are conditions on a field. -/
def fieldTests? : List Condition → Option (List FieldTest)
  | [] => some []
  | .field path operator operand :: rest =>
    (fieldTests? rest).map (⟨path, operator, operand⟩ :: ·)
  | _ :: _ => none

/-- Whether no two of the conditions have both path and operator in common. -/
def distinctTests : List FieldTest → Bool
  | [] => true
  | test :: rest =>
    !(rest.any fun other => other.path == test.path && other.operator == test.operator) &&
      distinctTests rest

/-- The paths in the order in which they first occur. -/
def paths (tests : List FieldTest) : List String := (tests.map (·.path)).eraseDups

/-- The operators and operands at a path. -/
def testsAt (tests : List FieldTest) (path : String) : List FieldTest :=
  tests.filter fun test => test.path == path

/-- What stands at a path: the operand of a lone `$eq` unless it is an object, or the operators
    with their operands. -/
def writeTests (tests : List FieldTest) : Value :=
  let operators := Value.record (tests.map fun test => (test.operator.token, test.operand))
  match tests with
  | [test] =>
    if test.operator = .eq && test.operand.entries?.isNone then test.operand else operators
  | _ => operators

/-- The document of conditions on fields, grouped by path. -/
def writeFields (tests : List FieldTest) : Value :=
  Value.record ((paths tests).map fun path => (path, writeTests (testsAt tests path)))

/-- The conditions of a list as one document, if they can be grouped by path. -/
def grouped? (children : List Condition) : Option Value := do
  let tests ← fieldTests? children
  if distinctTests tests then some (writeFields tests) else none

mutual

/-- The document of a condition. -/
def toDocument : Condition → Value
  | .field path operator operand => writeFields [⟨path, operator, operand⟩]
  | .all children =>
    match grouped? children with
    | some document => document
    | none => Value.record [("$and", .list (toDocuments children))]
  | .any children => Value.record [("$or", .list (toDocuments children))]
  | .not child => Value.record [("$not", toDocument child)]

/-- The documents of a list of conditions. -/
def toDocuments : List Condition → List Value
  | [] => []
  | child :: rest => toDocument child :: toDocuments rest

end

end Condition

end HouseholdAccess
