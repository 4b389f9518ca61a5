import HouseholdAccess.Pattern.Search
import HouseholdAccess.Value.Order
import HouseholdAccess.Value.Path

/-!
# Conditions

A condition is a tree (`Condition`): its leaves compare the value that a path
leads to with an operand, its inner nodes ask for all, for some or for none of
their children.

Whether a subject meets a condition (`Condition.meets`) is decided from left to
right and stops as soon as the answer is known. Two things can go wrong
(`Condition.Trouble`): an operand of `$regex` is no usable pattern, or a record on
the way is not readable. A text that is no pattern at all just matches nothing.
How many calls the decision takes is said in `HouseholdAccess.Condition.Matching`.
-/

namespace HouseholdAccess

/-- An operator between the value of a field and an operand. -/
inductive Operator
  /-- The two are equal. -/
  | eq
  /-- The two are not equal. -/
  | ne
  /-- The value is greater. -/
  | gt
  /-- The value is greater or level. -/
  | gte
  /-- The value is less. -/
  | lt
  /-- The value is less or level. -/
  | lte
  /-- The value equals an item of a list. -/
  | isIn
  /-- The value equals no item of a list. -/
  | notIn
  /-- The field is there, or is not. -/
  | exists
  /-- The value is a text in which a pattern matches. -/
  | regex
  deriving DecidableEq

namespace Operator

/-- All operators. -/
def all : List Operator := [eq, ne, gt, gte, lt, lte, isIn, notIn, «exists», regex]

/-- How documents write the operator. -/
def token : Operator → String
  | eq => "$eq"
  | ne => "$ne"
  | gt => "$gt"
  | gte => "$gte"
  | lt => "$lt"
  | lte => "$lte"
  | isIn => "$in"
  | notIn => "$nin"
  | «exists» => "$exists"
  | regex => "$regex"

/-- The operator that a token stands for. -/
def ofToken? (s : String) : Option Operator := all.find? fun op => op.token == s

theorem ofToken?_token (op : Operator) : ofToken? op.token = some op := by
  cases op <;> decide

/-- The items of an operand that is a list. -/
def items? : Value → Option (List Value)
  | .list items | .tuple items => some items
  | _ => none

/-- Whether a comparison came out as asked; two values that do not compare never do. -/
def ordered (accepts : Ordering → Bool) (actual operand : Value) : Bool :=
  match actual.compare? operand with
  | some order => accepts order
  | none => false

/-- Whether the operator holds between the value of a field and an operand. -/
def holds (op : Operator) (actual operand : Value) : Except Pattern.Trouble Bool :=
  match op with
  | eq => .ok (actual.equals operand)
  | ne => .ok (!actual.equals operand)
  | gt => .ok (ordered (· == .gt) actual operand)
  | gte => .ok (ordered (· != .lt) actual operand)
  | lt => .ok (ordered (· == .lt) actual operand)
  | lte => .ok (ordered (· != .gt) actual operand)
  | isIn =>
    match items? operand with
    | some items => .ok (items.any actual.equals)
    | none => .ok false
  | notIn =>
    match items? operand with
    | some items => .ok (!items.any actual.equals)
    | none => .ok false
  | «exists» =>
    let wanted := match operand with
      | .bool b => b
      | _ => true
    let present := match actual with
      | .absent => false
      | _ => true
    .ok (present == wanted)
  | regex =>
    match actual, operand with
    | .text s, .text pattern => Pattern.found pattern s
    | _, _ => .ok false

end Operator

/-- A condition on a subject. -/
inductive Condition
  /-- The value that the path leads to stands in a relation to an operand. -/
  | field (path : String) (operator : Operator) (operand : Value)
  /-- Every child is met. -/
  | all (children : List Condition)
  /-- Some child is met. -/
  | any (children : List Condition)
  /-- The child is not met. -/
  | not (child : Condition)
  deriving Inhabited

namespace Condition

/-- What can go wrong when it is decided whether a subject meets a condition. -/
inductive Trouble
  /-- An operand is no usable pattern. -/
  | pattern (trouble : Pattern.Trouble)
  /-- A record cannot be read. -/
  | unreadable (record : Value.Unreadable)

/-- Whether the value that a path leads to stands in a relation to an operand. -/
def holdsAt (subject : Value) (path : String) (operator : Operator) (operand : Value) :
    Except Trouble Bool := do
  let actual ← (subject.resolve path).mapError .unreadable
  (operator.holds actual operand).mapError .pattern

mutual

/-- Whether a subject meets a condition. -/
def meets (subject : Value) : Condition → Except Trouble Bool
  | .field path operator operand => holdsAt subject path operator operand
  | .all children => meetsAll subject children
  | .any children => meetsAny subject children
  | .not child => (meets subject child).map (!·)

/-- Whether a subject meets every condition of a list; those after one that is not met are not
    looked at. -/
def meetsAll (subject : Value) : List Condition → Except Trouble Bool
  | [] => .ok true
  | child :: rest => do if ← meets subject child then meetsAll subject rest else .ok false

/-- Whether a subject meets some condition of a list; those after one that is met are not looked
    at. -/
def meetsAny (subject : Value) : List Condition → Except Trouble Bool
  | [] => .ok false
  | child :: rest => do if ← meets subject child then .ok true else meetsAny subject rest

end

/-- Whether a subject meets a condition that may be missing; none is always met. -/
def meetsOption (subject : Value) : Option Condition → Except Trouble Bool
  | none => .ok true
  | some condition => condition.meets subject

end Condition

end HouseholdAccess
