import HouseholdAccess.Condition
import HouseholdAccess.Demand
import HouseholdAccess.Pattern.Calls

/-!
# Deciding conditions

`Condition.meets` says whether a subject meets a condition. It is decided by calls
within each other: three for a list of conditions, for a list of values and for an
object, one for a negation, and those that a pattern takes. `Condition.calls` is the
greatest number of them on the way to the answer, and where there is no room for so
many there is none (`Condition.meetsWithin`).
-/

namespace HouseholdAccess

/-! ## Calls -/

namespace Value

mutual

/-- The calls of finding out whether two values are equal. -/
def equalCalls : Value → Value → Nat
  | .list a, .list b | .list a, .tuple b | .tuple a, .list b | .tuple a, .tuple b =>
    if a.length = b.length then 3 + equalCallsAll a b else 1
  | .object a, .object b | .object a, .mapping _ b | .mapping _ a, .object b
  | .mapping _ a, .mapping _ b => if sameKeys a b then 3 + equalCallsEach a b else 1
  | _, _ => 1

/-- The calls of comparing two lists, element by element up to the first two that differ. -/
def equalCallsAll : List Value → List Value → Nat
  | a :: as, b :: bs =>
    max (equalCalls a b) (if equals a b then equalCallsAll as bs else 0)
  | _, _ => 0

/-- The calls of comparing the entries of an object with those of another one, up to the first that
    differs. -/
def equalCallsEach : Entries → Entries → Nat
  | [], _ => 0
  | (key, a) :: rest, other =>
    match other.get? key with
    | some b => max (equalCalls a b) (if equals a b then equalCallsEach rest other else 0)
    | none => 0

end

/-- The calls of looking for a value among others, up to the first one that equals it. -/
def amongCalls (v : Value) : List Value → Nat
  | [] => 0
  | item :: rest => max (v.equalCalls item) (if v.equals item then 0 else amongCalls v rest)

end Value

/-- The calls of finding out whether an operator holds between two values. -/
def Operator.calls (op : Operator) (actual operand : Value) : Nat :=
  match op with
  | eq | ne => 1 + actual.equalCalls operand
  | gt | gte | lt | lte => 2
  | isIn | notIn =>
    match items? operand with
    | some items => 3 + actual.amongCalls items
    | none => 1
  | «exists» => 1
  | regex =>
    match actual, operand with
    | .text _, .text pattern => 3 + Pattern.calls pattern
    | _, _ => 1

namespace Condition

/-- The calls of finding out whether the value that a path leads to stands in a relation to an
    operand. -/
def fieldCalls (subject : Value) (path : String) (operator : Operator) (operand : Value) : Nat :=
  match subject.resolve path with
  | .ok actual => 1 + max 1 (operator.calls actual operand)
  | .error _ => 2

mutual

/-- The calls of finding out whether a subject meets a condition. -/
def calls (subject : Value) : Condition → Nat
  | .field path operator operand => fieldCalls subject path operator operand
  | .all children => 3 + callsOfAll subject children
  | .any children => 3 + callsOfAny subject children
  | .not child => 1 + calls subject child

/-- The calls for the conditions of a list, up to the first that is not met. -/
def callsOfAll (subject : Value) : List Condition → Nat
  | [] => 0
  | child :: rest =>
    max (calls subject child)
      (match meets subject child with
        | .ok true => callsOfAll subject rest
        | _ => 0)

/-- The calls for the conditions of a list, up to the first that is met. -/
def callsOfAny (subject : Value) : List Condition → Nat
  | [] => 0
  | child :: rest =>
    max (calls subject child)
      (match meets subject child with
        | .ok false => callsOfAny subject rest
        | _ => 0)

end

/-- The calls for a condition that may be missing. -/
def callsOption (subject : Value) : Option Condition → Nat
  | none => 0
  | some c => c.calls subject

/-! ## Answers -/

/-- Why it is not known whether a subject meets a condition. -/
inductive Unanswered
  /-- Something has gone wrong on the way. -/
  | trouble (t : Trouble)
  /-- There is an obstacle to finding it out. -/
  | obstacle (o : Obstacle)

/-- Whether a subject meets a condition that may be missing, where there is room for so many
    calls. -/
def meetsWithin (room : Nat) (subject : Value) (c : Option Condition) : Except Unanswered Bool :=
  match (Demand.calls (callsOption subject c)).obstacle? room with
  | some o => .error (.obstacle o)
  | none => (meetsOption subject c).mapError .trouble

end Condition

end HouseholdAccess
