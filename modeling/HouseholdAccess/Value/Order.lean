import HouseholdAccess.Value.Equality

/-!
# Order of values

Two numbers compare by their exact values and two texts code point by code
point; no other two values compare. The comparison asks first whether the
first value is below and then whether it is above the second one, and what is
neither counts as level. So a comparison with what is not a number comes out
level, although no two such values are equal.
-/

namespace HouseholdAccess

/-- Whether one list of code points comes strictly before another. -/
def charsBefore : List Char → List Char → Bool
  | [], [] => false
  | [], _ :: _ => true
  | _ :: _, [] => false
  | a :: as, b :: bs => a.toNat < b.toNat || (a.toNat == b.toNat && charsBefore as bs)

/-- Whether one text comes strictly before another, code point by code point. -/
def textBefore (s t : String) : Bool := charsBefore s.toList t.toList

namespace Value

/-- Whether one number lies strictly below another. What is not a number lies below none. -/
def numberBelow (a b : Value) : Bool :=
  match a.toExtended?, b.toExtended? with
  | some x, some y => x.lt y
  | _, _ => false

/-- How two values compare, if they do. -/
def compare? (a b : Value) : Option Ordering :=
  match a, b with
  | .text s, .text t =>
    some (if textBefore s t then .lt else if textBefore t s then .gt else .eq)
  | a, b =>
    if a.isNumber && b.isNumber then
      some (if numberBelow a b then .lt else if numberBelow b a then .gt else .eq)
    else none

end Value

end HouseholdAccess
