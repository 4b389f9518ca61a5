import HouseholdAccess.Value

/-!
# Equality of values

One equality serves the operators that compare for equality or membership. It
keeps kinds apart: an absent field equals nothing, null only null, a boolean
only a boolean and a text only a text, while integers and floating-point
numbers compare by their exact values. Lists and tuples compare element by
element, objects key by key in any order, and objects of other hands only within
their kind.
-/

namespace HouseholdAccess

/-- A number as an endpoint of the number line: a fraction or an infinity. -/
inductive Extended
  /-- Below every fraction. -/
  | bottom
  /-- An exact fraction. -/
  | rational (q : Rat)
  /-- Above every fraction. -/
  | top
  deriving DecidableEq

namespace Extended

/-- The strict order of the extended number line. -/
def lt : Extended → Extended → Bool
  | .bottom, .bottom => false
  | .bottom, _ => true
  | .rational _, .bottom => false
  | .rational p, .rational q => p < q
  | .rational _, .top => true
  | .top, _ => false

end Extended

/-- Where a number lies on the extended number line, if it is a number. -/
def Binary64.toExtended? : Binary64 → Option Extended
  | .nan => none
  | .infinity negative => some (if negative then .bottom else .top)
  | x => x.toRat?.map .rational

namespace Value

/-- Whether the value is a number; a boolean is none. -/
def isNumber : Value → Bool
  | .int _ | .float _ => true
  | _ => false

/-- Where a numeric value lies on the extended number line. What is not a number lies nowhere. -/
def toExtended? : Value → Option Extended
  | .int n => some (.rational n)
  | .float x => x.toExtended?
  | _ => none

/-- Whether two numbers are equal. What is not a number equals none. -/
def sameNumber (a b : Value) : Bool :=
  match a.toExtended?, b.toExtended? with
  | some x, some y => x == y
  | _, _ => false

/-- Whether every key of the first object is a key of the second. -/
def keysIn (a b : Entries) : Bool := a.all fun entry => b.any fun other => entry.1.same other.1

/-- Whether two objects have the same keys. -/
def sameKeys (a b : Entries) : Bool := keysIn a b && keysIn b a

mutual

/-- Whether two values are equal. -/
def equals : Value → Value → Bool
  | .null, .null => true
  | .bool a, .bool b => a == b
  | .int a, b => sameNumber (.int a) b
  | .float a, b => sameNumber (.float a) b
  | .text a, .text b => a == b
  | .bytes a, .bytes b => a == b
  | .list a, .list b => equalsAll a b
  | .list a, .tuple b => equalsAll a b
  | .tuple a, .list b => equalsAll a b
  | .tuple a, .tuple b => equalsAll a b
  | .object a, .object b => sameKeys a b && equalsEach a b
  | .object a, .mapping _ b => sameKeys a b && equalsEach a b
  | .mapping _ a, .object b => sameKeys a b && equalsEach a b
  | .mapping _ a, .mapping _ b => sameKeys a b && equalsEach a b
  | .foreign a, .foreign b => a.kind == b.kind && a.same b
  | _, _ => false

/-- Whether two lists are equal, element by element. -/
def equalsAll : List Value → List Value → Bool
  | [], [] => true
  | a :: as, b :: bs => equals a b && equalsAll as bs
  | _, _ => false

/-- Whether each entry of the first object equals the entry of the second at the same key. -/
def equalsEach : Entries → Entries → Bool
  | [], _ => true
  | (key, a) :: rest, other =>
    (match other.get? key with
      | some b => equals a b
      | none => false) && equalsEach rest other

end

end Value

end HouseholdAccess
