import HouseholdAccess.Text.Quoted

/-!
# Signatures

What an operation takes: the names of the arguments that it needs, and how many
more it may be given (`Signature`). Arguments that do not fit are a
`Signature.Fault`, of which the message counts whom the operation is asked of
among the arguments that are given in order.
-/

namespace HouseholdAccess

/-- What an operation takes. -/
structure Signature where
  /-- The name of the operation. -/
  name : String
  /-- The arguments that it needs. -/
  needed : List String
  /-- How many more it may be given. -/
  extra : Nat := 0
  deriving DecidableEq

namespace Signature

/-- What is wrong with arguments. -/
inductive Fault
  /-- Some are missing. -/
  | missing (operation : String) (names : List String)
  /-- There are too many. -/
  | tooMany (s : Signature) (given : Nat)
  deriving DecidableEq

/-- Names in a sentence. -/
def enumeration : List String → String
  | [] => ""
  | [a] => a
  | [a, b] => a ++ " and " ++ b
  | names => ", ".intercalate names.dropLast ++ ", and " ++ names.getLastD ""

/-- A number of things. -/
def counted (n : Nat) (thing : String) : String :=
  toString n ++ " " ++ thing ++ (if n = 1 then "" else "s")

/-- How many arguments an operation takes, counted with whom it is asked of. -/
def range (s : Signature) : String :=
  let least := s.needed.length + 1
  if s.extra = 0 then counted least "positional argument"
  else "from " ++ toString least ++ " to " ++ toString (least + s.extra) ++ " positional arguments"

/-- The message of a fault. -/
def Fault.message : Fault → String
  | .missing operation names =>
    operation ++ "() missing " ++ counted names.length "required positional argument" ++ ": " ++
      enumeration (names.map Quoted.text)
  | .tooMany s given =>
    s.name ++ "() takes " ++ s.range ++ " but " ++ toString (given + 1) ++ " were given"

/-- What is wrong with so many arguments, if anything is. -/
def fault? (s : Signature) (given : Nat) : Option Fault :=
  if given < s.needed.length then some (.missing s.name (s.needed.drop given))
  else if s.needed.length + s.extra < given then some (.tooMany s given)
  else none

theorem fault?_eq_none_iff (s : Signature) (given : Nat) :
    s.fault? given = none ↔ s.needed.length ≤ given ∧ given ≤ s.needed.length + s.extra := by
  unfold fault?
  split
  · simp; omega
  · split
    · simp; omega
    · simp; omega

end Signature

end HouseholdAccess
