import HouseholdAccess.Pattern.Reader

/-!
# The calls that a pattern takes

A pattern text is read and then gone through once more, both by calls within each
other: a group is read in two calls, and to go through a piece that has pieces in it
takes one. `Pattern.calls` is the greatest number of calls that are within each other
on the way. Reading and going through end where they find that the text is no pattern
that can be used; what comes after that place takes no calls.

To look for a pattern that has been read takes no calls of this kind.
-/

namespace HouseholdAccess.Pattern

/-- The calls of reading a pattern that has no groups. -/
def readingCalls : Nat := 6

/-- The calls of going through a pattern that has no pieces within pieces. -/
def checkingCalls : Nat := 5

mutual

/-- The calls of going through a piece, given the widths of the groups. -/
def nodeCalls (groups : Nat → Width) (template : Bool) : Node → Nat
  | .group _ _ _ body | .atomic body => 1 + sequenceCalls groups template body
  | .choice branches => 1 + choiceCalls groups template branches
  | .loop _ _ _ body => if template then 0 else 1 + sequenceCalls groups template body
  | .branch _ yes no =>
    1 + max (sequenceCalls groups template yes)
      (if checkAll groups template yes && allStayNear groups yes then
        sequenceCalls groups template no
      else 0)
  | .look behind _ body =>
    let w := width groups body
    if !behind || (w.least == w.greatest && w.least < behindLimit) then
      1 + sequenceCalls groups template body
    else 0
  | _ => 0

/-- The calls of going through the pieces of a sequence, up to the first one that cannot be
    used. -/
def sequenceCalls (groups : Nat → Width) (template : Bool) : List Node → Nat
  | [] => 0
  | node :: rest =>
    max (nodeCalls groups template node)
      (if checkNode groups template node && staysNear groups node then
        sequenceCalls groups template rest
      else 0)

/-- The calls of going through the sequences of a choice, up to the first one that cannot be
    used. -/
def choiceCalls (groups : Nat → Width) (template : Bool) : List (List Node) → Nat
  | [] => 0
  | branch :: rest =>
    max (sequenceCalls groups template branch)
      (if checkAll groups template branch && allStayNear groups branch then
        choiceCalls groups template rest
      else 0)

end

/-- The calls that a pattern text takes, whether or not it is a pattern. -/
def calls (s : String) : Nat :=
  match readText s with
  | (.ok body, p) =>
    max (readingCalls + p.deepest)
      (checkingCalls + sequenceCalls (Reading.widthOf p.groups) p.options.template body)
  | (.error _, p) => readingCalls + p.deepest

end HouseholdAccess.Pattern
