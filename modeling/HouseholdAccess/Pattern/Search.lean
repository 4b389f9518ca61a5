import HouseholdAccess.Pattern.Attempt
import HouseholdAccess.Pattern.Reader

/-!
# Searching for patterns

`Pattern.Compiled.search` looks for a match of a pattern at each place of a text
in turn, except for places where there can be none: those with too few characters
behind them, and where the pattern begins with a set (`Pattern.lead?`), those at
a character outside the set as the options of the whole pattern see it.

`Pattern.found` says whether a pattern text matches somewhere in a text.
-/

namespace HouseholdAccess.Pattern

/-- Whether case blurs an item of a set: it holds a letter that has case, or is a range that goes
    beyond what is folded. -/
def SetItem.isBlurred (rule : CaseRule) : SetItem → Bool
  | .char d => rule.isCased d
  | item => item.isCased rule

/-- The set that a sequence begins with, under the options around it, unless case blurs it. -/
def lead? (o : Options) : List Node → Option (Bool × List SetItem)
  | .set negated items :: _ =>
    match o.caseRule? with
    | some rule => if items.any (·.isBlurred rule) then none else some (negated, items)
    | none => some (negated, items)
  | .group _ added removed body :: _ => lead? (o.within added removed) body
  | _ => none

/-- The places from `index` on at which a match is looked for, with `left` of them ahead: the first
    match there. -/
def searchFrom (text : Array Nat) (steps : List Step) (lead : Option Single) (index : Nat) :
    Nat → Option Marks
  | 0 => none
  | left + 1 =>
    let mayBegin := match lead with
      | some s => passes text s index
      | none => true
    let found := if mayBegin then (Attempt.start steps index).run text Attempt.patience else none
    match found with
    | some marks => some marks
    | none => searchFrom text steps lead (index + 1) left

/-- Whether a group of a match ends before it begins. -/
def Marks.isReversed (m : Marks) (group : Nat) : Bool :=
  match m.span? group with
  | some (first, last) => last < first
  | none => false

/-- Whether the pattern matches somewhere in a text. -/
def Compiled.search (c : Compiled) (text : String) : Except Trouble Bool :=
  let chars := (text.toList.map Char.toNat).toArray
  let widths := Reading.widthOf c.groups
  let least := (width widths c.body).least
  if chars.size < least then .ok false
  else
    let steps := stepsOf widths c.options false none c.body
    let lead := (lead? c.options c.body).bind fun (negated, items) =>
      Single.ofNode? { c.options with ignoreCase := false } (.set negated items)
    let places := chars.size + (if lead.isSome then 1 else 2) - max least 1
    match searchFrom chars steps lead 0 places with
    | none => .ok false
    | some marks =>
      if (List.range c.groups.size).any fun i => marks.isReversed (i + 1) then
        .error .reversedCapture
      else .ok true

/-- Whether a pattern matches somewhere in a text. What is not a pattern matches nowhere; the other
    troubles are reported. -/
def found (pattern text : String) : Except Trouble Bool :=
  match read pattern with
  | .ok c => c.search text
  | .error .malformed => .ok false
  | .error trouble => .error trouble

end HouseholdAccess.Pattern
