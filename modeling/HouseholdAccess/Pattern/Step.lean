import HouseholdAccess.Pattern.Single

/-!
# Steps of a match

A pattern whose options are settled, as the list of steps in which it is
matched (`Pattern.Step`): tests of single characters and places, notes of where
groups begin and end, and ways to go on. A captured group is no step of its own
but two notes around its steps.

`Pattern.stepsOf` turns a sequence of pieces into steps. A repetition of single
characters is a step of its own kind (`Step.run`); it is told which character
must come after it, if there is only one, so that places where another one
comes are not tried.
-/

namespace HouseholdAccess.Pattern

/-- A place asked for, under settled options. -/
structure Spot where
  /-- Which place it is. -/
  anchor : Anchor
  /-- Whether lines count. -/
  multiline : Bool
  /-- Whether word characters are ASCII characters only. -/
  ascii : Bool

/-- A step of a match. In `inLoop` a step notes whether it lies in a repetition of sequences: there
    a way that fails gives back all that groups have captured since. -/
inductive Step
  /-- A character that passes a test. -/
  | single (s : Single)
  /-- A place. -/
  | spot (s : Spot)
  /-- Notes where a group begins or ends. -/
  | note (mark : Nat)
  /-- Single characters in a row, and the character that must come after them, if there is only
      one. -/
  | run (greed : Greed) (least : Nat) (greatest : Option Nat) (s : Single) (next : Option Nat)
    (inLoop : Bool)
  /-- A sequence several times in a row, as often as it can or as seldom as it can. -/
  | loop (reluctant : Bool) (least : Nat) (greatest : Option Nat) (body : List Step)
    (inLoop : Bool)
  /-- A sequence several times in a row, of which nothing is given back. -/
  | keep (least : Nat) (greatest : Option Nat) (body : List Step)
  /-- One of several sequences. -/
  | choice (branches : List (List Step)) (inLoop : Bool)
  /-- A sequence that is matched in one way only. -/
  | atomic (body : List Step)
  /-- The text that a group has captured, compared after a mapping of its characters. -/
  | back (group : Nat) (fold : Nat → Nat)
  /-- One of two sequences, by whether a group has captured a text. -/
  | branch (group : Nat) (yes no : List Step)
  /-- A sequence that must match this many characters before. -/
  | ahead (width : Nat) (body : List Step)
  /-- A sequence that must not match this many characters before. -/
  | absent (width : Nat) (body : List Step) (inLoop : Bool)

/-- The only character that a sequence can begin with, if that is plain; `next` is the one after an
    empty sequence. -/
def firstOf (next : Option Nat) : List Step → Option Nat
  | [] => next
  | .single s :: _ => s.only?
  | _ => none

/-- The test that a sequence makes, if it is one piece that matches one character. -/
def singleOf? (o : Options) : List Node → Option Single
  | [.group none added removed body] => singleOf? (o.within added removed) body
  | [node] => Single.ofNode? o node
  | _ => none

/-- How the text that a group has captured is compared. -/
def foldOf (o : Options) : Nat → Nat :=
  match o.caseRule? with
  | some rule => rule.lower
  | none => id

/-- What stays the same while steps are found: the widths of the groups. -/
abbrev GroupWidths := Nat → Width

mutual

/-- The steps of a piece, in front of the steps after it. -/
def stepsOfNode (groups : GroupWidths) (o : Options) (inLoop : Bool) (next : Option Nat)
    (node : Node) (after : List Step) : List Step :=
  match node with
  | .char _ _ | .any | .set _ _ =>
    match Single.ofNode? o node with
    | some s => .single s :: after
    | none => after
  | .anchor a => .spot ⟨a, o.multiline, o.ascii⟩ :: after
  | .group none added removed body =>
    stepsOf groups (o.within added removed) inLoop (firstOf next after) body ++ after
  | .group (some i) added removed body =>
    .note (2 * (i - 1)) ::
      (stepsOf groups (o.within added removed) inLoop none body ++ .note (2 * (i - 1) + 1) :: after)
  | .atomic body => .atomic (stepsOf groups o inLoop none body) :: after
  | .choice branches => .choice (stepsOfEach groups o inLoop branches) inLoop :: after
  | .loop greed least greatest body =>
    match singleOf? o body with
    | some s => .run greed least greatest s (firstOf next after) inLoop :: after
    | none =>
      match greed with
      | .greedy => .loop false least greatest (stepsOf groups o true none body) inLoop :: after
      | .reluctant => .loop true least greatest (stepsOf groups o true none body) inLoop :: after
      | .possessive => .keep least greatest (stepsOf groups o inLoop none body) :: after
  | .back group => .back group (foldOf o) :: after
  | .branch group yes no =>
    let follow := firstOf next after
    .branch group (stepsOf groups o inLoop (if no.isEmpty then follow else none) yes)
      (stepsOf groups o inLoop follow no) :: after
  | .look behind negated body =>
    let back := if behind then (width groups body).least else 0
    let steps := stepsOf groups o inLoop none body
    (if negated then .absent back steps inLoop else .ahead back steps) :: after

/-- The steps of a sequence; `next` is the only character that can come after it, if there is
    one. -/
def stepsOf (groups : GroupWidths) (o : Options) (inLoop : Bool) (next : Option Nat) :
    List Node → List Step
  | [] => []
  | node :: rest =>
    stepsOfNode groups o inLoop next node (stepsOf groups o inLoop next rest)

/-- The steps of each of several sequences. -/
def stepsOfEach (groups : GroupWidths) (o : Options) (inLoop : Bool) :
    List (List Node) → List (List Step)
  | [] => []
  | branch :: rest => stepsOf groups o inLoop none branch :: stepsOfEach groups o inLoop rest

end

end HouseholdAccess.Pattern
