import HouseholdAccess.Pattern.Step

/-!
# Attempts at a match

An attempt (`Pattern.Attempt`) tries to match steps from one place of a text on.
It keeps what is still to be done (`Todo`) and the ways that are open if what it
is doing fails (`Ways`): each step goes on in its first way and leaves the others
open. `Attempt.next` takes one step, or the next open way after a failure, and
`Attempt.run` goes on until everything is done or no way is open.

* A group counts as captured once its end has been noted (`Marks.captured?`).
  What has been noted is given back when a way fails: how many marks count
  always, and the marks themselves inside repetitions (`Marks.restore`).
* A repetition that has done its least number of rounds goes on only from a place
  where its last round has not begun, which keeps rounds that match nothing from
  going on for ever.
* A repetition that gives nothing back ends with the first round that fails, at
  the last place that this round has noted (`Attempt.reached`).
-/

namespace HouseholdAccess.Pattern

/-! ## Marks -/

/-- Where groups begin and end, by twice their number. -/
structure Marks where
  /-- The places noted. -/
  places : Array (Option Nat) := #[]
  /-- How many of them count. -/
  valid : Nat := 0

/-- What is needed to give marks back. -/
structure Saved where
  /-- How many marks counted. -/
  valid : Nat
  /-- The marks, if they are to be given back themselves. -/
  places : Option (Array (Option Nat))

namespace Marks

/-- Puts a place where the places before are there already. -/
def put (places : Array (Option Nat)) (mark : Nat) (index : Option Nat) : Array (Option Nat) :=
  if h : mark < places.size then places.set mark index h else places.push index

/-- Clears so many marks from one on. -/
def clear (places : Array (Option Nat)) (mark : Nat) : Nat → Array (Option Nat)
  | 0 => places
  | count + 1 => clear (put places mark none) (mark + 1) count

/-- Notes a place. Marks between those that count and this one hold no place. -/
def note (m : Marks) (mark index : Nat) : Marks where
  places := put (clear m.places m.valid (mark - m.valid)) mark (some index)
  valid := max m.valid (mark + 1)

/-- Where a group begins and ends last, if its end counts. -/
def span? (m : Marks) (group : Nat) : Option (Nat × Nat) :=
  if 2 * group ≤ m.valid then
    match m.places[2 * group - 2]?, m.places[2 * group - 1]? with
    | some (some first), some (some last) => some (first, last)
    | _, _ => none
  else none

/-- The part of the text that a group has captured. -/
def captured? (m : Marks) (group : Nat) : Option (Nat × Nat) :=
  (m.span? group).filter fun (first, last) => first ≤ last

/-- What is needed to give these marks back. -/
def save (m : Marks) (inLoop : Bool) : Saved := ⟨m.valid, if inLoop then some m.places else none⟩

/-- Marks given back. -/
def restore (m : Marks) (s : Saved) : Marks :=
  { valid := s.valid, places := s.places.getD m.places }

end Marks

/-! ## What is to be done -/

/-- A sequence that is to be matched several times. -/
structure Rounds where
  /-- The least number of rounds. -/
  least : Nat
  /-- The greatest number of rounds, if there is one. -/
  greatest : Option Nat
  /-- The sequence. -/
  body : List Step

/-- Whether another round may begin at a place, after the rounds that the count says, the last of
    which has begun at `last`. -/
def Rounds.mayGoOn (r : Rounds) (count : Nat) (last : Option Nat) (index : Nat) : Bool :=
  (match r.greatest with
    | some n => count < n
    | none => true) && last != some index

mutual

/-- What is still to be done. -/
inductive Todo
  /-- Nothing: there is a match. -/
  | done
  /-- To take the next open way. -/
  | fail
  /-- Steps, and then something else. -/
  | steps (steps : List Step) (after : Todo)
  /-- To decide on another round of a repetition. -/
  | round (reluctant inLoop : Bool) (r : Rounds) (count : Nat) (last : Option Nat) (after : Todo)
  /-- To end a round of a repetition that gives nothing back; `ways` are open after it. -/
  | keep (r : Rounds) (start count : Nat) (last : Option Nat) (ways : Ways) (after : Todo)
  /-- To forget the ways that are open inside, and to go back to a place if there is one. -/
  | settle (index : Option Nat) (ways : Ways) (after : Todo)
  /-- To fail, because something has matched that must not. -/
  | refuse (ways : Ways)

/-- The ways that are open, the one to take first in front. -/
inductive Ways
  /-- None. -/
  | none
  /-- One of several sequences. -/
  | choice (branches : List (List Step)) (index : Nat) (saved : Saved) (after : Todo)
    (rest : Ways)
  /-- To go on at the last of some places from `low` on. -/
  | fewer (low count : Nat) (next : Option Nat) (saved : Saved) (after : Todo) (rest : Ways)
  /-- To go on one character later. -/
  | more (s : Single) (left : Option Nat) (index : Nat) (saved : Saved) (after : Todo)
    (rest : Ways)
  /-- To go on after a repetition. -/
  | leave (index : Nat) (saved : Saved) (after : Todo) (rest : Ways)
  /-- To begin another round. -/
  | again (inLoop : Bool) (r : Rounds) (count : Nat) (last : Option Nat) (index : Nat)
    (saved : Saved) (after : Todo) (rest : Ways)
  /-- To fail, with a place noted. -/
  | noted (index : Nat) (rest : Ways)
  /-- To go on because something has not matched that must not. -/
  | missing (index : Nat) (saved : Saved) (after : Todo) (rest : Ways)
  /-- To go on after a repetition that gives nothing back. -/
  | stop (saved : Saved) (after : Todo) (rest : Ways)

end

/-- An attempt at a match. -/
structure Attempt where
  /-- The place in the text. -/
  index : Nat
  /-- What is still to be done. -/
  todo : Todo
  /-- Where groups begin and end. -/
  marks : Marks
  /-- The place that was noted last. -/
  reached : Nat
  /-- The ways that are open. -/
  ways : Ways

/-! ## Characters and places -/

/-- Whether the character at a place passes a test. -/
@[inline] def passes (text : Array Nat) (s : Single) (i : Nat) : Bool :=
  if h : i < text.size then s.holds text[i] else false

/-- Whether the character at a place is a word character. -/
def wordAt (text : Array Nat) (ascii : Bool) (i : Nat) : Bool :=
  match text[i]? with
  | some c => Category.word.holds ascii c
  | none => false

/-- Whether a place is the one asked for. An empty text has neither kind of boundary. -/
def Spot.holds (s : Spot) (text : Array Nat) (i : Nat) : Bool :=
  match s.anchor with
  | .start => i == 0 || (s.multiline && text[i - 1]? == some 10)
  | .finish =>
    i == text.size || (text[i]? == some 10 && (s.multiline || i + 1 == text.size))
  | .textStart => i == 0
  | .textEnd => i == text.size
  | .boundary negated =>
    !text.isEmpty &&
      ((i != 0 && wordAt text s.ascii (i - 1)) != wordAt text s.ascii i) != negated

/-- Where a row of characters that pass a test ends, with at most so many of them. -/
def rowEnd (text : Array Nat) (s : Single) (i : Nat) : Nat → Nat
  | 0 => i
  | limit + 1 => if passes text s i then rowEnd text s (i + 1) limit else i

/-- The last of some places from `low` on that the given character follows, if one is given. -/
def farthest? (text : Array Nat) (low : Nat) (next : Option Nat) : Nat → Option Nat
  | 0 => none
  | count + 1 =>
    match next with
    | none => some (low + count)
    | some c =>
      if h : low + count < text.size then
        if text[low + count] = c then some (low + count) else farthest? text low next count
      else farthest? text low next count

/-- Whether the text at `i` repeats the one at `j`, `count` characters long, after a mapping of
    characters. -/
def repeats (text : Array Nat) (fold : Nat → Nat) (i j : Nat) : Nat → Bool
  | 0 => true
  | count + 1 =>
    match text[i]?, text[j]? with
    | some c, some d => fold c == fold d && repeats text fold (i + 1) (j + 1) count
    | _, _ => false

/-- The sequences from the first one on that is not ruled out by the character at a place. -/
def openBranches (text : Array Nat) (index : Nat) : List (List Step) → List (List Step)
  | [] => []
  | branch :: rest =>
    match branch with
    | .single s :: _ =>
      if s.isEarly && !passes text s index then openBranches text index rest else branch :: rest
    | _ => branch :: rest

namespace Attempt

/-! ## One step -/

/-- Fails. -/
def fail (a : Attempt) : Attempt := { a with todo := .fail }

/-- Goes on at a place, which is noted. -/
def goTo (a : Attempt) (index : Nat) (todo : Todo) : Attempt :=
  { a with index, reached := index, todo }

/-- Tries some places from `low` on, the last one first. -/
def tryFewer (a : Attempt) (text : Array Nat) (low count : Nat) (next : Option Nat) (saved : Saved)
    (after : Todo) (rest : Ways) : Attempt :=
  match farthest? text low next count with
  | some i => { a.goTo i after with ways := .fewer low (i - low) next saved after rest }
  | none => { a.fail with ways := rest }

/-- Tries several sequences in turn. -/
def tryBranches (a : Attempt) (text : Array Nat) (branches : List (List Step)) (index : Nat)
    (saved : Saved) (after : Todo) (rest : Ways) : Attempt :=
  match openBranches text index branches with
  | branch :: others =>
    { a.goTo index (.steps branch after) with ways := .choice others index saved after rest }
  | [] => { a.fail with ways := rest }

/-- Matches single characters in a row. -/
def takeRun (a : Attempt) (text : Array Nat) (greed : Greed) (least : Nat) (greatest : Option Nat)
    (s : Single) (next : Option Nat) (inLoop : Bool) (after : Todo) : Attempt :=
  let i := a.index
  let room := text.size - i
  if room < least then a.fail
  else
    let a := { a with reached := i }
    let limit := match greed with
      | .reluctant => least
      | _ => min room (greatest.getD room)
    let stop := rowEnd text s i limit
    if stop < i + least then a.fail
    else match greed with
      | .greedy =>
        a.tryFewer text (i + least) (stop + 1 - (i + least)) next (a.marks.save inLoop) after
          a.ways
      | .reluctant =>
        let left := greatest.map (· - least)
        { a.goTo stop after with
          ways := .more s left stop (a.marks.save inLoop) after a.ways }
      | .possessive => a.goTo stop after

/-- Decides on another round of a repetition. -/
def takeRound (a : Attempt) (reluctant inLoop : Bool) (r : Rounds) (count : Nat)
    (last : Option Nat) (after : Todo) : Attempt :=
  let i := a.index
  if count < r.least then
    { a.goTo i (.steps r.body (.round reluctant inLoop r (count + 1) last after)) with
      ways := .noted i a.ways }
  else if reluctant then
    { a.goTo i after with
      ways := .again inLoop r count last i (a.marks.save inLoop) after a.ways }
  else if r.mayGoOn count last i then
    { a.goTo i (.steps r.body (.round reluctant inLoop r (count + 1) (some i) after)) with
      ways := .leave i (a.marks.save true) after a.ways }
  else { a.goTo i after with ways := .noted i a.ways }

/-- Decides on another round of a repetition that gives nothing back, at the place noted last;
    `ways` are open outside. -/
def takeKeep (a : Attempt) (r : Rounds) (start count : Nat) (last : Option Nat) (ways : Ways)
    (after : Todo) : Attempt :=
  let i := a.reached
  if count < r.least then
    { a.goTo i (.steps r.body (.keep r start (count + 1) last ways after)) with
      ways := .noted start ways }
  else if r.mayGoOn count last i then
    { a.goTo i (.steps r.body (.keep r start (count + 1) (some i) ways after)) with
      ways := .stop (a.marks.save true) after ways }
  else { a.goTo i after with ways := ways }

/-- Takes one step. -/
def take (a : Attempt) (text : Array Nat) (step : Step) (after : Todo) : Attempt :=
  let i := a.index
  match step with
  | .single s => if passes text s i then { a with index := i + 1, todo := after } else a.fail
  | .spot s => if s.holds text i then { a with todo := after } else a.fail
  | .note mark => { a with marks := a.marks.note mark i, todo := after }
  | .run greed least greatest s next inLoop =>
    a.takeRun text greed least greatest s next inLoop after
  | .loop reluctant least greatest body inLoop =>
    a.takeRound reluctant inLoop ⟨least, greatest, body⟩ 0 none after
  | .keep least greatest body =>
    { a with reached := i }.takeKeep ⟨least, greatest, body⟩ i 0 none a.ways after
  | .choice branches inLoop =>
    a.tryBranches text branches i (a.marks.save inLoop) after a.ways
  | .atomic body =>
    { a.goTo i (.steps body (.settle none a.ways after)) with ways := .noted i a.ways }
  | .back group fold =>
    match a.marks.captured? group with
    | some (first, last) =>
      if repeats text fold i first (last - first) then
        { a with index := i + (last - first), todo := after }
      else a.fail
    | none => a.fail
  | .branch group yes no =>
    { a with todo := .steps (if (a.marks.captured? group).isSome then yes else no) after }
  | .ahead width body =>
    if i < width then a.fail
    else a.goTo (i - width) (.steps body (.settle (some i) a.ways after))
  | .absent width body inLoop =>
    if i < width then { a with todo := after }
    else
      { a.goTo (i - width) (.steps body (.refuse a.ways)) with
        ways := .missing i (a.marks.save inLoop) after a.ways }

/-- Takes steps: tests of one character and notes at once, from the given place on and with the
    given marks, up to the first one of another kind. -/
def takeAll (a : Attempt) (text : Array Nat) (after : Todo) (index : Nat) (marks : Marks) :
    List Step → Attempt
  | [] => { a with index, marks, todo := after }
  | .single s :: rest =>
    if passes text s index then takeAll a text after (index + 1) marks rest
    else { a with index, marks, todo := .fail }
  | .note mark :: rest => takeAll a text after index (marks.note mark index) rest
  | step :: rest => { a with index, marks }.take text step (.steps rest after)

/-- Takes the next open way. -/
def retry (a : Attempt) (text : Array Nat) : Attempt :=
  match a.ways with
  | .none => a
  | .choice branches index saved after rest =>
    { a with marks := a.marks.restore saved }.tryBranches text branches index saved after rest
  | .fewer low count next saved after rest =>
    { a with marks := a.marks.restore saved }.tryFewer text low count next saved after rest
  | .more s left index saved after rest =>
    let a := { a with marks := a.marks.restore saved, reached := index }
    if left != some 0 && passes text s index then
      { a.goTo (index + 1) after with
        ways := .more s (left.map (· - 1)) (index + 1) saved after rest }
    else { a.fail with ways := rest }
  | .leave index saved after rest =>
    { a.goTo index after with marks := a.marks.restore saved, ways := .noted index rest }
  | .again inLoop r count last index saved after rest =>
    let a := { a with marks := a.marks.restore saved, reached := index }
    if r.mayGoOn count last index then
      { a.goTo index (.steps r.body (.round true inLoop r (count + 1) (some index) after)) with
        ways := .noted index rest }
    else { a.fail with ways := rest }
  | .noted index rest => { a.fail with reached := index, ways := rest }
  | .missing index saved after rest =>
    { a with index, todo := after, marks := a.marks.restore saved, ways := rest }
  | .stop saved after rest =>
    { a with index := a.reached, todo := after, marks := a.marks.restore saved, ways := rest }

/-- Does the next thing. -/
def next (a : Attempt) (text : Array Nat) : Attempt :=
  match a.todo with
  | .done => a
  | .fail => a.retry text
  | .steps steps after => a.takeAll text after a.index a.marks steps
  | .round reluctant inLoop r count last after => a.takeRound reluctant inLoop r count last after
  | .keep r start count last ways after =>
    { a with reached := a.index }.takeKeep r start count last ways after
  | .settle index ways after =>
    { a with index := index.getD a.index, reached := a.index, todo := after, ways }
  | .refuse ways => { a.fail with reached := a.index, ways }

/-! ## All steps -/

/-- How an attempt ends within so many steps: the marks of the match, if there is one. -/
def run (text : Array Nat) : Nat → Attempt → Option Marks
  | 0, _ => none
  | steps + 1, a =>
    match a.todo, a.ways with
    | .done, _ => some a.marks
    | .fail, .none => none
    | _, _ => run text steps (a.next text)

/-- More steps than any attempt takes that somebody waits for. -/
def patience : Nat := Nat.pow 2 62

/-- An attempt to match steps at a place. -/
def start (steps : List Step) (index : Nat) : Attempt where
  index := index
  todo := .steps steps .done
  marks := {}
  reached := index
  ways := .none

end Attempt

end HouseholdAccess.Pattern
