/-!
# Pattern trees

A pattern is a sequence of pieces (`Pattern.Node`). Options such as ignoring
case hold for a whole pattern or for one group of it; the pieces do not carry
them, a group says how it changes those around it. A group that changes nothing
is no piece of its own but stands for its pieces (`Pattern.flatten`), and a
choice that has less to choose from than it seems to is written in a shorter
way (`Pattern.shorten`).

`Pattern.width` gives the least and the greatest number of characters that a
sequence can match. A look behind asks for a sequence where the two agree.
-/

namespace HouseholdAccess.Pattern

/-- Why a text is not a pattern. -/
inductive Trouble
  /-- The text does not follow the grammar of patterns. -/
  | malformed
  /-- A repetition count is beyond what can be counted. -/
  | repetitionTooLarge
  /-- The pattern asks for ASCII classes and for full classes at once. -/
  | incompatibleOptions
  /-- A look behind goes back too far. -/
  | tooFarBehind
  /-- A match has been found in which a group ends before it begins. -/
  | reversedCapture
  deriving DecidableEq

/-- What holds while a pattern is matched. -/
structure Options where
  /-- Letters match whatever their case. -/
  ignoreCase : Bool := false
  /-- `^` and `$` hold at every line. -/
  multiline : Bool := false
  /-- `.` matches a line break too. -/
  dotAll : Bool := false
  /-- Blanks and comments in the pattern are skipped. -/
  verbose : Bool := false
  /-- Classes hold ASCII characters only. -/
  ascii : Bool := false
  /-- Classes hold characters of all scripts. -/
  unicode : Bool := false
  /-- The pattern may not repeat anything. -/
  template : Bool := false
  deriving DecidableEq

namespace Options

/-- The options of both. -/
def union (a b : Options) : Options where
  ignoreCase := a.ignoreCase || b.ignoreCase
  multiline := a.multiline || b.multiline
  dotAll := a.dotAll || b.dotAll
  verbose := a.verbose || b.verbose
  ascii := a.ascii || b.ascii
  unicode := a.unicode || b.unicode
  template := a.template || b.template

/-- The options of the first without those of the second. -/
def without (a b : Options) : Options where
  ignoreCase := a.ignoreCase && !b.ignoreCase
  multiline := a.multiline && !b.multiline
  dotAll := a.dotAll && !b.dotAll
  verbose := a.verbose && !b.verbose
  ascii := a.ascii && !b.ascii
  unicode := a.unicode && !b.unicode
  template := a.template && !b.template

/-- Whether the options choose what the classes hold. -/
def choosesClasses (o : Options) : Bool := o.ascii || o.unicode

/-- The options inside a group that adds and removes some. Choosing what the classes hold undoes
    the choice around the group. -/
def within (o added removed : Options) : Options :=
  let o := if added.choosesClasses then { o with ascii := false, unicode := false } else o
  (o.union added).without removed

end Options

/-- A class of characters. -/
inductive Category
  /-- Decimal digits. -/
  | digit
  /-- Blanks and line breaks. -/
  | blank
  /-- Letters, numerals and the underscore. -/
  | word
  deriving DecidableEq

/-- A part of a set of characters. -/
inductive SetItem
  /-- One character. -/
  | char (c : Nat)
  /-- All characters between two. -/
  | range (low high : Nat)
  /-- The characters of a class, or all others. -/
  | category (negated : Bool) (kind : Category)
  deriving DecidableEq

/-- A place in the text. -/
inductive Anchor
  /-- Where the text starts, or a line if lines count. -/
  | start
  /-- Where the text ends, before a final line break too, or where a line ends if lines count. -/
  | finish
  /-- Where the text starts. -/
  | textStart
  /-- Where the text ends. -/
  | textEnd
  /-- Between a word character and another one, or the other way round if negated. -/
  | boundary (negated : Bool)
  deriving DecidableEq

/-- What a repetition does when it could stop or go on. -/
inductive Greed
  /-- Goes on, and gives back later if it must. -/
  | greedy
  /-- Stops, and goes on later if it must. -/
  | reluctant
  /-- Goes on and gives nothing back. -/
  | possessive
  deriving DecidableEq

/-- A piece of a pattern. -/
inductive Node
  /-- One character, or any other one if negated. -/
  | char (negated : Bool) (c : Nat)
  /-- Any character. -/
  | any
  /-- A character of a set, or any other one if negated. -/
  | set (negated : Bool) (items : List SetItem)
  /-- A place. -/
  | anchor (a : Anchor)
  /-- A group: captured under a number if it has one, with options changed inside. -/
  | group (index : Option Nat) (added removed : Options) (body : List Node)
  /-- A group that is matched in one way only. -/
  | atomic (body : List Node)
  /-- One of several sequences, the first that leads to a match. -/
  | choice (branches : List (List Node))
  /-- A sequence several times in a row; no `max` is no limit. -/
  | loop (greed : Greed) (min : Nat) (max : Option Nat) (body : List Node)
  /-- The text that a group has captured. -/
  | back (group : Nat)
  /-- One of two sequences, by whether a group has captured a text. -/
  | branch (group : Nat) (yes no : List Node)
  /-- A sequence that must match, or must not, at this place, without moving on. -/
  | look (behind negated : Bool) (body : List Node)

namespace Node

/-- Whether the piece is a place. -/
def isAnchor : Node → Bool
  | .anchor _ => true
  | _ => false

/-- Whether the piece is a repetition. -/
def isLoop : Node → Bool
  | .loop .. => true
  | _ => false

end Node

/-! ## Shorter ways to write a sequence -/

/-- A sequence in which groups that are not captured and change no options stand for their
    pieces. -/
def flatten : List Node → List Node
  | [] => []
  | .group none added removed body :: rest =>
    if added = {} ∧ removed = {} then body ++ flatten rest
    else .group none added removed body :: flatten rest
  | node :: rest => node :: flatten rest

/-- Whether two pieces are the same without pieces inside them. -/
def Node.sameLeaf : Node → Node → Bool
  | .char n c, .char m d => n == m && c == d
  | .any, .any => true
  | .set n items, .set m others => n == m && items == others
  | .anchor a, .anchor b => a == b
  | .back g, .back h => g == h
  | _, _ => false

/-- The piece that all of some sequences begin with, if there is one. -/
def commonHead? : List (List Node) → Option Node
  | (node :: _) :: rest =>
    let agrees (other : List Node) : Bool :=
      match other with
      | head :: _ => node.sameLeaf head
      | [] => false
    if rest.all agrees then some node else none
  | _ => none

/-- Takes the pieces that all of some sequences begin with out of them, as many as `limit`. -/
def takeCommon : Nat → List (List Node) → List Node × List (List Node)
  | 0, branches => ([], branches)
  | limit + 1, branches =>
    match commonHead? branches with
    | some node =>
      let (common, branches) := takeCommon limit (branches.map List.tail)
      (node :: common, branches)
    | none => ([], branches)

/-- The items of a sequence that is one character, or one character of a set. -/
def singleItems? : List Node → Option (List SetItem)
  | [.char false c] => some [.char c]
  | [.set false items] => some items
  | _ => none

/-- Several sequences to choose from: what all begin with comes first, and a choice between single
    characters is a set. -/
def shorten (branches : List (List Node)) : List Node :=
  let (common, branches) := takeCommon ((branches.headD []).length) branches
  match branches.mapM singleItems? with
  | some items => common ++ [.set false items.flatten.eraseDups]
  | none => common ++ [.choice branches]

/-! ## Widths -/

/-- A count that stands for no limit. -/
def unlimited : Nat := 4294967295

/-- The least and the greatest number of characters that something matches. -/
structure Width where
  /-- The least number. -/
  least : Nat
  /-- The greatest number. -/
  greatest : Nat

namespace Width

/-- The width of one after the other. -/
def append (a b : Width) : Width := ⟨a.least + b.least, a.greatest + b.greatest⟩

/-- The width of one or the other. -/
def either (a b : Width) : Width := ⟨min a.least b.least, max a.greatest b.greatest⟩

/-- The width with a least number below and a greatest number up to what has no limit. -/
def capped (a : Width) : Width := ⟨min a.least (unlimited - 1), min a.greatest unlimited⟩

/-- The width of a repetition. -/
def times (a : Width) (least : Nat) (greatest : Option Nat) : Width where
  least := a.least * least
  greatest := a.greatest * greatest.getD unlimited

end Width

mutual

/-- The width of a piece, given the widths of the groups. -/
def nodeWidth (groups : Nat → Width) : Node → Width
  | .char _ _ | .any | .set _ _ => ⟨1, 1⟩
  | .anchor _ | .look _ _ _ => ⟨0, 0⟩
  | .group _ _ _ body | .atomic body => width groups body
  | .choice branches => choiceWidth groups branches
  | .loop _ least greatest body => (width groups body).times least greatest
  | .back group => groups group
  | .branch _ yes no => (width groups yes).either (width groups no)

/-- The width of a sequence, given the widths of the groups. -/
def width (groups : Nat → Width) : List Node → Width
  | [] => ⟨0, 0⟩
  | node :: rest => ((nodeWidth groups node).append (width groups rest)).capped

/-- The width of one of several sequences. -/
def choiceWidth (groups : Nat → Width) : List (List Node) → Width
  | [] => ⟨unlimited - 1, 0⟩
  | branch :: rest => (width groups branch).either (choiceWidth groups rest)

end

end HouseholdAccess.Pattern
