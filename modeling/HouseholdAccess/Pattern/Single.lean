import HouseholdAccess.Pattern.Tree
import HouseholdAccess.Text.CharacterClass
import HouseholdAccess.Text.LetterCase

/-!
# Single characters

The pieces of a pattern that match exactly one character, as tests of that
character (`Pattern.Single`). What a piece holds for depends on the options
around it: whether letter case counts, and whether classes hold ASCII
characters only.

A set that ignores case is folded character by character up to `foldLimit`; what
lies beyond is compared as it stands, so that two letters there that differ in
case alone are not in each other's sets.
-/

namespace HouseholdAccess.Pattern

/-- Whether a code point is in a class. -/
def Category.holds (ascii : Bool) (c : Nat) : Category → Bool
  | .digit => if ascii then 48 ≤ c && c ≤ 57 else CharacterClass.isDecimal c
  | .blank => if ascii then c == 32 || (9 ≤ c && c ≤ 13) else CharacterClass.isBlank c
  | .word =>
    c == 95 ||
      if ascii then (48 ≤ c && c ≤ 57) || (65 ≤ c && c ≤ 90) || (97 ≤ c && c ≤ 122)
      else CharacterClass.isAlphanumeric c

/-- Letter case as the options see it. -/
structure CaseRule where
  /-- The lower-case form. -/
  lower : Nat → Nat
  /-- Whether a code point has case. -/
  isCased : Nat → Bool
  /-- The other lower-case forms of the same capital. -/
  variants : Nat → List Nat
  /-- The code points with a given lower-case form. -/
  sources : Nat → List Nat
  /-- Whether some code point of a range has case. -/
  anyCased : Nat → Nat → Bool

/-- Only ASCII letters have case. -/
def asciiCase : CaseRule where
  lower := LetterCase.lowerAscii
  isCased := LetterCase.changesAscii
  variants _ := []
  sources c := if LetterCase.changesAscii c then [c, c - 32] else [c]
  anyCased low high := (low ≤ 90 && 65 ≤ high) || (low ≤ 122 && 97 ≤ high)

/-- All letters have case. -/
def fullCase : CaseRule where
  lower := LetterCase.lower
  isCased := LetterCase.changes
  variants := LetterCase.variants
  sources := LetterCase.sources
  anyCased low high :=
    let bs := LetterCase.changingSet.boundaries
    LetterCase.changes low ||
      CodePointSet.countUpTo bs low 0 bs.size != CodePointSet.countUpTo bs high 0 bs.size

/-- Letter case under the options, if it is to be ignored. -/
def Options.caseRule? (o : Options) : Option CaseRule :=
  if o.ignoreCase then some (if o.ascii then asciiCase else fullCase) else none

/-- The code points beyond which ranges are not folded one by one. -/
def foldLimit : Nat := 0x10000

/-- Whether an item of a set holds a code point, case counting. -/
def SetItem.holds (ascii : Bool) (c : Nat) : SetItem → Bool
  | .char d => c == d
  | .range low high => low ≤ c && c ≤ high
  | .category negated kind => kind.holds ascii c != negated

/-- Whether an item of a set has case. -/
def SetItem.isCased (rule : CaseRule) : SetItem → Bool
  | .char d => rule.isCased d || foldLimit ≤ rule.lower d
  | .range low high => rule.anyCased low high || foldLimit ≤ high
  | .category _ _ => false

/-- Whether an item of a set holds a character with the given lower-case form. -/
def SetItem.holdsFolded (ascii : Bool) (rule : CaseRule) (c : Nat) : SetItem → Bool
  | .char d =>
    let l := rule.lower d
    if foldLimit ≤ l then c == d else c == l || (rule.variants l).contains c
  | .range low high =>
    let between (d : Nat) := low ≤ d && d ≤ high
    let below (d : Nat) := between d && d < foldLimit
    (c :: rule.variants c).any (fun l => (rule.sources l).any below) ||
      (foldLimit ≤ high && (between c || between (LetterCase.upper c)))
  | .category negated kind => kind.holds ascii c != negated

/-- Whether case is to be ignored in a set, and does matter there. -/
def setFolds (o : Options) (items : List SetItem) : Bool :=
  match o.caseRule? with
  | none => false
  | some rule => items.any (·.isCased rule)

/-- Whether a set holds a code point, case being ignored by the rule if there is one. -/
def setHolds (ascii : Bool) (rule : Option CaseRule) (items : List SetItem) (c : Nat) : Bool :=
  match rule with
  | none => items.any (·.holds ascii c)
  | some rule =>
    let l := rule.lower c
    items.any (·.holdsFolded ascii rule l)

/-- Whether case is to be ignored for a character, and does matter there. -/
def charFolds (o : Options) (d : Nat) : Bool :=
  match o.caseRule? with
  | none => false
  | some rule => rule.isCased d

/-- Whether a code point is the given one under the options. -/
def charHolds (o : Options) (d c : Nat) : Bool :=
  match o.caseRule? with
  | none => c == d
  | some rule =>
    if charFolds o d then
      let l := rule.lower d
      rule.lower c == l || (rule.variants l).contains (rule.lower c)
    else c == d

/-! ## Tests of one character -/

/-- A test that a piece makes of one character. -/
inductive Single
  /-- It is this one. -/
  | only (c : Nat)
  /-- It is another one. -/
  | except (c : Nat)
  /-- It is any character, or any but a line break. -/
  | any (breaks : Bool)
  /-- It passes a test, which has its answers for the first characters in a table. In an early test
      case counts. -/
  | test (early : Bool) (table : Array Bool) (passes : Nat → Bool)

namespace Single

/-- How many characters have their answers in a table. -/
def tableSize : Nat := 128

/-- A test with its table. -/
def ofTest (early : Bool) (passes : Nat → Bool) : Single :=
  .test early ((List.range tableSize).map passes).toArray passes

/-- Whether a character passes. -/
@[inline] def holds (s : Single) (c : Nat) : Bool :=
  match s with
  | .only d => c == d
  | .except d => c != d
  | .any breaks => breaks || c != 10
  | .test _ table passes => if h : c < table.size then table[c] else passes c

/-- The only character that passes, if there is one. -/
def only? : Single → Option Nat
  | .only c => some c
  | _ => none

/-- Whether a choice makes this test before it takes the way behind it. -/
def isEarly : Single → Bool
  | .only _ => true
  | .test early _ _ => early
  | _ => false

/-- The test that a piece makes under the options, if it matches exactly one character. -/
def ofNode? (o : Options) : Node → Option Single
  | .char negated d =>
    if charFolds o d then some (ofTest false fun c => charHolds o d c != negated)
    else if negated then some (.except d)
    else some (.only d)
  | .any => some (.any o.dotAll)
  | .set negated items =>
    let rule := if setFolds o items then o.caseRule? else none
    some (ofTest rule.isNone fun c => setHolds o.ascii rule items c != negated)
  | _ => none

end Single

end HouseholdAccess.Pattern
