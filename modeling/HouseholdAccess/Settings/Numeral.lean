import HouseholdAccess.Text.CharacterClass

/-!
# Integers in settings

How settings may spell an integer: with blanks around it, a plus sign, zeros in
front, zeros after a point, and single underscores inside (`Numeral.integer`).

A spelling is cleared of all that in this order, and what is left has to be a
plain integer: digits that do not begin with a zero, with a minus sign in front
or not (`Numeral.plain`). So the minus sign may stand after zeros as well, but
none may follow it.
-/

namespace HouseholdAccess

namespace Numeral

/-- What is wrong with a spelling of an integer. -/
inductive Fault
  /-- It spells no integer. -/
  | malformed
  /-- It has more characters than are read. -/
  | tooLong
  deriving DecidableEq

/-- Whether a character may surround a number: a blank that is no separator of information. -/
def surrounds (c : Char) : Bool :=
  CharacterClass.isBlank c.toNat && !(0x1c ≤ c.toNat && c.toNat ≤ 0x1f)

/-- The characters without those that may surround a number. -/
def trimmed (cs : List Char) : List Char :=
  ((cs.dropWhile surrounds).reverse.dropWhile surrounds).reverse

/-- The characters without a plus sign, which no minus sign may follow. -/
def withoutPlus? : List Char → Option (List Char)
  | '+' :: '-' :: _ => none
  | '+' :: rest => some rest
  | cs => some cs

/-- What is left behind zeros and underscores, of which `last` is the one before: it stays where
    nothing or a point follows. -/
def behindZeros? (last : Char) : List Char → Option (List Char)
  | [] => some [last]
  | c :: rest =>
    if c = '0' || c = '_' then behindZeros? c rest
    else if c = '.' then some (last :: c :: rest)
    else if c = '-' || c.isDigit then some (c :: rest)
    else none

/-- The characters without zeros in front. -/
def withoutZeros? : List Char → Option (List Char)
  | [] => none
  | c :: rest =>
    if c = '0' then behindZeros? c rest
    else if c = '-' || c.isDigit then some (c :: rest)
    else none

/-- The characters without a point at the end that zeros follow. -/
def withoutFraction (cs : List Char) : List Char :=
  match cs.dropWhile (· ≠ '.') with
  | _ :: '0' :: rest => if rest.all (· = '0') then cs.takeWhile (· ≠ '.') else cs
  | _ => cs

/-- Whether the underscores stand between other characters, one by one; `inside` says that the
    character before is none. -/
def separates (inside : Bool) : List Char → Bool
  | [] => inside
  | c :: rest => if c = '_' then inside && separates false rest else separates true rest

/-- The characters without underscores that stand between others. -/
def withoutSeparators (cs : List Char) : List Char :=
  if separates false cs then cs.filter (· ≠ '_') else cs

/-- How many characters of an integer are read, with its sign. -/
def longest : Nat := 4300

/-- The number that digits spell. -/
def natural (digits : List Char) : Nat :=
  digits.foldl (fun n c => 10 * n + (c.toNat - '0'.toNat)) 0

/-- The number that plain digits spell, which may be `most` at the most. -/
def plainNatural (most : Nat) (cs : List Char) : Except Fault Nat :=
  let digits := cs.takeWhile Char.isDigit
  let rest := cs.dropWhile Char.isDigit
  match digits with
  | [] => .error .malformed
  | ['0'] => if rest.isEmpty then .ok 0 else .error .malformed
  | '0' :: _ => .error .malformed
  | digits =>
    if most < digits.length then .error .tooLong
    else if rest.isEmpty then .ok (natural digits)
    else .error .malformed

/-- The integer that plain characters spell. -/
def plain : List Char → Except Fault Int
  | '-' :: rest => (plainNatural (longest - 1) rest).map fun n => -(n : Int)
  | cs => (plainNatural longest cs).map Int.ofNat

/-- The integer that a text spells. -/
def integer (s : String) : Except Fault Int :=
  match (withoutPlus? (trimmed s.toList)).bind withoutZeros? with
  | none => .error .malformed
  | some cs => plain (withoutSeparators (withoutFraction cs))

end Numeral

end HouseholdAccess
