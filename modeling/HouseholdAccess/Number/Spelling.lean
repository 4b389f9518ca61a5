import HouseholdAccess.Number.Decimal
import HouseholdAccess.Text.CharacterClass

/-!
# Spellings of numbers

Numbers as they may be spelled by hand: with blanks around them, with the decimal
digits of any script, and with single underscores between digits
(`Spelling.plain`). What is left is an ordinary numeral.
-/

namespace HouseholdAccess

namespace Spelling

/-- The characters without blanks at either end. -/
def trimmed (cs : List Char) : List Char :=
  let isBlank (c : Char) : Bool := CharacterClass.isBlank c.toNat
  ((cs.dropWhile isBlank).reverse.dropWhile isBlank).reverse

/-- The ordinary digit of a decimal digit of any script; other characters stay. -/
def plainDigit (c : Char) : Char :=
  match CharacterClass.decimalValue? c.toNat with
  | some n => Char.ofNat ('0'.toNat + n)
  | none => c

/-- The characters without underscores between digits. -/
def joined : List Char → List Char
  | c :: '_' :: d :: rest =>
    if c.isDigit && d.isDigit then c :: joined (d :: rest) else c :: '_' :: joined (d :: rest)
  | c :: rest => c :: joined rest
  | [] => []
termination_by cs => cs.length

/-- The ordinary form of a spelling. -/
def plain (s : String) : String := String.ofList (joined ((trimmed s.toList).map plainDigit))

/-- The floating-point number of a spelling. -/
def float? (s : String) : Option Binary64 := Decimal.read? (plain s)

/-- The integer of a spelling. -/
def integer? (s : String) : Option Int :=
  let natural? (digits : List Char) : Option Nat :=
    if !digits.isEmpty && digits.all Char.isDigit then some (Decimal.natOf digits) else none
  match (plain s).toList with
  | '-' :: digits => (natural? digits).map fun n => -(n : Int)
  | '+' :: digits => (natural? digits).map Int.ofNat
  | digits => (natural? digits).map Int.ofNat

end Spelling

end HouseholdAccess
