import HouseholdAccess.Number.Binary64

/-!
# Decimal text of binary numbers

The text of a number has the fewest digits that read back as the same number,
and among those the digits nearest to it (`Decimal.shortest`). Where the point
goes and how an exponent is written is one record, `Decimal.Layout`; numbers
are written in the layout `Decimal.plain`.

* `Decimal.ofDigits` reads `digits · 10 ^ exponent` to the nearest number;
* `Decimal.read?` reads decimal text, `Binary64.text` writes it.
-/

namespace HouseholdAccess

namespace Decimal

/-- A positive decimal fraction `0.d₁d₂… · 10 ^ point`. -/
structure Digits where
  /-- The digits, without zeros at either end. -/
  digits : List Char
  /-- Where the point stands: before the first digit when it is zero. -/
  point : Int

/-- How decimal digits are laid out as text. -/
structure Layout where
  /-- The least point position that is written without an exponent. -/
  leastPoint : Int
  /-- The greatest point position that is written without an exponent. -/
  greatestPoint : Int
  /-- Whether a whole number written without an exponent ends in `.0`. -/
  keepsFraction : Bool
  /-- The mark in front of an exponent. -/
  mark : String
  /-- The least number of digits of an exponent. -/
  exponentWidth : Nat
  /-- The text of what is not a number. -/
  nan : String
  /-- The text of positive infinity. -/
  infinity : String

/-- Numbers are written out from `0.0001` up to sixteen digits, whole ones with `.0`; beyond
    that the exponent is signed and has at least two digits. -/
def plain : Layout where
  leastPoint := -3
  greatestPoint := 16
  keepsFraction := true
  mark := "e"
  exponentWidth := 2
  nan := "nan"
  infinity := "inf"

/-- The decimal digits of a natural number. -/
def natDigits (n : Nat) : List Char := Nat.toDigits 10 n

/-- The number nearest to `± digits · 10 ^ exponent`. -/
def ofDigits (negative : Bool) (digits : Nat) (exponent : Int) : Binary64 :=
  let top := exponent + (natDigits digits).length
  if digits = 0 then Binary64.zero negative
  else if 400 < top then .infinity negative
  else if top < -400 then Binary64.zero negative
  else if 0 ≤ exponent then Binary64.ofFraction negative (digits * Nat.pow 10 exponent.toNat) 1
  else Binary64.ofFraction negative digits (Nat.pow 10 (-exponent).toNat)

/-- The value of a run of decimal digits. -/
def natOf (cs : List Char) : Nat := cs.foldl (fun n c => 10 * n + (c.toNat - '0'.toNat)) 0

/-- Splits a text into its leading decimal digits and the rest. -/
def spanDigits (cs : List Char) : List Char × List Char := cs.span Char.isDigit

/-- The exponent part of a decimal text, which must end there. -/
def exponentPart? : List Char → Option Int
  | [] => some 0
  | c :: rest =>
    if c ≠ 'e' ∧ c ≠ 'E' then none else
    let (negative, rest) := match rest with
      | '-' :: rest => (true, rest)
      | '+' :: rest => (false, rest)
      | rest => (false, rest)
    if rest.isEmpty || !rest.all Char.isDigit then none
    else some (if negative then -(natOf rest : Int) else natOf rest)

/-- An unsigned decimal text: digits, at most one point among them, and maybe an exponent. -/
def unsigned? (negative : Bool) (cs : List Char) : Option Binary64 := do
  let (whole, rest) := spanDigits cs
  let (fraction, rest) := match rest with
    | '.' :: rest => spanDigits rest
    | rest => ([], rest)
  let exponent ← exponentPart? rest
  if whole.isEmpty && fraction.isEmpty then none
  else some (ofDigits negative (natOf (whole ++ fraction)) (exponent - fraction.length))

/-- Reads a decimal text, with a sign or without, or the name of a special number. -/
def read? (s : String) : Option Binary64 :=
  let (negative, cs) := match s.toList with
    | '-' :: cs => (true, cs)
    | '+' :: cs => (false, cs)
    | cs => (false, cs)
  match String.ofList (cs.map Char.toLower) with
  | "nan" => some .nan
  | "inf" | "infinity" => some (.infinity negative)
  | _ => unsigned? negative cs

/-- The integers `low`, `value`, `high` and `unit` with the number `value / unit` rounding from
    exactly the fractions between `low / unit` and `high / unit`. -/
structure Interval where
  /-- The number itself. -/
  value : Nat
  /-- The lower end. -/
  low : Nat
  /-- The upper end. -/
  high : Nat
  /-- The common denominator. -/
  unit : Nat
  /-- Whether the ends belong to the interval. -/
  closed : Bool

/-- The fractions that round to `mantissa · 2 ^ exponent`. Below a power of two the numbers lie
    twice as close. -/
def Interval.of (mantissa : Nat) (exponent : Int) : Interval :=
  let scale := Nat.pow 2 exponent.toNat
  let value := 4 * mantissa * scale
  let below :=
    if mantissa = Nat.pow 2 (Binary64.precision - 1) ∧ Binary64.leastExponent < exponent then scale
    else 2 * scale
  { value, low := value - below, high := value + 2 * scale,
    unit := 4 * Nat.pow 2 (-exponent).toNat, closed := mantissa % 2 = 0 }

/-- Whether the fraction `num / den` rounds to the number of the interval. -/
def Interval.holds (i : Interval) (num den : Nat) : Bool :=
  if i.closed then i.low * den ≤ num * i.unit && num * i.unit ≤ i.high * den
  else i.low * den < num * i.unit && num * i.unit < i.high * den

/-- The position of the point of a positive fraction: the `p` with
    `10 ^ (p - 1) ≤ num / den < 10 ^ p`. -/
def pointOf (num den : Nat) : Int :=
  if den ≤ num then (natDigits (num / den)).length
  else 1 - ((natDigits ((den - 1) / num)).length : Int)

/-- The candidates `⌊v⌋` and `⌊v⌋ + 1` on the grid of multiples of `10 ^ exponent` that round to
    the number, the nearer one if both do, the even one of two equally near. -/
def gridPoint? (i : Interval) (exponent : Int) : Option Nat :=
  let up := Nat.pow 10 exponent.toNat
  let down := Nat.pow 10 (-exponent).toNat
  let num := i.value * down
  let den := i.unit * up
  let lower := num / den
  match i.holds (lower * up) down, i.holds ((lower + 1) * up) down with
  | true, true =>
    let twice := 2 * (num % den)
    if twice < den then some lower
    else if den < twice then some (lower + 1)
    else some (lower + lower % 2)
  | true, false => some lower
  | false, true => some (lower + 1)
  | false, false => none

/-- The digits without the zeros at their end. -/
def trimZeros (cs : List Char) : List Char := (cs.reverse.dropWhile (· = '0')).reverse

/-- The first grid, from the coarsest on, that has a point in the interval. -/
def searchGrids (i : Interval) (point : Int) : Nat → Nat → Option Digits
  | 0, _ => none
  | left + 1, count =>
    match gridPoint? i (point - count) with
    | some n =>
      let cs := natDigits n
      if n = 0 then searchGrids i point left (count + 1)
      else some { digits := trimZeros cs, point := point - count + cs.length }
    | none => searchGrids i point left (count + 1)

/-- The fewest digits that read back as the positive number `mantissa · 2 ^ exponent`. -/
def shortest (mantissa : Nat) (exponent : Int) : Digits :=
  let i := Interval.of mantissa exponent
  (searchGrids i (pointOf i.value i.unit) 17 1).getD { digits := ['0'], point := 1 }

/-- The text of an exponent. -/
def exponentText (layout : Layout) (exponent : Int) : String :=
  let cs := natDigits exponent.natAbs
  let pad := List.replicate (layout.exponentWidth - cs.length) '0'
  layout.mark ++ (if exponent < 0 then "-" else "+") ++ String.ofList (pad ++ cs)

/-- Digits laid out as text. -/
def Digits.text (layout : Layout) (d : Digits) : String :=
  if layout.leastPoint ≤ d.point ∧ d.point ≤ layout.greatestPoint then
    if d.point ≤ 0 then
      "0." ++ String.ofList (List.replicate (-d.point).toNat '0' ++ d.digits)
    else
      let count := d.point.toNat
      let whole := d.digits.take count ++ List.replicate (count - d.digits.length) '0'
      let fraction := d.digits.drop count
      let tail := if fraction.isEmpty then (if layout.keepsFraction then ['.', '0'] else [])
        else '.' :: fraction
      String.ofList (whole ++ tail)
  else
    let mantissa := match d.digits with
      | [] => []
      | [c] => [c]
      | c :: rest => c :: '.' :: rest
    String.ofList mantissa ++ exponentText layout (d.point - 1)

end Decimal

/-- The text of a number in a layout. -/
def Binary64.textIn (layout : Decimal.Layout) : Binary64 → String
  | .nan => layout.nan
  | .infinity negative => (if negative then "-" else "") ++ layout.infinity
  | .finite negative mantissa exponent =>
    let digits :=
      if mantissa = 0 then { digits := ['0'], point := 1 } else Decimal.shortest mantissa exponent
    (if negative then "-" else "") ++ digits.text layout

/-- The text of a number: the fewest digits that read back, in the plain layout. -/
def Binary64.text (x : Binary64) : String := x.textIn Decimal.plain

end HouseholdAccess
