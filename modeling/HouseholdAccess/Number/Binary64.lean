/-!
# Binary floating-point numbers

A number of the 64-bit binary format is kept as what it means: not a number,
an infinity of either sign, or a sign with a mantissa and an exponent of two.
Every operation is carried out exactly, on fractions, and rounded once at the
end (`Binary64.ofFraction`), so that all of them are correctly rounded by
construction.

* `Binary64.ofFraction` rounds a fraction to the nearest number, a tie going to
  the even mantissa;
* `Binary64.toRat?` is the exact value of a finite number;
* `Binary64.add`, `Binary64.divide` and `Binary64.ofInt` round the exact result.

A finite number is *canonical* when its mantissa has at most 53 bits and as
many of them as its exponent, which is at least `-1074`, allows; rounding only
produces canonical numbers.
-/

namespace HouseholdAccess

/-- A number of the 64-bit binary floating-point format. -/
inductive Binary64
  /-- Not a number. -/
  | nan
  /-- Beyond every finite number. -/
  | infinity (negative : Bool)
  /-- The number `± mantissa · 2 ^ exponent`. -/
  | finite (negative : Bool) (mantissa : Nat) (exponent : Int)
  deriving DecidableEq, Inhabited

namespace Binary64

/-- The least exponent of a finite number. -/
def leastExponent : Int := -1074

/-- The greatest exponent of a finite number. -/
def greatestExponent : Int := 971

/-- The number of bits of a full mantissa. -/
def precision : Nat := 53

/-- Zero of the given sign. -/
def zero (negative : Bool) : Binary64 := .finite negative 0 leastExponent

/-- The fraction `num / den` rounded to an integer, a tie going to the even neighbour. -/
def roundHalfEven (num den : Nat) : Nat :=
  let quotient := num / den
  let twice := 2 * (num % den)
  if twice < den then quotient
  else if den < twice then quotient + 1
  else quotient + quotient % 2

/-- The fraction `num / den` divided by `2 ^ exponent`, as a fraction. -/
def unscale (num den : Nat) (exponent : Int) : Nat × Nat :=
  if 0 ≤ exponent then (num, den * Nat.pow 2 exponent.toNat)
  else (num * Nat.pow 2 (-exponent).toNat, den)

/-- The exponent at which `num / den` fills the mantissa, or the least one. -/
def exponentFor (num den : Nat) : Int :=
  let low := max ((Nat.log2 num : Int) - (Nat.log2 den : Int) - precision) leastExponent
  let (n, d) := unscale num den low
  if d * Nat.pow 2 precision ≤ n then low + 1 else low

/-- The number nearest to `± num / den`, where `den` is positive. -/
def ofFraction (negative : Bool) (num den : Nat) : Binary64 :=
  if num = 0 then zero negative else
  let exponent := exponentFor num den
  let (n, d) := unscale num den exponent
  let mantissa := roundHalfEven n d
  let (mantissa, exponent) :=
    if mantissa = Nat.pow 2 precision then (Nat.pow 2 (precision - 1), exponent + 1)
    else (mantissa, exponent)
  if greatestExponent < exponent then .infinity negative else .finite negative mantissa exponent

/-- The number nearest to a fraction; a zero is positive. -/
def ofRat (q : Rat) : Binary64 := ofFraction (q.num < 0) q.num.natAbs q.den

/-- The number nearest to an integer. -/
def ofInt (n : Int) : Binary64 := ofRat n

/-- The fraction `mantissa · 2 ^ exponent`. -/
def magnitude (mantissa : Nat) (exponent : Int) : Rat :=
  if 0 ≤ exponent then ((mantissa * Nat.pow 2 exponent.toNat : Nat) : Rat)
  else mkRat mantissa (Nat.pow 2 (-exponent).toNat)

/-- The exact value of a finite number. -/
def toRat? : Binary64 → Option Rat
  | .finite negative mantissa exponent =>
    some (if negative then -magnitude mantissa exponent else magnitude mantissa exponent)
  | _ => none

/-- Whether the number is written with a minus sign. -/
def isNegative : Binary64 → Bool
  | .nan => false
  | .infinity negative => negative
  | .finite negative _ _ => negative

/-- Whether the number is a zero of either sign. -/
def isZero : Binary64 → Bool
  | .finite _ 0 _ => true
  | _ => false

/-- The rounded sum. Two zeros add up to a negative one only if both are negative. -/
def add (x y : Binary64) : Binary64 :=
  match x, y with
  | .nan, _ | _, .nan => .nan
  | .infinity a, .infinity b => if a = b then .infinity a else .nan
  | .infinity a, _ => .infinity a
  | _, .infinity b => .infinity b
  | .finite a m e, .finite b n f =>
    if m = 0 ∧ n = 0 then zero (a && b)
    else match (Binary64.finite a m e).toRat?, (Binary64.finite b n f).toRat? with
      | some p, some q => ofRat (p + q)
      | _, _ => .nan

/-- The rounded quotient by a number that is not zero. -/
def divide (x y : Binary64) : Binary64 :=
  let negative := x.isNegative != y.isNegative
  match x, y with
  | .nan, _ | _, .nan => .nan
  | .infinity _, .infinity _ => .nan
  | .infinity _, _ => .infinity negative
  | _, .infinity _ => zero negative
  | .finite a m e, .finite b n f =>
    match (Binary64.finite a m e).toRat?, (Binary64.finite b n f).toRat? with
    | some p, some q =>
      let r := p / q
      ofFraction negative r.num.natAbs r.den
    | _, _ => .nan

/-- The integer that a finite number is, if it has no fractional part. -/
def toInt? (x : Binary64) : Option Int :=
  match x.toRat? with
  | some q => if q.den = 1 then some q.num else none
  | none => none

end Binary64

end HouseholdAccess
