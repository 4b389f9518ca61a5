import HouseholdAccess.Value.Order
import Mathlib.Algebra.Order.Field.Power
import Mathlib.Algebra.Order.Field.Rat
import Mathlib.Tactic.FieldSimp
import Mathlib.Tactic.Linarith
import Mathlib.Tactic.Positivity
import Mathlib.Tactic.Ring

/-!
# Sums that are rounded

A time is a canonical number that is not negative, or lies beyond all of them
(`Binary64.IsTime`). What is added to it is rounded, but a canonical number is never
rounded past: the sum with a span of time (`Binary64.IsSpan`) is a time that does not come
before (`Binary64.IsTime.add`).

* `Binary64.exponentFor` fills the mantissa, but not over the brim (`exponentFor_spec`);
* what is rounded is canonical, and is at least every canonical number that the fraction is at
  least (`ofFraction_spec`).
-/

namespace HouseholdAccess.Binary64

variable {num den : Nat}

/-! ## Exact values -/

theorem magnitude_eq (mantissa : Nat) (exponent : Int) :
    magnitude mantissa exponent = mantissa * (2 : ℚ) ^ exponent := by
  rw [magnitude]
  split
  · next h =>
    obtain ⟨k, rfl⟩ := Int.eq_ofNat_of_zero_le h
    simp
  · next h =>
    obtain ⟨k, hk⟩ := Int.eq_ofNat_of_zero_le (by omega : 0 ≤ -exponent)
    obtain rfl : exponent = -k := by omega
    simp [Rat.mkRat_eq_div, div_eq_mul_inv]

/-- A fraction that is divided by a power of two. -/
theorem unscale_eq (hden : 0 < den) (exponent : Int) :
    0 < (unscale num den exponent).2 ∧
      ((unscale num den exponent).1 : ℚ) = num / den / 2 ^ exponent *
        (unscale num den exponent).2 := by
  have hne : (den : ℚ) ≠ 0 := by exact_mod_cast hden.ne'
  rw [unscale]
  split
  · next h =>
    obtain ⟨k, rfl⟩ := Int.eq_ofNat_of_zero_le h
    refine ⟨Nat.mul_pos hden (Nat.pow_pos Nat.two_pos), ?_⟩
    simp
    field_simp
  · next h =>
    obtain ⟨k, hk⟩ := Int.eq_ofNat_of_zero_le (by omega : 0 ≤ -exponent)
    obtain rfl : exponent = -k := by omega
    refine ⟨hden, ?_⟩
    simp
    field_simp

/-! ## Rounding to integers -/

theorem le_roundHalfEven {k : Nat} (hden : 0 < den) (h : k * den ≤ num) :
    k ≤ roundHalfEven num den := by
  have hle : k ≤ num / den := (Nat.le_div_iff_mul_le hden).2 h
  rw [roundHalfEven]
  split
  · exact hle
  · split <;> omega

theorem roundHalfEven_le {k : Nat} (hden : 0 < den) (h : num < k * den) :
    roundHalfEven num den ≤ k := by
  have hlt : num / den < k := (Nat.div_lt_iff_lt_mul hden).2 h
  rw [roundHalfEven]
  split
  · omega
  · split
    · omega
    · have : num / den % 2 < 2 := Nat.mod_lt _ (by decide)
      omega

/-! ## The exponent -/

/-- The least exponent that is tried. -/
def lowExponent (num den : Nat) : Int :=
  max ((Nat.log2 num : Int) - (Nat.log2 den : Int) - precision) leastExponent

/-- A fraction is as large as its numbers of bits say. -/
theorem log2_bounds (hnum : num ≠ 0) (hden : 0 < den) :
    (2 : ℚ) ^ ((Nat.log2 num : Int) - (Nat.log2 den : Int) - 1) ≤ num / den ∧
      (num / den : ℚ) < 2 ^ ((Nat.log2 num : Int) - (Nat.log2 den : Int) + 1) := by
  have hcast {a b : Nat} (h : a ≤ b) : (a : ℚ) ≤ b := by exact_mod_cast h
  have hnum₁ : (2 : ℚ) ^ (Nat.log2 num : Int) ≤ num := by
    simpa using hcast (Nat.log2_self_le hnum)
  have hnum₂ : (num : ℚ) < 2 ^ ((Nat.log2 num : Int) + 1) := by
    exact_mod_cast @Nat.lt_log2_self num
  have hden₁ : (2 : ℚ) ^ (Nat.log2 den : Int) ≤ den := by
    simpa using hcast (Nat.log2_self_le hden.ne')
  have hden₂ : (den : ℚ) < 2 ^ ((Nat.log2 den : Int) + 1) := by
    exact_mod_cast @Nat.lt_log2_self den
  have hpos : (0 : ℚ) < den := by exact_mod_cast hden
  constructor
  · rw [le_div_iff₀ hpos]
    calc (2 : ℚ) ^ ((Nat.log2 num : Int) - (Nat.log2 den : Int) - 1) * den
        ≤ 2 ^ ((Nat.log2 num : Int) - (Nat.log2 den : Int) - 1) *
            2 ^ ((Nat.log2 den : Int) + 1) := by gcongr
      _ = 2 ^ (Nat.log2 num : Int) := by
        rw [← zpow_add₀ two_ne_zero]
        congr 1
        omega
      _ ≤ num := hnum₁
  · rw [div_lt_iff₀ hpos]
    calc (num : ℚ) < 2 ^ ((Nat.log2 num : Int) + 1) := hnum₂
      _ = 2 ^ ((Nat.log2 num : Int) - (Nat.log2 den : Int) + 1) * 2 ^ (Nat.log2 den : Int) := by
        rw [← zpow_add₀ two_ne_zero]
        congr 1
        omega
      _ ≤ _ := by gcongr

/-- What a fraction is at least can be seen after it is divided. -/
theorem mul_le_unscale_iff (hden : 0 < den) (exponent : Int) (k : Nat) :
    k * (unscale num den exponent).2 ≤ (unscale num den exponent).1 ↔
      (k : ℚ) * 2 ^ exponent ≤ num / den := by
  obtain ⟨hpos, heq⟩ := @unscale_eq num den hden exponent
  have hpos' : (0 : ℚ) < (unscale num den exponent).2 := by exact_mod_cast hpos
  have hcast : k * (unscale num den exponent).2 ≤ (unscale num den exponent).1 ↔
      (k : ℚ) * (unscale num den exponent).2 ≤ (unscale num den exponent).1 := by
    exact_mod_cast Iff.rfl
  rw [hcast, heq, mul_le_mul_iff_left₀ hpos', le_div_iff₀ (by positivity)]

theorem exponentFor_eq (num den : Nat) :
    exponentFor num den =
      if Nat.pow 2 precision * (unscale num den (lowExponent num den)).2 ≤
        (unscale num den (lowExponent num den)).1 then lowExponent num den + 1
      else lowExponent num den := by
  rw [Nat.mul_comm]
  rfl

/-- The exponent is canonical: the mantissa is not too large at it, and is large enough unless the
    exponent is the least one. -/
theorem exponentFor_spec (hnum : num ≠ 0) (hden : 0 < den) :
    leastExponent ≤ exponentFor num den ∧
      (num / den : ℚ) < 2 ^ (53 : Int) * 2 ^ exponentFor num den ∧
      (exponentFor num den = leastExponent ∨
        2 ^ (52 : Int) * 2 ^ exponentFor num den ≤ (num / den : ℚ)) := by
  obtain ⟨hlower, hupper⟩ := log2_bounds hnum hden
  have hleast : leastExponent ≤ lowExponent num den := le_max_right _ _
  have hlow : (Nat.log2 num : Int) - (Nat.log2 den : Int) - 53 ≤ lowExponent num den :=
    le_max_left _ _
  have hpow (a b : Int) : (2 : ℚ) ^ a * 2 ^ b = 2 ^ (a + b) := (zpow_add₀ two_ne_zero a b).symm
  have hmono {a b : Int} (h : a ≤ b) : (2 : ℚ) ^ a ≤ 2 ^ b := zpow_le_zpow_right₀ one_le_two h
  have hcond := @mul_le_unscale_iff num den hden (lowExponent num den) (Nat.pow 2 precision)
  have hprecision : ((Nat.pow 2 precision : Nat) : ℚ) = 2 ^ (53 : Int) := by norm_num [precision]
  rw [hprecision, hpow] at hcond
  simp only [hpow]
  rw [exponentFor_eq]
  split
  · next h =>
    -- The mantissa was too large by one bit at most.
    have hbrim := hcond.1 h
    refine ⟨by omega, lt_of_lt_of_le hupper (hmono (by omega)), .inr ?_⟩
    rwa [show 52 + (lowExponent num den + 1) = 53 + lowExponent num den by omega]
  · next h =>
    refine ⟨hleast, lt_of_not_ge fun hge => h (hcond.2 hge), ?_⟩
    rcases max_choice ((Nat.log2 num : Int) - (Nat.log2 den : Int) - precision) leastExponent with
      hmax | hmax
    · refine .inr (le_trans (hmono ?_) hlower)
      rw [lowExponent, hmax, precision]
      omega
    · exact .inl hmax

/-! ## Rounding to canonical numbers -/

/-- A canonical number that is not negative, or what lies beyond all of them. -/
inductive IsTime : Binary64 → Prop
  | finite {mantissa : Nat} {exponent : Int} : mantissa < 2 ^ precision →
    leastExponent ≤ exponent → IsTime (.finite false mantissa exponent)
  | infinity : IsTime (.infinity false)

/-- A number that is not written with a minus sign, canonical or not. -/
inductive IsSpan : Binary64 → Prop
  | finite (mantissa : Nat) (exponent : Int) : IsSpan (.finite false mantissa exponent)
  | infinity : IsSpan (.infinity false)

/-- The number is at least a fraction. -/
inductive AtLeast (q : ℚ) : Binary64 → Prop
  | finite {negative : Bool} {mantissa : Nat} {exponent : Int} {p : ℚ} :
    (Binary64.finite negative mantissa exponent).toRat? = some p → q ≤ p →
      AtLeast q (.finite negative mantissa exponent)
  | infinity : AtLeast q (.infinity false)

/-- The mantissa at the canonical exponent. -/
def mantissaFor (num den : Nat) : Nat :=
  roundHalfEven (unscale num den (exponentFor num den)).1 (unscale num den (exponentFor num den)).2

theorem mantissaFor_le (hnum : num ≠ 0) (hden : 0 < den) : mantissaFor num den ≤ 2 ^ precision := by
  refine roundHalfEven_le (unscale_eq hden _).1 (Nat.lt_of_not_le fun h => ?_)
  refine not_le_of_gt (exponentFor_spec hnum hden).2.1 (le_of_eq_of_le ?_
    ((mul_le_unscale_iff hden _ _).1 h))
  norm_num [precision]

/-- A canonical number that a fraction is at least is not more than what the fraction is rounded
    to. -/
theorem le_mantissaFor (hnum : num ≠ 0) (hden : 0 < den) {mantissa : Nat} {exponent : Int}
    (hmantissa : mantissa < 2 ^ precision) (hexponent : leastExponent ≤ exponent)
    (h : mantissa * (2 : ℚ) ^ exponent ≤ num / den) :
    mantissa * (2 : ℚ) ^ exponent ≤ mantissaFor num den * 2 ^ exponentFor num den := by
  have hround {k : Nat} (hk : k * (2 : ℚ) ^ exponentFor num den ≤ num / den) :
      k ≤ mantissaFor num den :=
    le_roundHalfEven (unscale_eq hden _).1 ((mul_le_unscale_iff hden _ k).2 hk)
  obtain ⟨-, -, hfull⟩ := exponentFor_spec hnum hden
  by_cases hle : exponentFor num den ≤ exponent
  · -- The number is an integer at the exponent.
    obtain ⟨k, hk⟩ := Int.eq_ofNat_of_zero_le (Int.sub_nonneg.2 hle)
    obtain rfl : exponent = exponentFor num den + k := by omega
    have hscale : mantissa * (2 : ℚ) ^ (exponentFor num den + k) =
        ((mantissa * 2 ^ k : Nat) : ℚ) * 2 ^ exponentFor num den := by
      rw [zpow_add₀ two_ne_zero]
      push_cast
      rw [zpow_natCast]
      ring
    rw [hscale] at h ⊢
    have hnat : ((mantissa * 2 ^ k : Nat) : ℚ) ≤ mantissaFor num den := by exact_mod_cast hround h
    gcongr
  · -- The number is less than any with a full mantissa at the exponent.
    have hfull := hfull.resolve_left (by omega)
    have hmin : ((2 ^ 52 : Nat) : ℚ) ≤ mantissaFor num den := by
      exact_mod_cast hround (k := 2 ^ 52) (le_of_eq_of_le (by norm_num) hfull)
    have hlt : (mantissa : ℚ) ≤ 2 ^ (53 : Int) := by
      exact_mod_cast hmantissa.le
    calc mantissa * (2 : ℚ) ^ exponent ≤ 2 ^ (53 : Int) * 2 ^ exponent := by gcongr
      _ = 2 ^ (52 : Int) * 2 ^ (exponent + 1) := by
        rw [← zpow_add₀ two_ne_zero, ← zpow_add₀ two_ne_zero]
        congr 1
        omega
      _ ≤ 2 ^ (52 : Int) * 2 ^ exponentFor num den := by
        gcongr
        · exact one_le_two
        · omega
      _ ≤ mantissaFor num den * 2 ^ exponentFor num den := by
        gcongr
        exact_mod_cast hmin

/-- A mantissa that has become too large by rounding is written with the next exponent. -/
theorem exists_ofFraction (negative : Bool) (hnum : num ≠ 0) :
    ∃ mantissa exponent,
      (if mantissaFor num den = Nat.pow 2 precision then
        (Nat.pow 2 (precision - 1), exponentFor num den + 1)
      else (mantissaFor num den, exponentFor num den)) = (mantissa, exponent) ∧
      ofFraction negative num den =
        if greatestExponent < exponent then .infinity negative
        else .finite negative mantissa exponent := by
  obtain ⟨x, hx⟩ : ∃ x, ofFraction negative num den = x := ⟨_, rfl⟩
  rw [hx]
  -- The parts are named one by one, as working them out takes long.
  rw [ofFraction, if_neg hnum] at hx
  extract_lets exponent at hx
  split at hx
  next n d hunscaled =>
  extract_lets mantissa at hx
  split at hx
  next mantissa' exponent' hpair =>
  have hmantissa : mantissaFor num den = mantissa := by rw [mantissaFor, hunscaled]
  exact ⟨mantissa', exponent', hmantissa ▸ hpair, hx.symm⟩

/-- What is written is canonical, and worth the mantissa at the exponent. -/
theorem ofFraction_worth (hnum : num ≠ 0) (hden : 0 < den) {mantissa : Nat} {exponent : Int}
    (h : (if mantissaFor num den = Nat.pow 2 precision then
        (Nat.pow 2 (precision - 1), exponentFor num den + 1)
      else (mantissaFor num den, exponentFor num den)) = (mantissa, exponent)) :
    mantissa < 2 ^ precision ∧ leastExponent ≤ exponent ∧
      mantissa * (2 : ℚ) ^ exponent = mantissaFor num den * 2 ^ exponentFor num den := by
  have hleast := (exponentFor_spec hnum hden).1
  split at h
  · next hbrim =>
    cases h
    refine ⟨by norm_num [precision], by omega, ?_⟩
    rw [hbrim, zpow_add₀ two_ne_zero]
    norm_num [precision]
    ring
  · next hbrim =>
    cases h
    exact ⟨lt_of_le_of_ne (mantissaFor_le hnum hden) hbrim, hleast, rfl⟩

/-- A fraction that is not negative is rounded to a time, and not past a canonical number. -/
theorem ofFraction_spec (hnum : num ≠ 0) (hden : 0 < den) :
    (ofFraction false num den).IsTime ∧
      ∀ (mantissa : Nat) (exponent : Int), mantissa < 2 ^ precision → leastExponent ≤ exponent →
        mantissa * (2 : ℚ) ^ exponent ≤ num / den →
        AtLeast (mantissa * 2 ^ exponent) (ofFraction false num den) := by
  obtain ⟨m, e, hpair, heq⟩ := @exists_ofFraction num den false hnum
  obtain ⟨hm, he, hworth⟩ := ofFraction_worth hnum hden hpair
  rw [heq]
  split
  · exact ⟨.infinity, fun _ _ _ _ _ => .infinity⟩
  · refine ⟨.finite hm he, fun mantissa exponent hmantissa hexponent h => ?_⟩
    refine .finite rfl (le_of_le_of_eq (le_mantissaFor hnum hden hmantissa hexponent h) ?_)
    rw [if_neg Bool.false_ne_true, magnitude_eq, hworth]

/-! ## Sums -/

theorem magnitude_nonneg (mantissa : Nat) (exponent : Int) : 0 ≤ magnitude mantissa exponent := by
  rw [magnitude_eq]
  positivity

theorem magnitude_pos {mantissa : Nat} (h : mantissa ≠ 0) (exponent : Int) :
    0 < magnitude mantissa exponent := by
  have hpos : (0 : ℚ) < mantissa := by exact_mod_cast Nat.pos_of_ne_zero h
  rw [magnitude_eq]
  positivity

/-- A fraction above zero is rounded to a time, and not past a canonical number. -/
theorem ofRat_spec {r : ℚ} (hr : 0 < r) :
    (ofRat r).IsTime ∧
      ∀ (mantissa : Nat) (exponent : Int), mantissa < 2 ^ precision → leastExponent ≤ exponent →
        magnitude mantissa exponent ≤ r → AtLeast (magnitude mantissa exponent) (ofRat r) := by
  have hnum : 0 < r.num := Rat.num_pos.2 hr
  have hworth : (r.num.natAbs : ℚ) / r.den = r := by
    have hcast : ((r.num.natAbs : Int) : ℚ) = r.num := by rw [Int.natAbs_of_nonneg hnum.le]
    rw [← Int.cast_natCast, hcast, Rat.num_div_den]
  have hrounded : ofRat r = ofFraction false r.num.natAbs r.den := by
    rw [ofRat, decide_eq_false (not_lt_of_ge hnum.le)]
  have hspec := ofFraction_spec (Int.natAbs_ne_zero.2 hnum.ne') r.den_pos
  rw [hworth, ← hrounded] at hspec
  simp only [magnitude_eq]
  exact hspec

theorem isTime_ofRat {r : ℚ} (hr : 0 ≤ r) : (ofRat r).IsTime := by
  rcases hr.eq_or_lt with rfl | hr
  · exact .finite (by decide) le_rfl
  · exact (ofRat_spec hr).1

theorem isTime_ofInt {n : Int} (hn : 0 ≤ n) : (ofInt n).IsTime :=
  isTime_ofRat (by exact_mod_cast hn)

theorem IsTime.isSpan {x : Binary64} (h : x.IsTime) : x.IsSpan := by
  cases h with
  | finite => exact .finite _ _
  | infinity => exact .infinity

/-- A number that is at least another one is not below it. -/
theorem AtLeast.numberBelow_eq_false {x y : Binary64} {q : ℚ} (h : AtLeast q y)
    (hx : x.toExtended? = some (.rational q)) :
    Value.numberBelow (.float y) (.float x) = false := by
  have hvalue : (Value.float x).toExtended? = some (.rational q) := hx
  cases h with
  | @finite negative mantissa exponent p hp hle =>
    have hsum : (Value.float (.finite negative mantissa exponent)).toExtended? =
        some (.rational p) := congrArg (Option.map Extended.rational) hp
    simp only [Value.numberBelow, hvalue, hsum]
    simpa [Extended.lt] using hle
  | infinity =>
    have hsum : (Value.float (.infinity false)).toExtended? = some .top := rfl
    simp only [Value.numberBelow, hvalue, hsum]
    rfl

/-- What is added to a time leads to a time that does not come before. -/
theorem IsTime.add {x y : Binary64} (hx : x.IsTime) (hy : y.IsSpan) :
    (x.add y).IsTime ∧ Value.numberBelow (.float (x.add y)) (.float x) = false := by
  cases hx with
  | infinity => cases hy <;> exact ⟨.infinity, rfl⟩
  | @finite m e hm he =>
    cases hy with
    | infinity => exact ⟨.infinity, rfl⟩
    | finite n f =>
      have hvalue : (Binary64.finite false m e).toExtended? =
          some (.rational (magnitude m e)) := rfl
      by_cases hzero : m = 0 ∧ n = 0
      · obtain ⟨rfl, rfl⟩ := hzero
        refine ⟨.finite (by decide) le_rfl, AtLeast.numberBelow_eq_false (.finite rfl ?_) hvalue⟩
        simp [magnitude_eq]
      · have hsum : (Binary64.finite false m e).add (.finite false n f) =
            ofRat (magnitude m e + magnitude n f) := by
          rw [Binary64.add, if_neg hzero]
          rfl
        have hpos : 0 < magnitude m e + magnitude n f := by
          rcases not_and_or.1 hzero with hm0 | hn0
          · exact add_pos_of_pos_of_nonneg (magnitude_pos hm0 e) (magnitude_nonneg n f)
          · exact add_pos_of_nonneg_of_pos (magnitude_nonneg m e) (magnitude_pos hn0 f)
        obtain ⟨htime, hleast⟩ := ofRat_spec hpos
        rw [hsum]
        exact ⟨htime, (hleast m e hm he (le_add_of_nonneg_right
          (magnitude_nonneg n f))).numberBelow_eq_false hvalue⟩

end HouseholdAccess.Binary64
