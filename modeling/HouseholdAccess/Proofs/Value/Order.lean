import HouseholdAccess.Condition
import HouseholdAccess.Proofs.Sequence
import Mathlib.Algebra.Order.Ring.Rat
import Mathlib.Data.String.Basic
import Mathlib.Data.Sum.Order
import Mathlib.Order.WithBotTop

/-!
# Values in order

Numbers lie on the number line between two infinities, texts among the texts in the
order of their code points. Put one after the other, the two scales are one linear
order (`Rank`), and numbers and texts have their places in it (`Value.rank?`). Only the
number that is none, `Binary64.nan`, has no place.

Two values of one scale compare as their ranks do (`Value.SameScale.compare?_eq_compare`)
and are equal exactly if they have the same (`Value.SameScale.equals_iff`). So the
operators that compare for order are one linear order together with the operator for
equality (`Operator.relates_linearly`).

The number that is none stands outside of it. It comes neither before nor after any
number and equals none, but a comparison that finds neither counts the two as level
(`Value.SameScale.compare?_nan`): the operators that admit what is level hold, and are not
what the strict ones and equality together say (`Operator.not_forall_gte_iff`).
-/

namespace HouseholdAccess

/-! ## Scales -/

namespace Extended

/-- The place on the number line between the infinities. -/
def place : Extended → WithBot (WithTop ℚ)
  | .bottom => ⊥
  | .rational q => ((q : WithTop ℚ) : WithBot (WithTop ℚ))
  | .top => ((⊤ : WithTop ℚ) : WithBot (WithTop ℚ))

theorem lt_iff_place_lt {x y : Extended} : x.lt y = true ↔ x.place < y.place := by
  cases x with
  | bottom => cases y <;> simp [lt, place]
  | top => cases y <;> simp [lt, place]
  | rational p =>
    cases y with
    | bottom => simp [lt, place]
    | rational q => simp [lt, place, WithBot.coe_lt_coe]
    | top => exact iff_of_true rfl (WithBot.coe_lt_coe.2 (WithTop.coe_lt_top p))

theorem place_injective : Function.Injective place := by
  intro x y h
  cases x <;> cases y <;> simp_all [place, WithBot.coe_inj]

end Extended

theorem charsBefore_iff_lt {as bs : List Char} : charsBefore as bs = true ↔ as < bs := by
  induction as generalizing bs with
  | nil => cases bs <;> simp [charsBefore]
  | cons a as ih =>
    cases bs with
    | nil => simp [charsBefore]
    | cons b bs =>
      -- Characters are compared by their code points, which tell them apart.
      have hsame : a.toNat = b.toNat ↔ a = b := ⟨fun h => Char.toNat_inj.1 h, congrArg Char.toNat⟩
      have hbelow : a.toNat < b.toNat ↔ a < b := Iff.rfl
      simp only [charsBefore, Bool.or_eq_true, Bool.and_eq_true, decide_eq_true_eq, beq_iff_eq,
        List.cons_lt_cons_iff, ih, hsame, hbelow]

theorem textBefore_iff_lt {s t : String} : textBefore s t = true ↔ s < t := charsBefore_iff_lt

/-- The places of numbers, and after them those of texts. -/
abbrev Rank := WithBot (WithTop ℚ) ⊕ₗ String

namespace Value

/-- The place of a value; only numbers and texts have one. -/
def rank? : Value → Option Rank
  | .text s => some (toLex (.inr s))
  | v => v.toExtended?.map fun x => toLex (.inl x.place)

/-- Two values that can be ordered: both are numbers, or both are texts. -/
inductive SameScale : Value → Value → Prop
  | numbers {a b : Value} (ha : a.isNumber = true) (hb : b.isNumber = true) : SameScale a b
  | texts (s t : String) : SameScale (.text s) (.text t)

variable {a b c : Value} {r s : Rank}

theorem SameScale.symm (h : a.SameScale b) : b.SameScale a := by
  cases h with
  | numbers ha hb => exact .numbers hb ha
  | texts s t => exact .texts t s

theorem SameScale.trans (hab : a.SameScale b) (hbc : b.SameScale c) : a.SameScale c := by
  cases hab with
  | numbers ha hb =>
    cases hbc with
    | numbers _ hc => exact .numbers ha hc
    | texts => cases hb
  | texts s t =>
    cases hbc with
    | numbers ht _ => cases ht
    | texts _ u => exact .texts s u

theorem rank?_of_isNumber (ha : a.isNumber = true) :
    a.rank? = a.toExtended?.map fun x => toLex (.inl x.place) := by
  cases a with
  | int | float => rfl
  | _ => cases ha

/-- Of the numbers, only the one that is none lies nowhere on the number line. -/
theorem toExtended?_eq_none_iff (ha : a.isNumber = true) :
    a.toExtended? = none ↔ a = .float .nan := by
  cases a with
  | int n => simp [toExtended?]
  | float x => cases x <;> simp [toExtended?, Binary64.toExtended?, Binary64.toRat?]
  | _ => cases ha

/-- Of two values that can be ordered, only the number that is none has no rank. -/
theorem SameScale.rank?_eq_none_iff (h : a.SameScale b) : a.rank? = none ↔ a = .float .nan := by
  cases h with
  | numbers ha => rw [rank?_of_isNumber ha, Option.map_eq_none_iff, toExtended?_eq_none_iff ha]
  | texts => simp [rank?]

theorem SameScale.exists_rank? (h : a.SameScale b) (hnan : a ≠ .float .nan) :
    ∃ r, a.rank? = some r :=
  Option.ne_none_iff_exists'.1 (h.rank?_eq_none_iff.not.2 hnan)

/-! ## Comparing and equality -/

/-- Asking whether one comes before the other, and then whether it comes after it, compares
    them. -/
theorem ite_lt_eq_compare {α : Type} [LinearOrder α] {x y : α} {below above : Bool}
    (hbelow : below = true ↔ x < y) (habove : above = true ↔ y < x) :
    (if below then .lt else if above then .gt else .eq) = compare x y := by
  rcases lt_trichotomy x y with h | h | h
  · rw [if_pos (hbelow.2 h), compare_lt_iff_lt.2 h]
  · rw [if_neg (hbelow.not.2 h.not_lt), if_neg (habove.not.2 h.not_gt), compare_eq_iff_eq.2 h]
  · rw [if_neg (hbelow.not.2 h.not_gt), if_pos (habove.2 h), compare_gt_iff_gt.2 h]

theorem compare?_numbers (ha : a.isNumber = true) (hb : b.isNumber = true) :
    a.compare? b =
      some (if numberBelow a b then .lt else if numberBelow b a then .gt else .eq) := by
  cases a with
  | int | float =>
    cases b with
    | int | float => rfl
    | _ => cases hb
  | _ => cases ha

theorem equals_number (ha : a.isNumber = true) : a.equals b = sameNumber a b := by
  cases a with
  | int | float => rw [equals.eq_def]
  | _ => cases ha

/-- Only values of one scale compare. -/
theorem SameScale.of_compare? {order : Ordering} (h : a.compare? b = some order) :
    a.SameScale b := by
  rw [compare?.eq_def] at h
  split at h
  · exact .texts _ _
  · split at h
    · next hnumbers =>
      rw [Bool.and_eq_true] at hnumbers
      exact .numbers hnumbers.1 hnumbers.2
    · cases h

/-- Values of one scale compare as their ranks do. -/
theorem SameScale.compare?_eq_compare (h : a.SameScale b) (ha : a.rank? = some r)
    (hb : b.rank? = some s) : a.compare? b = some (compare r s) := by
  cases h with
  | texts =>
    cases ha
    cases hb
    refine congrArg some (ite_lt_eq_compare ?_ ?_)
    · rw [textBefore_iff_lt, Sum.Lex.inr_lt_inr_iff]
    · rw [textBefore_iff_lt, Sum.Lex.inr_lt_inr_iff]
  | numbers hnumber hnumber' =>
    rw [rank?_of_isNumber hnumber, Option.map_eq_some_iff] at ha
    rw [rank?_of_isNumber hnumber', Option.map_eq_some_iff] at hb
    obtain ⟨x, hx, rfl⟩ := ha
    obtain ⟨y, hy, rfl⟩ := hb
    rw [compare?_numbers hnumber hnumber']
    refine congrArg some (ite_lt_eq_compare ?_ ?_)
    · simp only [numberBelow, hx, hy, Extended.lt_iff_place_lt, Sum.Lex.inl_lt_inl_iff]
    · simp only [numberBelow, hx, hy, Extended.lt_iff_place_lt, Sum.Lex.inl_lt_inl_iff]

/-- Values of one scale are equal if they have the same rank. -/
theorem SameScale.equals_iff (h : a.SameScale b) (ha : a.rank? = some r)
    (hb : b.rank? = some s) : a.equals b = true ↔ r = s := by
  cases h with
  | texts =>
    cases ha
    cases hb
    simp [equals]
  | numbers hnumber hnumber' =>
    rw [rank?_of_isNumber hnumber, Option.map_eq_some_iff] at ha
    rw [rank?_of_isNumber hnumber', Option.map_eq_some_iff] at hb
    obtain ⟨x, hx, rfl⟩ := ha
    obtain ⟨y, hy, rfl⟩ := hb
    simp [equals_number hnumber, sameNumber, hx, hy, Extended.place_injective.eq_iff]

/-- The number that is none is level with every number, and equals none. -/
theorem SameScale.compare?_nan (h : a.SameScale b) (hnan : a = .float .nan ∨ b = .float .nan) :
    a.compare? b = some .eq ∧ a.equals b = false := by
  cases h with
  | texts => simp at hnan
  | numbers ha hb =>
    -- A comparison with what lies nowhere on the number line comes out false.
    have hnowhere : a.toExtended? = none ∨ b.toExtended? = none :=
      hnan.imp (toExtended?_eq_none_iff ha).2 (toExtended?_eq_none_iff hb).2
    rw [compare?_numbers ha hb, equals_number ha, numberBelow, numberBelow, sameNumber]
    rcases hnowhere with h | h
    · cases b.toExtended? <;> simp [h]
    · cases a.toExtended? <;> simp [h]

end Value

/-! ## The operators -/

namespace Operator

/-- The operator holds between the value of a field and an operand. -/
def Relates (op : Operator) (a b : Value) : Prop := op.holds a b = .ok true

variable {a b c : Value} {r s : Rank}

theorem ordered_of_compare? {accepts : Ordering → Bool} {order : Ordering}
    (h : a.compare? b = some order) : ordered accepts a b = accepts order := by
  rw [ordered, h]

/-- No two values that cannot be ordered are found to be. -/
theorem ordered_eq_false (h : ¬a.SameScale b) (accepts : Ordering → Bool) :
    ordered accepts a b = false := by
  cases hcompare : a.compare? b with
  | none => rw [ordered, hcompare]
  | some order => exact (h (.of_compare? hcompare)).elim

/-- What does not accept that two values are level holds only between values with ranks. -/
theorem ordered_iff {accepts : Ordering → Bool} (hlevel : accepts .eq = false) :
    ordered accepts a b = true ↔ a.SameScale b ∧
      ∃ r s, a.rank? = some r ∧ b.rank? = some s ∧ accepts (compare r s) = true := by
  constructor
  · intro h
    have hscale : a.SameScale b := by
      by_contra hscale
      rw [ordered_eq_false hscale] at h
      cases h
    have hnan : ¬(a = .float .nan ∨ b = .float .nan) := by
      intro hnan
      rw [ordered_of_compare? (hscale.compare?_nan hnan).1, hlevel] at h
      cases h
    obtain ⟨r, hr⟩ := hscale.exists_rank? (hnan ∘ .inl)
    obtain ⟨s, hs⟩ := hscale.symm.exists_rank? (hnan ∘ .inr)
    rw [ordered_of_compare? (hscale.compare?_eq_compare hr hs)] at h
    exact ⟨hscale, r, s, hr, hs, h⟩
  · rintro ⟨hscale, r, s, hr, hs, h⟩
    rwa [ordered_of_compare? (hscale.compare?_eq_compare hr hs)]

theorem relates_lt_iff : lt.Relates a b ↔
    a.SameScale b ∧ ∃ r s, a.rank? = some r ∧ b.rank? = some s ∧ r < s := by
  rw [Relates, holds, Except.ok.injEq, ordered_iff rfl]
  simp only [beq_iff_eq, compare_lt_iff_lt]

theorem relates_gt_iff : gt.Relates a b ↔
    a.SameScale b ∧ ∃ r s, a.rank? = some r ∧ b.rank? = some s ∧ s < r := by
  rw [Relates, holds, Except.ok.injEq, ordered_iff rfl]
  simp only [beq_iff_eq, compare_gt_iff_gt]

theorem relates_lt_swap : lt.Relates a b ↔ gt.Relates b a := by
  rw [relates_lt_iff, relates_gt_iff]
  constructor
  · rintro ⟨hscale, r, s, hr, hs, h⟩
    exact ⟨hscale.symm, s, r, hs, hr, h⟩
  · rintro ⟨hscale, s, r, hs, hr, h⟩
    exact ⟨hscale.symm, r, s, hr, hs, h⟩

theorem relates_lt_trans (hab : lt.Relates a b) (hbc : lt.Relates b c) : lt.Relates a c := by
  rw [relates_lt_iff] at hab hbc ⊢
  obtain ⟨hab, r, s, hr, hs, hrs⟩ := hab
  obtain ⟨hbc, s', t, hs', ht, hst⟩ := hbc
  obtain rfl := Option.some.inj (hs.symm.trans hs')
  exact ⟨hab.trans hbc, r, t, hr, ht, hrs.trans hst⟩

/-- The operator that holds between values that compare in the given way. -/
def strict : Ordering → Operator
  | .lt => lt
  | .eq => eq
  | .gt => gt

/-- Between values of one scale with ranks, just the operator holds that their ranks choose. -/
theorem relates_iff_strict (h : a.SameScale b) (hr : a.rank? = some r) (hs : b.rank? = some s)
    (op : Operator) (hop : op ∈ [lt, eq, gt]) :
    op.Relates a b ↔ op = strict (compare r s) := by
  have hcompare := h.compare?_eq_compare hr hs
  have hequals : a.equals b = true ↔ compare r s = .eq := by
    rw [h.equals_iff hr hs, compare_eq_iff_eq]
  simp only [List.mem_cons, List.not_mem_nil, or_false] at hop
  rcases hop with rfl | rfl | rfl
  · rw [Relates, holds, ordered_of_compare? hcompare]
    cases compare r s <;> simp [strict]
  · rw [Relates, holds, Except.ok.injEq, hequals]
    cases compare r s <;> simp [strict]
  · rw [Relates, holds, ordered_of_compare? hcompare]
    cases compare r s <;> simp [strict]

theorem existsUnique_relates (h : a.SameScale b) (ha : a ≠ .float .nan) (hb : b ≠ .float .nan) :
    ∃! op, op ∈ [lt, eq, gt] ∧ op.Relates a b := by
  obtain ⟨r, hr⟩ := h.exists_rank? ha
  obtain ⟨s, hs⟩ := h.symm.exists_rank? hb
  have hmem : strict (compare r s) ∈ [lt, eq, gt] := by cases compare r s <;> simp [strict]
  exact ⟨_, ⟨hmem, (relates_iff_strict h hr hs _ hmem).2 rfl⟩,
    fun op hop => (relates_iff_strict h hr hs op hop.1).1 hop.2⟩

/-- What admits level values holds where the strict operator or the one for equality does. -/
theorem relates_or_eq (h : a.SameScale b) (ha : a ≠ .float .nan) (hb : b ≠ .float .nan) :
    (gte.Relates a b ↔ gt.Relates a b ∨ eq.Relates a b) ∧
      (lte.Relates a b ↔ lt.Relates a b ∨ eq.Relates a b) := by
  obtain ⟨r, hr⟩ := h.exists_rank? ha
  obtain ⟨s, hs⟩ := h.symm.exists_rank? hb
  have hcompare := h.compare?_eq_compare hr hs
  rw [relates_iff_strict h hr hs lt (by simp), relates_iff_strict h hr hs eq (by simp),
    relates_iff_strict h hr hs gt (by simp)]
  rw [Relates, Relates, holds, holds, ordered_of_compare? hcompare, ordered_of_compare? hcompare]
  cases compare r s <;> simp [strict]

/-- The operators that compare for order are one linear order with the one for equality: of the
    strict ones and equality just one holds between two numbers or two texts, the others hold
    where the strict one or equality does, turning a pair around turns the order around, and what
    comes before what comes before comes before. The number that is none is neither before nor
    after nor equal to a number, but level with it. Between other values no order holds. -/
theorem relates_linearly (a b c : Value) :
    (a.SameScale b → a ≠ .float .nan → b ≠ .float .nan →
      (∃! op, op ∈ [lt, eq, gt] ∧ op.Relates a b) ∧
        (gte.Relates a b ↔ gt.Relates a b ∨ eq.Relates a b) ∧
        (lte.Relates a b ↔ lt.Relates a b ∨ eq.Relates a b)) ∧
      (a.SameScale b → a = .float .nan ∨ b = .float .nan →
        (∀ op ∈ [lt, eq, gt], op.holds a b = .ok false) ∧
          ∀ op ∈ [gte, lte], op.holds a b = .ok true) ∧
      (lt.Relates a b ↔ gt.Relates b a) ∧
      (lt.Relates a b → lt.Relates b c → lt.Relates a c) ∧
      (¬a.SameScale b → ∀ op ∈ [gt, gte, lt, lte], op.holds a b = .ok false) := by
  refine ⟨fun h ha hb => ⟨existsUnique_relates h ha hb, relates_or_eq h ha hb⟩, fun h hnan => ?_,
    relates_lt_swap, relates_lt_trans, fun h => ?_⟩
  · obtain ⟨hcompare, hequals⟩ := h.compare?_nan hnan
    simp [holds, ordered_of_compare? hcompare, hequals]
  · simp [holds, ordered_eq_false h]

/-- An integer that no floating-point number of its size can tell from its neighbour comes after
    that neighbour and before infinity; an absent field is not in order with a number. -/
theorem relates_linearly_finely :
    let a := Value.float (.finite false (2 ^ 52) 1)
    let b := Value.int (2 ^ 53 + 1)
    let c := Value.float (.infinity false)
    (a.SameScale b ∧ a ≠ .float .nan ∧ b ≠ .float .nan ∧
        ∃! op, op ∈ [lt, eq, gt] ∧ op.Relates a b) ∧
      (lt.Relates a b ∧ lt.Relates b c ∧ lt.Relates a c ∧ gt.Relates b a) ∧
      (¬Value.absent.SameScale b ∧ lte.holds .absent b = .ok false) := by
  intro a b c
  obtain ⟨hone, -, hswap, htrans, -⟩ := relates_linearly a b c
  have hscale : a.SameScale b := .numbers rfl rfl
  have ha : a ≠ .float .nan := by simp [a]
  have hb : b ≠ .float .nan := by simp [b]
  have hab : lt.Relates a b := eq_ok_of_toOption (by decide +kernel)
  have hbc : lt.Relates b c := eq_ok_of_toOption (by decide +kernel)
  have habsent : ¬Value.absent.SameScale b := by rintro (⟨h, -⟩ | -); cases h
  exact ⟨⟨hscale, ha, hb, (hone hscale ha hb).1⟩, ⟨hab, hbc, htrans hab hbc, hswap.1 hab⟩, habsent,
    (relates_linearly .absent b c).2.2.2.2 habsent lte (by simp)⟩

/-- Admitting level values is not the same as being after or equal: the number that is none is
    neither. -/
theorem not_forall_gte_iff :
    ¬∀ a b : Value, a.SameScale b →
      (gte.Relates a b ↔ gt.Relates a b ∨ eq.Relates a b) := by
  intro h
  have hgte : gte.Relates (.float .nan) (.int 1) := rfl
  rcases (h (.float .nan) (.int 1) (.numbers rfl rfl)).1 hgte with hgt | heq
  · cases hgt
  · cases heq

end Operator

end HouseholdAccess
