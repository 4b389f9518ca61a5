import HouseholdAccess.Role
import Mathlib.Data.List.Forall2

/-!
# Things with owners

Callers and loads go by numbers, and each of them is some user's. Of a list of things and
of the list of their owners, one can keep the things of one user (`ownedBy`). What was
the thing with the number `n` has a number of its own then, which is how many of the
things before it are the user's (`rankOf`):

* `getElem?_ownedBy` finds it there;
* `ownedBy_modify` and `ownedBy_append_singleton` say what becomes of the things of the
  user when something happens to one thing, or one is added.
-/

namespace HouseholdAccess

variable {α β : Type} {user v : Id} {owners : List Id} {n m : Nat}

/-- The things that belong to a user. -/
def ownedBy (user : Id) : List Id → List α → List α
  | owner :: owners, x :: xs =>
    if owner = user then x :: ownedBy user owners xs else ownedBy user owners xs
  | _, _ => []

/-- How many of the things before the one with a number belong to a user. -/
def rankOf (user : Id) (owners : List Id) (n : Nat) : Nat := (owners.take n).count user

@[simp]
theorem rankOf_zero (user : Id) (owners : List Id) : rankOf user owners 0 = 0 := rfl

theorem rankOf_cons_succ (user v : Id) (owners : List Id) (n : Nat) :
    rankOf user (v :: owners) (n + 1) = rankOf user owners n + if v = user then 1 else 0 := by
  rw [rankOf, List.take_succ_cons, List.count_cons]
  by_cases h : v = user <;> simp [rankOf, h]

/-- Owners of later things do not matter. -/
theorem rankOf_append (hn : n ≤ owners.length) (more : List Id) :
    rankOf user (owners ++ more) n = rankOf user owners n := by
  rw [rankOf, List.take_append_of_le_length hn, rankOf]

/-- Where everything belongs to the user, numbers stay as they are. -/
theorem rankOf_eq_self (hn : n ≤ owners.length) (howners : ∀ owner ∈ owners, owner = user) :
    rankOf user owners n = n := by
  rw [rankOf, List.count_eq_length.2 fun owner h => (howners owner (List.mem_of_mem_take h)).symm,
    List.length_take, Nat.min_eq_left hn]

theorem rankOf_lt (h : owners[n]? = some user) (hnm : n < m) :
    rankOf user owners n < rankOf user owners m := by
  induction owners generalizing n m with
  | nil => cases h
  | cons owner owners ih =>
    obtain ⟨m, rfl⟩ := Nat.exists_eq_add_one_of_ne_zero (Nat.ne_of_gt (Nat.zero_lt_of_lt hnm))
    rw [rankOf_cons_succ]
    cases n with
    | zero =>
      obtain rfl : owner = user := Option.some.inj h
      simp
    | succ n =>
      rw [rankOf_cons_succ]
      have hlt := ih h (Nat.lt_of_succ_lt_succ hnm)
      omega

/-- Different things of a user have different numbers among the things of the user. -/
theorem rankOf_inj (hn : owners[n]? = some user) (hm : owners[m]? = some user) :
    rankOf user owners n = rankOf user owners m ↔ n = m := by
  refine ⟨fun h => ?_, fun h => h ▸ rfl⟩
  rcases Nat.lt_trichotomy n m with hlt | heq | hlt
  · exact absurd h (Nat.ne_of_lt (rankOf_lt hn hlt))
  · exact heq
  · exact absurd h.symm (Nat.ne_of_lt (rankOf_lt hm hlt))

/-- The thing with the first number is the user's, and has the second number among the things of the
    user. -/
def IsRanked (user : Id) (owners : List Id) (n m : Nat) : Prop :=
  owners[n]? = some user ∧ m = rankOf user owners n

theorem ownedBy_nil (user : Id) (owners : List Id) : ownedBy user owners ([] : List α) = [] := by
  cases owners <;> rfl

theorem length_ownedBy {xs : List α} (h : xs.length ≤ owners.length) :
    (ownedBy user owners xs).length = rankOf user owners xs.length := by
  induction owners generalizing xs with
  | nil =>
    obtain rfl := List.eq_nil_of_length_eq_zero (Nat.le_zero.1 h)
    rfl
  | cons owner owners ih =>
    cases xs with
    | nil => rfl
    | cons x xs =>
      have hxs := ih (Nat.le_of_succ_le_succ h)
      rw [List.length_cons, rankOf_cons_succ, ← hxs, ownedBy]
      split <;> rfl

/-- Owners of things that are not there do not matter. -/
theorem ownedBy_append {xs : List α} (h : xs.length ≤ owners.length) (more : List Id) :
    ownedBy user (owners ++ more) xs = ownedBy user owners xs := by
  induction owners generalizing xs with
  | nil =>
    obtain rfl := List.eq_nil_of_length_eq_zero (Nat.le_zero.1 h)
    rw [ownedBy_nil, ownedBy_nil]
  | cons owner owners ih =>
    cases xs with
    | nil => rfl
    | cons x xs => rw [List.cons_append, ownedBy, ownedBy, ih (Nat.le_of_succ_le_succ h)]

/-- Where everything belongs to the user, everything is kept. -/
theorem ownedBy_eq_self {xs : List α} (h : xs.length ≤ owners.length)
    (howners : ∀ owner ∈ owners, owner = user) : ownedBy user owners xs = xs := by
  induction owners generalizing xs with
  | nil => exact (List.eq_nil_of_length_eq_zero (Nat.le_zero.1 h)).symm
  | cons owner owners ih =>
    rw [List.forall_mem_cons] at howners
    cases xs with
    | nil => rfl
    | cons x xs => rw [ownedBy, if_pos howners.1, ih (Nat.le_of_succ_le_succ h) howners.2]

theorem getElem?_ownedBy (h : owners[n]? = some user) (xs : List α) :
    (ownedBy user owners xs)[rankOf user owners n]? = xs[n]? := by
  induction owners generalizing n xs with
  | nil => cases h
  | cons owner owners ih =>
    cases xs with
    | nil => rfl
    | cons x xs =>
      cases n with
      | zero =>
        obtain rfl : owner = user := Option.some.inj h
        simp [ownedBy]
      | succ n =>
        rw [ownedBy, rankOf_cons_succ, List.getElem?_cons_succ, ← ih h xs]
        split <;> rfl

/-- When something happens to one thing, it happens to it among the things of its owner, and nothing
    happens to the things of others. -/
theorem ownedBy_modify (user : Id) (owners : List Id) (xs : List α) (n : Nat) (f : α → α) :
    ownedBy user owners (xs.modify n f) =
      if owners[n]? = some user then (ownedBy user owners xs).modify (rankOf user owners n) f
      else ownedBy user owners xs := by
  induction owners generalizing n xs with
  | nil => rfl
  | cons owner owners ih =>
    cases xs with
    | nil => cases n <;> simp [ownedBy]
    | cons x xs =>
      cases n with
      | zero =>
        rw [List.modify_zero_cons, ownedBy, ownedBy]
        by_cases h : owner = user <;> simp [h]
      | succ n =>
        rw [List.modify_succ_cons, ownedBy, ownedBy, ih, rankOf_cons_succ, List.getElem?_cons_succ]
        by_cases h : owner = user
        · simp only [if_pos h, List.modify_succ_cons]
          split <;> rfl
        · simp only [if_neg h, Nat.add_zero]

theorem ownedBy_set (user : Id) (owners : List Id) (xs : List α) (n : Nat) (x : α) :
    ownedBy user owners (xs.set n x) =
      if owners[n]? = some user then (ownedBy user owners xs).set (rankOf user owners n) x
      else ownedBy user owners xs := by
  rw [List.set_eq_modify, ownedBy_modify, List.set_eq_modify]

theorem ownedBy_append_singleton {xs : List α} (h : owners[xs.length]? = some v) (x : α) :
    ownedBy user owners (xs ++ [x]) =
      if v = user then ownedBy user owners xs ++ [x] else ownedBy user owners xs := by
  induction owners generalizing xs with
  | nil => cases h
  | cons owner owners ih =>
    cases xs with
    | nil =>
      obtain rfl : owner = v := Option.some.inj h
      rw [List.nil_append, ownedBy, ownedBy_nil, ownedBy_nil]
      rfl
    | cons y xs =>
      rw [List.cons_append, ownedBy, ownedBy, ih h]
      by_cases hv : v = user <;> by_cases ho : owner = user <;> simp [hv, ho]

theorem mem_of_mem_ownedBy {xs : List α} {x : α} (h : x ∈ ownedBy user owners xs) :
    ∃ n : Nat, owners[n]? = some user ∧ xs[n]? = some x := by
  induction owners generalizing xs with
  | nil => cases h
  | cons owner owners ih =>
    cases xs with
    | nil => cases h
    | cons y xs =>
      rw [ownedBy] at h
      have hrest (h : x ∈ ownedBy user owners xs) :
          ∃ n : Nat, (owner :: owners)[n]? = some user ∧ (y :: xs)[n]? = some x := by
        obtain ⟨n, hn, hx⟩ := ih h
        exact ⟨n + 1, hn, hx⟩
      split at h
      · next howner =>
        rcases List.mem_cons.1 h with rfl | h
        · exact ⟨0, congrArg some howner, rfl⟩
        · exact hrest h
      · exact hrest h

/-! ## Things that correspond -/

variable {R : α → β → Prop} {xs : List α} {ys : List β} {x : α} {y : β}

theorem exists_getElem?_of_forall₂ (h : List.Forall₂ R xs ys) (hx : xs[n]? = some x) :
    ∃ y, ys[n]? = some y ∧ R x y := by
  induction h generalizing n with
  | nil => cases hx
  | cons hR _ ih =>
    cases n with
    | zero =>
      cases hx
      exact ⟨_, rfl, hR⟩
    | succ n => exact ih hx

theorem forall₂_set (h : List.Forall₂ R xs ys) (hxy : R x y) (n : Nat) :
    List.Forall₂ R (xs.set n x) (ys.set n y) := by
  induction h generalizing n with
  | nil => exact .nil
  | cons hR hrest ih =>
    cases n with
    | zero => exact .cons hxy hrest
    | succ n => exact .cons hR (ih n)

end HouseholdAccess
