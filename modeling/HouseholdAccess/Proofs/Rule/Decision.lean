import HouseholdAccess.Proofs.Condition.Truth
import HouseholdAccess.Rule.Verdict
import Mathlib.Data.List.Forall2

/-!
# How rule sets decide

`RuleSet.evaluate` looks up the positions of the rules about an action and a type
and then goes through those positions. The same answer comes out of one pass over
the rules themselves, which keeps the last rule that matches
(`RuleSet.decideFrom`, `RuleSet.evaluate_eq_decideFrom`): this form splits where a
rule set is put together from parts.

* `RuleSet.decideFrom_agree`: rules that match alike, one by one, give the same
  verdict, the position of the deciding rule included;
* `RuleSet.can_allow_deny`: where every condition can be decided, rules that allow
  followed by rules that deny say yes exactly if one of the former matches and
  none of the latter.
-/

namespace HouseholdAccess

namespace RuleSet

variable {action : Action} {type : SubjectType} {subject : Option Value}

/-- Goes through rules, the first of them at the given position, with the answer so far. -/
def decideFrom (action : Action) (type : SubjectType) (subject : Option Value) :
    Nat → List Rule → Verdict → Except Condition.Trouble Verdict
  | _, [], verdict => .ok verdict
  | i, r :: rest, verdict =>
    if r.appliesTo action type then do
      if ← r.matches subject then decideFrom action type subject (i + 1) rest ⟨!r.inverted, some i⟩
      else decideFrom action type subject (i + 1) rest verdict
    else decideFrom action type subject (i + 1) rest verdict

/-- Going through the positions of the rules of a list that stands behind others is going through
    the list. -/
theorem decideAt_relevantFrom (before rest : List Rule) (verdict : Verdict) :
    decideAt (before ++ rest) subject (relevantFrom action type before.length rest) verdict =
      decideFrom action type subject before.length rest verdict := by
  induction rest generalizing before verdict with
  | nil => rfl
  | cons r rest ih =>
    have hlength : (before ++ [r]).length = before.length + 1 := by simp
    have hsplit : before ++ r :: rest = (before ++ [r]) ++ rest := by simp
    -- The rule has the position of the length of what stands before it.
    have hnext (v : Verdict) : decideAt (before ++ r :: rest) subject
        (relevantFrom action type (before.length + 1) rest) v =
          decideFrom action type subject (before.length + 1) rest v := by
      rw [hsplit, ← hlength]
      exact ih (before ++ [r]) v
    rw [relevantFrom, decideFrom]
    split
    · rw [decideAt]
      have hget : (before ++ r :: rest)[before.length]? = some r := by simp
      simp only [hget, hnext]
    · exact hnext verdict

/-- A question is answered by one pass over the rules. -/
theorem evaluate_eq_decideFrom (rules : RuleSet) :
    rules.evaluate action type subject =
      decideFrom action type subject 0 rules .default :=
  decideAt_relevantFrom [] rules .default

theorem decideFrom_cons (i : Nat) (r : Rule) (rest : List Rule) (verdict : Verdict) {b : Bool}
    (hb : r.appliesTo action type = true → r.matches subject = .ok b) :
    decideFrom action type subject i (r :: rest) verdict =
      decideFrom action type subject (i + 1) rest
        (if r.appliesTo action type && b then ⟨!r.inverted, some i⟩ else verdict) := by
  rw [decideFrom]
  by_cases happlies : r.appliesTo action type
  · rw [if_pos happlies, hb happlies, happlies]
    cases b <;> rfl
  · rw [if_neg happlies]
    simp [happlies]

/-- Rules that are about the same, deny alike and never match differently, one by one, never give
    different verdicts. -/
theorem decideFrom_agree {rules others : List Rule}
    (h : List.Forall₂ (fun r s => r.appliesTo action type = s.appliesTo action type ∧
      r.inverted = s.inverted ∧
        ∀ b b', r.matches subject = .ok b → s.matches subject = .ok b' → b = b') rules others)
    {i : Nat} {verdict v v' : Verdict}
    (hv : decideFrom action type subject i rules verdict = .ok v)
    (hv' : decideFrom action type subject i others verdict = .ok v') : v = v' := by
  induction h generalizing i verdict with
  | nil =>
    cases hv
    cases hv'
    rfl
  | cons hr _ ih =>
    obtain ⟨happlies, hinverted, hmatches⟩ := hr
    rw [decideFrom] at hv hv'
    rw [← happlies, ← hinverted] at hv'
    split at hv
    · next hyes =>
      rw [if_pos hyes] at hv'
      obtain ⟨b, hb, hv⟩ := exists_of_bind_eq_ok hv
      obtain ⟨b', hb', hv'⟩ := exists_of_bind_eq_ok hv'
      -- Both have come to an answer here, which is the same.
      obtain rfl := hmatches b b' hb hb'
      split at hv
      · next hmatch =>
        rw [if_pos hmatch] at hv'
        exact ih hv hv'
      · next hmatch =>
        rw [if_neg hmatch] at hv'
        exact ih hv hv'
    · next hno =>
      rw [if_neg hno] at hv'
      exact ih hv hv'

/-! ## Rules that allow before rules that deny -/

/-- Whether a rule is about the question and matches; a condition that cannot be decided is not
    met. -/
def decides (action : Action) (type : SubjectType) (subject : Option Value) (r : Rule) : Bool :=
  r.appliesTo action type && (r.matches subject).toOption.getD false

/-- No rule about the question has a condition that cannot be decided. -/
def Decided (action : Action) (type : SubjectType) (subject : Option Value)
    (rules : List Rule) : Prop :=
  ∀ r ∈ rules, r.appliesTo action type = true → ∃ b, r.matches subject = .ok b

/-- The last rule that matches decides. -/
theorem map_allowed_decideFrom {rules : List Rule} (h : Decided action type subject rules)
    (i : Nat) (verdict : Verdict) :
    (decideFrom action type subject i rules verdict).map (·.allowed) =
      .ok (rules.foldl
        (fun allowed r => if decides action type subject r then !r.inverted else allowed)
        verdict.allowed) := by
  induction rules generalizing i verdict with
  | nil => rfl
  | cons r rest ih =>
    have hrest : Decided action type subject rest := fun s hs => h s (List.mem_cons_of_mem r hs)
    -- Only a rule about the question is asked whether it matches.
    have hr : r.appliesTo action type = true →
        r.matches subject = .ok ((r.matches subject).toOption.getD false) := by
      intro happlies
      obtain ⟨b, hb⟩ := h r List.mem_cons_self happlies
      rw [hb]
      rfl
    rw [decideFrom_cons i r rest verdict hr, ih hrest]
    change _ = Except.ok (List.foldl _ (if decides action type subject r then _ else _) rest)
    unfold decides
    split <;> rfl

/-- There is a verdict where every condition can be decided. -/
theorem Decided.exists_decideFrom {rules : List Rule} (h : Decided action type subject rules)
    (i : Nat) (verdict : Verdict) :
    ∃ v, decideFrom action type subject i rules verdict = .ok v := by
  have hmap := map_allowed_decideFrom h i verdict
  cases hv : decideFrom action type subject i rules verdict with
  | error e => simp [hv, Except.map] at hmap
  | ok v => exact ⟨v, rfl⟩

theorem foldl_allow {p : Rule → Bool} {rules : List Rule} (h : ∀ r ∈ rules, r.inverted = false)
    (b : Bool) :
    rules.foldl (fun allowed r => if p r then !r.inverted else allowed) b =
      (rules.any p || b) := by
  induction rules generalizing b with
  | nil => rfl
  | cons r rest ih =>
    rw [List.foldl_cons, ih fun s hs => h s (List.mem_cons_of_mem r hs), h r List.mem_cons_self,
      List.any_cons]
    cases p r <;> simp

theorem foldl_deny {p : Rule → Bool} {rules : List Rule} (h : ∀ r ∈ rules, r.inverted = true)
    (b : Bool) :
    rules.foldl (fun allowed r => if p r then !r.inverted else allowed) b =
      (!rules.any p && b) := by
  induction rules generalizing b with
  | nil => rfl
  | cons r rest ih =>
    rw [List.foldl_cons, ih fun s hs => h s (List.mem_cons_of_mem r hs), h r List.mem_cons_self,
      List.any_cons]
    cases p r <;> simp

/-- Rules that allow, followed by rules that deny, say yes exactly if one of the former matches and
    none of the latter does. -/
theorem can_allow_deny {allows denies : List Rule} (hallows : ∀ r ∈ allows, r.inverted = false)
    (hdenies : ∀ r ∈ denies, r.inverted = true)
    (h : Decided action type subject (allows ++ denies)) :
    RuleSet.can (allows ++ denies) action type subject =
      .ok (allows.any (decides action type subject) &&
        !denies.any (decides action type subject)) := by
  rw [RuleSet.can, evaluate_eq_decideFrom, map_allowed_decideFrom h, List.foldl_append,
    foldl_allow hallows, foldl_deny hdenies, Bool.and_comm]
  simp [Verdict.default]

end RuleSet

end HouseholdAccess
