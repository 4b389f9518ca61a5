import HouseholdAccess.Proofs.Rule.Decision
import HouseholdAccess.Rule.Question

/-!
# What is possible at all

A question without a subject asks whether an action is possible on a type of subject.
The answer errs on the side of yes: an action that is allowed on some subject is
possible (`RuleSet.can_none_of_can_some`), so that what is not possible is denied on
every subject, and a type of subject on which nothing is possible has no subject on
which anything is allowed.

Rules that are asked many questions remember positions on the way
(`IndexedRules.relevant`), and answer as they did at first
(`IndexedRules.IsRight.can`).
-/

namespace HouseholdAccess

namespace RuleSet

variable {action : Action} {type : SubjectType} {subject : Value}

/-- A question without a subject always has an answer. -/
theorem decided_none (rules : List Rule) : Decided action type none rules := fun _ _ _ => ⟨_, rfl⟩

/-- Going through rules without a subject comes to yes if going through them on a subject does: a
    rule that allows always matches then, and one that denies only if it matches on every
    subject. -/
theorem decideFrom_none_of_some {rules : List Rule} {i : Nat} {v v' w w' : Verdict}
    (hbefore : v.allowed = true → v'.allowed = true)
    (hsome : decideFrom action type (some subject) i rules v = .ok w)
    (hnone : decideFrom action type none i rules v' = .ok w') (hw : w.allowed = true) :
    w'.allowed = true := by
  -- The verdict without a subject stays at least as kind as the one on the subject.
  induction rules generalizing i v v' with
  | nil =>
    cases hsome
    cases hnone
    exact hbefore hw
  | cons r rest ih =>
    by_cases happlies : r.appliesTo action type
    · rw [decideFrom, if_pos happlies] at hsome
      obtain ⟨b, hb, hsome⟩ := exists_of_bind_eq_ok hsome
      rw [decideFrom_cons i r rest v' fun _ => rfl, happlies, Bool.true_and] at hnone
      cases hinverted : r.inverted with
      | false =>
        rw [hinverted, Bool.not_false, Bool.or_true, if_pos rfl] at hnone
        split at hsome <;> exact ih (fun _ => rfl) hsome hnone
      | true =>
        rw [hinverted, Bool.not_true, Bool.or_false] at hnone
        cases hcondition : r.condition with
        | none =>
          rw [hcondition, Option.isNone_none, if_pos rfl] at hnone
          rw [Rule.matches, Rule.admits, hcondition] at hb
          cases hb
          rw [if_pos rfl, hinverted] at hsome
          exact ih id hsome hnone
        | some condition =>
          rw [hcondition, Option.isNone_some, if_neg Bool.false_ne_true] at hnone
          split at hsome
          · rw [hinverted] at hsome
            exact ih (fun h => absurd h Bool.false_ne_true) hsome hnone
          · exact ih hbefore hsome hnone
    · rw [decideFrom, if_neg happlies] at hsome hnone
      exact ih hbefore hsome hnone

/-- What is allowed on some subject is possible. -/
theorem can_none_of_can_some {rules : RuleSet}
    (h : rules.can action type (some subject) = .ok true) :
    rules.can action type = .ok true := by
  rw [can, evaluate_eq_decideFrom] at h ⊢
  obtain ⟨w', hw'⟩ := (decided_none rules).exists_decideFrom 0 .default
  rw [hw']
  cases hw : decideFrom action type (some subject) 0 rules .default with
  | error e =>
    rw [hw] at h
    cases h
  | ok w =>
    rw [hw] at h
    exact congrArg Except.ok (decideFrom_none_of_some id hw hw' (Except.ok.inj h))

/-- There is an answer on a subject where every condition can be decided. -/
theorem exists_can {rules : RuleSet} (h : ∀ r ∈ rules, ∃ b, r.admits subject = .ok b) :
    ∃ b, rules.can action type (some subject) = .ok b := by
  have hdecided : Decided action type (some subject) rules := fun r hr _ => h r hr
  obtain ⟨v, hv⟩ := hdecided.exists_decideFrom 0 .default
  exact ⟨v.allowed, by rw [can, evaluate_eq_decideFrom, hv]; rfl⟩

/-- What is not possible is denied on every subject. -/
theorem can_some_of_can_none {rules : RuleSet} (h : ∀ r ∈ rules, ∃ b, r.admits subject = .ok b)
    (hnone : rules.can action type = .ok false) :
    rules.can action type (some subject) = .ok false := by
  obtain ⟨b, hb⟩ := exists_can h
  cases b with
  | false => exact hb
  | true =>
    rw [can_none_of_can_some hb] at hnone
    cases hnone

end RuleSet

namespace IndexedRules

variable {x : IndexedRules}

/-- What is remembered is right. -/
def IsRight (x : IndexedRules) : Prop :=
  ∀ action type found, x.index.lookup (action, type) = some found →
    found = x.rules.relevant action type

/-- The rules are the same, and what is remembered of them is still right. -/
structure Continues (x y : IndexedRules) : Prop where
  rules : y.rules = x.rules
  right : y.IsRight

theorem isRight_of_nil (rules : RuleSet) : IsRight { rules } := fun _ _ _ h => nomatch h

theorem IsRight.relevant (h : x.IsRight) (action : Action) (type : SubjectType) :
    (x.relevant action type).1 = x.rules.relevant action type ∧
      x.Continues (x.relevant action type).2 := by
  rw [IndexedRules.relevant]
  split
  · next found hfound => exact ⟨h action type found hfound, rfl, h⟩
  · refine ⟨rfl, rfl, fun action' type' found hfound => ?_⟩
    rw [List.lookup_cons] at hfound
    split at hfound
    · next hsame =>
      cases hfound
      cases eq_of_beq hsame
      rfl
    · exact h action' type' found hfound

theorem IsRight.evaluate (h : x.IsRight) (action : Action) (type : SubjectType)
    (subject : Option Value) :
    (x.evaluate action type subject).1 = x.rules.evaluate action type subject ∧
      x.Continues (x.evaluate action type subject).2 := by
  obtain ⟨hrelevant, hcontinues⟩ := h.relevant action type
  refine ⟨?_, hcontinues⟩
  change (x.relevant action type).2.rules.decideAt subject (x.relevant action type).1 .default = _
  rw [hrelevant, hcontinues.rules]
  rfl

theorem IsRight.can (h : x.IsRight) (action : Action) (type : SubjectType)
    (subject : Option Value) :
    (x.can action type subject).1 = x.rules.can action type subject ∧
      x.Continues (x.can action type subject).2 := by
  obtain ⟨hevaluate, hcontinues⟩ := h.evaluate action type subject
  exact ⟨congrArg (Except.map _) hevaluate, hcontinues⟩

/-- If none of the actions is possible, each of them is impossible. -/
theorem IsRight.allowsOne (h : x.IsRight) {type : SubjectType} {actions : List Action}
    (hnone : (x.allowsOne type actions).1 = .ok false) :
    ∀ action ∈ actions, x.rules.can action type = .ok false := by
  induction actions generalizing x with
  | nil => exact List.forall_mem_nil _
  | cons action rest ih =>
    obtain ⟨hcan, hcontinues⟩ := h.can action type none
    rw [IndexedRules.allowsOne] at hnone
    split at hnone
    · next y hy =>
      rw [hy] at hcan hcontinues
      refine List.forall_mem_cons.2 ⟨hcan.symm, ?_⟩
      exact hcontinues.rules ▸ ih hcontinues.right hnone
    · next hother =>
      exact (hother _ (Prod.ext hnone rfl)).elim

/-- An action that is allowed on a subject is possible on its type; so what is not possible is
    denied on every subject, and where nothing is possible everything is. -/
theorem can_type_of_can_subject (hx : x.IsRight) {subject : Value}
    (hdecided : ∀ r ∈ x.rules, ∃ b, r.admits subject = .ok b) (type : SubjectType) :
    (∀ action, (x.can action type (some subject)).1 = .ok true →
        (x.can action type).1 = .ok true) ∧
      (∀ action, (x.can action type).1 = .ok false →
        (x.can action type (some subject)).1 = .ok false) ∧
      ((x.allowsAnything type).1 = .ok false →
        ∀ action, (x.can action type (some subject)).1 = .ok false) := by
  refine ⟨fun action h => ?_, fun action h => ?_, fun h action => ?_⟩
  · rw [(hx.can action type _).1] at h ⊢
    exact RuleSet.can_none_of_can_some h
  · rw [(hx.can action type _).1] at h ⊢
    exact RuleSet.can_some_of_can_none hdecided h
  · rw [(hx.can action type _).1]
    refine RuleSet.can_some_of_can_none hdecided (hx.allowsOne h action ?_)
    cases action <;> decide

/-- Messages in a household may be changed, but not those by others. -/
def ownMessageRules : RuleSet :=
  [.can [.manage] [.message] (some (.field "household_id" .eq (.text "h1"))),
    .cannot [.update] [.message] (some (.field "user_id" .ne (.text "u1")))]

/-- A message by somebody else. -/
def othersMessage : Value := .record [("household_id", .text "h1"), ("user_id", .text "u2")]

theorem decided_othersMessage : ∀ r ∈ ownMessageRules, ∃ b, r.admits othersMessage = .ok b := by
  have hmeets : ownMessageRules.all fun r => (r.admits othersMessage).toOption = some true := by
    decide +kernel
  intro r hr
  exact ⟨true, eq_ok_of_toOption (decide_eq_true_iff.1 (List.all_eq_true.1 hmeets r hr))⟩

/-- A message by somebody else may be removed, so that removing messages is possible; nothing is
    possible on users, so that even a user with these fields may not be read. -/
theorem can_type_of_can_subject_message :
    IsRight { rules := ownMessageRules } ∧
      (∀ r ∈ ownMessageRules, ∃ b, r.admits othersMessage = .ok b) ∧
      (can { rules := ownMessageRules } .delete .message).1 = .ok true ∧
      (can { rules := ownMessageRules } .read .user (some othersMessage)).1 = .ok false := by
  have hright : IsRight { rules := ownMessageRules } := isRight_of_nil ownMessageRules
  obtain ⟨hpossible, -, -⟩ := can_type_of_can_subject hright decided_othersMessage .message
  obtain ⟨-, -, hnothing⟩ := can_type_of_can_subject hright decided_othersMessage .user
  refine ⟨hright, decided_othersMessage, hpossible .delete ?_, hnothing ?_ .read⟩
  · exact eq_ok_of_toOption (by decide +kernel)
  · exact eq_ok_of_toOption (by decide +kernel)

end IndexedRules

end HouseholdAccess
