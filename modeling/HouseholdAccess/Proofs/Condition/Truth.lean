import HouseholdAccess.Condition.Document
import HouseholdAccess.Proofs.Sequence

/-!
# The truth of a condition

A condition is made of conditions on fields (`Condition.tests`). Where each of
them can be decided on a subject, the rest is a matter of truth values: what the
condition comes to depends on the subject through the answers to its tests only
(`Condition.truth`, `Condition.meets_eq_truth`), and neither the order in which
they are looked at nor what is left out on the way matters any more.

`Condition.DecidedOn` says that a subject is such a one. On others the order does
matter, but only for whether there is an answer: a test that cannot be decided is
looked at if nothing settles the answer before it, and there is none then. Two
conditions that come to the same never have different answers
(`Condition.meets_agree`).
-/

namespace HouseholdAccess

namespace Condition

/-- Whether a condition on a field holds on a subject. -/
def FieldTest.holdsOn (t : FieldTest) (subject : Value) : Except Trouble Bool :=
  holdsAt subject t.path t.operator t.operand

/-- The answer to a condition on a field. One that cannot be decided is not met. -/
def FieldTest.answerOn (subject : Value) (t : FieldTest) : Bool :=
  (t.holdsOn subject).toOption.getD false

theorem FieldTest.answerOn_eq {subject : Value} {t : FieldTest} {b : Bool}
    (h : t.holdsOn subject = .ok b) : t.answerOn subject = b := by
  rw [answerOn, h]
  rfl

/-- A condition on a field as a condition. -/
def FieldTest.toCondition (t : FieldTest) : Condition := .field t.path t.operator t.operand

mutual

/-- The conditions on fields that a condition is made of. -/
def tests : Condition → List FieldTest
  | .field path operator operand => [⟨path, operator, operand⟩]
  | .all children => testsOf children
  | .any children => testsOf children
  | .not child => tests child

/-- The conditions on fields that a list of conditions is made of. -/
def testsOf : List Condition → List FieldTest
  | [] => []
  | child :: rest => tests child ++ testsOf rest

end

mutual

/-- What a condition comes to when its tests come to the given answers. -/
def truth (answer : FieldTest → Bool) : Condition → Bool
  | .field path operator operand => answer ⟨path, operator, operand⟩
  | .all children => truthOfAll answer children
  | .any children => truthOfAny answer children
  | .not child => !truth answer child

/-- Whether all conditions of a list come to true. -/
def truthOfAll (answer : FieldTest → Bool) : List Condition → Bool
  | [] => true
  | child :: rest => truth answer child && truthOfAll answer rest

/-- Whether some condition of a list comes to true. -/
def truthOfAny (answer : FieldTest → Bool) : List Condition → Bool
  | [] => false
  | child :: rest => truth answer child || truthOfAny answer rest

end

variable {subject : Value} {answer : FieldTest → Bool}

mutual

/-- A condition comes to what its tests make it come to. -/
theorem meets_eq_truth (c : Condition)
    (h : ∀ t ∈ c.tests, t.holdsOn subject = .ok (answer t)) :
    c.meets subject = .ok (c.truth answer) := by
  cases c with
  | field path operator operand => exact h ⟨path, operator, operand⟩ (by simp [tests])
  | all children => exact meetsAll_eq_truth children h
  | any children => exact meetsAny_eq_truth children h
  | not child =>
    rw [meets, meets_eq_truth child h]
    rfl

theorem meetsAll_eq_truth (cs : List Condition)
    (h : ∀ t ∈ testsOf cs, t.holdsOn subject = .ok (answer t)) :
    meetsAll subject cs = .ok (truthOfAll answer cs) := by
  cases cs with
  | nil => rfl
  | cons c rest =>
    rw [testsOf, List.forall_mem_append] at h
    rw [meetsAll, truthOfAll, meets_eq_truth c h.1, meetsAll_eq_truth rest h.2]
    cases truth answer c <;> rfl

theorem meetsAny_eq_truth (cs : List Condition)
    (h : ∀ t ∈ testsOf cs, t.holdsOn subject = .ok (answer t)) :
    meetsAny subject cs = .ok (truthOfAny answer cs) := by
  cases cs with
  | nil => rfl
  | cons c rest =>
    rw [testsOf, List.forall_mem_append] at h
    rw [meetsAny, truthOfAny, meets_eq_truth c h.1, meetsAny_eq_truth rest h.2]
    cases truth answer c <;> rfl

end

theorem mem_testsOf {t : FieldTest} {cs : List Condition} :
    t ∈ testsOf cs ↔ ∃ c ∈ cs, t ∈ c.tests := by
  induction cs with
  | nil => simp [testsOf]
  | cons c rest ih => simp [testsOf, ih]

theorem truthOfAll_eq (cs : List Condition) : truthOfAll answer cs = cs.all (truth answer) := by
  induction cs with
  | nil => rfl
  | cons c rest ih => rw [truthOfAll, ih, List.all_cons]

theorem truthOfAny_eq (cs : List Condition) : truthOfAny answer cs = cs.any (truth answer) := by
  induction cs with
  | nil => rfl
  | cons c rest ih => rw [truthOfAny, ih, List.any_cons]

theorem truthOfAll_append (cs ds : List Condition) :
    truthOfAll answer (cs ++ ds) = (truthOfAll answer cs && truthOfAll answer ds) := by
  rw [truthOfAll_eq, truthOfAll_eq, truthOfAll_eq, List.all_append]

/-! ## Conjunctions -/

theorem tests_conjunction (cs : List Condition) : (conjunction cs).tests = testsOf cs := by
  match cs with
  | [] => rfl
  | [c] => simp [conjunction, testsOf]
  | _ :: _ :: _ => rfl

theorem truth_conjunction (answer : FieldTest → Bool) (cs : List Condition) :
    (conjunction cs).truth answer = truthOfAll answer cs := by
  match cs with
  | [] => rfl
  | [c] => simp [conjunction, truthOfAll]
  | _ :: _ :: _ => rfl

mutual

/-- What a condition comes to on a subject is what it comes to when the tests that can be decided
    come to what they do, whatever the others come to. -/
theorem truth_of_meets (c : Condition)
    (h : ∀ t ∈ c.tests, ∀ b, t.holdsOn subject = .ok b → answer t = b) {b : Bool}
    (hmeets : c.meets subject = .ok b) : c.truth answer = b := by
  cases c with
  | field path operator operand => exact h ⟨path, operator, operand⟩ (by simp [tests]) b hmeets
  | all children => exact truthOfAll_of_meetsAll children h hmeets
  | any children => exact truthOfAny_of_meetsAny children h hmeets
  | not child =>
    rw [meets] at hmeets
    cases hchild : meets subject child with
    | error e => simp [hchild, Except.map] at hmeets
    | ok b' =>
      rw [hchild] at hmeets
      cases hmeets
      rw [truth, truth_of_meets child h hchild]

theorem truthOfAll_of_meetsAll (cs : List Condition)
    (h : ∀ t ∈ testsOf cs, ∀ b, t.holdsOn subject = .ok b → answer t = b) {b : Bool}
    (hmeets : meetsAll subject cs = .ok b) : truthOfAll answer cs = b := by
  cases cs with
  | nil =>
    cases hmeets
    rfl
  | cons c rest =>
    rw [testsOf, List.forall_mem_append] at h
    rw [meetsAll] at hmeets
    obtain ⟨first, hfirst, hrest⟩ := exists_of_bind_eq_ok hmeets
    rw [truthOfAll, truth_of_meets c h.1 hfirst]
    cases first with
    | true => exact truthOfAll_of_meetsAll rest h.2 hrest
    | false =>
      cases hrest
      rfl

theorem truthOfAny_of_meetsAny (cs : List Condition)
    (h : ∀ t ∈ testsOf cs, ∀ b, t.holdsOn subject = .ok b → answer t = b) {b : Bool}
    (hmeets : meetsAny subject cs = .ok b) : truthOfAny answer cs = b := by
  cases cs with
  | nil =>
    cases hmeets
    rfl
  | cons c rest =>
    rw [testsOf, List.forall_mem_append] at h
    rw [meetsAny] at hmeets
    obtain ⟨first, hfirst, hrest⟩ := exists_of_bind_eq_ok hmeets
    rw [truthOfAny, truth_of_meets c h.1 hfirst]
    cases first with
    | true =>
      cases hrest
      rfl
    | false => exact truthOfAny_of_meetsAny rest h.2 hrest

end

/-- Two conditions that come to the same under all answers to their tests are not answered
    differently on a subject. -/
theorem meets_agree {c d : Condition} (htruth : ∀ answer, c.truth answer = d.truth answer)
    {b b' : Bool} (hc : c.meets subject = .ok b) (hd : d.meets subject = .ok b') : b = b' := by
  rw [← truth_of_meets c (fun _ _ _ => FieldTest.answerOn_eq) hc, htruth,
    truth_of_meets d (fun _ _ _ => FieldTest.answerOn_eq) hd]

/-- Every test of the condition can be decided on the subject. -/
def DecidedOn (subject : Value) (c : Condition) : Prop :=
  ∀ t ∈ c.tests, ∃ b, t.holdsOn subject = .ok b

/-- Where every test can be decided, the condition comes to what the answers make it come to. -/
theorem DecidedOn.meets_eq {c : Condition} (h : c.DecidedOn subject) :
    c.meets subject = .ok (c.truth (FieldTest.answerOn subject)) := by
  refine meets_eq_truth c fun t ht => ?_
  obtain ⟨b, hb⟩ := h t ht
  rw [FieldTest.answerOn_eq hb, hb]

theorem DecidedOn.exists_meets {c : Condition} (h : c.DecidedOn subject) :
    ∃ b, c.meets subject = .ok b :=
  ⟨_, h.meets_eq⟩

end Condition

end HouseholdAccess
