import HouseholdAccess.Proofs.Condition.Truth

/-!
# Conditions that are answered

Whatever is compared with whatever, the answer is yes or no, with two exceptions: a record
that keeps a reader of its own (`Value.isLegible` says that there is none on the way), and
a pattern that is not usable for the text that it is looked for in
(`Condition.FieldTest.IsStuckOn`).

* `Operator.holds_eq_error_iff` is about the operators;
* `Condition.reached` are the tests of a condition that are looked at, and there is no
  answer exactly if one of them has none (`Condition.exists_meets_eq_error_iff`);
* `Condition.meetsOption_answered` puts them together.
-/

namespace HouseholdAccess

/-! ## Subjects -/

namespace Value

mutual

/-- None of the records that paths lead through keeps a reader of its own. -/
def isLegible : Value → Bool
  | .object entries | .mapping _ entries => areLegibleEntries entries
  | .model fields => (fieldOfModel fields readerName).toOption.isSome && areLegibleFields fields
  | .readable fields => areLegibleFields fields
  | _ => true

/-- The values of entries are legible. -/
def areLegibleEntries : List (Key × Value) → Bool
  | [] => true
  | (_, v) :: rest => isLegible v && areLegibleEntries rest

/-- The values of fields are legible. -/
def areLegibleFields : List (String × Value) → Bool
  | [] => true
  | (_, v) :: rest => isLegible v && areLegibleFields rest

end

theorem areLegibleEntries_iff {entries : List (Key × Value)} :
    areLegibleEntries entries = true ↔ ∀ entry ∈ entries, entry.2.isLegible = true := by
  induction entries with
  | nil => simp [areLegibleEntries]
  | cons entry rest ih => simp [areLegibleEntries, ih]

theorem areLegibleFields_iff {fields : List (String × Value)} :
    areLegibleFields fields = true ↔ ∀ field ∈ fields, field.2.isLegible = true := by
  induction fields with
  | nil => simp [areLegibleFields]
  | cons field rest ih => simp [areLegibleFields, ih]

/-- What is found among legible values is legible, and so is the marker of what is not found. -/
theorem isLegible_getD_find? {α : Type} {items : List (α × Value)} (p : α × Value → Bool)
    (h : ∀ item ∈ items, item.2.isLegible = true) :
    (((items.find? p).map Prod.snd).getD .absent).isLegible = true := by
  cases hfind : items.find? p with
  | none => rfl
  | some item => exact h item (List.mem_of_find?_eq_some hfind)

/-- Whether the fields of a record can be read does not depend on which one is. -/
theorem fieldOfModel_eq_ok {fields : List (String × Value)}
    (h : (fieldOfModel fields readerName).toOption.isSome = true) (name : String) :
    fieldOfModel fields name = .ok (fieldOf fields name) := by
  rw [fieldOfModel] at h ⊢
  split
  · rfl
  · rfl
  · next hnull hfind =>
    rw [hfind] at h
    split at h <;> simp_all [Except.toOption]

/-- A legible value has each of its fields read, as a legible value. -/
theorem exists_readField {v : Value} (h : v.isLegible = true) (name : String) :
    ∃ field, v.readField name = .ok field ∧ field.isLegible = true := by
  cases v with
  | object entries | mapping _ entries =>
    exact ⟨_, rfl, isLegible_getD_find? _ (areLegibleEntries_iff.1 h)⟩
  | model fields =>
    rw [isLegible, Bool.and_eq_true] at h
    exact ⟨_, fieldOfModel_eq_ok h.1 name, isLegible_getD_find? _ (areLegibleFields_iff.1 h.2)⟩
  | readable fields =>
    exact ⟨_, rfl, isLegible_getD_find? _ (areLegibleFields_iff.1 h)⟩
  | _ => exact ⟨.absent, rfl, rfl⟩

theorem exists_readFields {v : Value} (h : v.isLegible = true) (names : List String) :
    ∃ field, v.readFields names = .ok field := by
  induction names generalizing v with
  | nil => exact ⟨v, rfl⟩
  | cons name rest ih =>
    obtain ⟨field, hfield, hlegible⟩ := exists_readField h name
    obtain ⟨found, hfound⟩ := ih hlegible
    exact ⟨found, bind_eq_ok hfield hfound⟩

/-- Every path leads to a value, or to the marker of a field that is not there. -/
theorem exists_resolve {v : Value} (h : v.isLegible = true) (path : String) :
    ∃ field, v.resolve path = .ok field :=
  exists_readFields h _

end Value

/-! ## Operators -/

/-- A text that is no pattern is none of the troubles that are reported. -/
theorem Pattern.found_ne_malformed (pattern text : String) :
    found pattern text ≠ .error .malformed := by
  rw [found]
  cases read pattern with
  | ok c =>
    simp only [Compiled.search]
    split
    · simp
    · split
      · simp
      · split <;> simp
  | error trouble => cases trouble <;> simp

/-- Only a pattern that is looked for in a text keeps an operator from an answer. -/
theorem Operator.holds_eq_error_iff {op : Operator} {actual operand : Value}
    {trouble : Pattern.Trouble} :
    op.holds actual operand = .error trouble ↔
      op = .regex ∧ ∃ pattern text, operand = .text pattern ∧ actual = .text text ∧
        Pattern.found pattern text = .error trouble := by
  cases op with
  | regex =>
    simp only [holds, true_and]
    constructor
    · intro h
      split at h
      · next text pattern => exact ⟨pattern, text, rfl, rfl, h⟩
      · cases h
    · rintro ⟨pattern, text, rfl, rfl, h⟩
      exact h
  | isIn | notIn =>
    rw [holds]
    split <;> simp
  | _ => simp [holds]

namespace Condition

/-! ## Tests -/

/-- The test looks for a pattern in a text, and meets a trouble with it. -/
def FieldTest.IsStuckOn (t : FieldTest) (subject : Value) (trouble : Pattern.Trouble) : Prop :=
  t.operator = .regex ∧ ∃ pattern text, t.operand = .text pattern ∧
    subject.resolve t.path = .ok (.text text) ∧ Pattern.found pattern text = .error trouble

/-- On a legible subject a test has an answer unless it is stuck. -/
theorem FieldTest.holdsOn_eq_error_iff {t : FieldTest} {subject : Value}
    (h : subject.isLegible = true) {e : Trouble} :
    t.holdsOn subject = .error e ↔
      ∃ trouble, e = .pattern trouble ∧ t.IsStuckOn subject trouble := by
  obtain ⟨field, hfield⟩ := Value.exists_resolve h t.path
  have hholds : t.holdsOn subject = (t.operator.holds field t.operand).mapError .pattern := by
    rw [holdsOn, holdsAt, hfield]
    rfl
  rw [hholds]
  constructor
  · intro herror
    cases hop : t.operator.holds field t.operand with
    | ok b =>
      rw [hop] at herror
      cases herror
    | error trouble =>
      rw [hop] at herror
      cases herror
      obtain ⟨hregex, pattern, text, hoperand, rfl, hfound⟩ := Operator.holds_eq_error_iff.1 hop
      exact ⟨trouble, rfl, hregex, pattern, text, hoperand, hfield, hfound⟩
  · rintro ⟨trouble, rfl, hregex, pattern, text, hoperand, hresolve, hfound⟩
    rw [hresolve] at hfield
    cases hfield
    rw [Operator.holds_eq_error_iff.2 ⟨hregex, pattern, text, hoperand, rfl, hfound⟩]
    rfl

/-! ## Tests that are looked at -/

mutual

/-- The tests of a condition that are looked at, in order. -/
def reached (subject : Value) : Condition → List FieldTest
  | .field path operator operand => [⟨path, operator, operand⟩]
  | .all children => reachedOfAll subject children
  | .any children => reachedOfAny subject children
  | .not child => reached subject child

/-- The tests that are looked at until a condition of a list comes to false. -/
def reachedOfAll (subject : Value) : List Condition → List FieldTest
  | [] => []
  | child :: rest =>
    reached subject child ++
      if child.truth (FieldTest.answerOn subject) then reachedOfAll subject rest else []

/-- The tests that are looked at until a condition of a list comes to true. -/
def reachedOfAny (subject : Value) : List Condition → List FieldTest
  | [] => []
  | child :: rest =>
    reached subject child ++
      if child.truth (FieldTest.answerOn subject) then [] else reachedOfAny subject rest

end

/-- The tests that are looked at for a condition that may be missing. -/
def reachedOption (subject : Value) : Option Condition → List FieldTest
  | none => []
  | some c => reached subject c

/-- Looks at tests in order, until one has no answer. -/
def lookAt (subject : Value) (ts : List FieldTest) : Except Trouble Unit :=
  forM ts fun t => (t.holdsOn subject).map fun _ => ()

variable {subject : Value}

theorem lookAt_append (ts us : List FieldTest) :
    lookAt subject (ts ++ us) = lookAt subject ts >>= fun _ => lookAt subject us :=
  List.forM_append

theorem lookAt_singleton (t : FieldTest) :
    lookAt subject [t] = (t.holdsOn subject).map fun _ => () := by
  rw [lookAt, List.forM_cons]
  cases t.holdsOn subject <;> rfl

/-- A test that is looked at alone has the answer that it has. -/
theorem holdsOn_eq_lookAt (t : FieldTest) :
    t.holdsOn subject = (lookAt subject [t]).map fun _ => t.answerOn subject := by
  rw [lookAt_singleton]
  cases h : t.holdsOn subject with
  | error e => rfl
  | ok b =>
    rw [FieldTest.answerOn_eq h]
    rfl

mutual

/-- A condition comes to what its tests make it come to, if those that are looked at have an
    answer. -/
theorem meets_eq_lookAt (c : Condition) :
    c.meets subject =
      (lookAt subject (c.reached subject)).map fun _ => c.truth (FieldTest.answerOn subject) := by
  cases c with
  | field path operator operand => exact holdsOn_eq_lookAt ⟨path, operator, operand⟩
  | all children => exact meetsAll_eq_lookAt children
  | any children => exact meetsAny_eq_lookAt children
  | not child =>
    rw [meets, meets_eq_lookAt child, reached, truth]
    cases lookAt subject (child.reached subject) <;> rfl

theorem meetsAll_eq_lookAt (cs : List Condition) :
    meetsAll subject cs = (lookAt subject (reachedOfAll subject cs)).map fun _ =>
      truthOfAll (FieldTest.answerOn subject) cs := by
  cases cs with
  | nil => rfl
  | cons c rest =>
    rw [meetsAll, meets_eq_lookAt c, meetsAll_eq_lookAt rest, reachedOfAll, lookAt_append,
      truthOfAll]
    cases lookAt subject (c.reached subject) <;>
      cases c.truth (FieldTest.answerOn subject) <;> rfl

theorem meetsAny_eq_lookAt (cs : List Condition) :
    meetsAny subject cs = (lookAt subject (reachedOfAny subject cs)).map fun _ =>
      truthOfAny (FieldTest.answerOn subject) cs := by
  cases cs with
  | nil => rfl
  | cons c rest =>
    rw [meetsAny, meets_eq_lookAt c, meetsAny_eq_lookAt rest, reachedOfAny, lookAt_append,
      truthOfAny]
    cases lookAt subject (c.reached subject) <;>
      cases c.truth (FieldTest.answerOn subject) <;> rfl

end

theorem meetsOption_eq_lookAt (c : Option Condition) :
    ∃ b, meetsOption subject c = (lookAt subject (reachedOption subject c)).map fun _ => b := by
  cases c with
  | none => exact ⟨true, rfl⟩
  | some c => exact ⟨_, meets_eq_lookAt c⟩

/-- What stops the looking is a test without an answer. -/
theorem exists_mem_of_lookAt {ts : List FieldTest} {e : Trouble}
    (h : lookAt subject ts = .error e) : ∃ t ∈ ts, t.holdsOn subject = .error e := by
  induction ts with
  | nil => cases h
  | cons t rest ih =>
    rw [← List.singleton_append, lookAt_append, lookAt_singleton] at h
    cases ht : t.holdsOn subject with
    | error e' =>
      rw [ht] at h
      cases h
      exact ⟨t, List.mem_cons_self, ht⟩
    | ok b =>
      rw [ht] at h
      obtain ⟨u, hu, herror⟩ := ih h
      exact ⟨u, List.mem_cons_of_mem t hu, herror⟩

/-- Where the looking is not stopped, every test has an answer. -/
theorem exists_holdsOn_of_lookAt {ts : List FieldTest} (h : lookAt subject ts = .ok ()) :
    ∀ t ∈ ts, ∃ b, t.holdsOn subject = .ok b := by
  induction ts with
  | nil => exact fun t ht => absurd ht List.not_mem_nil
  | cons t rest ih =>
    rw [← List.singleton_append, lookAt_append, lookAt_singleton] at h
    cases ht : t.holdsOn subject with
    | error e =>
      rw [ht] at h
      cases h
    | ok b =>
      rw [ht] at h
      exact List.forall_mem_cons.2 ⟨⟨b, ht⟩, ih h⟩

/-- On a legible subject a condition is answered exactly if no test that is looked at is stuck, and
    if it is not answered then for the trouble in which such a test is. -/
theorem meetsOption_answered (c : Option Condition) (h : subject.isLegible = true) :
    ((∃ b, meetsOption subject c = .ok b) ↔
        ∀ t ∈ reachedOption subject c, ∀ trouble, ¬t.IsStuckOn subject trouble) ∧
      ∀ e, meetsOption subject c = .error e →
        ∃ trouble, e = .pattern trouble ∧ trouble ≠ .malformed ∧
          ∃ t ∈ reachedOption subject c, t.IsStuckOn subject trouble := by
  obtain ⟨b, hmeets⟩ := @meetsOption_eq_lookAt subject c
  rw [hmeets]
  cases hlook : lookAt subject (reachedOption subject c) with
  | ok =>
    refine ⟨iff_of_true ⟨b, rfl⟩ fun t ht trouble hstuck => ?_, fun e he => by cases he⟩
    obtain ⟨answer, hanswer⟩ := exists_holdsOn_of_lookAt hlook t ht
    rw [(FieldTest.holdsOn_eq_error_iff h).2 ⟨trouble, rfl, hstuck⟩] at hanswer
    cases hanswer
  | error e =>
    obtain ⟨t, ht, herror⟩ := exists_mem_of_lookAt hlook
    obtain ⟨trouble, rfl, hstuck⟩ := (FieldTest.holdsOn_eq_error_iff h).1 herror
    refine ⟨iff_of_false ?_ fun hnone => hnone t ht trouble hstuck, fun e' he' => ?_⟩
    · rintro ⟨b', hb'⟩
      cases hb'
    · cases he'
      refine ⟨trouble, rfl, ?_, t, ht, hstuck⟩
      rintro rfl
      obtain ⟨-, pattern, text, -, -, hfound⟩ := hstuck
      exact Pattern.found_ne_malformed pattern text hfound

end Condition

end HouseholdAccess
