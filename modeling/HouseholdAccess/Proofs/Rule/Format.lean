import HouseholdAccess.Proofs.Condition.Grammar
import HouseholdAccess.Proofs.Number.Rounding
import HouseholdAccess.Proofs.Rule.RoundTrip
import Mathlib.Data.List.Forall2

/-!
# The packed format

Which rule an entry of a packed form states is said here without reading it
(`Packed.States`). An entry has two to four items: the actions and the types of
subject as tokens joined by commas, the number zero or a condition document, and a
truth value or one of the numbers zero and one. No token may be missing or unknown,
and a truth value is no number.

`Packed.unpack` reads exactly that (`Packed.unpack_iff`): a list all of whose
entries state a rule becomes the list of these rules, and of any other list it
names the first entry that states none.
-/

namespace HouseholdAccess

/-- Zeros are the numbers that are worth nothing. -/
theorem Binary64.isZero_iff {x : Binary64} : x.isZero = true ↔ x.toRat? = some 0 := by
  cases x with
  | finite negative mantissa exponent =>
    rw [toRat?, Option.some.injEq]
    cases mantissa with
    | zero =>
      refine iff_of_true rfl ?_
      simp [magnitude_eq]
    | succ m =>
      have hpos := magnitude_pos m.succ_ne_zero exponent
      refine iff_of_false (by simp [isZero]) ?_
      split
      · exact neg_ne_zero.2 hpos.ne'
      · exact hpos.ne'
  | _ => simp [isZero, toRat?]

namespace Packed

/-- The value is the number, as an integer or not. -/
inductive IsNumber (n : Int) : Value → Prop
  /-- The integer itself. -/
  | int : IsNumber n (.int n)
  /-- A floating-point number that is worth as much. -/
  | float {x : Binary64} : x.toRat? = some (n : Rat) → IsNumber n (.float x)
  /-- A number of another kind that is worth as much. -/
  | foreign {o : Foreign} : o.number = some (n : Rat) → IsNumber n (.foreign o)

/-- The value is a text of some tokens with commas between them. -/
inductive StatesTokens {α : Type} (token : α → String) : Value → List α → Prop
  /-- At least one token has to be there. -/
  | text {as : List α} : as ≠ [] → StatesTokens token (.text (",".intercalate (as.map token))) as

/-- The value states a condition, or that there is none. -/
inductive StatesCondition : Value → Option Condition → Prop
  /-- The number zero states that there is none. -/
  | zero {v : Value} : IsNumber 0 v → StatesCondition v none
  /-- An object states what it stands for as a document. -/
  | document {entries : Entries} {c : Option Condition} :
    Condition.ofDocument (.object entries) = .ok c → StatesCondition (.object entries) c

/-- The value states a flag. -/
inductive StatesFlag : Value → Bool → Prop
  /-- As a truth value. -/
  | bool (b : Bool) : StatesFlag (.bool b) b
  /-- As the number zero. -/
  | zero {v : Value} : IsNumber 0 v → StatesFlag v false
  /-- As the number one. -/
  | one {v : Value} : IsNumber 1 v → StatesFlag v true

/-- The entry states the rule. -/
inductive States : Value → Rule → Prop
  /-- A rule that allows without a condition. -/
  | short {a s : Value} {actions : List Action} {subjects : List SubjectType} :
    StatesTokens Action.token a actions → StatesTokens SubjectType.token s subjects →
      States (.list [a, s]) { actions, subjects }
  /-- A rule that allows. -/
  | conditional {a s c : Value} {actions : List Action} {subjects : List SubjectType}
    {condition : Option Condition} :
    StatesTokens Action.token a actions → StatesTokens SubjectType.token s subjects →
      StatesCondition c condition → States (.list [a, s, c]) { actions, subjects, condition }
  /-- Any rule. -/
  | flagged {a s c i : Value} {actions : List Action} {subjects : List SubjectType}
    {condition : Option Condition} {inverted : Bool} :
    StatesTokens Action.token a actions → StatesTokens SubjectType.token s subjects →
      StatesCondition c condition → StatesFlag i inverted →
        States (.list [a, s, c, i]) { actions, subjects, condition, inverted }

/-! ## Numbers -/

theorem isNumber_int_iff {m n : Int} : IsNumber n (.int m) ↔ m = n := by
  constructor
  · rintro ⟨⟩
    rfl
  · rintro rfl
    exact .int

theorem isNumber_float_iff {x : Binary64} {n : Int} :
    IsNumber n (.float x) ↔ x.toRat? = some (n : Rat) := by
  constructor
  · rintro ⟨⟩
    assumption
  · exact .float

theorem isNumber_foreign_iff {o : Foreign} {n : Int} :
    IsNumber n (.foreign o) ↔ o.number = some (n : Rat) := by
  constructor
  · rintro ⟨⟩
    assumption
  · exact .foreign

/-- No value is two numbers. -/
theorem IsNumber.eq {m n : Int} {v : Value} (hm : IsNumber m v) (hn : IsNumber n v) : m = n := by
  cases hm with
  | int => exact isNumber_int_iff.1 hn
  | float hx => exact Int.cast_inj.1 (Option.some.inj (hx.symm.trans (isNumber_float_iff.1 hn)))
  | foreign ho =>
    exact Int.cast_inj.1 (Option.some.inj (ho.symm.trans (isNumber_foreign_iff.1 hn)))

theorem isZero_iff {v : Value} : isZero v = true ↔ IsNumber 0 v := by
  cases v with
  | int n => rw [isNumber_int_iff, isZero, decide_eq_true_iff]
  | float x => rw [isNumber_float_iff, isZero, Binary64.isZero_iff, Int.cast_zero]
  | foreign o => rw [isNumber_foreign_iff, isZero, decide_eq_true_iff, Int.cast_zero]
  | _ => exact iff_of_false (by simp [isZero]) (by rintro ⟨⟩)

theorem isWorth_iff {v : Value} {n : Int} : isWorth n v = true ↔ IsNumber n v := by
  cases v with
  | int m =>
    rw [isNumber_int_iff]
    simp [isWorth, Value.equals, Value.sameNumber, Value.toExtended?]
  | foreign o => rw [isNumber_foreign_iff, isWorth, decide_eq_true_iff]
  | float x =>
    rw [isNumber_float_iff]
    simp only [isWorth, Value.equals, Value.sameNumber, Value.toExtended?]
    cases x with
    | nan => simp [Binary64.toExtended?, Binary64.toRat?]
    | infinity negative => cases negative <;> simp [Binary64.toExtended?, Binary64.toRat?]
    | finite => simp [Binary64.toExtended?, Binary64.toRat?]
  | _ => exact iff_of_false (by simp [isWorth, Value.equals]) (by rintro ⟨⟩)

/-! ## Items -/

theorem splitFrom_ne_nil (current cs : List Char) : splitFrom current cs ≠ [] := by
  induction cs generalizing current with
  | nil => exact List.cons_ne_nil _ _
  | cons c rest ih =>
    rw [splitFrom]
    split
    · exact List.cons_ne_nil _ _
    · exact ih _

theorem intercalate_splitFrom (current cs : List Char) :
    ",".intercalate (splitFrom current cs) = String.ofList (current.reverse ++ cs) := by
  induction cs generalizing current with
  | nil => rw [splitFrom, String.intercalate_singleton, List.append_nil]
  | cons c rest ih =>
    rw [splitFrom]
    split
    · next hc =>
      obtain ⟨piece, pieces, hpieces⟩ := List.exists_cons_of_ne_nil (splitFrom_ne_nil [] rest)
      rw [hpieces, String.intercalate_cons_cons, ← hpieces, ih, hc]
      apply String.toList_inj.1
      simp
    · rw [ih, List.reverse_cons, List.append_assoc, List.singleton_append]

/-- With commas between its pieces a text is as before. -/
theorem intercalate_splitCommas (s : String) : ",".intercalate (splitCommas s) = s := by
  rw [splitCommas, intercalate_splitFrom, List.reverse_nil, List.nil_append, String.ofList_toList]

variable {v : Value}

/-- Tokens are read back only from a text of them. -/
theorem statesTokens_of_readTokens {α : Type} {token : α → String} {ofToken? : String → Option α}
    (hread : ∀ s a, ofToken? s = some a → s = token a) {part : Part} {as : List α}
    (h : readTokens ofToken? part v = .ok as) : StatesTokens token v as := by
  cases v with
  | text s =>
    rw [readTokens] at h
    split at h
    · cases h
    · split at h
      · next hmap =>
        cases h
        have hpieces : as.map token = splitCommas s :=
          (map_eq_map_of_mapM_eq_some hread hmap).symm.trans (List.map_id _)
        have hne : as ≠ [] := by
          rintro rfl
          exact splitFrom_ne_nil [] s.toList hpieces.symm
        rw [← intercalate_splitCommas s, ← hpieces]
        exact .text hne
      · cases h
  | _ => cases h

theorem readActions_eq_ok_iff {actions : List Action} :
    readTokens Action.ofToken? .action v = .ok actions ↔ StatesTokens Action.token v actions := by
  have hread (s : String) (a : Action) (h : Action.ofToken? s = some a) : s = a.token :=
    eq_token_of_find? h
  refine ⟨statesTokens_of_readTokens hread, ?_⟩
  rintro ⟨hne⟩
  rw [readTokens_actions, if_neg (by simpa using hne)]

theorem readSubjects_eq_ok_iff {subjects : List SubjectType} :
    readTokens SubjectType.ofToken? .subject v = .ok subjects ↔
      StatesTokens SubjectType.token v subjects := by
  have hread (s : String) (t : SubjectType) (h : SubjectType.ofToken? s = some t) : s = t.token :=
    eq_token_of_find? h
  refine ⟨statesTokens_of_readTokens hread, ?_⟩
  rintro ⟨hne⟩
  rw [readTokens_subjects, if_neg (by simpa using hne)]

theorem readCondition_eq_ok_iff {condition : Option Condition} :
    readCondition v = .ok condition ↔ StatesCondition v condition := by
  rw [readCondition]
  split
  · next hzero =>
    constructor
    · rintro ⟨⟩
      exact .zero (isZero_iff.1 hzero)
    · rintro (_ | _)
      · rfl
      · cases hzero
  · next hzero =>
    constructor
    · intro h
      cases v with
      | object entries => exact .document (mapError_eq_ok_iff.1 h)
      | _ => cases h
    · rintro (hnumber | hdocument)
      · exact absurd (isZero_iff.2 hnumber) hzero
      · exact mapError_eq_ok_iff.2 hdocument

theorem readFlag_eq_ok_iff {inverted : Bool} :
    readFlag v = .ok inverted ↔ StatesFlag v inverted := by
  constructor
  · intro h
    rw [readFlag.eq_def] at h
    split at h
    · cases h
      exact .bool _
    · split at h
      · next hzero =>
        cases h
        exact .zero (isWorth_iff.1 hzero)
      · split at h
        · next hone =>
          cases h
          exact .one (isWorth_iff.1 hone)
        · cases h
  · rintro (_ | hzero | hone)
    · rfl
    · have hbool : ∀ b, v ≠ .bool b := by rintro b rfl; cases hzero
      rw [readFlag, if_pos (isWorth_iff.2 hzero)]
      exact hbool
    · have hbool : ∀ b, v ≠ .bool b := by rintro b rfl; cases hone
      have hzero : isWorth 0 v = false := by
        rw [Bool.eq_false_iff, Ne, isWorth_iff]
        exact fun hzero => Int.zero_ne_one (hzero.eq hone)
      rw [readFlag, hzero, if_neg Bool.false_ne_true, if_pos (isWorth_iff.2 hone)]
      exact hbool

/-! ## Entries -/

theorem readEntry_eq_ok_iff {a s c i : Value} {r : Rule} :
    readEntry a s c i = .ok r ↔
      StatesTokens Action.token a r.actions ∧ StatesTokens SubjectType.token s r.subjects ∧
        StatesCondition c r.condition ∧ StatesFlag i r.inverted := by
  rw [← readActions_eq_ok_iff, ← readSubjects_eq_ok_iff, ← readCondition_eq_ok_iff,
    ← readFlag_eq_ok_iff, readEntry]
  constructor
  · intro h
    obtain ⟨actions, hactions, h⟩ := exists_of_bind_eq_ok h
    obtain ⟨subjects, hsubjects, h⟩ := exists_of_bind_eq_ok h
    obtain ⟨condition, hcondition, h⟩ := exists_of_bind_eq_ok h
    obtain ⟨inverted, hinverted, h⟩ := exists_of_bind_eq_ok h
    cases h
    exact ⟨hactions, hsubjects, hcondition, hinverted⟩
  · rintro ⟨hactions, hsubjects, hcondition, hinverted⟩
    rw [hactions, hsubjects, hcondition, hinverted]
    rfl

theorem statesCondition_zero_iff {condition : Option Condition} :
    StatesCondition (.int 0) condition ↔ condition = none := by
  rw [← readCondition_eq_ok_iff]
  exact ⟨fun h => (Except.ok.inj h).symm, fun h => h ▸ rfl⟩

theorem statesFlag_zero_iff {inverted : Bool} :
    StatesFlag (.int 0) inverted ↔ inverted = false := by
  rw [← readFlag_eq_ok_iff]
  exact ⟨fun h => (Except.ok.inj h).symm, fun h => h ▸ rfl⟩

/-- An entry is read as the rule that it states. -/
theorem unpackRule_eq_ok_iff {r : Rule} : unpackRule v = .ok r ↔ States v r := by
  obtain ⟨actions, subjects, condition, inverted⟩ := r
  constructor
  · intro h
    rw [unpackRule.eq_def] at h
    split at h
    · obtain ⟨ha, hs, hc, hi⟩ := readEntry_eq_ok_iff.1 h
      obtain rfl := statesCondition_zero_iff.1 hc
      obtain rfl := statesFlag_zero_iff.1 hi
      exact .short ha hs
    · obtain ⟨ha, hs, hc, hi⟩ := readEntry_eq_ok_iff.1 h
      obtain rfl := statesFlag_zero_iff.1 hi
      exact .conditional ha hs hc
    · obtain ⟨ha, hs, hc, hi⟩ := readEntry_eq_ok_iff.1 h
      exact .flagged ha hs hc hi
    · cases h
  · intro h
    cases h with
    | short ha hs =>
      exact readEntry_eq_ok_iff.2
        ⟨ha, hs, statesCondition_zero_iff.2 rfl, statesFlag_zero_iff.2 rfl⟩
    | conditional ha hs hc =>
      exact readEntry_eq_ok_iff.2 ⟨ha, hs, hc, statesFlag_zero_iff.2 rfl⟩
    | flagged ha hs hc hi => exact readEntry_eq_ok_iff.2 ⟨ha, hs, hc, hi⟩

/-! ## Forms -/

/-- Entries that state a rule each state a list of rules. -/
theorem exists_forall₂_states_iff {entries : List Value} :
    (∃ rules, List.Forall₂ States entries rules) ↔ ∀ entry ∈ entries, ∃ r, States entry r := by
  induction entries with
  | nil => exact iff_of_true ⟨[], .nil⟩ (List.forall_mem_nil _)
  | cons entry rest ih =>
    rw [List.forall_mem_cons, ← ih]
    constructor
    · rintro ⟨_, hr | ⟨hr, hrest⟩⟩
      exact ⟨⟨_, hr⟩, _, hrest⟩
    · rintro ⟨⟨r, hr⟩, rules, hrules⟩
      exact ⟨r :: rules, .cons hr hrules⟩

/-- Entries are read as the rules that they state, one by one. -/
theorem unpackFrom_eq_ok_iff {entries : List Value} {rules : RuleSet} (index : Nat) :
    unpackFrom index entries = .ok rules ↔ List.Forall₂ States entries rules := by
  induction entries generalizing index rules with
  | nil => simp [unpackFrom, eq_comm]
  | cons entry rest ih =>
    rw [unpackFrom, List.forall₂_cons_left_iff]
    constructor
    · intro h
      obtain ⟨r, hr, h⟩ := exists_of_bind_eq_ok h
      obtain ⟨others, hothers, h⟩ := exists_of_bind_eq_ok h
      cases h
      exact ⟨r, others, unpackRule_eq_ok_iff.1 (mapError_eq_ok_iff.1 hr),
        (ih (index + 1)).1 hothers, rfl⟩
    · rintro ⟨r, others, hr, hothers, rfl⟩
      rw [unpackRule_eq_ok_iff.2 hr, (ih (index + 1)).2 hothers]
      rfl

/-- The first entry that states no rule is the one that is complained about. -/
theorem exists_of_unpackFrom_eq_error {entries : List Value} {index : Nat} {fault : Fault}
    (h : unpackFrom index entries = .error fault) :
    ∃ before entry after wrong, entries = before ++ entry :: after ∧
      (∀ v ∈ before, ∃ r, States v r) ∧ (∀ r, ¬States entry r) ∧
        fault = .entry (index + before.length) wrong := by
  induction entries generalizing index with
  | nil => cases h
  | cons entry rest ih =>
    rw [unpackFrom] at h
    cases hentry : unpackRule entry with
    | error wrong =>
      rw [hentry] at h
      cases h
      refine ⟨[], entry, rest, wrong, rfl, List.forall_mem_nil _, fun r hr => ?_, rfl⟩
      rw [unpackRule_eq_ok_iff.2 hr] at hentry
      cases hentry
    | ok r =>
      rw [hentry] at h
      cases hrest : unpackFrom (index + 1) rest with
      | ok others =>
        rw [hrest] at h
        cases h
      | error fault =>
        rw [hrest] at h
        cases h
        obtain ⟨before, bad, after, wrong, rfl, hbefore, hbad, rfl⟩ := ih hrest
        refine ⟨entry :: before, bad, after, wrong, rfl, ?_, hbad, ?_⟩
        · exact List.forall_mem_cons.2 ⟨⟨r, unpackRule_eq_ok_iff.1 hentry⟩, hbefore⟩
        · rw [List.length_cons, Nat.add_assoc, Nat.add_comm 1]

/-- Every complaint about an entry says where it is. -/
theorem details_entry_index (index : Nat) (wrong : EntryFault) :
    (Fault.entry index wrong).details.field? "index" = some (.int index) := by
  cases wrong <;> rfl

/-- A value is unpacked exactly if it is a list of entries that state rules, and then as these rules
    in this order. What is refused is no list, or its first entry that states no rule is named. -/
theorem unpack_iff (v : Value) :
    ((∃ rules, unpack v = .ok rules) ↔
      ∃ entries, v = .list entries ∧ ∀ entry ∈ entries, ∃ r, States entry r) ∧
    (∀ rules, unpack v = .ok rules ↔ ∃ entries, v = .list entries ∧
      List.Forall₂ States entries rules) ∧
    ∀ fault, unpack v = .error fault → ∀ entries, v = .list entries →
      ∃ before entry after, entries = before ++ entry :: after ∧
        (∀ e ∈ before, ∃ r, States e r) ∧ (∀ r, ¬States entry r) ∧
          fault.details.field? "index" = some (.int before.length) := by
  have hrules (rules : RuleSet) : unpack v = .ok rules ↔ ∃ entries, v = .list entries ∧
      List.Forall₂ States entries rules := by
    cases v with
    | list entries =>
      rw [unpack, unpackFrom_eq_ok_iff]
      simp
    | _ => simp [unpack]
  refine ⟨?_, hrules, ?_⟩
  · simp only [hrules, ← exists_forall₂_states_iff]
    rw [exists_comm]
    simp only [exists_and_left]
  · rintro fault h entries rfl
    obtain ⟨before, entry, after, wrong, rfl, hbefore, hentry, rfl⟩ :=
      exists_of_unpackFrom_eq_error h
    refine ⟨before, entry, after, rfl, hbefore, hentry, ?_⟩
    rw [Nat.zero_add]
    exact details_entry_index _ wrong

end Packed

end HouseholdAccess
