import HouseholdAccess.Proofs.Condition.Written
import HouseholdAccess.Proofs.Rule.Decision
import HouseholdAccess.Rule.Packed

/-!
# Rule sets that are packed and unpacked

A rule whose condition has been read from a document (`Rule.IsRead`, `Rule.IsPlain`)
is unpacked from its packed form with the same tokens and flag, and with its
condition read again (`Rule.reread`, `Packed.unpackRule_packRule`); only a rule
without actions, or without types of subject, has a packed form that is refused.

For rule sets:

* `Packed.unpack_pack` says what comes out, `Packed.exists_unpack_pack_eq_error` what
  is refused;
* `Packed.evaluate_unpack_pack` compares the answers before and after. No question
  has two different ones, but the order in which tests are looked at changes with
  the form, so that a question may have an answer on one side and meet a test that
  cannot be decided on the other. Where all tests can be decided both sides answer.
-/

namespace HouseholdAccess

/-- The condition of the rule, if any, has been read from a document. -/
def Rule.IsRead (r : Rule) : Prop :=
  ∃ document, Condition.ofDocument document = .ok r.condition

/-- The rule with its condition read again. -/
def Rule.reread (r : Rule) : Rule := { r with condition := r.condition.map Condition.reread }

/-- The rule is about no action, or about no type of subject. -/
def Rule.IsVoid (r : Rule) : Prop := r.actions = [] ∨ r.subjects = []

/-- No path in the condition, if any, starts like an operator, and it constrains something. -/
def Rule.IsPlain (r : Rule) : Prop := ∀ c, r.condition = some c → c.IsPlain ∧ c ≠ .all []

theorem Rule.IsRead.isPlain {r : Rule} (h : r.IsRead) : r.IsPlain := by
  intro c hc
  obtain ⟨document, hdocument⟩ := h
  rw [hc] at hdocument
  exact Condition.isPlain_of_ofDocument hdocument

namespace Packed

/-! ## Tokens -/

theorem splitFrom_append (current : List Char) {piece : List Char} (h : ',' ∉ piece)
    (rest : List Char) :
    splitFrom current (piece ++ rest) = splitFrom (piece.reverse ++ current) rest := by
  induction piece generalizing current with
  | nil => rfl
  | cons c piece ih =>
    rw [List.mem_cons, not_or] at h
    rw [List.cons_append, splitFrom, if_neg (Ne.symm h.1), ih _ h.2, List.reverse_cons,
      List.append_assoc, List.singleton_append]

/-- Texts without commas are what is between the commas. -/
theorem splitCommas_intercalate {tokens : List String} (hne : tokens ≠ [])
    (h : ∀ token ∈ tokens, ',' ∉ token.toList) :
    splitCommas (",".intercalate tokens) = tokens := by
  induction tokens with
  | nil => exact absurd rfl hne
  | cons token rest ih =>
    have htoken := h token List.mem_cons_self
    rw [splitCommas]
    cases rest with
    | nil =>
      rw [String.intercalate_singleton, ← List.append_nil token.toList, splitFrom_append [] htoken]
      simp [splitFrom]
    | cons next rest =>
      have hrest := ih (List.cons_ne_nil next rest) fun t ht => h t (List.mem_cons_of_mem token ht)
      have hcomma : ",".toList = [','] := rfl
      rw [String.intercalate_cons_cons, String.toList_append, String.toList_append,
        List.append_assoc, splitFrom_append [] htoken, hcomma, List.singleton_append, splitFrom,
        if_pos rfl, ← splitCommas, hrest]
      simp

variable {α : Type} {token : α → String} {ofToken? : String → Option α}

/-- Tokens are read as what they stand for, unless there are none. -/
theorem readTokens_intercalate (part : Part) (hread : ∀ a, ofToken? (token a) = some a)
    (hne : ∀ a, token a ≠ "") (hcomma : ∀ a, ',' ∉ (token a).toList) (as : List α) :
    readTokens ofToken? part (.text (",".intercalate (as.map token))) =
      if as.isEmpty then .error (.noTokens part) else .ok as := by
  rw [readTokens]
  cases as with
  | nil => rfl
  | cons a rest =>
    have hsplit : splitCommas (",".intercalate ((a :: rest).map token)) = (a :: rest).map token :=
      splitCommas_intercalate (by simp) (by simpa using ⟨hcomma a, fun b _ => hcomma b⟩)
    have hmap : ((a :: rest).map token).mapM ofToken? = some (a :: rest) := by
      have hpure : ofToken? ∘ token = fun a => pure (id a) := funext hread
      rw [List.mapM_map, hpure, List.mapM_pure, List.map_id]
      rfl
    have hempty : (",".intercalate ((a :: rest).map token)).isEmpty = false := by
      rw [Bool.eq_false_iff]
      intro hempty
      rw [String.isEmpty_iff.1 hempty] at hsplit
      exact hne a (List.cons.inj hsplit).1.symm
    rw [hempty, hsplit, hmap]
    rfl

theorem readTokens_actions (actions : List Action) :
    readTokens Action.ofToken? .action (.text (",".intercalate (actions.map Action.token))) =
      if actions.isEmpty then .error (.noTokens .action) else .ok actions :=
  readTokens_intercalate .action Action.ofToken?_token (fun a => by cases a <;> decide)
    (fun a => by cases a <;> decide) actions

theorem readTokens_subjects (subjects : List SubjectType) :
    readTokens SubjectType.ofToken? .subject
        (.text (",".intercalate (subjects.map SubjectType.token))) =
      if subjects.isEmpty then .error (.noTokens .subject) else .ok subjects :=
  readTokens_intercalate .subject SubjectType.ofToken?_token (fun t => by cases t <;> decide)
    (fun t => by cases t <;> decide) subjects

/-! ## Rules -/

/-- The item of a condition is an object unless there is no condition, and is read again. -/
theorem packCondition_some {c : Condition} (hplain : c.IsPlain) (hne : c ≠ .all []) :
    packCondition (some c) = c.toDocument ∧ c.toDocument.isObject = true := by
  obtain ⟨entries, cs, hdocument, hread, hreread⟩ :=
    Condition.exists_readEntries_toDocument c hplain
  have hentries : entries ≠ [] := by
    rintro rfl
    cases hread
    exact Condition.reread_ne_all_nil hne hreread.symm
  have htruthy : c.toDocument.isTruthy = true := by
    rw [hdocument, Value.isTruthy, Bool.not_eq_true', List.isEmpty_eq_false_iff]
    exact hentries
  exact ⟨by rw [packCondition, if_pos htruthy], by rw [hdocument, Value.isObject]⟩

theorem isZero_of_isObject {v : Value} (h : v.isObject = true) : isZero v = false := by
  cases v <;> first | rfl | cases h

theorem readCondition_packCondition {condition : Option Condition}
    (h : ∀ c, condition = some c → c.IsPlain ∧ c ≠ .all []) :
    readCondition (packCondition condition) = .ok (condition.map Condition.reread) := by
  cases condition with
  | none => rfl
  | some c =>
    obtain ⟨hplain, hne⟩ := h c rfl
    obtain ⟨hpack, hobject⟩ := packCondition_some hplain hne
    rw [hpack, readCondition, isZero_of_isObject hobject, hobject,
      Condition.ofDocument_toDocument hplain hne]
    rfl

/-- The items that are left out are read as what they were. -/
theorem unpackRule_trim (actions subjects : Value) {condition : Option Condition}
    (h : ∀ c, condition = some c → c.IsPlain ∧ c ≠ .all []) (inverted : Bool) :
    unpackRule (.list (actions :: subjects ::
        trim [packCondition condition, .int (if inverted then 1 else 0)])) =
      readEntry actions subjects (packCondition condition) (.int (if inverted then 1 else 0)) := by
  cases inverted with
  | true => rfl
  | false =>
    cases condition with
    | none => rfl
    | some c =>
      obtain ⟨hplain, hne⟩ := h c rfl
      obtain ⟨hpack, hobject⟩ := packCondition_some hplain hne
      rw [hpack]
      have hzero : isZero c.toDocument = false := isZero_of_isObject hobject
      have htrim : trim [c.toDocument, .int 0] = [c.toDocument] := by
        have hint : isZero (.int 0) = true := rfl
        simp [trim, hint, hzero]
      simp [htrim, unpackRule]

theorem readFlag_int (inverted : Bool) :
    readFlag (.int (if inverted then 1 else 0)) = .ok inverted := by
  cases inverted <;> rfl

/-- A rule is unpacked with its condition read again, unless it is void. -/
theorem unpackRule_packRule {r : Rule} (h : r.IsPlain) :
    (¬r.IsVoid → unpackRule (packRule r) = .ok r.reread) ∧
      (r.IsVoid → ∃ fault, unpackRule (packRule r) = .error fault) := by
  rw [packRule, unpackRule_trim _ _ h, readEntry, readTokens_actions, readTokens_subjects,
    readCondition_packCondition h, readFlag_int]
  rcases r with ⟨_ | ⟨a, actions⟩, _ | ⟨t, subjects⟩, condition, inverted⟩
  · exact ⟨fun hvoid => absurd (.inl rfl) hvoid, fun _ => ⟨_, rfl⟩⟩
  · exact ⟨fun hvoid => absurd (.inl rfl) hvoid, fun _ => ⟨_, rfl⟩⟩
  · exact ⟨fun hvoid => absurd (.inr rfl) hvoid, fun _ => ⟨_, rfl⟩⟩
  · exact ⟨fun _ => rfl, fun hvoid => by simp [Rule.IsVoid] at hvoid⟩

/-! ## Rule sets -/

/-- What comes out of the entries of rules that are not void. -/
theorem unpackFrom_map_packRule {rules : RuleSet} (h : ∀ r ∈ rules, r.IsPlain)
    (hvoid : ∀ r ∈ rules, ¬r.IsVoid) (index : Nat) :
    unpackFrom index (rules.map packRule) = .ok (rules.map Rule.reread) := by
  induction rules generalizing index with
  | nil => rfl
  | cons r rest ih =>
    rw [List.forall_mem_cons] at h hvoid
    rw [List.map_cons, unpackFrom, (unpackRule_packRule h.1).1 hvoid.1, ih h.2 hvoid.2]
    rfl

/-- The entry of a void rule is refused. -/
theorem exists_unpackFrom_eq_error {rules : RuleSet} (h : ∀ r ∈ rules, r.IsPlain)
    (hvoid : ∃ r ∈ rules, r.IsVoid) (index : Nat) :
    ∃ fault, unpackFrom index (rules.map packRule) = .error fault := by
  induction rules generalizing index with
  | nil =>
    obtain ⟨r, hr, -⟩ := hvoid
    cases hr
  | cons r rest ih =>
    rw [List.forall_mem_cons] at h
    rw [List.map_cons, unpackFrom]
    by_cases hr : r.IsVoid
    · obtain ⟨fault, hfault⟩ := (unpackRule_packRule h.1).2 hr
      exact ⟨.entry index fault, by rw [hfault]; rfl⟩
    · have hrest : ∃ s ∈ rest, s.IsVoid := by
        obtain ⟨s, hs, hsvoid⟩ := hvoid
        rcases List.mem_cons.1 hs with rfl | hs
        · exact absurd hsvoid hr
        · exact ⟨s, hs, hsvoid⟩
      obtain ⟨fault, hfault⟩ := ih h.2 hrest (index + 1)
      exact ⟨fault, by rw [(unpackRule_packRule h.1).1 hr, hfault]; rfl⟩

/-- A rule set without void rules is unpacked with its conditions read again. -/
theorem unpack_pack {rules : RuleSet} (h : ∀ r ∈ rules, r.IsPlain)
    (hvoid : ∀ r ∈ rules, ¬r.IsVoid) : unpack (pack rules) = .ok (rules.map Rule.reread) :=
  unpackFrom_map_packRule h hvoid 0

/-- A packed form is refused exactly for a void rule. -/
theorem exists_unpack_pack_eq_error {rules : RuleSet} (h : ∀ r ∈ rules, r.IsPlain) :
    (∃ fault, unpack (pack rules) = .error fault) ↔ ∃ r ∈ rules, r.IsVoid := by
  constructor
  · rintro ⟨fault, hfault⟩
    by_contra hvoid
    push Not at hvoid
    rw [unpack_pack h hvoid] at hfault
    cases hfault
  · exact fun hvoid => exists_unpackFrom_eq_error h hvoid 0

end Packed

/-! ## Answers -/

/-- Every test in the condition of a rule can be decided on the subject, if there is one. -/
def RuleSet.DecidedOn (rules : RuleSet) (subject : Option Value) : Prop :=
  ∀ r ∈ rules, ∀ c, r.condition = some c → ∀ v, subject = some v → c.DecidedOn v

theorem RuleSet.DecidedOn.exists_matches {rules : RuleSet} {subject : Option Value}
    (h : rules.DecidedOn subject) {r : Rule} (hr : r ∈ rules) : ∃ b, r.matches subject = .ok b := by
  cases subject with
  | none => exact ⟨_, rfl⟩
  | some v =>
    rw [Rule.matches, Rule.admits]
    cases hc : r.condition with
    | none => exact ⟨true, rfl⟩
    | some c => exact (h r hr c hc v rfl).exists_meets

theorem RuleSet.DecidedOn.map_reread {rules : RuleSet} {subject : Option Value}
    (h : rules.DecidedOn subject) : RuleSet.DecidedOn (rules.map Rule.reread) subject := by
  intro s hs d hd v hv t ht
  obtain ⟨r, hr, rfl⟩ := List.mem_map.1 hs
  obtain ⟨c, hc, rfl⟩ := Option.map_eq_some_iff.1 hd
  exact h r hr c hc v hv t ((Condition.mem_reread_tests c).1 ht)

/-- A rule and the one that is read again never match differently. -/
theorem Rule.matches_reread {r : Rule} {subject : Option Value} {b b' : Bool}
    (hr : r.matches subject = .ok b) (hreread : r.reread.matches subject = .ok b') : b = b' := by
  cases subject with
  | none =>
    cases hr
    cases hreread
    cases hc : r.condition <;> simp [Rule.reread, hc]
  | some v =>
    rw [Rule.matches, Rule.admits] at hr hreread
    rw [Rule.reread] at hreread
    cases hc : r.condition with
    | none =>
      rw [hc] at hr hreread
      cases hr
      cases hreread
      rfl
    | some c =>
      rw [hc] at hr hreread
      exact Condition.meets_agree (fun answer => (Condition.reread_truth answer c).symm) hr hreread

theorem RuleSet.DecidedOn.exists_evaluate {rules : RuleSet} {subject : Option Value}
    (h : rules.DecidedOn subject) (action : Action) (type : SubjectType) :
    ∃ v, rules.evaluate action type subject = .ok v := by
  rw [evaluate_eq_decideFrom]
  exact Decided.exists_decideFrom (fun r hr _ => h.exists_matches hr) 0 .default

/-- No question has different answers before and after conditions are read again. -/
theorem RuleSet.evaluate_map_reread {rules : RuleSet} {action : Action} {type : SubjectType}
    {subject : Option Value} {v v' : Verdict} (hv : rules.evaluate action type subject = .ok v)
    (hv' : RuleSet.evaluate (rules.map Rule.reread) action type subject = .ok v') : v = v' := by
  rw [evaluate_eq_decideFrom] at hv hv'
  refine decideFrom_agree ?_ hv hv'
  rw [List.forall₂_map_right_iff, List.forall₂_same]
  exact fun r _ => ⟨rfl, rfl, fun b b' hr hreread => Rule.matches_reread hr hreread⟩

/-- Exactly the void rules keep a rule set that was read from documents from being unpacked. What is
    unpacked has as many rules, and no question has different answers; where all tests can be
    decided, every question has the same answer. -/
theorem Packed.evaluate_unpack_pack {rules : RuleSet} (h : ∀ r ∈ rules, r.IsRead) :
    ((∃ fault, unpack (pack rules) = .error fault) ↔ ∃ r ∈ rules, r.IsVoid) ∧
      ∀ others, unpack (pack rules) = .ok others →
        others.length = rules.length ∧
          ∀ (action : Action) (type : SubjectType) (subject : Option Value),
            (∀ v v', rules.evaluate action type subject = .ok v →
              others.evaluate action type subject = .ok v' → v = v') ∧
            (rules.DecidedOn subject → ∃ v, rules.evaluate action type subject = .ok v ∧
              others.evaluate action type subject = .ok v) := by
  have hplain : ∀ r ∈ rules, r.IsPlain := fun r hr => (h r hr).isPlain
  refine ⟨exists_unpack_pack_eq_error hplain, fun others hothers => ?_⟩
  have hvoid : ∀ r ∈ rules, ¬r.IsVoid := by
    intro r hr hrvoid
    obtain ⟨fault, hfault⟩ := (exists_unpack_pack_eq_error hplain).2 ⟨r, hr, hrvoid⟩
    rw [hothers] at hfault
    cases hfault
  rw [unpack_pack hplain hvoid] at hothers
  cases hothers
  refine ⟨List.length_map _, fun action type subject => ⟨?_, fun hdecided => ?_⟩⟩
  · exact fun v v' hv hv' => RuleSet.evaluate_map_reread hv hv'
  · obtain ⟨v, hv⟩ := hdecided.exists_evaluate action type
    obtain ⟨v', hv'⟩ := hdecided.map_reread.exists_evaluate action type
    exact ⟨v, hv, RuleSet.evaluate_map_reread hv hv' ▸ hv'⟩

/-! ## A rule with a pattern that is not usable -/

/-- A document that looks at `x` before and after it looks at `y`. -/
def betweenDocument : Value :=
  .record [("$and", .list [.record [("x", .text "a")], .record [("y", .int 2)],
    .record [("x", .record [("$regex", .text "(?a)(?u)")])]])]

/-- The condition that the document stands for. It is written with both tests on `x` before the one
    on `y`. -/
def betweenCondition : Condition :=
  .all [.field "x" .eq (.text "a"), .field "y" .eq (.int 2), .field "x" .regex (.text "(?a)(?u)")]

/-- One rule under this condition. -/
def betweenRules : RuleSet := [.can [.read] [.user] (some betweenCondition)]

/-- A subject on which the test on `y` fails, and the last one cannot be decided. -/
def undecidedSubject : Value := .record [("x", .text "a"), ("y", .int 3)]

/-- A subject whose `x` is no text, so that its pattern is not looked at. -/
def decidedSubject : Value := .record [("x", .int 1), ("y", .int 2)]

theorem betweenRules_isRead : ∀ r ∈ betweenRules, r.IsRead := by
  intro r hr
  rw [betweenRules, List.mem_singleton] at hr
  subst hr
  exact ⟨betweenDocument, rfl⟩

theorem betweenRules_decidedOn : betweenRules.DecidedOn (some decidedSubject) := by
  intro r hr c hc v hv t ht
  rw [betweenRules, List.mem_singleton] at hr
  subst hr
  cases hc
  cases hv
  simp only [betweenCondition, Condition.tests, Condition.testsOf, List.cons_append,
    List.nil_append, List.mem_cons, List.not_mem_nil, or_false] at ht
  rcases ht with rfl | rfl | rfl
  · exact ⟨false, rfl⟩
  · exact ⟨true, rfl⟩
  · exact ⟨false, rfl⟩

/-- Where the pattern is not looked at, the rule set says the same before and after. -/
theorem Packed.evaluate_unpack_pack_between :
    (∀ r ∈ betweenRules, r.IsRead) ∧ betweenRules.DecidedOn (some decidedSubject) ∧
      ∃ others, unpack (pack betweenRules) = .ok others ∧ others.length = 1 ∧
        ∃ v, betweenRules.evaluate .read .user (some decidedSubject) = .ok v ∧
          others.evaluate .read .user (some decidedSubject) = .ok v := by
  obtain ⟨-, hothers⟩ := Packed.evaluate_unpack_pack betweenRules_isRead
  obtain ⟨hlength, hanswers⟩ := hothers (betweenRules.map Rule.reread) rfl
  exact ⟨betweenRules_isRead, betweenRules_decidedOn, _, rfl, hlength,
    (hanswers .read .user (some decidedSubject)).2 betweenRules_decidedOn⟩

/-- A question has met a pattern with options that exclude each other. -/
def meetsIncompatible : Except Condition.Trouble Verdict → Bool
  | .error (.pattern .incompatibleOptions) => true
  | _ => false

theorem eq_of_meetsIncompatible :
    ∀ {x : Except Condition.Trouble Verdict}, meetsIncompatible x = true →
      x = .error (.pattern .incompatibleOptions)
  | .error (.pattern .incompatibleOptions), _ => rfl

/-- Where it is looked at, the rule set says no before, and fails after. -/
theorem Packed.exists_evaluate_unpack_pack_ne :
    (∀ r ∈ betweenRules, r.IsRead) ∧
      ∃ others, unpack (pack betweenRules) = .ok others ∧
        betweenRules.evaluate .read .user (some undecidedSubject) = .ok .default ∧
        others.evaluate .read .user (some undecidedSubject) =
          .error (.pattern .incompatibleOptions) :=
  ⟨betweenRules_isRead, betweenRules.map Rule.reread, rfl, rfl,
    eq_of_meetsIncompatible (by decide +kernel)⟩

end HouseholdAccess
