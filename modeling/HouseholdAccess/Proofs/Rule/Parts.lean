import HouseholdAccess.Proofs.Rule.Possible

/-!
# Rule sets in parts

The last rule that matches decides, so that a rule set can be asked part by part. What a
part says is the verdict of its own rules, or, if none of them matches, that of the rules
before it (`Verdict.behind`, `RuleSet.evaluate_append`). A rule that does not match may
therefore stand anywhere (`RuleSet.can_insert`).

Rules that remember positions are asked one question after the other
(`IndexedRules.replies`). Each reply is the one that rules give that remember nothing
(`IndexedRules.replies_eq_map`), so that in this, too, nothing hangs on what was asked
before.
-/

namespace HouseholdAccess

/-- The verdict of rules that stand behind `count` others, which come to `earlier`: their own if one
    of them matches, and otherwise the earlier one. -/
def Verdict.behind (v : Verdict) (count : Nat) (earlier : Verdict) : Verdict :=
  match v.matched with
  | none => earlier
  | some i => ⟨v.allowed, some (count + i)⟩

theorem Verdict.behind_behind (v middle earlier : Verdict) (count more : Nat) :
    v.behind (count + more) (middle.behind count earlier) =
      (v.behind more middle).behind count earlier := by
  cases h : v.matched with
  | none => simp [behind, h]
  | some i => simp [behind, h, Nat.add_assoc]

/-- A place between the parts shows only in where the rule that decides stands. -/
theorem Verdict.allowed_behind_behind_default (v earlier : Verdict) (count more : Nat) :
    ((v.behind more .default).behind count earlier).allowed = (v.behind count earlier).allowed := by
  cases h : v.matched with
  | none => simp [behind, h, Verdict.default]
  | some i => simp [behind, h]

namespace RuleSet

variable {action : Action} {type : SubjectType} {subject : Option Value}

/-- Rules behind others are gone through with the verdict of those. -/
theorem decideFrom_append (i : Nat) (rules others : List Rule) (verdict : Verdict) :
    decideFrom action type subject i (rules ++ others) verdict =
      decideFrom action type subject i rules verdict >>= fun v =>
        decideFrom action type subject (i + rules.length) others v := by
  induction rules generalizing i verdict with
  | nil => rfl
  | cons r rest ih =>
    have hlength : i + (r :: rest).length = i + 1 + rest.length := by
      rw [List.length_cons]
      omega
    rw [List.cons_append, decideFrom, decideFrom, hlength]
    split
    · rw [bind_assoc]
      refine bind_congr fun b => ?_
      split
      · exact ih (i + 1) _
      · exact ih (i + 1) _
    · exact ih (i + 1) verdict

/-- Where rules stand, and with which verdict they are gone through, shows only in where the rule
    that decides stands, and in the verdict if none does. -/
theorem decideFrom_eq_map (i : Nat) (rules : List Rule) (verdict : Verdict) :
    decideFrom action type subject i rules verdict =
      (decideFrom action type subject 0 rules .default).map (·.behind i verdict) := by
  induction rules generalizing i verdict with
  | nil => rfl
  | cons r rest ih =>
    -- The rest stands one place behind the rule, in either run.
    have hrest (v : Verdict) : decideFrom action type subject (i + 1) rest (v.behind i verdict) =
        (decideFrom action type subject 1 rest v).map (·.behind i verdict) := by
      rw [ih (i + 1), ih 1 v]
      cases decideFrom action type subject 0 rest .default with
      | error e => rfl
      | ok w => exact congrArg Except.ok (w.behind_behind v verdict i 1)
    rw [decideFrom, decideFrom]
    split
    · cases r.matches subject with
      | error e => rfl
      | ok b =>
        cases b
        · exact hrest .default
        · exact hrest ⟨!r.inverted, some 0⟩
    · exact hrest .default

/-- The parts of a rule set are asked on their own. -/
theorem evaluate_append (rules others : RuleSet) :
    (rules ++ others).evaluate action type subject =
      rules.evaluate action type subject >>= fun v =>
        (others.evaluate action type subject).map (·.behind rules.length v) := by
  simp only [evaluate_eq_decideFrom]
  rw [decideFrom_append, Nat.zero_add]
  exact bind_congr fun v => decideFrom_eq_map rules.length others v

/-- A rule that does not match may stand anywhere. -/
theorem can_insert {r : Rule}
    (hr : r.appliesTo action type = true → r.matches subject = .ok false) (rules others : RuleSet) :
    (rules ++ r :: others).can action type subject = (rules ++ others).can action type subject := by
  have hcons : RuleSet.evaluate (r :: others) action type subject =
      (others.evaluate action type subject).map (·.behind 1 .default) := by
    rw [evaluate_eq_decideFrom, decideFrom_cons 0 r others .default hr, Bool.and_false,
      if_neg Bool.false_ne_true, decideFrom_eq_map, evaluate_eq_decideFrom]
  rw [can, can, evaluate_append, evaluate_append, hcons]
  cases rules.evaluate action type subject with
  | error e => rfl
  | ok v =>
    cases others.evaluate action type subject with
    | error e => rfl
    | ok w => exact congrArg Except.ok (w.allowed_behind_behind_default v rules.length 1)

theorem Decided.exists_evaluate {rules : RuleSet} (h : Decided action type subject rules) :
    ∃ v, rules.evaluate action type subject = .ok v := by
  rw [evaluate_eq_decideFrom]
  exact h.exists_decideFrom 0 .default

/-! ## One query after the other -/

/-- What a rule set is asked about an action on a type of subject. -/
inductive Query
  /-- The verdict, on a subject if one is given. -/
  | evaluate (action : Action) (type : SubjectType) (subject : Option Value)
  /-- Whether the answer is yes. -/
  | can (action : Action) (type : SubjectType) (subject : Option Value)
  /-- Whether the answer is no. -/
  | cannot (action : Action) (type : SubjectType) (subject : Option Value)
  /-- Which rules there are. -/
  | rulesFor (action : Action) (type : SubjectType)

/-- What comes back. -/
inductive Reply
  /-- A verdict. -/
  | verdict (v : Except Condition.Trouble Verdict)
  /-- Yes or no. -/
  | truth (b : Except Condition.Trouble Bool)
  /-- Rules. -/
  | rules (rules : List Rule)

/-- What a rule set that remembers nothing replies to a query. -/
def reply (rules : RuleSet) : Query → Reply
  | .evaluate action type subject => .verdict (rules.evaluate action type subject)
  | .can action type subject => .truth (rules.can action type subject)
  | .cannot action type subject => .truth (rules.cannot action type subject)
  | .rulesFor action type => .rules (rules.rulesFor action type)

end RuleSet

namespace IndexedRules

/-- The reply to a query, and the rules with what they remember afterwards. -/
def reply (x : IndexedRules) : RuleSet.Query → RuleSet.Reply × IndexedRules
  | .evaluate action type subject => (x.evaluate action type subject).map .verdict id
  | .can action type subject => (x.can action type subject).map .truth id
  | .cannot action type subject => (x.cannot action type subject).map .truth id
  | .rulesFor action type => (x.rulesFor action type).map .rules id

/-- The replies to queries, one after the other. -/
def replies (x : IndexedRules) : List RuleSet.Query → List RuleSet.Reply
  | [] => []
  | q :: rest => (x.reply q).1 :: (x.reply q).2.replies rest

variable {x : IndexedRules}

theorem IsRight.cannot (h : x.IsRight) (action : Action) (type : SubjectType)
    (subject : Option Value) :
    (x.cannot action type subject).1 = x.rules.cannot action type subject ∧
      x.Continues (x.cannot action type subject).2 := by
  obtain ⟨hcan, hcontinues⟩ := h.can action type subject
  exact ⟨congrArg (Except.map _) hcan, hcontinues⟩

theorem IsRight.rulesFor (h : x.IsRight) (action : Action) (type : SubjectType) :
    (x.rulesFor action type).1 = x.rules.rulesFor action type ∧
      x.Continues (x.rulesFor action type).2 := by
  obtain ⟨hrelevant, hcontinues⟩ := h.relevant action type
  refine ⟨?_, hcontinues⟩
  change (x.relevant action type).1.filterMap (fun i => (x.relevant action type).2.rules[i]?) = _
  rw [hrelevant, hcontinues.rules]
  rfl

/-- One query: the reply is that of the rules, and what is remembered stays right. -/
theorem IsRight.reply (h : x.IsRight) (q : RuleSet.Query) :
    (x.reply q).1 = x.rules.reply q ∧ x.Continues (x.reply q).2 := by
  cases q with
  | evaluate action type subject =>
    exact (h.evaluate action type subject).imp_left (congrArg RuleSet.Reply.verdict)
  | can action type subject =>
    exact (h.can action type subject).imp_left (congrArg RuleSet.Reply.truth)
  | cannot action type subject =>
    exact (h.cannot action type subject).imp_left (congrArg RuleSet.Reply.truth)
  | rulesFor action type =>
    exact (h.rulesFor action type).imp_left (congrArg RuleSet.Reply.rules)

/-- A run of queries: each reply is that of the rules. -/
theorem IsRight.replies_eq_map (h : x.IsRight) (queries : List RuleSet.Query) :
    x.replies queries = queries.map x.rules.reply := by
  induction queries generalizing x with
  | nil => rfl
  | cons q rest ih =>
    obtain ⟨hreply, hcontinues⟩ := h.reply q
    rw [replies, hreply, ih hcontinues.right, hcontinues.rules]
    rfl

end IndexedRules

namespace RuleSet

/-- Where no condition fails to be decided, a rule set that is put together from two comes to the
    verdict of the second if one of its rules matches, with the position counted on, and otherwise
    to that of the first; and a rule that does not match makes no difference between them to
    whether the answer is yes. Rules that remember positions reply to each of any queries, asked
    one after the other, as rules that have been asked nothing. -/
theorem evaluate_parts (rules others : RuleSet) :
    (∀ action type subject, Decided action type subject rules →
        Decided action type subject others →
      ∃ v w, rules.evaluate action type subject = .ok v ∧
        others.evaluate action type subject = .ok w ∧
        (rules ++ others).evaluate action type subject = .ok (w.behind rules.length v) ∧
        ∀ r : Rule, (r.appliesTo action type = true → r.matches subject = .ok false) →
          (rules ++ r :: others).can action type subject =
            (rules ++ others).can action type subject) ∧
      ∀ queries, IndexedRules.replies { rules } queries =
        queries.map fun q => (IndexedRules.reply { rules } q).1 := by
  have hright := IndexedRules.isRight_of_nil rules
  refine ⟨fun action type subject h hothers => ?_, fun queries => ?_⟩
  · obtain ⟨v, hv⟩ := h.exists_evaluate
    obtain ⟨w, hw⟩ := hothers.exists_evaluate
    refine ⟨v, w, hv, hw, ?_, fun r hr => can_insert hr rules others⟩
    rw [evaluate_append, hv, hw]
    rfl
  · rw [hright.replies_eq_map]
    exact List.map_congr_left fun q _ => (hright.reply q).1.symm

/-- Messages by others may not be changed, unless a rule behind says that they may; a rule about
    users between them makes no difference. -/
theorem evaluate_parts_message :
    let others : RuleSet := [.can [.update] [.message]]
    let subject := some IndexedRules.othersMessage
    (Decided .update .message subject IndexedRules.ownMessageRules ∧
        Decided .update .message subject others) ∧
      RuleSet.evaluate IndexedRules.ownMessageRules .update .message subject =
        .ok ⟨false, some 1⟩ ∧
      RuleSet.evaluate (IndexedRules.ownMessageRules ++ others) .update .message subject =
        .ok ⟨true, some 2⟩ ∧
      RuleSet.can (IndexedRules.ownMessageRules ++ .cannot [.manage] [.user] :: others)
        .update .message subject = .ok true := by
  intro others subject
  have hown : Decided .update .message subject IndexedRules.ownMessageRules :=
    fun r hr _ => IndexedRules.decided_othersMessage r hr
  have hothers : Decided .update .message subject others := by
    simp [others, Decided, Rule.matches, Rule.admits, Rule.can, Condition.meetsOption, subject]
  obtain ⟨v, w, hv, hw, hboth, hinsert⟩ :=
    (evaluate_parts IndexedRules.ownMessageRules others).1 .update .message subject hown hothers
  have hfirst : RuleSet.evaluate IndexedRules.ownMessageRules .update .message subject =
      .ok ⟨false, some 1⟩ := eq_ok_of_toOption (by decide +kernel)
  have hsecond : RuleSet.evaluate others .update .message subject = .ok ⟨true, some 0⟩ :=
    eq_ok_of_toOption (by decide +kernel)
  obtain rfl := Except.ok.inj (hv.symm.trans hfirst)
  obtain rfl := Except.ok.inj (hw.symm.trans hsecond)
  refine ⟨⟨hown, hothers⟩, hv, hboth, ?_⟩
  rw [hinsert (.cannot [.manage] [.user]) fun h => absurd h (by decide), can, hboth]
  rfl

end RuleSet

end HouseholdAccess
