import HouseholdAccess.Proofs.Rule.Parts
import HouseholdAccess.Proofs.Value.Fields

/-!
# What a verdict depends on

A verdict depends on the subject only through the fields that the rules name
(`RuleSet.paths`). Two subjects that agree there (`Value.AgreeAt`), whatever else they have
and whatever they are, get the same verdict by the same rule, or fail alike
(`RuleSet.evaluate_congr_of_agreeAt`), and rules that are asked one question after the other
never tell them apart (`IndexedRules.replies_congr`).

So a record gets one verdict, no matter how its fields are presented. The exception is
a record that keeps its fields from being read: where its verdict is not that of the same
fields in another shape, it has none, and fails for this reason.
-/

namespace HouseholdAccess

/-- Both subjects have the same values at the paths, or fail alike. -/
def Value.AgreeAt (paths : List String) (v w : Value) : Prop :=
  ∀ path ∈ paths, v.resolve path = w.resolve path

/-! ## Conditions -/

namespace Condition

variable {v w : Value} {fails : Trouble → Prop}

theorem FieldTest.holdsOn_sameUnless {failsAt : Value.Unreadable → Prop} (t : FieldTest)
    (h : SameUnless failsAt (v.resolve t.path) (w.resolve t.path))
    (hfails : ∀ u, failsAt u → fails (.unreadable u)) :
    SameUnless fails (t.holdsOn v) (t.holdsOn w) :=
  (h.mapError hfails).bind fun _ => .same _

mutual

/-- Where the tests of a condition come to the same unless they fail, so does the condition: a test
    that fails is either not looked at or what the condition fails for. -/
theorem meets_sameUnless (c : Condition)
    (h : ∀ t ∈ c.tests, SameUnless fails (t.holdsOn v) (t.holdsOn w)) :
    SameUnless fails (c.meets v) (c.meets w) := by
  cases c with
  | field path operator operand => exact h ⟨path, operator, operand⟩ (by simp [tests])
  | all children => exact meetsAll_sameUnless children h
  | any children => exact meetsAny_sameUnless children h
  | not child => exact (meets_sameUnless child h).map _

theorem meetsAll_sameUnless (cs : List Condition)
    (h : ∀ t ∈ testsOf cs, SameUnless fails (t.holdsOn v) (t.holdsOn w)) :
    SameUnless fails (meetsAll v cs) (meetsAll w cs) := by
  cases cs with
  | nil => exact .same _
  | cons c rest =>
    rw [testsOf, List.forall_mem_append] at h
    refine (meets_sameUnless c h.1).bind fun b => ?_
    split
    · exact meetsAll_sameUnless rest h.2
    · exact .same _

theorem meetsAny_sameUnless (cs : List Condition)
    (h : ∀ t ∈ testsOf cs, SameUnless fails (t.holdsOn v) (t.holdsOn w)) :
    SameUnless fails (meetsAny v cs) (meetsAny w cs) := by
  cases cs with
  | nil => exact .same _
  | cons c rest =>
    rw [testsOf, List.forall_mem_append] at h
    refine (meets_sameUnless c h.1).bind fun b => ?_
    split
    · exact .same _
    · exact meetsAny_sameUnless rest h.2

end

end Condition

/-! ## Rules -/

/-- The paths that a rule names. -/
def Rule.paths (r : Rule) : List String :=
  r.condition.elim [] fun c => c.tests.map (·.path)

/-- What decides about the paths of a rule decides about the rule. -/
theorem Rule.matches_sameUnless {r : Rule} {v w : Value} {failsAt : Value.Unreadable → Prop}
    {fails : Condition.Trouble → Prop} (hfails : ∀ u, failsAt u → fails (.unreadable u))
    (h : ∀ path ∈ r.paths, SameUnless failsAt (v.resolve path) (w.resolve path)) :
    SameUnless fails (r.matches (some v)) (r.matches (some w)) := by
  rw [Rule.paths] at h
  rw [Rule.matches, Rule.matches, Rule.admits, Rule.admits]
  cases hcondition : r.condition with
  | none => exact .same _
  | some c =>
    rw [hcondition] at h
    refine Condition.meets_sameUnless c fun t ht => t.holdsOn_sameUnless (h t.path ?_) hfails
    exact List.mem_map_of_mem ht

namespace RuleSet

/-- The paths that the rules name. -/
def paths (rules : RuleSet) : List String := rules.flatMap Rule.paths

variable {action : Action} {type : SubjectType} {rules : RuleSet} {v w : Value}

/-- Rules are gone through alike where each of them matches alike, unless one fails. -/
theorem decideFrom_sameUnless {fails : Condition.Trouble → Prop} {subject subject' : Option Value}
    {rules : List Rule}
    (h : ∀ r ∈ rules, SameUnless fails (r.matches subject) (r.matches subject')) (i : Nat)
    (verdict : Verdict) :
    SameUnless fails (decideFrom action type subject i rules verdict)
      (decideFrom action type subject' i rules verdict) := by
  induction rules generalizing i verdict with
  | nil => exact .same _
  | cons r rest ih =>
    obtain ⟨hr, hrest⟩ := List.forall_mem_cons.1 h
    rw [decideFrom, decideFrom]
    split
    · refine hr.bind fun b => ?_
      split
      · exact ih hrest _ _
      · exact ih hrest _ _
    · exact ih hrest _ _

/-- What decides about the paths of all rules decides about the verdict. -/
theorem evaluate_sameUnless {failsAt : Value.Unreadable → Prop}
    {fails : Condition.Trouble → Prop} (hfails : ∀ u, failsAt u → fails (.unreadable u))
    (h : ∀ path ∈ rules.paths, SameUnless failsAt (v.resolve path) (w.resolve path)) :
    SameUnless fails (rules.evaluate action type (some v))
      (rules.evaluate action type (some w)) := by
  rw [evaluate_eq_decideFrom, evaluate_eq_decideFrom]
  refine decideFrom_sameUnless (fun r hr => Rule.matches_sameUnless hfails fun path hpath => ?_) 0
    .default
  exact h path (List.mem_flatMap.2 ⟨r, hr, hpath⟩)

/-- Subjects that agree at the paths of the rules get the same verdict, or fail alike. -/
theorem evaluate_congr_of_agreeAt (h : v.AgreeAt rules.paths w) (action : Action)
    (type : SubjectType) :
    rules.evaluate action type (some v) = rules.evaluate action type (some w) := by
  have hsame : ∀ path ∈ rules.paths,
      SameUnless (fun _ => False) (v.resolve path) (w.resolve path) := fun path hpath => by
    rw [h path hpath]
    exact .same _
  exact SameUnless.eq (evaluate_sameUnless (fun _ => id) hsame)

/-! ## Queries -/

/-- Two queries ask the same, of subjects that agree at the paths if they are of subjects. -/
inductive Query.Alike (paths : List String) : Query → Query → Prop
  | evaluate (action : Action) (type : SubjectType) {v w : Option Value} :
    Option.Rel (Value.AgreeAt paths) v w →
      Alike paths (.evaluate action type v) (.evaluate action type w)
  | can (action : Action) (type : SubjectType) {v w : Option Value} :
    Option.Rel (Value.AgreeAt paths) v w → Alike paths (.can action type v) (.can action type w)
  | cannot (action : Action) (type : SubjectType) {v w : Option Value} :
    Option.Rel (Value.AgreeAt paths) v w →
      Alike paths (.cannot action type v) (.cannot action type w)
  | rulesFor (action : Action) (type : SubjectType) :
    Alike paths (.rulesFor action type) (.rulesFor action type)

theorem evaluate_congr_of_rel {subject subject' : Option Value}
    (h : Option.Rel (Value.AgreeAt rules.paths) subject subject') (action : Action)
    (type : SubjectType) :
    rules.evaluate action type subject = rules.evaluate action type subject' := by
  cases h with
  | none => rfl
  | some h => exact evaluate_congr_of_agreeAt h action type

/-- One query: the reply to it is the reply to one like it. -/
theorem reply_congr {q q' : Query} (h : q.Alike rules.paths q') :
    rules.reply q = rules.reply q' := by
  cases h with
  | evaluate action type h => rw [reply, reply, evaluate_congr_of_rel h]
  | can action type h => rw [reply, reply, can, can, evaluate_congr_of_rel h]
  | cannot action type h => rw [reply, reply, cannot, cannot, can, can, evaluate_congr_of_rel h]
  | rulesFor action type => rfl

end RuleSet

/-- A run of queries: subjects that agree at the paths of the rules are never told apart. -/
theorem IndexedRules.replies_congr {x : IndexedRules} (hx : x.IsRight)
    {queries queries' : List RuleSet.Query}
    (h : List.Forall₂ (RuleSet.Query.Alike x.rules.paths) queries queries') :
    x.replies queries = x.replies queries' := by
  rw [hx.replies_eq_map, hx.replies_eq_map]
  induction h with
  | nil => rfl
  | cons hq _ ih => rw [List.map_cons, List.map_cons, RuleSet.reply_congr hq, ih]

namespace RuleSet

/-- Subjects that agree at the paths of the rules get the same verdict, or fail alike, and are never
    told apart by rules that are asked one query after the other. The fields of a record get
    the same verdict in every shape, except that a record which keeps them from being read may
    fail for that. -/
theorem evaluate_agreeAt (rules : RuleSet) :
    (∀ v w, v.AgreeAt rules.paths w → ∀ action type,
        rules.evaluate action type (some v) = rules.evaluate action type (some w)) ∧
      (∀ queries queries', List.Forall₂ (Query.Alike rules.paths) queries queries' →
        IndexedRules.replies { rules } queries = IndexedRules.replies { rules } queries') ∧
      ∀ (shape : Value.Shape) (fields : List (String × Value)) action type,
        rules.evaluate action type (some (shape.present fields)) =
            rules.evaluate action type (some (.record fields)) ∨
          ∃ u, shape.Refuses fields u ∧
            rules.evaluate action type (some (shape.present fields)) = .error (.unreadable u) := by
  refine ⟨fun v w h => evaluate_congr_of_agreeAt h, fun queries queries' h =>
    IndexedRules.replies_congr (IndexedRules.isRight_of_nil rules) h,
    fun shape fields action type => ?_⟩
  have hshape : SameUnless (fun e => ∃ u, shape.Refuses fields u ∧ e = .unreadable u)
      (rules.evaluate action type (some (.record fields)))
      (rules.evaluate action type (some (shape.present fields))) :=
    evaluate_sameUnless (fun u hu => ⟨u, hu, rfl⟩) fun path _ =>
      Value.resolve_present shape fields path
  generalize rules.evaluate action type (some (.record fields)) = p at *
  generalize rules.evaluate action type (some (shape.present fields)) = q at *
  cases hshape with
  | same => exact .inl rfl
  | failed h =>
    obtain ⟨u, hu, rfl⟩ := h
    exact .inr ⟨u, hu, rfl⟩

/-- Who owns something may do everything with it, but remove it only while it is open. -/
def ownerRules : RuleSet :=
  [.can [.manage] [.message] (some (.field "owner.id" .eq (.text "u1"))),
    .cannot [.delete] [.message] (some (.not (.field "open" .exists (.bool true))))]

/-- A record with an owner is recognised in whatever way either of them is presented, and whatever
    else there is. -/
theorem evaluate_agreeAt_owner :
    let v := Value.record [("owner", .record [("id", .text "u1")]), ("text", .text "a")]
    let fields := [("owner", .model [("id", .text "u1"), (Value.readerName, .null)])]
    v.AgreeAt (paths ownerRules) (.readable fields) ∧
      RuleSet.evaluate ownerRules .delete .message (some (.readable fields)) =
        .ok ⟨false, some 1⟩ ∧
      RuleSet.evaluate ownerRules .delete .message (some (.model fields)) =
        .ok ⟨false, some 1⟩ := by
  intro v fields
  have hagree : v.AgreeAt (paths ownerRules) (.readable fields) := by
    intro path hpath
    rcases List.mem_pair.1 hpath with rfl | rfl <;> rfl
  have hv : RuleSet.evaluate ownerRules .delete .message (some v) = .ok ⟨false, some 1⟩ :=
    eq_ok_of_toOption (by decide +kernel)
  obtain ⟨hsubjects, -, hshapes⟩ := evaluate_agreeAt ownerRules
  have hreadable := (hsubjects v (.readable fields) hagree .delete .message).symm.trans hv
  have hshape (shape : Value.Shape) : RuleSet.evaluate ownerRules .delete .message
      (some (shape.present fields)) =
        RuleSet.evaluate ownerRules .delete .message (some (.record fields)) := by
    refine (hshapes shape fields .delete .message).resolve_right ?_
    rintro ⟨u, ⟨-, reader, hreader, -⟩, -⟩
    cases hreader
  exact ⟨hagree, hreadable, (hshape .model).trans ((hshape .readable).symm.trans hreadable)⟩

/-- A record that declares a reader of its own among its fields gets another verdict than the same
    fields in an object do. -/
theorem not_forall_evaluate_present :
    ¬∀ (rules : RuleSet) (fields : List (String × Value)) (shape : Value.Shape) action type,
      rules.evaluate action type (some (shape.present fields)) =
        rules.evaluate action type (some (.record fields)) := by
  intro h
  let rules : RuleSet := [.can [.read] [.user] (some (.field "id" .eq (.text "u1")))]
  let fields : List (String × Value) := [("id", .text "u1"), (Value.readerName, .int 1)]
  have hobject : rules.evaluate .read .user (some (.record fields)) = .ok ⟨true, some 0⟩ :=
    eq_ok_of_toOption (by decide +kernel)
  have hmodel : (rules.evaluate .read .user
      (some (Value.Shape.model.present fields))).toOption = none := by decide +kernel
  rw [h rules fields .model .read .user, hobject] at hmodel
  cases hmodel

end RuleSet

end HouseholdAccess
