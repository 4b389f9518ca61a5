import HouseholdAccess.Proofs.Json.RoundTrip
import HouseholdAccess.Proofs.Role.Permits
import HouseholdAccess.Proofs.Rule.Demands

/-!
# Rule sets that are kept

What is kept of a rule set is its packed form, as it is or as JSON text. A rule
set is *lasting* (`RuleSet.IsLasting`) if it is read back from its packed form, and
the packed form from its text, without being deep: for such a rule set it makes no
difference where it is kept (`RuleSet.IsLasting.exists_dumps`,
`RuleSet.IsLasting.exists_write`), and there is no obstacle to reading it
(`RuleSet.IsLasting.unpackWithin`).

Compiled rule sets are lasting (`UserContext.isLasting_compile`). Their conditions
are of two forms, a test on one field and a pair of tests on two, with texts and
lists of texts to compare with; those are written the way they are read.
-/

namespace HouseholdAccess

/-- A rule set that can be read back from its packed form and from the text of that. -/
structure RuleSet.IsLasting (rules : RuleSet) : Prop where
  unpack : Packed.unpack (Packed.pack rules) = .ok rules
  shallow : Json.Faithful 5 (Packed.pack rules)

theorem RuleSet.IsLasting.faithful {rules : RuleSet} (h : rules.IsLasting) :
    Json.Faithful Json.depthLimit (Packed.pack rules) :=
  h.shallow.mono (by decide)

/-- The packed form is read where there is some room. -/
theorem RuleSet.IsLasting.unpackWithin {rules : RuleSet} (h : rules.IsLasting) {room : Nat}
    (hroom : 14 ≤ room) : Packed.unpackWithin room (Packed.pack rules) = .ok rules :=
  Packed.unpackWithin_eq_ok_iff.2 ⟨h.unpack, Packed.allMet_demands h.shallow hroom⟩

/-- The packed form has a text, and is read from it. -/
theorem RuleSet.IsLasting.exists_write {rules : RuleSet} (h : rules.IsLasting)
    {layout : Json.Layout} (hlayout : layout.IsStandard) :
    ∃ text, Json.write layout (Packed.pack rules) = .ok text ∧
      Json.read text = .ok (Packed.pack rules) := by
  obtain ⟨text, htext, -⟩ := Json.exists_write layout _ h.faithful
  exact ⟨text, htext, Json.read_write hlayout h.faithful htext⟩

/-- The text of a faithful form says what the form says. -/
theorem Packed.loads_write {form : Value} (hform : Json.Faithful Json.depthLimit form)
    {text : String} (htext : Json.write Json.compact form = .ok text) :
    loads (.text text) = unpackWithin callRoom form := by
  rw [loads, Json.read_write Json.isStandard_compact hform htext]
  rfl

/-- The rule set has a text, and is loaded from it. -/
theorem RuleSet.IsLasting.exists_dumps {rules : RuleSet} (h : rules.IsLasting) :
    ∃ text, Packed.dumps rules = .ok text ∧ Packed.loads (.text text) = .ok rules := by
  obtain ⟨text, htext, -⟩ := Json.exists_write Json.compact _ h.faithful
  exact ⟨text, htext, (Packed.loads_write h.faithful htext).trans (h.unpackWithin (by decide))⟩

/-! ## Conditions -/

/-- A condition that is written as a shallow object, and read as it is written. -/
structure Condition.IsLasting (c : Condition) : Prop where
  plain : c.IsPlain
  constrains : c ≠ .all []
  reread : c.reread = c
  faithful : ∀ depth, Json.Faithful (depth + 3) c.toDocument

/-- A value to compare with: a text, or a list of texts. -/
inductive Policy.IsOperand : Value → Prop
  | text (s : String) : IsOperand (.text s)
  | list {ids : List Id} : (∀ id ∈ ids, id.isText = true) → IsOperand (.list (ids.map Id.toValue))

theorem Policy.IsOperand.of_isText {id : Id} (h : id.isText = true) : IsOperand id.toValue := by
  cases id with
  | text s => exact .text s
  | _ => cases h

theorem Json.faithfulItems_ids {depth : Nat} {ids : List Id} (h : ∀ id ∈ ids, id.isText = true) :
    FaithfulItems depth (ids.map Id.toValue) := by
  induction ids with
  | nil => exact trivial
  | cons id rest ih =>
    rw [List.forall_mem_cons] at h
    refine ⟨?_, ih h.2⟩
    cases id with
    | text s => exact trivial
    | _ => cases h.1

theorem Json.faithful_record_one {depth : Nat} (name : String) {v : Value}
    (h : Faithful depth v) : Faithful (depth + 1) (Value.record [(name, v)]) :=
  ⟨Nat.succ_pos depth, ⟨name, rfl⟩, List.forall_mem_nil _, h, trivial⟩

theorem Json.faithful_record_two {depth : Nat} {name name' : String} (hne : name ≠ name')
    {v v' : Value} (h : Faithful depth v) (h' : Faithful depth v') :
    Faithful (depth + 1) (Value.record [(name, v), (name', v')]) := by
  refine ⟨Nat.succ_pos depth, ⟨name, rfl⟩, ?_, h, ⟨name', rfl⟩, List.forall_mem_nil _, h', trivial⟩
  intro entry hentry
  obtain rfl := List.mem_singleton.1 hentry
  rw [Key.same]
  exact beq_false_of_ne hne

namespace Condition

variable {operand : Value}

theorem faithful_operand (h : Policy.IsOperand operand) (depth : Nat) :
    Json.Faithful (depth + 1) operand := by
  cases h with
  | text s => exact trivial
  | list hids => exact ⟨Nat.succ_pos depth, Json.faithfulItems_ids hids⟩

/-- A test is written as its operand, or as an object with its operator. -/
theorem faithful_writeTests (h : Policy.IsOperand operand) (path : String) (op : Operator)
    (depth : Nat) : Json.Faithful (depth + 2) (writeTests [⟨path, op, operand⟩]) := by
  rw [writeTests]
  split
  · exact faithful_operand h (depth + 1)
  · exact Json.faithful_record_one op.token (faithful_operand h depth)

/-- A test on a field is read as it is written. -/
theorem isLasting_field {path : String} (hpath : isDollar path = false) (op : Operator)
    (h : Policy.IsOperand operand) : (field path op operand).IsLasting where
  plain := fun t ht => by
    rw [tests, List.mem_singleton] at ht
    exact ht ▸ hpath
  constrains := by simp
  reread := rfl
  faithful := fun depth => by
    have hpaths : paths [⟨path, op, operand⟩] = [path] := rfl
    have hat : testsAt [⟨path, op, operand⟩] path = [⟨path, op, operand⟩] := by
      simp [testsAt]
    rw [toDocument, writeFields, hpaths, List.map_singleton, hat]
    exact Json.faithful_record_one path (faithful_writeTests h path op depth)

/-- Tests on two fields are read in the order in which they are written. -/
theorem isLasting_pair {path path' : String} (hne : path ≠ path') (hpath : isDollar path = false)
    (hpath' : isDollar path' = false) (op op' : Operator) {operand' : Value}
    (h : Policy.IsOperand operand) (h' : Policy.IsOperand operand') :
    (all [field path op operand, field path' op' operand']).IsLasting := by
  let t : FieldTest := ⟨path, op, operand⟩
  let t' : FieldTest := ⟨path', op', operand'⟩
  have hpaths : paths [t, t'] = [path, path'] := by
    simp [paths, t, t', List.eraseDups_cons, Ne.symm hne]
  have hat : testsAt [t, t'] path = [t] := by simp [testsAt, t, t', Ne.symm hne]
  have hat' : testsAt [t, t'] path' = [t'] := by simp [testsAt, t, t', hne]
  have hgrouped :
      groupedTests? [field path op operand, field path' op' operand'] = some [t, t'] := by
    simp [groupedTests?, fieldTests?, distinctTests, t, t', Ne.symm hne]
  refine ⟨?_, by simp, ?_, fun depth => ?_⟩
  · intro u hu
    simp only [tests, testsOf, List.cons_append, List.nil_append, List.mem_cons,
      List.not_mem_nil, or_false] at hu
    rcases hu with rfl | rfl
    · exact hpath
    · exact hpath'
  · have hregrouped : regrouped [t, t'] = [t, t'] := by
      rw [regrouped, hpaths]
      simp only [List.flatMap_cons, List.flatMap_nil, hat, hat']
      rfl
    simp only [Condition.reread, hgrouped, hregrouped]
    rfl
  · have hdocument : toDocument (all [field path op operand, field path' op' operand']) =
        Value.record [(path, writeTests [t]), (path', writeTests [t'])] := by
      rw [toDocument, grouped?_eq, hgrouped]
      simp only [Option.map_some, writeFields, hpaths, List.map_cons, List.map_nil, hat, hat']
    rw [hdocument]
    exact Json.faithful_record_two hne (faithful_writeTests h path op depth)
      (faithful_writeTests h' path' op' depth)

end Condition

/-! ## Rules -/

/-- A rule that is not void, with a lasting condition if it has one. -/
structure Rule.IsLasting (r : Rule) : Prop where
  notVoid : ¬r.IsVoid
  condition : ∀ c, r.condition = some c → c.IsLasting

theorem Json.faithfulItems_of_forall {depth : Nat} {items : List Value}
    (h : ∀ v ∈ items, Faithful depth v) : FaithfulItems depth items := by
  induction items with
  | nil => exact trivial
  | cons v rest ih =>
    rw [List.forall_mem_cons] at h
    exact ⟨h.1, ih h.2⟩

theorem Json.isShort_flag (b : Bool) : IsShort (if b then 1 else 0) := by
  unfold IsShort
  cases b <;> decide

namespace Rule.IsLasting

variable {r : Rule}

theorem isPlain (h : r.IsLasting) : r.IsPlain :=
  fun c hc => ⟨(h.condition c hc).plain, (h.condition c hc).constrains⟩

theorem reread_eq (h : r.IsLasting) : r.reread = r := by
  obtain ⟨actions, subjects, condition, inverted⟩ := r
  cases condition with
  | none => rfl
  | some c =>
    rw [reread, Option.map_some, (h.condition c rfl).reread]

theorem faithful_packCondition (h : r.IsLasting) (depth : Nat) :
    Json.Faithful (depth + 3) (Packed.packCondition r.condition) := by
  cases hc : r.condition with
  | none => exact Json.isShort_flag false
  | some c =>
    have hlasting := h.condition c hc
    rw [(Packed.packCondition_some hlasting.plain hlasting.constrains).1]
    exact hlasting.faithful depth

theorem faithful_packRule (h : r.IsLasting) (depth : Nat) :
    Json.Faithful (depth + 4) (Packed.packRule r) := by
  refine ⟨Nat.succ_pos _, trivial, trivial, Json.faithfulItems_of_forall fun v hv => ?_⟩
  -- What is left out of the entry leaves nothing new in it.
  have hitem := (List.dropWhile_sublist _).subset (List.mem_reverse.1 hv)
  rw [List.mem_reverse, List.mem_cons, List.mem_singleton] at hitem
  rcases hitem with rfl | rfl
  · exact h.faithful_packCondition depth
  · exact Json.isShort_flag r.inverted

end Rule.IsLasting

/-- Lasting rules make a lasting rule set. -/
theorem RuleSet.isLasting_of_forall {rules : RuleSet} (h : ∀ r ∈ rules, r.IsLasting) :
    rules.IsLasting where
  unpack := by
    rw [Packed.unpack_pack (fun r hr => (h r hr).isPlain) fun r hr => (h r hr).notVoid]
    have hreread : rules.map Rule.reread = rules.map id :=
      List.map_congr_left fun r hr => (h r hr).reread_eq
    rw [hreread, List.map_id]
  shallow := by
    refine ⟨by decide, Json.faithfulItems_of_forall fun v hv => ?_⟩
    obtain ⟨r, hr, rfl⟩ := List.mem_map.1 hv
    exact (h r hr).faithful_packRule 0

/-! ## Compiled rules -/

namespace UserContext

variable {c : UserContext} {actions : List Action} {subjects : List SubjectType} {path : String}

theorem isLasting_oneOf (hpath : Condition.isDollar path = false) {ids : List Id}
    (hids : ∀ id ∈ ids, id.isText = true) (hvoid : ¬(Rule.can actions subjects).IsVoid) :
    (Rule.can actions subjects (Policy.oneOf path ids)).IsLasting := by
  refine ⟨hvoid, fun _ hcondition => ?_⟩
  cases hcondition
  exact Condition.isLasting_field hpath .isIn (.list hids)

theorem isLasting_isId (hpath : Condition.isDollar path = false) {id : Id} (hid : id.isText = true)
    (hvoid : ¬(Rule.can actions subjects).IsVoid) :
    (Rule.can actions subjects (Policy.isId path id)).IsLasting := by
  refine ⟨hvoid, fun _ hcondition => ?_⟩
  cases hcondition
  exact Condition.isLasting_field hpath .eq (.of_isText hid)

theorem isLasting_pair {op op' : Operator} {path' : String} {v v' : Value} (hne : path ≠ path')
    (hpath : Condition.isDollar path = false) (hpath' : Condition.isDollar path' = false)
    (hv : Policy.IsOperand v) (hv' : Policy.IsOperand v')
    (hvoid : ¬(Rule.can actions subjects).IsVoid) :
    (Rule.can actions subjects
      (some (.all [.field path op v, .field path' op' v']))).IsLasting := by
  refine ⟨hvoid, fun _ hcondition => ?_⟩
  cases hcondition
  exact Condition.isLasting_pair hne hpath hpath' op op' hv hv'

/-- A rule that names an action and a type of subject is not void. -/
theorem not_isVoid_cons {a : Action} {t : SubjectType} {condition : Option Condition}
    {inverted : Bool} : ¬Rule.IsVoid ⟨a :: actions, t :: subjects, condition, inverted⟩ := by
  rintro (h | h) <;> cases h

theorem isLasting_userRules (hc : c.HasTextIds) : ∀ r ∈ c.userRules, r.IsLasting := by
  simp only [userRules, List.forall_mem_append, forall_mem_onlyIf, List.forall_mem_cons]
  refine ⟨⟨⟨?_, ?_, ?_, List.forall_mem_nil _⟩, fun _ => ?_⟩, fun _ => ?_⟩
  · exact isLasting_isId (by decide) hc.user not_isVoid_cons
  · exact ⟨not_isVoid_cons, fun _ h => by cases h⟩
  · exact isLasting_isId (by decide) hc.user not_isVoid_cons
  · exact isLasting_oneOf (by decide) hc.distinctManaged not_isVoid_cons
  · exact isLasting_oneOf (by decide) hc.manageableAi not_isVoid_cons

theorem isLasting_householdRules (hc : c.HasTextIds) : ∀ r ∈ c.householdRules, r.IsLasting := by
  simp only [householdRules, List.forall_mem_append, forall_mem_onlyIf]
  refine ⟨⟨⟨⟨⟨⟨fun _ => ?_, fun _ => ?_⟩, fun _ => ?_⟩, fun _ => ?_⟩, fun _ => ?_⟩, fun _ => ?_⟩,
    fun _ => ?_⟩
  · exact isLasting_oneOf (by decide) hc.householdsAs not_isVoid_cons
  · exact isLasting_oneOf (by decide) hc.participating not_isVoid_cons
  · exact isLasting_pair (by decide) (by decide) (by decide) (.list hc.householdsAs) (.text _)
      not_isVoid_cons
  · exact isLasting_oneOf (by decide) hc.households not_isVoid_cons
  · exact isLasting_oneOf (by decide) hc.householdsAs not_isVoid_cons
  · exact isLasting_oneOf (by decide) hc.participating not_isVoid_cons
  · exact isLasting_pair (by decide) (by decide) (by decide) (.list hc.householdsAs)
      (.of_isText hc.user) not_isVoid_cons

theorem isLasting_aiRules (hc : c.HasTextIds) : ∀ r ∈ c.aiRules, r.IsLasting := by
  rw [aiRules]
  split
  · simp only [List.forall_mem_cons]
    refine ⟨⟨not_isVoid_cons, fun _ hcondition => ?_⟩, ⟨not_isVoid_cons, fun _ h => by cases h⟩,
      List.forall_mem_nil _⟩
    cases hcondition
    exact Condition.isLasting_field (by decide) .ne (.of_isText hc.user)
  · exact List.forall_mem_nil _

/-- The rule set of a user can be read back from where it is kept. -/
theorem isLasting_compile (hc : c.HasTextIds) : c.compile.IsLasting := by
  refine RuleSet.isLasting_of_forall ?_
  simp only [compile, visibilityRules, List.forall_mem_append, forall_mem_onlyIf]
  exact ⟨⟨⟨isLasting_userRules hc, isLasting_householdRules hc⟩, fun _ =>
    isLasting_oneOf (by decide) hc.visibleUsers not_isVoid_cons⟩, isLasting_aiRules hc⟩

/-- The rule set of a user has a text, and what is loaded from the text is that rule set again, rule
    by rule, whatever characters there are in the names. -/
theorem loads_dumps_compile (hc : c.HasTextIds) :
    ∃ text, Packed.dumps c.compile = .ok text ∧ Packed.loads (.text text) = .ok c.compile :=
  (isLasting_compile hc).exists_dumps

/-- A user with all roles, and with names that a text has to escape. -/
def awkwardContext : UserContext where
  user := .text "back\\slash, \"quote\""
  memberships := [⟨.text "tab\tand\nnewline", .manager⟩, ⟨.text "\x00\x1f", .member⟩,
    ⟨.text "", .ai⟩]
  managed := [.text "été", .text "été", .text "$and"]
  aiUsers := [(.text "tab\tand\nnewline", [.text "\u2028"])]
  members := [(.text "\x00\x1f", [.text "家庭", .text "𝄞"])]

theorem loads_dumps_compile_awkward :
    awkwardContext.HasTextIds ∧ ∃ text, Packed.dumps awkwardContext.compile = .ok text ∧
      Packed.loads (.text text) = .ok awkwardContext.compile := by
  have hc : awkwardContext.HasTextIds := by constructor <;> decide
  exact ⟨hc, loads_dumps_compile hc⟩

end UserContext

end HouseholdAccess
