import HouseholdAccess.Proofs.Rule.Decision
import HouseholdAccess.Role.Policy

/-!
# What the policy permits

The rules of `UserContext.compile` overlap: a later one may override an earlier
one, some are about every action, and each is only there if a list is not empty.
What they come to is said here without rules (`UserContext.Permits`): for each
type of subject and each action, what must be true of the fields of a subject for
a user to be permitted the action on it.

`UserContext.can_compile` says that the compiled rules permit just that. The
compiled rules allow first and deny last (`compile_eq`), so that a question comes
down to whether one of the former matches and none of the latter does
(`RuleSet.can_allow_deny`).
-/

namespace HouseholdAccess

/-- The fields of a subject that the policy looks at. -/
structure PolicyFields where
  /-- The name of the subject. -/
  id : Value
  /-- The household that it belongs to. -/
  household : Value
  /-- The role, of a membership. -/
  role : Value
  /-- The author, of a message. -/
  author : Value

/-- The fields are those of the subject; what it does not have is absent. -/
structure PolicyFields.Of (f : PolicyFields) (subject : Value) : Prop where
  id : subject.resolve "id" = .ok f.id
  household : subject.resolve "household_id" = .ok f.household
  role : subject.resolve "role" = .ok f.role
  author : subject.resolve "user_id" = .ok f.author

namespace UserContext

/-- All names in the context are texts. -/
structure HasTextIds (c : UserContext) : Prop where
  user : c.user.isText = true
  memberships : ∀ m ∈ c.memberships, m.household.isText = true
  managed : ∀ id ∈ c.managed, id.isText = true
  aiUsers : ∀ entry ∈ c.aiUsers, ∀ id ∈ entry.2, id.isText = true
  members : ∀ entry ∈ c.members, ∀ id ∈ entry.2, id.isText = true

/-- The user has a role in the household that a value names. -/
def InHousehold (c : UserContext) (v : Value) : Prop :=
  ∃ m ∈ c.memberships, v = m.household.toValue

/-- The user has the given role in the household that a value names. -/
def InHouseholdAs (c : UserContext) (role : HouseholdRole) (v : Value) : Prop :=
  ∃ m ∈ c.memberships, m.role = role ∧ v = m.household.toValue

/-- The user has roles, and all of them are AI. -/
def OnlyAi (c : UserContext) : Prop := c.memberships ≠ [] ∧ ∀ m ∈ c.memberships, m.role = .ai

/-- A value names a member of one of the user's households. -/
def SharesHousehold (c : UserContext) (v : Value) : Prop :=
  ∃ m ∈ c.memberships, ∃ user ∈ c.members.of m.household, v = user.toValue

/-- A value names an AI user of a household that the user runs. -/
def RunsAi (c : UserContext) (v : Value) : Prop :=
  ∃ m ∈ c.memberships, m.role = .manager ∧ ∃ user ∈ c.aiUsers.of m.household, v = user.toValue

/-- A value names a user whom the user manages. -/
def Manages (c : UserContext) (v : Value) : Prop := ∃ user ∈ c.managed, v = user.toValue

/-- What the user may do with a subject of the given fields. -/
def Permits (c : UserContext) (f : PolicyFields) : SubjectType → Action → Prop
  | .user, .read => f.id = c.user.toValue ∨ c.SharesHousehold f.id
  | .user, .update =>
    f.id = c.user.toValue ∨ ¬c.OnlyAi ∧ (c.Manages f.id ∨ c.RunsAi f.id)
  | .user, .create | .user, .delete | .user, .manage => False
  | .household, .create => True
  | .household, .read => c.InHousehold f.id
  | .household, .update | .household, .delete | .household, .manage =>
    c.InHouseholdAs .manager f.id
  | .householdMember, .read => c.InHousehold f.household
  | .householdMember, .create | .householdMember, .update | .householdMember, .delete
  | .householdMember, .manage =>
    c.InHouseholdAs .manager f.household ∧ f.role ≠ .text "manager"
  | .message, .create | .message, .read => c.InHousehold f.household
  | .message, .update | .message, .delete =>
    c.InHouseholdAs .manager f.household ∨
      c.InHouseholdAs .member f.household ∧ f.author = c.user.toValue
  | .message, .manage => c.InHouseholdAs .manager f.household
  | .all, _ => False

end UserContext

/-! ## Conditions of the policy -/

/-- Only a text equals a text. -/
theorem Value.equals_text (v : Value) (s : String) : v.equals (.text s) = true ↔ v = .text s := by
  cases v <;> simp [Value.equals, Value.sameNumber, Value.toExtended?]

theorem Value.equals_id (v : Value) {id : Id} (h : id.isText = true) :
    v.equals id.toValue = true ↔ v = id.toValue := by
  cases id with
  | text s => exact v.equals_text s
  | _ => cases h

namespace Condition

variable {subject v : Value} {path : String} {ids : List Id}

theorem meets_field (h : subject.resolve path = .ok v) {op : Operator} {operand : Value} {b : Bool}
    (hb : op.holds v operand = .ok b) : meets subject (.field path op operand) = .ok b := by
  simp only [meets, holdsAt, h]
  change (op.holds v operand).mapError Trouble.pattern = .ok b
  rw [hb]
  rfl

theorem meets_oneOf (h : subject.resolve path = .ok v) :
    meetsOption subject (Policy.oneOf path ids) = .ok ((ids.map Id.toValue).any v.equals) :=
  meets_field h rfl

theorem meets_isId (h : subject.resolve path = .ok v) (id : Id) :
    meetsOption subject (Policy.isId path id) = .ok (v.equals id.toValue) :=
  meets_field h rfl

/-- Two conditions on fields that can be decided. -/
theorem meets_all_pair {c d : Condition} {a b : Bool} (hc : meets subject c = .ok a)
    (hd : meets subject d = .ok b) : meetsOption subject (some (.all [c, d])) = .ok (a && b) := by
  simp only [meetsOption, meets, meetsAll, hc]
  cases a
  · rfl
  · simp only [bind, Except.bind, if_true, hd]
    cases b <;> rfl

theorem any_equals_ids (h : ∀ id ∈ ids, id.isText = true) :
    (ids.map Id.toValue).any v.equals = true ↔ ∃ id ∈ ids, v = id.toValue := by
  rw [List.any_map, List.any_eq_true]
  exact exists_congr fun id => and_congr_right fun hid => v.equals_id (h id hid)

end Condition

/-! ## Names in the lists of the policy -/

/-- The users of a household are listed in one of the entries. -/
theorem UsersByHousehold.exists_entry {users : UsersByHousehold}
    {household id : Id} (h : id ∈ users.of household) : ∃ entry ∈ users, id ∈ entry.2 := by
  rw [UsersByHousehold.of] at h
  cases hfound : users.lookup household with
  | none => simp [hfound] at h
  | some ids =>
    rw [hfound] at h
    obtain ⟨before, after, rfl, _⟩ := List.lookup_eq_some_iff.1 hfound
    exact ⟨(household, ids), by simp, h⟩

namespace UserContext

variable {c : UserContext} {v : Value} {role : HouseholdRole}

theorem mem_households {id : Id} : id ∈ c.households ↔ ∃ m ∈ c.memberships, m.household = id :=
  List.mem_map

theorem mem_householdsAs {id : Id} :
    id ∈ c.householdsAs role ↔ ∃ m ∈ c.memberships, m.role = role ∧ m.household = id := by
  simp [householdsAs, and_assoc]

theorem inHouseholdAs_iff :
    c.InHouseholdAs role v ↔ ∃ id ∈ c.householdsAs role, v = id.toValue := by
  simp only [InHouseholdAs, mem_householdsAs]
  constructor
  · rintro ⟨m, hm, hrole, rfl⟩
    exact ⟨m.household, ⟨m, hm, hrole, rfl⟩, rfl⟩
  · rintro ⟨_, ⟨m, hm, hrole, rfl⟩, rfl⟩
    exact ⟨m, hm, hrole, rfl⟩

theorem inHousehold_iff : c.InHousehold v ↔ ∃ id ∈ c.households, v = id.toValue := by
  simp only [InHousehold, mem_households]
  constructor
  · rintro ⟨m, hm, rfl⟩
    exact ⟨m.household, ⟨m, hm, rfl⟩, rfl⟩
  · rintro ⟨_, ⟨m, hm, rfl⟩, rfl⟩
    exact ⟨m, hm, rfl⟩

/-- Those who take part in a household without running it are its members and its AI users. -/
theorem participating_iff :
    (∃ id ∈ c.participating, v = id.toValue) ↔
      c.InHouseholdAs .member v ∨ c.InHouseholdAs .ai v := by
  simp only [inHouseholdAs_iff, participating, Policy.distinct, List.mem_eraseDups, List.mem_append,
    or_and_right, exists_or]

/-- A role in a household is one of three. -/
theorem inHousehold_iff_as :
    c.InHousehold v ↔
      c.InHouseholdAs .manager v ∨ c.InHouseholdAs .member v ∨ c.InHouseholdAs .ai v := by
  constructor
  · rintro ⟨m, hm, hv⟩
    cases hrole : m.role with
    | manager => exact .inl ⟨m, hm, hrole, hv⟩
    | member => exact .inr (.inl ⟨m, hm, hrole, hv⟩)
    | ai => exact .inr (.inr ⟨m, hm, hrole, hv⟩)
  · rintro (⟨m, hm, _, hv⟩ | ⟨m, hm, _, hv⟩ | ⟨m, hm, _, hv⟩) <;> exact ⟨m, hm, hv⟩

theorem runsAi_iff : c.RunsAi v ↔ ∃ id ∈ c.manageableAi, v = id.toValue := by
  simp only [RunsAi, manageableAi, Policy.distinct, List.mem_eraseDups, List.mem_flatMap,
    mem_householdsAs]
  constructor
  · rintro ⟨m, hm, hrole, id, hid, rfl⟩
    exact ⟨id, ⟨m.household, ⟨m, hm, hrole, rfl⟩, hid⟩, rfl⟩
  · rintro ⟨id, ⟨_, ⟨m, hm, hrole, rfl⟩, hid⟩, rfl⟩
    exact ⟨m, hm, hrole, id, hid, rfl⟩

theorem manages_iff : c.Manages v ↔ ∃ id ∈ Policy.distinct c.managed, v = id.toValue := by
  simp [Manages, Policy.distinct]

theorem visibleUsers_iff :
    (∃ id ∈ c.visibleUsers, v = id.toValue) ↔ v = c.user.toValue ∨ c.SharesHousehold v := by
  simp only [visibleUsers, Policy.distinct, List.mem_eraseDups, List.mem_cons, List.mem_flatMap,
    mem_households, or_and_right, exists_or, exists_eq_left, SharesHousehold]
  refine or_congr_right ?_
  constructor
  · rintro ⟨id, ⟨_, ⟨m, hm, rfl⟩, hid⟩, rfl⟩
    exact ⟨m, hm, id, hid, rfl⟩
  · rintro ⟨m, hm, id, hid, rfl⟩
    exact ⟨id, ⟨m.household, ⟨m, hm, rfl⟩, hid⟩, rfl⟩

theorem isPureAi_iff : c.isPureAi = true ↔ c.OnlyAi := by
  simp [isPureAi, OnlyAi]

/-- A user who is only ever an AI user has no other role anywhere. -/
theorem OnlyAi.not_inHouseholdAs (h : c.OnlyAi) (hrole : role ≠ .ai) : ¬c.InHouseholdAs role v :=
  fun ⟨m, hm, hm', _⟩ => hrole (hm' ▸ h.2 m hm)

/-! ### Names that are texts -/

namespace HasTextIds

variable (hc : c.HasTextIds)
include hc

theorem households : ∀ id ∈ c.households, id.isText = true := by
  intro id hid
  obtain ⟨m, hm, rfl⟩ := mem_households.1 hid
  exact hc.memberships m hm

theorem householdsAs : ∀ id ∈ c.householdsAs role, id.isText = true := by
  intro id hid
  obtain ⟨m, hm, _, rfl⟩ := mem_householdsAs.1 hid
  exact hc.memberships m hm

theorem participating : ∀ id ∈ c.participating, id.isText = true := by
  intro id hid
  rw [UserContext.participating, Policy.distinct, List.mem_eraseDups, List.mem_append] at hid
  exact hid.elim (hc.householdsAs id) (hc.householdsAs id)

theorem distinctManaged : ∀ id ∈ Policy.distinct c.managed, id.isText = true := by
  intro id hid
  rw [Policy.distinct, List.mem_eraseDups] at hid
  exact hc.managed id hid

theorem manageableAi : ∀ id ∈ c.manageableAi, id.isText = true := by
  intro id hid
  rw [UserContext.manageableAi, Policy.distinct, List.mem_eraseDups, List.mem_flatMap] at hid
  obtain ⟨_, _, hid⟩ := hid
  obtain ⟨entry, hentry, hid⟩ := UsersByHousehold.exists_entry hid
  exact hc.aiUsers entry hentry id hid

theorem visibleUsers : ∀ id ∈ c.visibleUsers, id.isText = true := by
  intro id hid
  rw [UserContext.visibleUsers, Policy.distinct, List.mem_eraseDups, List.mem_cons,
    List.mem_flatMap] at hid
  rcases hid with rfl | ⟨_, _, hid⟩
  · exact hc.user
  · obtain ⟨entry, hentry, hid⟩ := UsersByHousehold.exists_entry hid
    exact hc.members entry hentry id hid

end HasTextIds

/-! ## The rules, one by one -/

theorem any_onlyIf (p : Rule → Bool) (b : Bool) (r : Rule) :
    (Policy.onlyIf b r).any p = (b && p r) := by
  cases b <;> simp [Policy.onlyIf]

section Rules

variable {action : Action} {type : SubjectType} {subject : Value} {condition : Option Condition}
  {actions : List Action} {subjects : List SubjectType} {b : Bool}

theorem decides_can (h : Condition.meetsOption subject condition = .ok b) :
    RuleSet.decides action type (some subject) (.can actions subjects condition) =
      ((Rule.can actions subjects).appliesTo action type && b) := by
  change (_ && (Condition.meetsOption subject condition).toOption.getD false) = _
  rw [h]
  rfl

theorem decides_cannot (h : Condition.meetsOption subject condition = .ok b) :
    RuleSet.decides action type (some subject) (.cannot actions subjects condition) =
      ((Rule.can actions subjects).appliesTo action type && b) := by
  change (_ && (Condition.meetsOption subject condition).toOption.getD false) = _
  rw [h]
  rfl

/-- A rule about some of the names of a list matches if its field is one of them. -/
theorem decides_oneOf {path : String} {v : Value} {ids : List Id}
    (h : subject.resolve path = .ok v) (hids : ∀ id ∈ ids, id.isText = true) :
    RuleSet.decides action type (some subject)
        (.can actions subjects (Policy.oneOf path ids)) = true ↔
      (Rule.can actions subjects).appliesTo action type ∧ ∃ id ∈ ids, v = id.toValue := by
  rw [decides_can (Condition.meets_oneOf h), Bool.and_eq_true, Condition.any_equals_ids hids]

/-- That a list is not empty need not be asked beside the question for a name in it. -/
theorem any_onlyIf_oneOf {path : String} {v : Value} {ids : List Id}
    (h : subject.resolve path = .ok v) (hids : ∀ id ∈ ids, id.isText = true) :
    (Policy.onlyIf (!ids.isEmpty) (.can actions subjects (Policy.oneOf path ids))).any
        (RuleSet.decides action type (some subject)) = true ↔
      (Rule.can actions subjects).appliesTo action type ∧ ∃ id ∈ ids, v = id.toValue := by
  rw [any_onlyIf, Bool.and_eq_true, decides_oneOf h hids]
  refine and_iff_right_of_imp fun ⟨_, id, hid, _⟩ => ?_
  cases ids with
  | nil => cases hid
  | cons => rfl

theorem decides_isId {path : String} {v : Value} {id : Id} (h : subject.resolve path = .ok v)
    (hid : id.isText = true) :
    RuleSet.decides action type (some subject)
        (.can actions subjects (Policy.isId path id)) = true ↔
      (Rule.can actions subjects).appliesTo action type ∧ v = id.toValue := by
  rw [decides_can (Condition.meets_isId h id), Bool.and_eq_true, v.equals_id hid]

/-- A rule about what is in some households and meets one condition more. -/
theorem any_onlyIf_pair {household : Value} {ids : List Id} {other : Condition}
    (h : subject.resolve "household_id" = .ok household) (hids : ∀ id ∈ ids, id.isText = true)
    (hother : other.meets subject = .ok b) :
    (Policy.onlyIf (!ids.isEmpty) (.can actions subjects
        (some (.all [.field "household_id" .isIn (.list (ids.map Id.toValue)), other])))).any
        (RuleSet.decides action type (some subject)) = true ↔
      (Rule.can actions subjects).appliesTo action type ∧
        (∃ id ∈ ids, household = id.toValue) ∧ b = true := by
  rw [any_onlyIf, Bool.and_eq_true,
    decides_can (Condition.meets_all_pair (Condition.meets_field h rfl) hother),
    Bool.and_eq_true, Bool.and_eq_true, Condition.any_equals_ids hids]
  refine and_iff_right_of_imp fun ⟨_, ⟨id, hid, _⟩, _⟩ => ?_
  cases ids with
  | nil => cases hid
  | cons => rfl

theorem forall_mem_onlyIf {P : Rule → Prop} {r : Rule} :
    (∀ s ∈ Policy.onlyIf b r, P s) ↔ (b = true → P r) := by
  cases b <;> simp [Policy.onlyIf]

end Rules

section Compiled

variable {f : PolicyFields} {subject : Value} {action : Action} {type : SubjectType}

/-- The rules that allow. -/
def allowRules (c : UserContext) : List Rule := c.userRules ++ c.householdRules ++ c.visibilityRules

theorem compile_eq : c.compile = c.allowRules ++ c.aiRules := rfl

theorem inverted_allowRules : ∀ r ∈ c.allowRules, r.inverted = false := by
  simp only [allowRules, userRules, householdRules, visibilityRules, List.forall_mem_append,
    forall_mem_onlyIf, List.forall_mem_cons]
  simp [Rule.can]

theorem inverted_aiRules : ∀ r ∈ c.aiRules, r.inverted = true := by
  rw [aiRules]
  split <;> simp [Rule.cannot]

/-- The conditions of the policy can be decided on a subject that can be read. -/
theorem decided_compile (hf : f.Of subject) :
    ∀ r ∈ c.compile, ∃ b, Condition.meetsOption subject r.condition = .ok b := by
  have hOneOf {path : String} {v : Value} (h : subject.resolve path = .ok v) (ids : List Id) :
      ∃ b, Condition.meetsOption subject (Policy.oneOf path ids) = .ok b :=
    ⟨_, Condition.meets_oneOf h⟩
  have hIsId : ∃ b, Condition.meetsOption subject (Policy.isId "id" c.user) = .ok b :=
    ⟨_, Condition.meets_isId hf.id c.user⟩
  have hNone : ∃ b, Condition.meetsOption subject none = .ok b := ⟨true, rfl⟩
  simp only [compile, userRules, householdRules, visibilityRules, List.forall_mem_append,
    forall_mem_onlyIf, List.forall_mem_cons]
  refine ⟨⟨⟨⟨⟨⟨hIsId, hNone, hIsId, List.forall_mem_nil _⟩, fun _ => hOneOf hf.id _⟩,
    fun _ => hOneOf hf.id _⟩, ?_⟩, fun _ => hOneOf hf.id _⟩, ?_⟩
  · refine ⟨⟨⟨⟨⟨⟨fun _ => hOneOf hf.id _, fun _ => hOneOf hf.id _⟩, fun _ => ?_⟩,
      fun _ => hOneOf hf.household _⟩, fun _ => hOneOf hf.household _⟩,
      fun _ => hOneOf hf.household _⟩, fun _ => ?_⟩
    · exact ⟨_, Condition.meets_all_pair (Condition.meets_field hf.household rfl)
        (Condition.meets_field hf.role rfl)⟩
    · exact ⟨_, Condition.meets_all_pair (Condition.meets_field hf.household rfl)
        (Condition.meets_field hf.author rfl)⟩
  · rw [aiRules]
    split
    · simp only [List.forall_mem_cons]
      exact ⟨⟨_, Condition.meets_field hf.id rfl⟩, hNone, List.forall_mem_nil _⟩
    · exact List.forall_mem_nil _

/-- Which rules about users and the making of households match. -/
theorem any_userRules (hc : c.HasTextIds) (hf : f.Of subject) :
    c.userRules.any (RuleSet.decides action type (some subject)) = true ↔
      (Rule.can [.read] [.user]).appliesTo action type ∧ f.id = c.user.toValue ∨
      (Rule.can [.create] [.household]).appliesTo action type ∨
      (Rule.can [.update] [.user]).appliesTo action type ∧
        (f.id = c.user.toValue ∨ ¬c.OnlyAi ∧ c.Manages f.id ∨ c.RunsAi f.id) := by
  have hcreate : RuleSet.decides action type (some subject) (.can [.create] [.household]) = true ↔
      (Rule.can [.create] [.household]).appliesTo action type := by
    rw [decides_can (b := true) rfl, Bool.and_true]
  have hmanaged : (Policy.onlyIf (!c.managed.isEmpty && !c.isPureAi) (.can [.update] [.user]
        (Policy.oneOf "id" (Policy.distinct c.managed)))).any
        (RuleSet.decides action type (some subject)) = true ↔
      (Rule.can [.update] [.user]).appliesTo action type ∧ ¬c.OnlyAi ∧ c.Manages f.id := by
    rw [any_onlyIf, Bool.and_eq_true, Bool.and_eq_true, Bool.not_eq_true', Bool.not_eq_true',
      ← Bool.not_eq_true c.isPureAi, isPureAi_iff, decides_oneOf hf.id hc.distinctManaged,
      ← manages_iff]
    have hmanages : c.Manages f.id → c.managed.isEmpty = false := by
      rintro ⟨id, hid, _⟩
      exact Bool.eq_false_iff.2 fun hnil => List.not_mem_nil (List.isEmpty_iff.1 hnil ▸ hid)
    exact ⟨fun ⟨⟨_, honly⟩, habout, hm⟩ => ⟨habout, honly, hm⟩,
      fun ⟨habout, honly, hm⟩ => ⟨⟨hmanages hm, honly⟩, habout, hm⟩⟩
  simp only [userRules, List.any_append, Bool.or_eq_true, List.any_cons, List.any_nil,
    Bool.or_false, decides_isId hf.id hc.user, hcreate, hmanaged,
    any_onlyIf_oneOf hf.id hc.manageableAi, ← runsAi_iff, and_or_left, or_assoc]

/-- Which rules about households match: each line is a rule, with what it is about and what it
    asks. -/
theorem any_householdRules (hc : c.HasTextIds) (hf : f.Of subject) :
    c.householdRules.any (RuleSet.decides action type (some subject)) = true ↔
      (Rule.can [.manage] [.household]).appliesTo action type ∧ c.InHouseholdAs .manager f.id ∨
      (Rule.can [.read] [.household]).appliesTo action type ∧
        (c.InHouseholdAs .member f.id ∨ c.InHouseholdAs .ai f.id) ∨
      (Rule.can [.manage] [.householdMember]).appliesTo action type ∧
        c.InHouseholdAs .manager f.household ∧ f.role ≠ .text "manager" ∨
      (Rule.can [.read] [.householdMember]).appliesTo action type ∧ c.InHousehold f.household ∨
      (Rule.can [.manage] [.message]).appliesTo action type ∧
        c.InHouseholdAs .manager f.household ∨
      (Rule.can [.create, .read] [.message]).appliesTo action type ∧
        (c.InHouseholdAs .member f.household ∨ c.InHouseholdAs .ai f.household) ∨
      (Rule.can [.update, .delete] [.message]).appliesTo action type ∧
        c.InHouseholdAs .member f.household ∧ f.author = c.user.toValue := by
  have hrole : (!f.role.equals (.text HouseholdRole.manager.token)) = true ↔
      f.role ≠ .text "manager" := by
    rw [Bool.not_eq_true', ← Bool.not_eq_true, Value.equals_text]
    rfl
  have hmeetsRole : (Condition.field "role" .ne (.text HouseholdRole.manager.token)).meets subject =
      .ok (!f.role.equals (.text HouseholdRole.manager.token)) :=
    Condition.meets_field hf.role rfl
  have hmeetsAuthor : (Condition.field "user_id" .eq c.user.toValue).meets subject =
      .ok (f.author.equals c.user.toValue) :=
    Condition.meets_field hf.author rfl
  simp only [householdRules, List.any_append, Bool.or_eq_true,
    any_onlyIf_oneOf hf.id hc.householdsAs, any_onlyIf_oneOf hf.id hc.participating,
    any_onlyIf_oneOf hf.household hc.householdsAs, any_onlyIf_oneOf hf.household hc.households,
    any_onlyIf_oneOf hf.household hc.participating,
    any_onlyIf_pair hf.household hc.householdsAs hmeetsRole, hrole,
    any_onlyIf_pair hf.household hc.householdsAs hmeetsAuthor, f.author.equals_id hc.user,
    ← inHouseholdAs_iff, ← inHousehold_iff, participating_iff, or_assoc]

/-- Whether the rule about the users of common households matches. -/
theorem any_visibilityRules (hc : c.HasTextIds) (hf : f.Of subject) :
    c.visibilityRules.any (RuleSet.decides action type (some subject)) = true ↔
      (Rule.can [.read] [.user]).appliesTo action type ∧ c.memberships ≠ [] ∧
        (f.id = c.user.toValue ∨ c.SharesHousehold f.id) := by
  rw [visibilityRules, any_onlyIf, Bool.and_eq_true, decides_oneOf hf.id hc.visibleUsers,
    visibleUsers_iff, Bool.not_eq_true', List.isEmpty_eq_false_iff, households, Ne,
    List.map_eq_nil_iff, and_left_comm]

/-- Whether one of the rules that deny matches. -/
theorem any_aiRules (hc : c.HasTextIds) (hf : f.Of subject) :
    c.aiRules.any (RuleSet.decides action type (some subject)) = true ↔
      c.OnlyAi ∧ ((Rule.can [.update] [.user]).appliesTo action type ∧ f.id ≠ c.user.toValue ∨
        (Rule.can [.create, .update, .delete] [.householdMember]).appliesTo action type) := by
  have hmeets : Condition.meetsOption subject (some (.field "id" .ne c.user.toValue)) =
      .ok (!f.id.equals c.user.toValue) :=
    Condition.meets_field hf.id rfl
  have hne : (!f.id.equals c.user.toValue) = true ↔ f.id ≠ c.user.toValue := by
    rw [Bool.not_eq_true', ← Bool.not_eq_true, f.id.equals_id hc.user]
  have hmembers : RuleSet.decides action type (some subject)
      (.cannot [.create, .update, .delete] [.householdMember]) = true ↔
        (Rule.can [.create, .update, .delete] [.householdMember]).appliesTo action type := by
    rw [decides_cannot (b := true) rfl, Bool.and_true]
  rw [aiRules, ← isPureAi_iff]
  split
  · next h =>
    simp only [List.any_cons, List.any_nil, Bool.or_false, Bool.or_eq_true, decides_cannot hmeets,
      Bool.and_eq_true, hne, hmembers, h, true_and]
  · next h => simp [h]

/-- Whether the compiled rules say yes: some rule that allows matches and none that denies. -/
theorem can_compile_eq (hf : f.Of subject) :
    c.compile.can action type (some subject) =
      .ok (c.allowRules.any (RuleSet.decides action type (some subject)) &&
        !c.aiRules.any (RuleSet.decides action type (some subject))) :=
  RuleSet.can_allow_deny inverted_allowRules inverted_aiRules fun r hr _ =>
    decided_compile hf r hr

/-- The compiled rules of a user decide every question about a subject that can be read, and
    permit what the policy does. -/
theorem can_compile (hc : c.HasTextIds) (hf : f.Of subject) (action : Action)
    (type : SubjectType) :
    ∃ b, c.compile.can action type (some subject) = .ok b ∧
      (b = true ↔ c.Permits f type action) := by
  refine ⟨_, can_compile_eq hf, ?_⟩
  rw [Bool.and_eq_true, Bool.not_eq_true', ← Bool.not_eq_true, allowRules, List.any_append,
    List.any_append, Bool.or_eq_true, Bool.or_eq_true, any_userRules hc hf,
    any_householdRules hc hf, any_visibilityRules hc hf, any_aiRules hc hf]
  have hshares : c.SharesHousehold f.id → c.memberships ≠ [] :=
    fun ⟨m, hm, _⟩ => List.ne_nil_of_mem hm
  have honlyAi : c.OnlyAi → ¬c.InHouseholdAs .manager f.household :=
    fun h => h.not_inHouseholdAs (by decide)
  have hid := inHousehold_iff_as (c := c) (v := f.id)
  have hhousehold := inHousehold_iff_as (c := c) (v := f.household)
  -- What is left are the questions that the policy answers in other words than the rules.
  cases type <;> cases action <;>
    simp only [Permits, Rule.appliesTo, Rule.can, List.contains_cons, List.contains_nil] <;>
    simp
  case user.read =>
    exact ⟨fun h => h.elim .inl And.right, Or.imp_right fun h => ⟨hshares h, .inr h⟩⟩
  case user.update => by_cases h : c.OnlyAi <;> simp +contextual [h]
  case household.read => exact hid.symm
  case householdMember.read => exact fun h _ => hhousehold.2 (.inl h)
  case message.create | message.read => exact hhousehold.symm
  -- What is denied to an AI user here is nothing that the rules before allow.
  all_goals exact fun h _ honly => honlyAi honly h

end Compiled

/-- An AI user of one household who is a member of another one may change their own message
    there. -/
theorem can_compile_own_message :
    let c : UserContext :=
      { user := .text "u", memberships := [⟨.text "g", .ai⟩, ⟨.text "h", .member⟩] }
    let message := Value.record [("household_id", .text "h"), ("user_id", .text "u")]
    let f : PolicyFields := ⟨.absent, .text "h", .absent, .text "u"⟩
    c.HasTextIds ∧ f.Of message ∧
      (∃ b, c.compile.can .update .message (some message) = .ok b ∧
        (b = true ↔ c.Permits f .message .update)) ∧
      c.Permits f .message .update := by
  intro c message f
  have hc : c.HasTextIds := by constructor <;> decide
  have hf : f.Of message := ⟨rfl, rfl, rfl, rfl⟩
  exact ⟨hc, hf, can_compile hc hf .update .message,
    .inr ⟨⟨⟨.text "h", .member⟩, by simp [c], rfl, rfl⟩, rfl⟩⟩

end UserContext

end HouseholdAccess
