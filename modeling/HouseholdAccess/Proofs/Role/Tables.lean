import HouseholdAccess.Proofs.Role.Context

/-!
# From tables to decisions

What a user may do as the rows of the store have it, without contexts and without
rules: who belongs to a household with whom (`World.Belongs`), in which roles
(`World.BelongsAs`), and who manages whom. A rule set that decides accordingly is
one that the tables *govern* (`World.Governs`).

A context that can be read says what the rows say (`World.inHousehold_iff` and the
like), so that the tables govern what is compiled from it (`World.governs_compile`).
It can be read if no read fails that is made, and the roles in the rows of the user
are known (`World.exists_readContext_iff`).
-/

namespace HouseholdAccess

/-! ## Decisions -/

/-- The rule set decides the question, and says yes if and only if `P` holds. -/
def RuleSet.PermitsIff (rules : RuleSet) (action : Action) (type : SubjectType) (subject : Value)
    (P : Prop) : Prop :=
  ∃ b, rules.can action type (some subject) = .ok b ∧ (b = true ↔ P)

namespace UserContext

variable {c : UserContext} {f : PolicyFields} {subject : Value} {action : Action}
  {type : SubjectType}

/-- The compiled rules say yes if one that allows matches, and none that denies. -/
theorem permitsIff_of_any {P : Prop} (hf : f.Of subject)
    (h : ((c.userRules.any (RuleSet.decides action type (some subject)) = true ∨
        c.householdRules.any (RuleSet.decides action type (some subject)) = true) ∨
        c.visibilityRules.any (RuleSet.decides action type (some subject)) = true) ∧
        ¬c.aiRules.any (RuleSet.decides action type (some subject)) = true ↔ P) :
    c.compile.PermitsIff action type subject P := by
  refine ⟨_, can_compile_eq hf, Iff.trans ?_ h⟩
  rw [Bool.and_eq_true, Bool.not_eq_true', ← Bool.not_eq_true, allowRules, List.any_append,
    List.any_append, Bool.or_eq_true, Bool.or_eq_true]

variable (hc : c.HasTextIds) (hf : f.Of subject)
include hc hf

/-- Users who may be seen. -/
theorem permitsIff_readUser : c.compile.PermitsIff .read .user subject
    (f.id = c.user.toValue ∨ c.SharesHousehold f.id) := by
  have hshares : c.SharesHousehold f.id → ¬c.memberships = [] :=
    fun ⟨m, hm, _⟩ => List.ne_nil_of_mem hm
  refine permitsIff_of_any hf ?_
  rw [any_userRules hc hf, any_householdRules hc hf, any_visibilityRules hc hf, any_aiRules hc hf]
  simp only [Rule.appliesTo, Rule.can, List.contains_cons, List.contains_nil]
  simp
  exact ⟨fun h => h.elim .inl And.right, Or.imp_right fun h => ⟨hshares h, .inr h⟩⟩

/-- Users who may be changed. -/
theorem permitsIff_updateUser : c.compile.PermitsIff .update .user subject
    (f.id = c.user.toValue ∨ ¬c.OnlyAi ∧ (c.Manages f.id ∨ c.RunsAi f.id)) := by
  refine permitsIff_of_any hf ?_
  rw [any_userRules hc hf, any_householdRules hc hf, any_visibilityRules hc hf, any_aiRules hc hf]
  simp only [Rule.appliesTo, Rule.can, List.contains_cons, List.contains_nil]
  by_cases h : c.OnlyAi <;> simp +contextual [h]

/-- Messages that may be changed and deleted. -/
theorem permitsIff_changeMessage (haction : action = .update ∨ action = .delete) :
    c.compile.PermitsIff action .message subject (c.InHouseholdAs .manager f.household ∨
      c.InHouseholdAs .member f.household ∧ f.author = c.user.toValue) := by
  refine permitsIff_of_any hf ?_
  rw [any_userRules hc hf, any_householdRules hc hf, any_visibilityRules hc hf, any_aiRules hc hf]
  rcases haction with rfl | rfl <;>
    simp only [Rule.appliesTo, Rule.can, List.contains_cons, List.contains_nil] <;> simp

/-- Households that may be seen. -/
theorem permitsIff_readHousehold :
    c.compile.PermitsIff .read .household subject (c.InHousehold f.id) := by
  refine permitsIff_of_any hf ?_
  rw [any_userRules hc hf, any_householdRules hc hf, any_visibilityRules hc hf, any_aiRules hc hf]
  simp only [Rule.appliesTo, Rule.can, List.contains_cons, List.contains_nil]
  simp
  exact inHousehold_iff_as.symm

end UserContext

/-! ## Rows -/

namespace Id

theorem toValue_inj {a b : Id} : a.toValue = b.toValue ↔ a = b := by
  refine ⟨fun h => ?_, congrArg toValue⟩
  cases a <;> cases b <;> cases h <;> rfl

end Id

namespace HouseholdRole

/-- A value stands for a role if it is its token. -/
theorem ofValue_eq_ok {v : Value} {role : HouseholdRole} :
    ofValue v = .ok role ↔ v = .text role.token := by
  constructor
  · intro h
    cases v with
    | text s =>
      rw [ofValue] at h
      cases hfound : ofToken? s with
      | none =>
        rw [hfound] at h
        cases h
      | some r =>
        rw [hfound] at h
        cases h
        have htoken := List.find?_some hfound
        rw [beq_iff_eq] at htoken
        rw [htoken]
    | _ => cases h
  · rintro rfl
    cases role <;> rfl

end HouseholdRole

/-- A record that names a role and a household is one that can be read. -/
theorem RoleRecord.named_eq_ok {r : RoleRecord} {m : Id × HouseholdRole} :
    (do
      let role ← r.readRole
      let household ← r.readHousehold
      return (household, role) : Except Failure (Id × HouseholdRole)) = .ok m ↔
      r.read = .ok ⟨m.1, m.2⟩ := by
  rw [RoleRecord.read]
  cases r.readRole with
  | error f => cases r.readHousehold <;> exact ⟨nofun, nofun⟩
  | ok role =>
    cases r.readHousehold with
    | error f => exact ⟨nofun, nofun⟩
    | ok household =>
      constructor <;>
      · intro h
        cases h
        rfl

/-- The users that are listed for a household. -/
theorem UsersByHousehold.of_map {names : List Id} {users : Id → List Id} {household : Id}
    (h : household ∈ names) :
    UsersByHousehold.of (names.map fun name => (name, users name)) household = users household := by
  rw [UsersByHousehold.of]
  induction names with
  | nil => cases h
  | cons name rest ih =>
    rw [List.map_cons, List.lookup_cons]
    by_cases hname : household = name
    · rw [hname, beq_self_eq_true]
      rfl
    · rw [beq_eq_false_iff_ne.2 hname]
      exact ih ((List.mem_cons.1 h).resolve_left hname)

namespace World

variable {w : World} {u v household : Id} {role : HouseholdRole}

/-- A row puts the user into the household. -/
def Belongs (w : World) (u household : Id) : Prop :=
  ∃ row ∈ w.rows, row.user = u ∧ row.household = household

/-- A row puts the user into the household in the role. -/
def BelongsAs (w : World) (role : HouseholdRole) (u household : Id) : Prop :=
  ∃ row ∈ w.rows, row.user = u ∧ row.household = household ∧ row.role = .text role.token

/-- There are rows of the user, and all of them are AI. -/
def OnlyAi (w : World) (u : Id) : Prop :=
  (∃ row ∈ w.rows, row.user = u) ∧
    ∀ row ∈ w.rows, row.user = u → row.role = .text HouseholdRole.ai.token

/-- The roles in the rows of the user are known. -/
def KnowsRoles (w : World) (u : Id) : Prop :=
  ∀ row ∈ w.rows, row.user = u → ∃ role : HouseholdRole, row.role = .text role.token

/-- A read fails that is made for the context of the user: one of the members of a household that
    the user belongs to, or one of the AI users of a household that the user runs, may fail while
    those of other households do not. -/
inductive ReadFails (w : World) (u : Id) : Prop
  | roles : w.failureOf .roles (some u) ≠ none → ReadFails w u
  | managed : w.failureOf .managed (some u) ≠ none → ReadFails w u
  | members (household : Id) : w.Belongs u household →
    w.failureOf .members (some household) ≠ none → ReadFails w u
  | aiUsers (household : Id) : w.BelongsAs .manager u household →
    w.failureOf .aiUsers (some household) ≠ none → ReadFails w u

/-- The rule set decides about users, messages and households as the rows have it, whatever else
    the subjects are. -/
structure Governs (w : World) (u : Id) (rules : RuleSet) : Prop where
  readUser : ∀ {f : PolicyFields} {subject : Value} (v : Id), f.Of subject → f.id = v.toValue →
    rules.PermitsIff .read .user subject
      (v = u ∨ ∃ household, w.Belongs u household ∧ w.Belongs v household)
  updateUser : ∀ {f : PolicyFields} {subject : Value} (v : Id), f.Of subject → f.id = v.toValue →
    rules.PermitsIff .update .user subject
      (v = u ∨ ¬w.OnlyAi u ∧ ((v, u) ∈ w.managers ∨
        ∃ household, w.BelongsAs .manager u household ∧ w.BelongsAs .ai v household))
  changeMessage : ∀ {f : PolicyFields} {subject : Value} {action : Action} (household author : Id),
    f.Of subject → f.household = household.toValue → f.author = author.toValue →
    action = .update ∨ action = .delete → rules.PermitsIff action .message subject
      (w.BelongsAs .manager u household ∨ w.BelongsAs .member u household ∧ author = u)
  readHousehold : ∀ {f : PolicyFields} {subject : Value} (household : Id), f.Of subject →
    f.id = household.toValue →
    rules.PermitsIff .read .household subject (w.Belongs u household)

/-! ## Contexts that say what the rows say -/

theorem BelongsAs.belongs (h : w.BelongsAs role u household) : w.Belongs u household := by
  obtain ⟨row, hrow, huser, hhousehold, -⟩ := h
  exact ⟨row, hrow, huser, hhousehold⟩

theorem attempt_eq_ok {α : Type} {p : Point} {name : Id} {a b : α} :
    w.attempt p name a = .ok b ↔ w.failureOf p (some name) = none ∧ b = a := by
  rw [attempt]
  cases w.failureOf p (some name) with
  | none => simp [eq_comm]
  | some f => simp

/-- The role of a record is the one of its row, if that is known. -/
theorem readRole_record_eq_ok {row : MemberRow} :
    (w.record row).readRole = .ok role ↔ row.role = .text role.token := by
  have hknown (v : Value) : (HouseholdRole.ofValue v).mapError Failure.unknownToken = .ok role ↔
      v = .text role.token := by
    rw [← HouseholdRole.ofValue_eq_ok]
    cases HouseholdRole.ofValue v <;> simp [Except.mapError]
  rw [RoleRecord.readRole, record]
  split
  · next hnone =>
    -- What a table writes for want of a role is no role.
    simp only at hnone
    split at hnone
    · next s hrole =>
      split at hnone
      · next hs =>
        rw [hrole, hs]
        cases role <;> simp [HouseholdRole.token, noRole]
      · cases hnone
    · cases hnone
  · next v hsome =>
    simp only at hsome
    split at hsome
    · next s hrole =>
      split at hsome
      · cases hsome
      · cases hsome
        rw [hrole]
        exact hknown _
    · cases hsome
      exact hknown _

/-- The context of a user is made of what the store lists. -/
theorem exists_of_contextOf {c : UserContext} (hc : w.contextOf u = .ok c) :
    ∃ households managing memberships,
    (w.recordsOf u).mapM RoleRecord.readHousehold = .ok households ∧
    UserContext.managedHouseholds (w.recordsOf u) = .ok managing ∧
    (w.recordsOf u).mapM RoleRecord.read = .ok memberships ∧
    c = { user := u, memberships, managed := w.managedBy u,
          aiUsers := managing.map fun household => (household, w.aiUsersOf household),
          members := (Policy.distinct households).map fun household =>
            (household, w.membersOf household) } := by
  rw [contextOf] at hc
  obtain ⟨households, hhouseholds, hc⟩ := exists_of_bind_eq_ok hc
  obtain ⟨managing, hmanaging, hc⟩ := exists_of_bind_eq_ok hc
  obtain ⟨memberships, hmemberships, hc⟩ := exists_of_bind_eq_ok hc
  exact ⟨households, managing, memberships, hhouseholds, hmanaging, hmemberships,
    (Except.ok.inj hc).symm⟩

theorem user_of_contextOf {c : UserContext} (hc : w.contextOf u = .ok c) : c.user = u := by
  obtain ⟨_, _, _, -, -, -, rfl⟩ := exists_of_contextOf hc
  rfl

variable (hw : w.HasTextNames)
include hw

theorem readHousehold_record {row : MemberRow} (hrow : row ∈ w.rows) :
    (w.record row).readHousehold = .ok row.household :=
  congrArg Except.ok (storeName_of_isText (hw.rows row hrow).1)

/-- What the record of a row is read as. -/
theorem read_record_eq_ok {row : MemberRow} (hrow : row ∈ w.rows) {m : Membership} :
    (w.record row).read = .ok m ↔ m.household = row.household ∧ row.role = .text m.role.token := by
  rw [RoleRecord.read, readHousehold_record hw hrow, ← readRole_record_eq_ok (w := w)]
  cases hrole : (w.record row).readRole with
  | error f => exact ⟨nofun, nofun⟩
  | ok role =>
    constructor
    · intro h
      cases h
      exact ⟨rfl, rfl⟩
    · rintro ⟨h, hrole⟩
      cases hrole
      rw [← h]
      rfl

variable (hu : u.isText = true)
include hu

/-- The records of a user are those of the rows of the user. -/
theorem mem_recordsOf {r : RoleRecord} :
    r ∈ w.recordsOf u ↔ ∃ row ∈ w.rows, row.user = u ∧ w.record row = r := by
  rw [recordsOf, List.mem_map]
  constructor
  · rintro ⟨row, hrow, hr⟩
    obtain ⟨hmem, hsame⟩ := List.mem_filter.1 hrow
    exact ⟨row, hmem, (sameName_iff (hw.rows row hmem).2 hu).1 hsame, hr⟩
  · rintro ⟨row, hmem, huser, hr⟩
    exact ⟨row, List.mem_filter.2 ⟨hmem, (sameName_iff (hw.rows row hmem).2 hu).2 huser⟩, hr⟩

/-- What the records of a user are read as, one by one. -/
theorem mem_read_iff {α : Type} {read : RoleRecord → Except Failure α} {items : List α}
    (h : (w.recordsOf u).mapM read = .ok items) {item : α} :
    item ∈ items ↔ ∃ row ∈ w.rows, row.user = u ∧ read (w.record row) = .ok item := by
  constructor
  · intro hmem
    obtain ⟨r, hr, hread⟩ := exists_of_mapM_eq_ok h item hmem
    obtain ⟨row, hrow, huser, rfl⟩ := (mem_recordsOf hw hu).1 hr
    exact ⟨row, hrow, huser, hread⟩
  · rintro ⟨row, hrow, huser, hread⟩
    obtain ⟨item', hmem, hread'⟩ := exists_mem_of_mapM_eq_ok h (w.record row)
      ((mem_recordsOf hw hu).2 ⟨row, hrow, huser, rfl⟩)
    rw [hread] at hread'
    cases hread'
    exact hmem

/-- The households in the records of a user are those that the user belongs to. -/
theorem mem_households {households : List Id}
    (h : (w.recordsOf u).mapM RoleRecord.readHousehold = .ok households) :
    household ∈ households ↔ w.Belongs u household := by
  rw [mem_read_iff hw hu h, Belongs]
  refine exists_congr fun row => and_congr_right fun hrow => and_congr_right fun _ => ?_
  rw [readHousehold_record hw hrow, Except.ok.injEq]

/-- The memberships in the records of a user are those in the rows of the user. -/
theorem mem_memberships {memberships : List Membership}
    (h : (w.recordsOf u).mapM RoleRecord.read = .ok memberships) {m : Membership} :
    m ∈ memberships ↔ w.BelongsAs m.role u m.household := by
  rw [mem_read_iff hw hu h, BelongsAs]
  refine exists_congr fun row => and_congr_right fun hrow => and_congr_right fun _ => ?_
  rw [read_record_eq_ok hw hrow, eq_comm]

/-- The households that the records of a user name as run by the user. -/
theorem mem_managedHouseholds {managing : List Id}
    (h : UserContext.managedHouseholds (w.recordsOf u) = .ok managing) :
    household ∈ managing ↔ w.BelongsAs .manager u household := by
  rw [UserContext.managedHouseholds] at h
  obtain ⟨named, hnamed, h⟩ := exists_of_bind_eq_ok h
  cases h
  have hmem {m : Id × HouseholdRole} : m ∈ named ↔ w.BelongsAs m.2 u m.1 := by
    rw [mem_read_iff hw hu hnamed, BelongsAs]
    refine exists_congr fun row => and_congr_right fun hrow => and_congr_right fun _ => ?_
    rw [RoleRecord.named_eq_ok, read_record_eq_ok hw hrow, eq_comm]
  simp only [Policy.distinct, List.mem_eraseDups, List.mem_map, List.mem_filter,
    decide_eq_true_iff, hmem]
  constructor
  · rintro ⟨m, ⟨hm, hrole⟩, rfl⟩
    exact hrole ▸ hm
  · exact fun h => ⟨(household, .manager), ⟨h, rfl⟩, rfl⟩

/-! ### The parts of a context -/

/-- Records that can be read name known roles. -/
theorem knowsRoles_of_read {memberships : List Membership}
    (h : (w.recordsOf u).mapM RoleRecord.read = .ok memberships) : w.KnowsRoles u := by
  intro row hrow huser
  obtain ⟨m, -, hread⟩ := exists_mem_of_mapM_eq_ok h (w.record row)
    ((mem_recordsOf hw hu).2 ⟨row, hrow, huser, rfl⟩)
  exact ⟨m.role, ((read_record_eq_ok hw hrow).1 hread).2⟩

omit hw hu in
theorem KnowsRoles.exists_belongsAs (hroles : w.KnowsRoles u) :
    w.Belongs u household ↔ ∃ role, w.BelongsAs role u household := by
  constructor
  · rintro ⟨row, hrow, huser, hhousehold⟩
    obtain ⟨role, hrole⟩ := hroles row hrow huser
    exact ⟨role, row, hrow, huser, hhousehold, hrole⟩
  · rintro ⟨role, h⟩
    exact h.belongs

/-! ### Contexts -/

variable {c : UserContext} (hc : w.contextOf u = .ok c)
include hc

theorem mem_memberships_context {m : Membership} :
    m ∈ c.memberships ↔ w.BelongsAs m.role u m.household := by
  obtain ⟨_, _, _, -, -, hmemberships, rfl⟩ := exists_of_contextOf hc
  exact mem_memberships hw hu hmemberships

theorem knowsRoles_of_contextOf : w.KnowsRoles u := by
  obtain ⟨_, _, _, -, -, hmemberships, -⟩ := exists_of_contextOf hc
  exact knowsRoles_of_read hw hu hmemberships

theorem inHouseholdAs_iff : c.InHouseholdAs role household.toValue ↔
    w.BelongsAs role u household := by
  constructor
  · rintro ⟨m, hm, rfl, hname⟩
    rw [Id.toValue_inj.1 hname]
    exact (mem_memberships_context hw hu hc).1 hm
  · intro h
    exact ⟨⟨household, role⟩, (mem_memberships_context hw hu hc).2 h, rfl, rfl⟩

theorem inHousehold_iff : c.InHousehold household.toValue ↔ w.Belongs u household := by
  rw [(knowsRoles_of_contextOf hw hu hc).exists_belongsAs]
  constructor
  · rintro ⟨m, hm, hname⟩
    exact ⟨m.role, (inHouseholdAs_iff hw hu hc).1 ⟨m, hm, rfl, hname⟩⟩
  · rintro ⟨role, h⟩
    obtain ⟨m, hm, -, hname⟩ := (inHouseholdAs_iff hw hu hc).2 h
    exact ⟨m, hm, hname⟩

theorem onlyAi_iff : c.OnlyAi ↔ w.OnlyAi u := by
  have hmem {m : Membership} := mem_memberships_context hw hu hc (m := m)
  constructor
  · rintro ⟨hne, hall⟩
    obtain ⟨m, hm⟩ := List.exists_mem_of_ne_nil _ hne
    obtain ⟨row, hrow, huser, -, -⟩ := hmem.1 hm
    refine ⟨⟨row, hrow, huser⟩, fun row hrow huser => ?_⟩
    obtain ⟨role, hrole⟩ := knowsRoles_of_contextOf hw hu hc row hrow huser
    obtain rfl : role = .ai := hall ⟨row.household, role⟩
      (hmem.2 ⟨row, hrow, huser, rfl, hrole⟩)
    exact hrole
  · rintro ⟨⟨row, hrow, huser⟩, hall⟩
    refine ⟨List.ne_nil_of_mem (hmem (m := ⟨row.household, .ai⟩).2
      ⟨row, hrow, huser, rfl, hall row hrow huser⟩), fun m hm => ?_⟩
    obtain ⟨row, hrow, huser, -, hrole⟩ := hmem.1 hm
    rw [hall row hrow huser] at hrole
    revert hrole
    cases m.role <;> simp [HouseholdRole.token]

theorem manages_iff : c.Manages v.toValue ↔ (v, u) ∈ w.managers := by
  obtain ⟨_, _, _, -, -, -, rfl⟩ := exists_of_contextOf hc
  rw [← hw.mem_managedBy hu]
  constructor
  · rintro ⟨user, huser, hname⟩
    rwa [Id.toValue_inj.1 hname]
  · exact fun h => ⟨v, h, rfl⟩

/-- The members that a context lists for a household of the user are those who belong to it. -/
theorem mem_members_of (hhousehold : w.Belongs u household) :
    v ∈ c.members.of household ↔ w.Belongs v household := by
  obtain ⟨households, _, _, hhouseholds, -, -, rfl⟩ := exists_of_contextOf hc
  have hmem : household ∈ Policy.distinct households := by
    rw [Policy.distinct, List.mem_eraseDups, mem_households hw hu hhouseholds]
    exact hhousehold
  obtain ⟨row, hrow, -, rfl⟩ := hhousehold
  rw [UsersByHousehold.of_map hmem, hw.mem_membersOf (hw.rows row hrow).1]
  exact exists_congr fun row => and_congr_right fun _ => and_comm

/-- The AI users that a context lists for a household that the user runs are those who belong to
    it as such. -/
theorem mem_aiUsers_of (hhousehold : w.BelongsAs .manager u household) :
    v ∈ c.aiUsers.of household ↔ w.BelongsAs .ai v household := by
  obtain ⟨_, managing, _, -, hmanaging, -, rfl⟩ := exists_of_contextOf hc
  have hmem : household ∈ managing := (mem_managedHouseholds hw hu hmanaging).2 hhousehold
  obtain ⟨row, hrow, -, rfl, -⟩ := hhousehold
  rw [UsersByHousehold.of_map hmem]
  exact hw.mem_aiUsersOf (hw.rows row hrow).1

theorem sharesHousehold_iff : c.SharesHousehold v.toValue ↔
    ∃ household, w.Belongs u household ∧ w.Belongs v household := by
  have hbelongs {household : Id} : c.InHousehold household.toValue ↔ w.Belongs u household :=
    inHousehold_iff hw hu hc
  constructor
  · rintro ⟨m, hm, user, huser, hname⟩
    have h := hbelongs.1 ⟨m, hm, rfl⟩
    rw [Id.toValue_inj.1 hname]
    exact ⟨m.household, h, (mem_members_of hw hu hc h).1 huser⟩
  · rintro ⟨household, h, hv⟩
    obtain ⟨m, hm, hname⟩ := hbelongs.2 h
    obtain rfl := Id.toValue_inj.1 hname
    exact ⟨m, hm, v, (mem_members_of hw hu hc h).2 hv, rfl⟩

theorem runsAi_iff : c.RunsAi v.toValue ↔
    ∃ household, w.BelongsAs .manager u household ∧ w.BelongsAs .ai v household := by
  have hbelongs {household : Id} : c.InHouseholdAs .manager household.toValue ↔
      w.BelongsAs .manager u household := inHouseholdAs_iff hw hu hc
  constructor
  · rintro ⟨m, hm, hrole, user, huser, hname⟩
    have h := hbelongs.1 ⟨m, hm, hrole, rfl⟩
    rw [Id.toValue_inj.1 hname]
    exact ⟨m.household, h, (mem_aiUsers_of hw hu hc h).1 huser⟩
  · rintro ⟨household, h, hv⟩
    obtain ⟨m, hm, hrole, hname⟩ := hbelongs.2 h
    obtain rfl := Id.toValue_inj.1 hname
    exact ⟨m, hm, hrole, v, (mem_aiUsers_of hw hu hc h).2 hv, rfl⟩

/-- The tables govern what is compiled from the context of a user. -/
theorem governs_compile : w.Governs u c.compile := by
  have htexts := hw.contextOf hu hc
  have huser := user_of_contextOf hc
  constructor
  · intro f subject v hf hid
    have h := UserContext.permitsIff_readUser htexts hf
    rwa [hid, huser, Id.toValue_inj, sharesHousehold_iff hw hu hc] at h
  · intro f subject v hf hid
    have h := UserContext.permitsIff_updateUser htexts hf
    rwa [hid, huser, Id.toValue_inj, onlyAi_iff hw hu hc, manages_iff hw hu hc,
      runsAi_iff hw hu hc] at h
  · intro f subject action household author hf hhousehold hauthor haction
    have h := UserContext.permitsIff_changeMessage htexts hf haction
    rwa [hhousehold, hauthor, huser, Id.toValue_inj, inHouseholdAs_iff hw hu hc,
      inHouseholdAs_iff hw hu hc] at h
  · intro f subject household hf hid
    have h := UserContext.permitsIff_readHousehold htexts hf
    rwa [hid, inHousehold_iff hw hu hc] at h

/-! ### Reading -/

omit hc

/-- Where the context of a user has been read, no read has failed, and the roles are known. -/
theorem not_readFails_of_readContext {c : UserContext} (h : w.readContext u = .ok c) :
    ¬w.ReadFails u ∧ w.KnowsRoles u := by
  rw [readContext] at h
  obtain ⟨records, hrecords, h⟩ := exists_of_bind_eq_ok h
  obtain ⟨managed, hmanaged, h⟩ := exists_of_bind_eq_ok h
  obtain ⟨hroles, rfl⟩ := attempt_eq_ok.1 hrecords
  obtain ⟨hmanagers, rfl⟩ := attempt_eq_ok.1 hmanaged
  obtain ⟨households, hhouseholds, h⟩ := exists_of_bind_eq_ok h
  obtain ⟨managing, hmanaging, h⟩ := exists_of_bind_eq_ok h
  obtain ⟨members, hmembers, h⟩ := exists_of_bind_eq_ok h
  obtain ⟨aiUsers, haiUsers, h⟩ := exists_of_bind_eq_ok h
  obtain ⟨memberships, hmemberships, -⟩ := exists_of_bind_eq_ok h
  refine ⟨fun hfails => ?_, knowsRoles_of_read hw hu hmemberships⟩
  -- A read that is made for a household has not failed.
  cases hfails with
  | roles hfails => exact hfails hroles
  | managed hfails => exact hfails hmanagers
  | members household hbelongs hfails =>
    have hmem : household ∈ Policy.distinct households := by
      rw [Policy.distinct, List.mem_eraseDups, mem_households hw hu hhouseholds]
      exact hbelongs
    obtain ⟨_, -, hread⟩ := exists_mem_of_mapM_eq_ok hmembers household hmem
    exact hfails (attempt_eq_ok.1 hread).1
  | aiUsers household hbelongs hfails =>
    have hmem := (mem_managedHouseholds hw hu hmanaging).2 hbelongs
    obtain ⟨_, -, hread⟩ := exists_mem_of_mapM_eq_ok haiUsers household hmem
    exact hfails (attempt_eq_ok.1 hread).1

/-- The records of a user can be read if the roles in the rows are known. -/
theorem exists_read_of_knowsRoles (hknown : w.KnowsRoles u) :
    ∀ r ∈ w.recordsOf u, ∃ m, r.read = .ok m := by
  intro r hr
  obtain ⟨row, hrow, huser, rfl⟩ := (mem_recordsOf hw hu).1 hr
  obtain ⟨role, hrole⟩ := hknown row hrow huser
  exact ⟨⟨row.household, role⟩, (read_record_eq_ok hw hrow).2 ⟨rfl, hrole⟩⟩

/-- Where no read fails and the roles are known, the context of a user can be read. -/
theorem exists_readContext (hfails : ¬w.ReadFails u) (hknown : w.KnowsRoles u) :
    ∃ c, w.readContext u = .ok c := by
  have hpoint {p : Point} {name : Id} (h : w.failureOf p (some name) ≠ none → w.ReadFails u) :
      w.failureOf p (some name) = none := by_contra fun hp => hfails (h hp)
  have hread := exists_read_of_knowsRoles hw hu hknown
  obtain ⟨memberships, hmemberships⟩ := exists_mapM_eq_ok hread
  obtain ⟨households, hhouseholds⟩ : ∃ households,
      (w.recordsOf u).mapM RoleRecord.readHousehold = .ok households := by
    refine exists_mapM_eq_ok fun r hr => ?_
    obtain ⟨row, hrow, -, rfl⟩ := (mem_recordsOf hw hu).1 hr
    exact ⟨_, readHousehold_record hw hrow⟩
  obtain ⟨managing, hmanaging⟩ : ∃ managing,
      UserContext.managedHouseholds (w.recordsOf u) = .ok managing := by
    obtain ⟨named, hnamed⟩ := exists_mapM_eq_ok fun r hr => by
      obtain ⟨m, hm⟩ := hread r hr
      exact ⟨(m.household, m.role), RoleRecord.named_eq_ok.2 hm⟩
    exact ⟨_, bind_eq_ok hnamed rfl⟩
  obtain ⟨members, hmembers⟩ : ∃ members, (Policy.distinct households).mapM (fun household =>
      w.attempt .members household (w.membersOf household)) = .ok members := by
    refine exists_mapM_eq_ok fun household hmem => ⟨_, attempt_eq_ok.2 ⟨?_, rfl⟩⟩
    rw [Policy.distinct, List.mem_eraseDups, mem_households hw hu hhouseholds] at hmem
    exact hpoint (.members household hmem)
  obtain ⟨aiUsers, haiUsers⟩ : ∃ aiUsers, managing.mapM (fun household =>
      w.attempt .aiUsers household (w.aiUsersOf household)) = .ok aiUsers := by
    refine exists_mapM_eq_ok fun household hmem => ⟨_, attempt_eq_ok.2 ⟨?_, rfl⟩⟩
    exact hpoint (.aiUsers household ((mem_managedHouseholds hw hu hmanaging).1 hmem))
  exact ⟨_, bind_eq_ok (attempt_eq_ok.2 ⟨hpoint .roles, rfl⟩) (bind_eq_ok
    (attempt_eq_ok.2 ⟨hpoint .managed, rfl⟩) (bind_eq_ok hhouseholds (bind_eq_ok hmanaging
      (bind_eq_ok hmembers (bind_eq_ok haiUsers (bind_eq_ok hmemberships rfl))))))⟩

/-- The context of a user can be read if no read fails that is made for it, and the roles in the
    rows of the user are known. -/
theorem exists_readContext_iff :
    (∃ c, w.readContext u = .ok c) ↔ ¬w.ReadFails u ∧ w.KnowsRoles u :=
  ⟨fun ⟨_, h⟩ => not_readFails_of_readContext hw hu h,
    fun ⟨hfails, hknown⟩ => exists_readContext hw hu hfails hknown⟩

end World

end HouseholdAccess
