import HouseholdAccess.Proofs.Role.Permits
import HouseholdAccess.Proofs.Rule.Comparison
import HouseholdAccess.Proofs.Value.Fields

/-!
# Users compared

One context of a user is within another one (`UserContext.Within`) if everything that it
lists is listed there too, in any order and however often. Then the rules that allow are,
one by one, within such rules of the other context (`UserContext.Within.allowRules`).

* Contexts within each other come to the same verdict on every question, by a rule in the
  same place (`UserContext.evaluate_compile_congr`): neither order nor repetition matters.
* What a context allows, those that it is within allow as well, where the user is not only
  ever an AI user (`UserContext.can_compile_of_within`). There is a single exception, a
  household to be made that is described by a record that cannot be read
  (`Value.IsClosed`): the record is looked at only for users who run a household, and they
  get no answer.
-/

namespace HouseholdAccess

/-! ## Records that cannot be read -/

namespace Value

variable {subject : Value} {u : Unreadable}

/-- A record of which no field can be read. -/
def IsClosed (subject : Value) (u : Unreadable) : Prop :=
  ∀ name, subject.readField name = .error u

theorem IsClosed.resolve (h : subject.IsClosed u) (path : String) :
    subject.resolve path = .error u := by
  obtain ⟨name, rest, hpath⟩ := Path.exists_segments_eq_cons path
  rw [Value.resolve, hpath, readFields, h name]
  rfl

/-- Either no field can be read or each can. -/
theorem isClosed_or_exists_readField (subject : Value) :
    (∃ u, subject.IsClosed u) ∨ ∀ name, ∃ v, subject.readField name = .ok v := by
  cases subject with
  | model fields =>
    simp only [IsClosed, readField, fieldOfModel]
    split
    · exact .inr fun name => ⟨_, rfl⟩
    · exact .inr fun name => ⟨_, rfl⟩
    · exact .inl ⟨_, fun name => rfl⟩
  | _ => exact .inr fun name => ⟨_, rfl⟩

/-- What can be read has the fields that the policy looks at, be they absent. -/
theorem isClosed_or_exists_of (subject : Value) :
    (∃ u, subject.IsClosed u) ∨ ∃ f : PolicyFields, f.Of subject := by
  refine subject.isClosed_or_exists_readField.imp_right fun h => ?_
  obtain ⟨id, hid⟩ := h "id"
  obtain ⟨household, hhousehold⟩ := h "household_id"
  obtain ⟨role, hrole⟩ := h "role"
  obtain ⟨author, hauthor⟩ := h "user_id"
  exact ⟨⟨id, household, role, author⟩, bind_eq_ok hid rfl, bind_eq_ok hhousehold rfl,
    bind_eq_ok hrole rfl, bind_eq_ok hauthor rfl⟩

end Value

namespace PolicyFields

variable {subject : Value} {f : PolicyFields}

theorem Of.exists_id (h : f.Of subject) : ∃ v, subject.resolve "id" = .ok v := ⟨_, h.id⟩

theorem Of.exists_household (h : f.Of subject) : ∃ v, subject.resolve "household_id" = .ok v :=
  ⟨_, h.household⟩

end PolicyFields

namespace Condition

variable {subject : Value} {u : Value.Unreadable} {path : String} {ids others : List Id}

theorem meets_of_isClosed (h : subject.IsClosed u) (op : Operator) (operand : Value) :
    meets subject (.field path op operand) = .error (.unreadable u) := by
  rw [meets, holdsAt, h.resolve]
  rfl

theorem meets_all_of_error {e : Trouble} {p : Condition} (h : meets subject p = .error e)
    (rest : List Condition) : meets subject (.all (p :: rest)) = .error e := by
  rw [meets, meetsAll, h]
  rfl

theorem any_equals_mono (h : ids ⊆ others) (v : Value)
    (hany : (ids.map Id.toValue).any v.equals = true) :
    (others.map Id.toValue).any v.equals = true := by
  rw [List.any_map, List.any_eq_true] at hany ⊢
  obtain ⟨id, hid, heq⟩ := hany
  exact ⟨id, h hid, heq⟩

end Condition

/-! ## The rules of the policy, one by one -/

section Rules

variable {actions : List Action} {subjects : List SubjectType} {path : String}
  {ids others : List Id} {r s : Rule} {a b : Bool}

/-- Two conditions, neither of which is decided on a record that cannot be read: it is enough that
    the first one implies the second on all others. -/
theorem Rule.within_can {p q : Condition}
    (hclosed : ∀ subject u, subject.IsClosed u →
      p.meets subject = .error (.unreadable u) ∧ q.meets subject = .error (.unreadable u))
    (hopen : ∀ (subject : Value) (f : PolicyFields), f.Of subject → ∃ a b, p.meets subject = .ok a ∧
      q.meets subject = .ok b ∧ (a = true → b = true)) :
    (Rule.can actions subjects (some p)).Within (.can actions subjects (some q)) := by
  refine ⟨rfl, rfl, rfl, rfl, fun subject => ?_⟩
  change Implies (p.meets subject) (q.meets subject)
  rcases subject.isClosed_or_exists_of with ⟨u, hu⟩ | ⟨f, hf⟩
  · rw [(hclosed subject u hu).1, (hclosed subject u hu).2]
    exact .error _
  · obtain ⟨a, b, hp, hq, hab⟩ := hopen subject f hf
    rw [hp, hq]
    exact .ok hab

theorem Rule.within_oneOf (hpath : ∀ {subject : Value} {f : PolicyFields}, f.Of subject →
      ∃ v, subject.resolve path = .ok v) (h : ids ⊆ others) :
    (Rule.can actions subjects (Policy.oneOf path ids)).Within
      (.can actions subjects (Policy.oneOf path others)) := by
  refine Rule.within_can (fun subject u hu => ⟨Condition.meets_of_isClosed hu _ _,
    Condition.meets_of_isClosed hu _ _⟩) fun subject f hf => ?_
  obtain ⟨v, hv⟩ := hpath hf
  exact ⟨_, _, Condition.meets_field hv rfl, Condition.meets_field hv rfl,
    Condition.any_equals_mono h v⟩

/-- A rule about what is in some households and meets one condition more. -/
theorem Rule.within_pair {second : Condition}
    (hsecond : ∀ {subject : Value} {f : PolicyFields}, f.Of subject →
      ∃ b, second.meets subject = .ok b) (h : ids ⊆ others) :
    (Rule.can actions subjects (some (.all [.field "household_id" .isIn
        (.list (ids.map Id.toValue)), second]))).Within
      (.can actions subjects (some (.all [.field "household_id" .isIn
        (.list (others.map Id.toValue)), second]))) := by
  refine Rule.within_can (fun subject u hu => ⟨?_, ?_⟩) fun subject f hf => ?_
  · exact Condition.meets_all_of_error (Condition.meets_of_isClosed hu _ _) _
  · exact Condition.meets_all_of_error (Condition.meets_of_isClosed hu _ _) _
  · obtain ⟨b, hb⟩ := hsecond hf
    have hin (names : List Id) :
        (Condition.field "household_id" .isIn (.list (names.map Id.toValue))).meets subject =
          .ok ((names.map Id.toValue).any f.household.equals) :=
      Condition.meets_field hf.household rfl
    have hmeets (names : List Id) := Condition.meets_all_pair (hin names) hb
    refine ⟨_, _, hmeets ids, hmeets others, ?_⟩
    simp only [Bool.and_eq_true]
    exact And.imp_left (Condition.any_equals_mono h f.household)

theorem not_isEmpty_mono (h : ids ⊆ others) :
    (!ids.isEmpty) = true → (!others.isEmpty) = true := by
  cases ids with
  | nil => simp
  | cons id rest =>
    have hmem : id ∈ others := h List.mem_cons_self
    cases others with
    | nil => cases hmem
    | cons => exact fun _ => rfl

theorem RuleSet.within_onlyIf (hab : a = true → b = true) (h : r.Within s) :
    RuleSet.Within (Policy.onlyIf a r) (Policy.onlyIf b s) := by
  cases a with
  | false => exact .nil
  | true =>
    rw [hab rfl]
    exact .cons h .nil

/-- More names make a rule about some of them appear, or wider. -/
theorem RuleSet.within_oneOf (hpath : ∀ {subject : Value} {f : PolicyFields}, f.Of subject →
      ∃ v, subject.resolve path = .ok v) (h : ids ⊆ others) :
    RuleSet.Within
      (Policy.onlyIf (!ids.isEmpty) (.can actions subjects (Policy.oneOf path ids)))
      (Policy.onlyIf (!others.isEmpty) (.can actions subjects (Policy.oneOf path others))) :=
  within_onlyIf (not_isEmpty_mono h) (Rule.within_oneOf hpath h)

end Rules

namespace UserContext

/-- Everything that the first context lists is listed by the second, whatever the order and however
    often. -/
structure Within (c d : UserContext) : Prop where
  user : c.user = d.user
  memberships : c.memberships ⊆ d.memberships
  managed : c.managed ⊆ d.managed
  aiUsers : ∀ household ∈ c.households, c.aiUsers.of household ⊆ d.aiUsers.of household
  members : ∀ household ∈ c.households, c.members.of household ⊆ d.members.of household

variable {c d : UserContext}

namespace Within

theorem households (h : c.Within d) : c.households ⊆ d.households :=
  List.map_subset _ h.memberships

theorem householdsAs (h : c.Within d) (role : HouseholdRole) :
    c.householdsAs role ⊆ d.householdsAs role := by
  intro id hid
  obtain ⟨m, hm, hrole⟩ := mem_householdsAs.1 hid
  exact mem_householdsAs.2 ⟨m, h.memberships hm, hrole⟩

theorem participating (h : c.Within d) : c.participating ⊆ d.participating := by
  intro id
  simp only [UserContext.participating, Policy.distinct, List.mem_eraseDups, List.mem_append]
  exact Or.imp (fun hid => h.householdsAs _ hid) fun hid => h.householdsAs _ hid

theorem manageableAi (h : c.Within d) : c.manageableAi ⊆ d.manageableAi := by
  intro id
  simp only [UserContext.manageableAi, Policy.distinct, List.mem_eraseDups, List.mem_flatMap]
  rintro ⟨household, hrun, hid⟩
  obtain ⟨m, hm, -, hhousehold⟩ := mem_householdsAs.1 hrun
  exact ⟨household, h.householdsAs .manager hrun,
    h.aiUsers household (mem_households.2 ⟨m, hm, hhousehold⟩) hid⟩

theorem visibleUsers (h : c.Within d) : c.visibleUsers ⊆ d.visibleUsers := by
  intro id
  simp only [UserContext.visibleUsers, Policy.distinct, List.mem_eraseDups, List.mem_cons,
    List.mem_flatMap, h.user]
  rintro (rfl | ⟨household, hhousehold, hid⟩)
  · exact .inl rfl
  · exact .inr ⟨household, h.households hhousehold, h.members household hhousehold hid⟩

theorem distinctManaged (h : c.Within d) :
    Policy.distinct c.managed ⊆ Policy.distinct d.managed := by
  intro id
  simp only [Policy.distinct, List.mem_eraseDups]
  exact @h.managed id

/-- Contexts within each other agree on whether their user is only ever an AI user. -/
theorem isPureAi_eq (h : c.Within d) (h' : d.Within c) : c.isPureAi = d.isPureAi := by
  have hpure {c d : UserContext} (h : c.Within d) (h' : d.Within c) : c.OnlyAi → d.OnlyAi :=
    fun ⟨hne, hall⟩ => ⟨fun hnil => hne (List.subset_nil.1 (hnil ▸ h.memberships)),
      fun m hm => hall m (h'.memberships hm)⟩
  rw [Bool.eq_iff_iff, isPureAi_iff, isPureAi_iff]
  exact ⟨hpure h h', hpure h' h⟩

theorem userRules (h : c.Within d) (hpure : d.isPureAi = true → c.isPureAi = true) :
    RuleSet.Within c.userRules d.userRules := by
  have hmanages : (!c.managed.isEmpty && !c.isPureAi) = true →
      (!d.managed.isEmpty && !d.isPureAi) = true := by
    rw [Bool.and_eq_true, Bool.and_eq_true]
    refine And.imp (not_isEmpty_mono h.managed) fun hc => ?_
    rw [Bool.not_eq_true', Bool.eq_false_iff] at hc ⊢
    exact hc ∘ hpure
  rw [UserContext.userRules, UserContext.userRules, h.user]
  refine .append (.append ?_ ?_) (RuleSet.within_oneOf PolicyFields.Of.exists_id h.manageableAi)
  · exact .cons (.refl _) (.cons (.refl _) (.cons (.refl _) .nil))
  · exact RuleSet.within_onlyIf hmanages
      (Rule.within_oneOf PolicyFields.Of.exists_id h.distinctManaged)

theorem householdRules (h : c.Within d) : RuleSet.Within c.householdRules d.householdRules := by
  have hrole {subject : Value} {f : PolicyFields} (hf : f.Of subject) :
      ∃ b, (Condition.field "role" .ne (.text HouseholdRole.manager.token)).meets subject = .ok b :=
    ⟨_, Condition.meets_field hf.role rfl⟩
  have hauthor {subject : Value} {f : PolicyFields} (hf : f.Of subject) :
      ∃ b, (Condition.field "user_id" .eq d.user.toValue).meets subject = .ok b :=
    ⟨_, Condition.meets_field hf.author rfl⟩
  have hmanaging := h.householdsAs .manager
  have hbelonging := h.householdsAs .member
  rw [UserContext.householdRules, UserContext.householdRules, h.user]
  refine .append (.append (.append (.append (.append (.append ?_ ?_) ?_) ?_) ?_) ?_) ?_
  · exact RuleSet.within_oneOf PolicyFields.Of.exists_id hmanaging
  · exact RuleSet.within_oneOf PolicyFields.Of.exists_id h.participating
  · exact RuleSet.within_onlyIf (not_isEmpty_mono hmanaging) (Rule.within_pair hrole hmanaging)
  · exact RuleSet.within_oneOf PolicyFields.Of.exists_household h.households
  · exact RuleSet.within_oneOf PolicyFields.Of.exists_household hmanaging
  · exact RuleSet.within_oneOf PolicyFields.Of.exists_household h.participating
  · exact RuleSet.within_onlyIf (not_isEmpty_mono hbelonging) (Rule.within_pair hauthor hbelonging)

theorem allowRules (h : c.Within d) (hpure : d.isPureAi = true → c.isPureAi = true) :
    RuleSet.Within c.allowRules d.allowRules :=
  .append (.append (h.userRules hpure) h.householdRules)
    (RuleSet.within_onlyIf (not_isEmpty_mono h.households)
      (Rule.within_oneOf PolicyFields.Of.exists_id h.visibleUsers))

/-- The rules of contexts within each other are within each other, one by one. -/
theorem forall₂_compile (h : c.Within d) (h' : d.Within c) :
    List.Forall₂ Rule.Within c.compile d.compile := by
  have hpure := h.isPureAi_eq h'
  have hai : c.aiRules = d.aiRules := by rw [aiRules, aiRules, hpure, h.user]
  rw [compile_eq, compile_eq, hai]
  exact List.rel_append
    ((h.allowRules fun hd => hpure ▸ hd).forall₂ (h'.allowRules fun hc => hpure ▸ hc))
    (List.forall₂_same.2 fun r _ => .refl r)

end Within

/-- Users of whom the same is listed, in any order and however often, have as many rules, and come
    to the same verdict on every question. -/
theorem evaluate_compile_congr (h : c.Within d) (h' : d.Within c) :
    c.compile.length = d.compile.length ∧ ∀ action type subject,
      c.compile.evaluate action type subject = d.compile.evaluate action type subject :=
  ⟨(h.forall₂_compile h').length_eq,
    RuleSet.evaluate_congr (h.forall₂_compile h') (h'.forall₂_compile h)⟩

/-- A member who is listed twice, with memberships in either order: the policy does not tell. -/
theorem evaluate_compile_congr_repeated :
    let c : UserContext :=
      { user := .text "u", memberships := [⟨.text "g", .ai⟩, ⟨.text "h", .manager⟩]
        members := [(.text "h", [.text "u", .text "v"])] }
    let d : UserContext :=
      { user := .text "u"
        memberships := [⟨.text "h", .manager⟩, ⟨.text "g", .ai⟩, ⟨.text "h", .manager⟩]
        members := [(.text "g", []), (.text "h", [.text "v", .text "u", .text "v"])] }
    c.Within d ∧ d.Within c ∧ c.compile.length = d.compile.length ∧
      ∀ v, c.compile.evaluate .read .user (some v) = d.compile.evaluate .read .user (some v) := by
  intro c d
  have h : c.Within d := by constructor <;> decide
  have h' : d.Within c := by constructor <;> decide
  obtain ⟨hlength, hevaluate⟩ := evaluate_compile_congr h h'
  exact ⟨h, h', hlength, fun v => hevaluate .read .user (some v)⟩

/-! ## More roles -/

variable {action : Action} {type : SubjectType} {subject : Value} {u : Value.Unreadable}

/-- Of a record that cannot be read, only what is not asked for is decided. -/
theorem admits_of_isClosed (h : subject.IsClosed u) :
    ∀ r ∈ c.compile, r.condition = none ∨ r.admits subject = .error (.unreadable u) := by
  have hfield (path : String) (op : Operator) (operand : Value) :
      (some (Condition.field path op operand) : Option Condition) = none ∨
        Condition.meetsOption subject (some (.field path op operand)) = .error (.unreadable u) :=
    .inr (Condition.meets_of_isClosed h op operand)
  have hpair (path : String) (op : Operator) (operand : Value) (rest : List Condition) :
      (some (Condition.all (.field path op operand :: rest)) : Option Condition) = none ∨
        Condition.meetsOption subject (some (.all (.field path op operand :: rest))) =
          .error (.unreadable u) :=
    .inr (Condition.meets_all_of_error (Condition.meets_of_isClosed h op operand) rest)
  simp only [compile, userRules, householdRules, visibilityRules, List.forall_mem_append,
    forall_mem_onlyIf, List.forall_mem_cons]
  refine ⟨⟨⟨⟨⟨⟨hfield _ _ _, .inl rfl, hfield _ _ _, List.forall_mem_nil _⟩,
    fun _ => hfield _ _ _⟩, fun _ => hfield _ _ _⟩,
    ⟨⟨⟨⟨⟨⟨fun _ => hfield _ _ _, fun _ => hfield _ _ _⟩, fun _ => hpair _ _ _ _⟩,
      fun _ => hfield _ _ _⟩, fun _ => hfield _ _ _⟩, fun _ => hfield _ _ _⟩,
      fun _ => hpair _ _ _ _⟩⟩, fun _ => hfield _ _ _⟩, ?_⟩
  rw [aiRules]
  split
  · simp only [List.forall_mem_cons]
    exact ⟨hfield _ _ _, .inl rfl, List.forall_mem_nil _⟩
  · exact List.forall_mem_nil _

/-- The rule under which everyone may make households is the only one that allows without asking. -/
theorem eq_create_household : ∀ r ∈ c.allowRules, r.condition = none →
    r = .can [.create] [.household] := by
  simp only [allowRules, userRules, householdRules, visibilityRules, List.forall_mem_append,
    forall_mem_onlyIf, List.forall_mem_cons]
  simp [Rule.can, Policy.isId, Policy.oneOf]

/-- Who runs no household is asked nothing for making one. -/
theorem condition_eq_none (h : c.householdsAs .manager = []) :
    ∀ r ∈ c.compile, r.appliesTo .create .household = true → r.condition = none := by
  have hai : ∀ r ∈ c.aiRules, r.appliesTo .create .household = false := by
    rw [aiRules]
    split <;> simp [Rule.cannot, Rule.appliesTo]
  rw [compile_eq, List.forall_mem_append]
  refine ⟨?_, fun r hr happlies => absurd happlies (by rw [hai r hr]; simp)⟩
  simp only [allowRules, userRules, householdRules, visibilityRules, List.forall_mem_append,
    forall_mem_onlyIf, List.forall_mem_cons]
  simp [Rule.can, Rule.appliesTo, h]

/-- Of those who run households it is asked which. -/
theorem mem_compile_manage_household (h : c.householdsAs .manager ≠ []) :
    .can [.manage] [.household] (Policy.oneOf "id" (c.householdsAs .manager)) ∈ c.compile := by
  simp [compile, householdRules, Policy.onlyIf, h]

theorem matches_of_condition_eq_none {r : Rule} (h : r.condition = none) (v : Value) :
    r.matches (some v) = .ok true := by
  rw [Rule.matches, Rule.admits, h]
  rfl

/-- Whatever the rules of a user allow, those of a user with more of everything do, who is not only
    ever an AI user. The exception is to make a household that is described by a record that
    cannot be read: who runs one is asked about it, and nothing can be answered. -/
theorem can_compile_of_within {subject : Option Value} (h : c.Within d)
    (hpure : d.isPureAi = false) (hcan : c.compile.can action type subject = .ok true) :
    d.compile.can action type subject = .ok true ∨
      (action = .create ∧ type = .household ∧ c.householdsAs .manager = [] ∧
        d.householdsAs .manager ≠ []) ∧
        ∃ v u, subject = some v ∧ v.IsClosed u ∧
          d.compile.can action type subject = .error (.unreadable u) := by
  obtain ⟨r, hr, happlies, hmatches⟩ :=
    RuleSet.exists_of_can inverted_allowRules inverted_aiRules (compile_eq ▸ hcan)
  obtain ⟨s, hs, hwithin⟩ := (h.allowRules (by simp [hpure])).exists_of_mem hr
  have hd : d.compile = d.allowRules := by simp [compile_eq, aiRules, hpure]
  -- Where the rules of the second user can be decided, the wider rule among them allows.
  have hallowed (hdecided : RuleSet.Decided action type subject d.compile) :
      d.compile.can action type subject = .ok true := by
    rw [hd] at hdecided ⊢
    exact RuleSet.can_of_within inverted_allowRules hdecided hs hwithin happlies hmatches
  cases subject with
  | none => exact .inl (hallowed fun _ _ _ => ⟨_, rfl⟩)
  | some v =>
    rcases v.isClosed_or_exists_of with ⟨u, hu⟩ | ⟨f, hf⟩
    · have hdecided := RuleSet.decided_of_can hcan
      have hnone {r : Rule} (hr : r ∈ c.compile) (happlies : r.appliesTo action type = true) :
          r.condition = none := by
        obtain ⟨b, hb⟩ := hdecided r hr happlies
        exact (admits_of_isClosed hu r hr).resolve_right fun herror => by cases hb.symm.trans herror
      obtain rfl := eq_create_household r hr (hnone (List.mem_append_left _ hr) happlies)
      obtain ⟨rfl, rfl⟩ : action = .create ∧ type = .household := by
        simpa [Rule.can, Rule.appliesTo] using happlies
      have hmanager : c.householdsAs .manager = [] := by
        by_contra hne
        cases hnone (mem_compile_manage_household hne) rfl
      by_cases hrun : d.householdsAs .manager = []
      · exact .inl (hallowed fun r hr happlies =>
          ⟨true, matches_of_condition_eq_none (condition_eq_none hrun r hr happlies) v⟩)
      · refine .inr ⟨⟨rfl, rfl, hmanager, hrun⟩, v, u, rfl, hu, ?_⟩
        exact RuleSet.can_eq_error (fun r hr _ => (admits_of_isClosed hu r hr).imp_left fun hr =>
          ⟨true, matches_of_condition_eq_none hr v⟩) (mem_compile_manage_household hrun) rfl
          (Condition.meets_of_isClosed hu _ _)
    · exact .inl (hallowed fun r hr _ => decided_compile hf r hr)

/-- An AI user of a household who comes to run another one keeps seeing the first. -/
theorem can_compile_of_within_promoted :
    let c : UserContext := { user := .text "u", memberships := [⟨.text "g", .ai⟩] }
    let d : UserContext :=
      { user := .text "u", memberships := [⟨.text "h", .manager⟩, ⟨.text "g", .ai⟩] }
    let household := Value.record [("id", .text "g")]
    (c.Within d ∧ d.isPureAi = false ∧
        c.compile.can .read .household (some household) = .ok true) ∧
      c.isPureAi = true ∧ d.compile.can .read .household (some household) = .ok true := by
  intro c d household
  have h : c.Within d := by constructor <;> decide
  have hpure : d.isPureAi = false := by decide
  have hcan : c.compile.can .read .household (some household) = .ok true :=
    eq_ok_of_toOption (by decide +kernel)
  refine ⟨⟨h, hpure, hcan⟩, by decide, ?_⟩
  exact (can_compile_of_within h hpure hcan).resolve_right fun ⟨⟨hcreate, _⟩, _⟩ => by cases hcreate

/-- Who runs a household gets no answer about making one from a record that cannot be read, though
    others do. -/
theorem not_forall_can_compile_of_within :
    ¬∀ (c d : UserContext) (action : Action) (type : SubjectType) (subject : Option Value),
      c.Within d → d.isPureAi = false → c.compile.can action type subject = .ok true →
        d.compile.can action type subject = .ok true := by
  intro h
  let c : UserContext := { user := .text "u" }
  let d : UserContext := { user := .text "u", memberships := [⟨.text "h", .manager⟩] }
  let household := Value.model [(Value.readerName, .int 1)]
  have hwithin : c.Within d := by constructor <;> decide
  have hcan : c.compile.can .create .household (some household) = .ok true :=
    eq_ok_of_toOption (by decide +kernel)
  have hnone : (d.compile.can .create .household (some household)).toOption = none := by
    decide +kernel
  rw [h c d .create .household (some household) hwithin (by decide) hcan] at hnone
  cases hnone

end UserContext

end HouseholdAccess
