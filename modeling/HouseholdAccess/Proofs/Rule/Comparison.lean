import HouseholdAccess.Proofs.Rule.Decision

/-!
# Rules compared

A rule is within another one (`Rule.Within`) if it is about the same, allows or denies as
the other one does, and has a condition that implies that of the other one: where it is
met so is the other, and where it cannot be decided the other one fails in the same way
(`Implies`).

* Rules that are within each other, one by one, come to the same verdict by a rule in the
  same place, and fail alike (`RuleSet.evaluate_congr`).
* What a rule allows is allowed by all rules that can be decided, none of which denies, if
  one of them is wider (`RuleSet.can_of_within`). Where some of them cannot be decided, they
  fail together as those do (`RuleSet.can_eq_error`).
-/

namespace HouseholdAccess

/-- The second answer is yes if the first one is, and fails exactly as the first one does. -/
inductive Implies {ε : Type} : Except ε Bool → Except ε Bool → Prop
  | error (e : ε) : Implies (.error e) (.error e)
  | ok {a b : Bool} (h : a = true → b = true) : Implies (.ok a) (.ok b)

namespace Implies

variable {ε : Type} {p q : Except ε Bool}

theorem refl (p : Except ε Bool) : Implies p p := by
  cases p with
  | error e => exact .error e
  | ok b => exact .ok id

theorem antisymm (h : Implies p q) (h' : Implies q p) : p = q := by
  cases h with
  | error e => rfl
  | ok hab =>
    cases h' with
    | ok hba => exact congrArg Except.ok (Bool.eq_iff_iff.2 ⟨hab, hba⟩)

theorem eq_ok_true (h : Implies p q) (hp : p = .ok true) : q = .ok true := by
  cases h with
  | error e => cases hp
  | ok hab => exact congrArg Except.ok (hab (Except.ok.inj hp))

end Implies

/-- A rule says no more than another one: it is about the same, and its condition implies that of
    the other. -/
structure Rule.Within (r s : Rule) : Prop where
  actions : r.actions = s.actions
  subjects : r.subjects = s.subjects
  inverted : r.inverted = s.inverted
  unconditional : r.condition.isNone = s.condition.isNone
  admits : ∀ subject, Implies (r.admits subject) (s.admits subject)

namespace Rule.Within

variable {r s : Rule}

theorem refl (r : Rule) : r.Within r := ⟨rfl, rfl, rfl, rfl, fun _ => .refl _⟩

theorem appliesTo (h : r.Within s) (action : Action) (type : SubjectType) :
    r.appliesTo action type = s.appliesTo action type := by
  rw [Rule.appliesTo, Rule.appliesTo, h.actions, h.subjects]

theorem implies (h : r.Within s) (subject : Option Value) :
    Implies (r.matches subject) (s.matches subject) := by
  cases subject with
  | none =>
    rw [Rule.matches, Rule.matches, h.unconditional, h.inverted]
    exact .refl _
  | some v => exact h.admits v

end Rule.Within

namespace RuleSet

/-- Rules that are within rules of another list, one by one and in the order of that list. -/
def Within (rules others : List Rule) : Prop := List.SublistForall₂ Rule.Within rules others

namespace Within

variable {rules rules' others others' : List Rule}

theorem append (h : Within rules others) (h' : Within rules' others') :
    Within (rules ++ rules') (others ++ others') := by
  rw [Within, List.sublistForall₂_iff] at h h' ⊢
  obtain ⟨l, hl, hsub⟩ := h
  obtain ⟨l', hl', hsub'⟩ := h'
  exact ⟨l ++ l', List.rel_append hl hl', hsub.append hsub'⟩

theorem exists_of_mem (h : Within rules others) {r : Rule} (hr : r ∈ rules) :
    ∃ s ∈ others, r.Within s := by
  induction h with
  | nil => cases hr
  | cons hwithin _ ih =>
    rcases List.mem_cons.1 hr with rfl | hr
    · exact ⟨_, List.mem_cons_self, hwithin⟩
    · obtain ⟨s, hs, hrs⟩ := ih hr
      exact ⟨s, List.mem_cons_of_mem _ hs, hrs⟩
  | cons_right _ ih =>
    obtain ⟨s, hs, hrs⟩ := ih hr
    exact ⟨s, List.mem_cons_of_mem _ hs, hrs⟩

/-- Lists within each other leave no rule out. -/
theorem forall₂ (h : Within rules others) (h' : Within others rules) :
    List.Forall₂ Rule.Within rules others := by
  rw [Within, List.sublistForall₂_iff] at h h'
  obtain ⟨l, hl, hsub⟩ := h
  obtain ⟨l', hl', hsub'⟩ := h'
  have hlength : l.length = others.length :=
    Nat.le_antisymm hsub.length_le (hl'.length_eq ▸ hl.length_eq ▸ hsub'.length_le)
  rwa [hsub.eq_of_length hlength] at hl

end Within

variable {action : Action} {type : SubjectType} {subject : Option Value}

/-- Rules that are within each other, one by one, come to the same. -/
theorem decideFrom_congr {rules others : List Rule} (h : List.Forall₂ Rule.Within rules others)
    (h' : List.Forall₂ Rule.Within others rules) (i : Nat) (verdict : Verdict) :
    decideFrom action type subject i rules verdict =
      decideFrom action type subject i others verdict := by
  induction h generalizing i verdict with
  | nil => rfl
  | cons hr _ ih =>
    cases h' with
    | cons hs hrest =>
      rw [decideFrom, decideFrom, hr.appliesTo, hr.inverted,
        (hr.implies subject).antisymm (hs.implies subject)]
      have hnext (v : Verdict) := ih hrest (i + 1) v
      exact if_congr Iff.rfl (bind_congr fun b => if_congr Iff.rfl (hnext _) (hnext _)) (hnext _)

theorem evaluate_congr {rules others : RuleSet} (h : List.Forall₂ Rule.Within rules others)
    (h' : List.Forall₂ Rule.Within others rules) (action : Action) (type : SubjectType)
    (subject : Option Value) :
    rules.evaluate action type subject = others.evaluate action type subject := by
  rw [evaluate_eq_decideFrom, evaluate_eq_decideFrom, decideFrom_congr h h']

/-- Where there is a verdict, every rule about the question could be decided. -/
theorem decided_of_decideFrom {rules : List Rule} {i : Nat} {verdict v : Verdict}
    (h : decideFrom action type subject i rules verdict = .ok v) :
    Decided action type subject rules := by
  induction rules generalizing i verdict with
  | nil => exact fun r hr => nomatch hr
  | cons r rest ih =>
    rw [decideFrom] at h
    by_cases happlies : r.appliesTo action type
    · rw [if_pos happlies] at h
      obtain ⟨b, hb, h⟩ := exists_of_bind_eq_ok h
      refine List.forall_mem_cons.2 ⟨fun _ => ⟨b, hb⟩, ?_⟩
      split at h <;> exact ih h
    · rw [if_neg happlies] at h
      exact List.forall_mem_cons.2 ⟨fun hyes => (happlies hyes).elim, ih h⟩

theorem decided_of_can {rules : RuleSet} {b : Bool}
    (h : rules.can action type subject = .ok b) : Decided action type subject rules := by
  rw [can, evaluate_eq_decideFrom] at h
  cases hv : decideFrom action type subject 0 rules .default with
  | error e =>
    rw [hv] at h
    cases h
  | ok v => exact decided_of_decideFrom hv

theorem decides_iff {r : Rule} : decides action type subject r = true ↔
    r.appliesTo action type = true ∧ r.matches subject = .ok true := by
  rw [decides, Bool.and_eq_true]
  cases r.matches subject <;> simp [Except.toOption]

/-- Of rules that allow, followed by rules that deny, some rule of the former matches where the
    answer is yes. -/
theorem exists_of_can {allows denies : List Rule} (hallows : ∀ r ∈ allows, r.inverted = false)
    (hdenies : ∀ r ∈ denies, r.inverted = true)
    (h : RuleSet.can (allows ++ denies) action type subject = .ok true) :
    ∃ r ∈ allows, r.appliesTo action type = true ∧ r.matches subject = .ok true := by
  rw [can_allow_deny hallows hdenies (decided_of_can h), Except.ok.injEq, Bool.and_eq_true,
    List.any_eq_true] at h
  obtain ⟨⟨r, hr, hdecides⟩, -⟩ := h
  exact ⟨r, hr, decides_iff.1 hdecides⟩

/-- What some rule allows stays allowed by rules none of which denies, if one of them is wider. -/
theorem can_of_within {others : List Rule} (hothers : ∀ s ∈ others, s.inverted = false)
    (hdecided : Decided action type subject others) {r s : Rule} (hs : s ∈ others)
    (hwithin : r.Within s) (happlies : r.appliesTo action type = true)
    (hmatches : r.matches subject = .ok true) : can others action type subject = .ok true := by
  have hany : others.any (decides action type subject) = true :=
    List.any_eq_true.2 ⟨s, hs, decides_iff.2
      ⟨hwithin.appliesTo action type ▸ happlies, (hwithin.implies subject).eq_ok_true hmatches⟩⟩
  have hcan := can_allow_deny hothers (List.forall_mem_nil _) (by rwa [List.append_nil])
  rw [List.append_nil, hany] at hcan
  exact hcan

/-- If rules can only fail in one way and one of them does, so do they together. -/
theorem decideFrom_eq_error {rules : List Rule} {e : Condition.Trouble}
    (h : ∀ r ∈ rules, r.appliesTo action type = true →
      (∃ b, r.matches subject = .ok b) ∨ r.matches subject = .error e)
    {r : Rule} (hr : r ∈ rules) (happlies : r.appliesTo action type = true)
    (herror : r.matches subject = .error e) (i : Nat) (verdict : Verdict) :
    decideFrom action type subject i rules verdict = .error e := by
  induction rules generalizing i verdict with
  | nil => cases hr
  | cons s rest ih =>
    obtain ⟨hs, hrest⟩ := List.forall_mem_cons.1 h
    rw [decideFrom]
    rcases List.mem_cons.1 hr with rfl | hr
    · rw [if_pos happlies, herror]
      rfl
    · split
      · next hyes =>
        rcases hs hyes with ⟨b, hb⟩ | hb
        · rw [hb]
          cases b <;> exact ih hrest hr _ _
        · rw [hb]
          rfl
      · exact ih hrest hr _ _

theorem can_eq_error {rules : RuleSet} {e : Condition.Trouble}
    (h : ∀ r ∈ rules, r.appliesTo action type = true →
      (∃ b, r.matches subject = .ok b) ∨ r.matches subject = .error e)
    {r : Rule} (hr : r ∈ rules) (happlies : r.appliesTo action type = true)
    (herror : r.matches subject = .error e) : rules.can action type subject = .error e := by
  rw [can, evaluate_eq_decideFrom, decideFrom_eq_error h hr happlies herror]
  rfl

end RuleSet

end HouseholdAccess
