import HouseholdAccess.Proofs.Condition.Settled
import HouseholdAccess.Proofs.Rule.RoundTrip

/-!
# Packed forms that stay as they are

A rule set that is unpacked and packed again has the packed form it had before exactly if
the conditions of its rules are settled (`Packed.pack_unpack_pack`). A conjunction of one
test inside another conjunction keeps a condition from that: it is unpacked as the test
(`Packed.exists_pack_unpack_pack_ne`).
-/

namespace HouseholdAccess

/-- The condition of the rule, if any, is settled. -/
def Rule.IsSettled (r : Rule) : Prop := ∀ c, r.condition = some c → c.isSettled = true

namespace Packed

/-- An object is never left out of an entry. -/
theorem trim_cons_of_isObject {v : Value} (h : v.isObject = true) (flag : Value) :
    trim [v, flag] = v :: trim [flag] := by
  have hzero : isZero v = false := isZero_of_isObject h
  cases hflag : isZero flag <;> simp [trim, hzero, hflag]

/-- The entry of a rule that is read again is the same exactly if the rule is settled. -/
theorem packRule_reread_iff {r : Rule} (h : r.IsPlain) :
    packRule r.reread = packRule r ↔ r.IsSettled := by
  cases hc : r.condition with
  | none =>
    refine iff_of_true ?_ fun c hc' => ?_
    · simp only [packRule, Rule.reread, hc, Option.map_none]
    · rw [hc] at hc'
      cases hc'
  | some c =>
    obtain ⟨hplain, hne⟩ := h c hc
    have hplain' : c.reread.IsPlain :=
      fun t ht => hplain t ((Condition.mem_reread_tests c).1 ht)
    obtain ⟨hpack, hobject⟩ := packCondition_some hplain hne
    obtain ⟨hpack', hobject'⟩ := packCondition_some hplain' (Condition.reread_ne_all_nil hne)
    have hsettled : r.IsSettled ↔ c.isSettled = true := by
      rw [Rule.IsSettled, hc]
      exact ⟨fun h => h c rfl, fun h c' hc' => Option.some.inj hc' ▸ h⟩
    rw [hsettled, ← Condition.toDocument_reread_iff c hplain]
    simp only [packRule, Rule.reread, hc, Option.map_some, hpack, hpack',
      trim_cons_of_isObject hobject, trim_cons_of_isObject hobject', Value.list.injEq,
      List.cons.injEq, true_and, and_true]

theorem pack_map_reread_iff {rules : RuleSet} (h : ∀ r ∈ rules, r.IsPlain) :
    pack (rules.map Rule.reread) = pack rules ↔ ∀ r ∈ rules, r.IsSettled := by
  rw [pack, pack, Value.list.injEq, List.map_map, List.map_inj_left]
  exact forall₂_congr fun r hr => packRule_reread_iff (h r hr)

/-- Rules that were read from documents, and are not void, can be unpacked, and what comes out has
    the same packed form exactly if all of them are settled. -/
theorem pack_unpack_pack {rules : RuleSet} (h : ∀ r ∈ rules, r.IsRead)
    (hvoid : ∀ r ∈ rules, ¬r.IsVoid) :
    ∃ others, unpack (pack rules) = .ok others ∧
      (pack others = pack rules ↔ ∀ r ∈ rules, r.IsSettled) := by
  have hplain : ∀ r ∈ rules, r.IsPlain := fun r hr => (h r hr).isPlain
  exact ⟨_, unpack_pack hplain hvoid, pack_map_reread_iff hplain⟩

end Packed

/-! ## A conjunction in a conjunction -/

/-- One rule that lets users be read under a condition. -/
def readerRules (condition : Condition) : RuleSet := [.can [.read] [.user] (some condition)]

/-- The tests `a = 1` and `b = 2`, the first of them as a conjunction of its own. -/
def innerDocument : Value :=
  .record [("$and", .list [.record [("$and", .list [.record [("a", .int 1)]])],
    .record [("b", .int 2)]])]

/-- The condition that the document stands for. -/
def innerCondition : Condition :=
  .all [.all [.field "a" .eq (.int 1)], .field "b" .eq (.int 2)]

/-- The document that is written for it. -/
def listedDocument : Value :=
  .record [("$and", .list [.record [("a", .int 1)], .record [("b", .int 2)]])]

/-- The same tests in one conjunction. -/
def flatCondition : Condition := .all [.field "a" .eq (.int 1), .field "b" .eq (.int 2)]

/-- The document that is written for these. -/
def flatDocument : Value := .record [("a", .int 1), ("b", .int 2)]

theorem readerRules_not_isVoid (condition : Condition) :
    ∀ r ∈ readerRules condition, ¬r.IsVoid := by
  intro r hr
  rw [readerRules, List.mem_singleton] at hr
  subst hr
  simp [Rule.IsVoid, Rule.can]

theorem readerRules_isRead {document : Value} {condition : Condition}
    (h : Condition.ofDocument document = .ok (some condition)) :
    ∀ r ∈ readerRules condition, r.IsRead := by
  intro r hr
  rw [readerRules, List.mem_singleton] at hr
  subst hr
  exact ⟨document, h⟩

theorem readerRules_isSettled_iff (condition : Condition) :
    (∀ r ∈ readerRules condition, r.IsSettled) ↔ condition.isSettled = true := by
  simp [readerRules, Rule.IsSettled, Rule.can]

/-- The tests in one conjunction have the packed form that they had before. -/
theorem Packed.pack_unpack_pack_flat :
    (∀ r ∈ readerRules flatCondition, r.IsRead) ∧ (∀ r ∈ readerRules flatCondition, ¬r.IsVoid) ∧
      ∃ others, unpack (pack (readerRules flatCondition)) = .ok others ∧
        pack others = pack (readerRules flatCondition) := by
  have hdocument : Condition.ofDocument flatDocument = .ok (some flatCondition) := rfl
  have hread := readerRules_isRead hdocument
  have hvoid := readerRules_not_isVoid flatCondition
  obtain ⟨others, hothers, hsame⟩ := Packed.pack_unpack_pack hread hvoid
  exact ⟨hread, hvoid, others, hothers, hsame.2 ((readerRules_isSettled_iff _).2 rfl)⟩

/-- With the inner conjunction they come out as they would be written in one. -/
theorem Packed.exists_pack_unpack_pack_ne :
    Condition.ofDocument innerDocument = .ok (some innerCondition) ∧
      pack (readerRules innerCondition) =
        .list [.list [.text "read", .text "User", listedDocument]] ∧
      ∃ others, unpack (pack (readerRules innerCondition)) = .ok others ∧
        pack others = .list [.list [.text "read", .text "User", flatDocument]] ∧
        pack others ≠ pack (readerRules innerCondition) := by
  have hread : Condition.ofDocument innerDocument = .ok (some innerCondition) := rfl
  have hplain : ∀ r ∈ readerRules innerCondition, r.IsPlain :=
    fun r hr => (readerRules_isRead hread r hr).isPlain
  refine ⟨hread, rfl, _, unpack_pack hplain (readerRules_not_isVoid _), rfl, ?_⟩
  rw [ne_eq, pack_map_reread_iff hplain, readerRules_isSettled_iff]
  decide

end HouseholdAccess
