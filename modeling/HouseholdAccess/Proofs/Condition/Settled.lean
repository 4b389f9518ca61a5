import HouseholdAccess.Proofs.Condition.Written
import Mathlib.Data.List.Nodup

/-!
# Documents that stay as they are

The document of a condition is read again as another tree (`Condition.reread`), and that
has a document of its own. Tests that have been grouped by path stay in their groups
(`writeFields_regrouped`). A conjunction that is written with `$and` does so because some
child is no test, or because two tests have path and operator in common; but a child that
is a conjunction of one test is read again as this test (`Condition.unwrapped`), and if
that was all, then the tests are grouped the next time.

A condition is *settled* (`Condition.isSettled`) if there is no such conjunction in it, and
it is for settled conditions that the second document is the first one
(`Condition.toDocument_reread_iff`).
-/

namespace HouseholdAccess.Condition

/-! ## Grouping twice -/

/-- What two tests must not have in common to be grouped. -/
def FieldTest.slot (t : FieldTest) : String × Operator := (t.path, t.operator)

theorem distinctTests_iff {tests : List FieldTest} :
    distinctTests tests = true ↔ (tests.map FieldTest.slot).Nodup := by
  induction tests with
  | nil => simp [distinctTests]
  | cons t rest ih =>
    simp only [distinctTests, Bool.and_eq_true, ih, List.map_cons, List.nodup_cons,
      Bool.not_eq_true', List.any_eq_false, beq_iff_eq, List.mem_map, FieldTest.slot,
      Prod.mk.injEq, not_exists, not_and]

theorem nodup_eraseDups (names : List String) : names.eraseDups.Nodup := by
  match names with
  | [] => exact List.nodup_nil
  | name :: rest =>
    rw [List.eraseDups_cons, List.nodup_cons, List.mem_eraseDups, List.mem_filter]
    exact ⟨fun ⟨_, hne⟩ => by simp at hne, nodup_eraseDups _⟩
termination_by names.length
decreasing_by exact Nat.lt_succ_of_le (List.length_filter_le _ _)

theorem nodup_paths (tests : List FieldTest) : (paths tests).Nodup := nodup_eraseDups _

theorem distinctTests_regrouped {tests : List FieldTest} (h : distinctTests tests = true) :
    distinctTests (regrouped tests) = true := by
  rw [distinctTests_iff] at h ⊢
  rw [regrouped, List.map_flatMap, List.nodup_flatMap]
  refine ⟨fun path _ => h.sublist (List.filter_sublist.map _), ?_⟩
  -- Tests at two paths differ in the path.
  refine (nodup_paths tests).imp fun {p q} hne => ?_
  refine List.disjoint_left.2 ?_
  intro slot hp hq
  obtain ⟨t, ht, rfl⟩ := List.mem_map.1 hp
  obtain ⟨u, hu, hslot⟩ := List.mem_map.1 hq
  refine hne ?_
  rw [← (mem_testsAt.1 ht).2, ← (mem_testsAt.1 hu).2]
  exact (congrArg Prod.fst hslot).symm

theorem testsAt_flatMap (tests : List FieldTest) {ps : List String} (h : ps.Nodup) (path : String) :
    testsAt (ps.flatMap (testsAt tests)) path = if path ∈ ps then testsAt tests path else [] := by
  have hat (q : String) : testsAt (testsAt tests q) path =
      if q = path then testsAt tests path else [] := by
    rw [testsAt, testsAt, List.filter_filter]
    split
    · next hq => simp only [hq, Bool.and_self, testsAt]
    · next hq =>
      refine List.filter_eq_nil_iff.2 fun t _ => ?_
      rw [Bool.and_eq_true, beq_iff_eq, beq_iff_eq]
      rintro ⟨hp, hq'⟩
      exact hq (hq'.symm.trans hp)
  induction ps with
  | nil => rfl
  | cons q rest ih =>
    rw [List.nodup_cons] at h
    rw [List.flatMap_cons, testsAt, List.filter_append, ← testsAt, ← testsAt, hat, ih h.2]
    by_cases hq : q = path
    · subst hq
      simp [h.1]
    · simp [hq, Ne.symm hq]

/-- Each path of some tests occurs first in its turn. -/
theorem paths_flatMap (tests : List FieldTest) {ps : List String} (h : ps.Nodup)
    (hps : ∀ path ∈ ps, path ∈ paths tests) : paths (ps.flatMap (testsAt tests)) = ps := by
  induction ps with
  | nil => rfl
  | cons p rest ih =>
    rw [List.nodup_cons] at h
    rw [List.forall_mem_cons] at hps
    have hsame : ∀ q ∈ (testsAt tests p).map (·.path), q = p := by
      intro q hq
      obtain ⟨t, ht, rfl⟩ := List.mem_map.1 hq
      exact (mem_testsAt.1 ht).2
    have hfirst : ((testsAt tests p).map (·.path)).eraseDups = [p] := by
      obtain ⟨t, ht, hpath⟩ := mem_paths.1 hps.1
      have hne : (testsAt tests p).map (·.path) ≠ [] :=
        List.ne_nil_of_mem (List.mem_map_of_mem (mem_testsAt.2 ⟨ht, hpath⟩))
      obtain ⟨q, qs, hqs⟩ := List.exists_cons_of_ne_nil hne
      rw [hqs, List.forall_mem_cons] at hsame
      rw [hqs, List.eraseDups_cons, hsame.1, List.filter_eq_nil_iff.2]
      · rfl
      · intro q' hq'
        simp [hsame.2 q' hq']
    have hrest : ((rest.flatMap (testsAt tests)).map (·.path)).removeAll
        ((testsAt tests p).map (·.path)) = (rest.flatMap (testsAt tests)).map (·.path) := by
      refine List.filter_eq_self.2 fun q hq => ?_
      obtain ⟨t, ht, rfl⟩ := List.mem_map.1 hq
      obtain ⟨p', hp', ht⟩ := List.mem_flatMap.1 ht
      rw [Bool.not_eq_true', List.elem_eq_mem, decide_eq_false_iff_not]
      intro hmem
      have hp := hsame _ hmem
      rw [(mem_testsAt.1 ht).2] at hp
      exact h.1 (hp ▸ hp')
    rw [paths, List.flatMap_cons, List.map_append, List.eraseDups_append, hfirst, hrest, ← paths,
      ih h.2 hps.2, List.singleton_append]

/-- Tests that have been grouped stay in their groups. -/
theorem writeFields_regrouped (tests : List FieldTest) :
    writeFields (regrouped tests) = writeFields tests := by
  have hnodup := nodup_paths tests
  rw [writeFields, writeFields, regrouped, paths_flatMap tests hnodup fun _ => id]
  refine congrArg Value.record (List.map_congr_left fun path hpath => ?_)
  rw [testsAt_flatMap tests hnodup, if_pos hpath]

theorem fieldTests?_map_toCondition (tests : List FieldTest) :
    fieldTests? (tests.map FieldTest.toCondition) = some tests := by
  induction tests with
  | nil => rfl
  | cons t rest ih => rw [List.map_cons, FieldTest.toCondition, fieldTests?, ih, Option.map_some]

/-- A conjunction of tests that can be grouped is written as their fields, also when it stands for
    its only test. -/
theorem toDocument_conjunction {tests : List FieldTest} (h : distinctTests tests = true) :
    (conjunction (tests.map FieldTest.toCondition)).toDocument = writeFields tests := by
  have hall : (Condition.all (tests.map FieldTest.toCondition)).toDocument = writeFields tests := by
    rw [toDocument, grouped?_eq, groupedTests?, fieldTests?_map_toCondition, Option.filter_some,
      if_pos h]
    rfl
  rcases tests with _ | ⟨t, _ | ⟨u, rest⟩⟩
  · exact hall
  · rfl
  · exact hall

/-! ## Conjunctions of one test -/

/-- The test of a conjunction of one test; any other condition is left as it is. -/
def unwrapped : Condition → Condition
  | .all [.field path operator operand] => .field path operator operand
  | c => c

/-- What is read again as a test is that test, or a conjunction of it alone. -/
theorem reread_cases (c : Condition) :
    (∃ t : FieldTest, c.unwrapped = t.toCondition ∧ c.reread = t.toCondition) ∨
      fieldTests? [c.unwrapped] = none ∧ fieldTests? [c.reread] = none := by
  cases c with
  | field path operator operand => exact .inl ⟨⟨path, operator, operand⟩, rfl, rfl⟩
  | any | not => exact .inr ⟨rfl, rfl⟩
  | all children =>
    rcases children with _ | ⟨c, _ | ⟨d, rest⟩⟩
    · exact .inr ⟨rfl, rfl⟩
    · cases c with
      | field path operator operand =>
        refine .inl ⟨⟨path, operator, operand⟩, rfl, ?_⟩
        exact congrArg (fun ts => conjunction (List.map FieldTest.toCondition ts))
          (regrouped_singleton ⟨path, operator, operand⟩)
      | all | any | not => exact .inr ⟨rfl, rfl⟩
    · refine .inr ⟨by cases c <;> rfl, ?_⟩
      rw [reread]
      split
      · -- Two tests or more are read again as that many.
        next tests htests =>
        obtain hall := eq_map_of_groupedTests? htests
        rcases hregrouped : regrouped tests with _ | ⟨t, _ | ⟨u, others⟩⟩
        · rw [regrouped_eq_nil] at hregrouped
          rw [hregrouped] at hall
          cases hall
        · have hlength : tests.length = 1 := by
            have hnodup := distinctTests_iff.1 (Option.filter_eq_some_iff.1 htests).2
            have hmem : ∀ u ∈ tests, u = t := fun u hu =>
              List.mem_singleton.1 (hregrouped ▸ mem_regrouped.2 hu)
            rcases tests with _ | ⟨u, _ | ⟨v, others⟩⟩
            · cases hall
            · rfl
            · rw [List.forall_mem_cons, List.forall_mem_cons] at hmem
              rw [hmem.1, hmem.2.1] at hnodup
              exact absurd List.mem_cons_self (List.nodup_cons.1 hnodup).1
          have htwo := congrArg List.length hall
          rw [List.length_map, hlength] at htwo
          cases htwo
        · rfl
      · rfl

theorem fieldTests?_cons (c : Condition) (cs : List Condition) :
    fieldTests? (c :: cs) = (fieldTests? [c]).bind fun ts => (fieldTests? cs).map (ts ++ ·) := by
  cases c with
  | field path operator operand =>
    simp only [fieldTests?, Option.map_some, Option.bind_some, List.singleton_append]
  | _ => rfl

/-- Which tests a conjunction is read again to have can be seen before. -/
theorem fieldTests?_rereadAll (cs : List Condition) :
    fieldTests? (rereadAll cs) = fieldTests? (cs.map unwrapped) := by
  induction cs with
  | nil => rfl
  | cons c rest ih =>
    rw [rereadAll, List.map_cons, fieldTests?_cons, ih, fieldTests?_cons c.unwrapped]
    rcases reread_cases c with ⟨t, hunwrapped, hreread⟩ | ⟨hunwrapped, hreread⟩
    · rw [hunwrapped, hreread]
    · rw [hunwrapped, hreread]

/-! ## Settled conditions -/

mutual

/-- No conjunction in the condition that is written with `$and` is one of tests that can be grouped
    once conjunctions of one test have been read again as their tests. -/
def isSettled : Condition → Bool
  | .field .. => true
  | .all children =>
    (groupedTests? children).isSome ||
      (groupedTests? (children.map unwrapped)).isNone && areSettled children
  | .any children => areSettled children
  | .not child => isSettled child

/-- The conditions of a list are settled. -/
def areSettled : List Condition → Bool
  | [] => true
  | child :: rest => isSettled child && areSettled rest

end

/-- An object with one text key says what stands there. -/
theorem record_singleton_inj {name : String} {v w : Value} :
    Value.record [(name, v)] = Value.record [(name, w)] ↔ v = w := by
  simp [Value.record, Entries.ofFields]

/-- Fields under paths are not what a combinator combines. -/
theorem writeFields_ne_record {tests : List FieldTest}
    (hplain : ∀ t ∈ tests, isDollar t.path = false) {name : String}
    (hname : isDollar name = true) (v : Value) : writeFields tests ≠ Value.record [(name, v)] := by
  intro h
  have hpaths : (paths tests).map (fun path => (path, writeTests (testsAt tests path))) =
      [(name, v)] := by
    simpa [writeFields, Value.record, Entries.ofFields, List.map_eq_cons_iff] using h
  have hmem : name ∈ paths tests := by
    have hname : name ∈ ((paths tests).map fun path =>
        (path, writeTests (testsAt tests path))).map Prod.fst := by
      rw [hpaths]
      exact List.mem_cons_self
    simpa using hname
  obtain ⟨t, ht, rfl⟩ := mem_paths.1 hmem
  rw [hplain t ht] at hname
  cases hname

mutual

/-- The document of what is read again is the same exactly if the condition is settled. -/
theorem toDocument_reread_iff (c : Condition) (h : c.IsPlain) :
    c.reread.toDocument = c.toDocument ↔ c.isSettled = true := by
  cases c with
  | field path operator operand => exact iff_of_true rfl rfl
  | all children =>
    rw [isSettled, reread, toDocument, grouped?_eq]
    cases htests : groupedTests? children with
    | some tests =>
      -- What has been grouped stays.
      have hdistinct := (Option.filter_eq_some_iff.1 htests).2
      refine iff_of_true ?_ rfl
      exact (toDocument_conjunction (distinctTests_regrouped hdistinct)).trans
        (writeFields_regrouped tests)
    | none =>
      simp only [Option.map_none, Option.isSome_none, Bool.false_or]
      rw [toDocument, grouped?_eq, groupedTests?, fieldTests?_rereadAll, ← groupedTests?]
      cases hagain : groupedTests? (children.map unwrapped) with
      | some tests =>
        -- What is grouped only now was written with `$and` before.
        refine iff_of_false (writeFields_ne_record (fun t ht => ?_) rfl _) (by simp)
        have hchildren : rereadAll children = tests.map FieldTest.toCondition := by
          refine eq_map_of_fieldTests? ?_
          rw [fieldTests?_rereadAll]
          exact (Option.filter_eq_some_iff.1 hagain).1
        refine h t ((mem_rereadAll_tests children).1 ?_)
        rwa [hchildren, testsOf_map_toCondition]
      | none =>
        simp only [Option.map_none, Option.isNone_none, Bool.true_and]
        rw [record_singleton_inj, Value.list.injEq, toDocuments_rereadAll_iff children h]
  | any children =>
    rw [reread, toDocument, toDocument, isSettled, record_singleton_inj, Value.list.injEq,
      toDocuments_rereadAll_iff children h]
  | not child =>
    rw [reread, toDocument, toDocument, isSettled, record_singleton_inj,
      toDocument_reread_iff child h]

theorem toDocuments_rereadAll_iff (cs : List Condition) (h : ArePlain cs) :
    toDocuments (rereadAll cs) = toDocuments cs ↔ areSettled cs = true := by
  cases cs with
  | nil => exact iff_of_true rfl rfl
  | cons c rest =>
    rw [arePlain_iff, List.forall_mem_cons] at h
    rw [rereadAll, toDocuments, toDocuments, List.cons.injEq, areSettled, Bool.and_eq_true,
      toDocument_reread_iff c h.1, toDocuments_rereadAll_iff rest (arePlain_iff.2 h.2)]

end

end HouseholdAccess.Condition
