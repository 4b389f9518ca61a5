import HouseholdAccess.Proofs.Condition.Reading
import HouseholdAccess.Proofs.Condition.Truth

/-!
# Conditions that are written and read again

`Condition.toDocument` regroups conditions on fields by their paths, so that what
is read from the document of a condition need not be the condition itself. It is
`Condition.reread`: the same tree in which each conjunction of tests that can be
grouped has them in the order of the document (`regrouped`), and stands for its
test if it has one only.

Documents that are read have no path that starts like an operator
(`Condition.IsPlain`, `isPlain_of_ofDocument`), and for conditions like this

* `ofDocument_toDocument` says that the document of a condition is read as
  `reread`, and as no condition only if it is the empty conjunction;
* `reread_truth` and `mem_reread_tests` say that `reread` means the same.
-/

namespace HouseholdAccess.Condition

/-! ## Paths that do not look like operators -/

/-- No path in the condition starts like an operator. -/
def IsPlain (c : Condition) : Prop := ∀ t ∈ c.tests, isDollar t.path = false

/-- No path in the conditions of a list starts like an operator. -/
def ArePlain (cs : List Condition) : Prop := ∀ t ∈ testsOf cs, isDollar t.path = false

theorem arePlain_iff {cs : List Condition} : ArePlain cs ↔ ∀ c ∈ cs, c.IsPlain := by
  simp only [ArePlain, IsPlain, mem_testsOf]
  exact ⟨fun h c hc t ht => h t ⟨c, hc, ht⟩, fun h t ⟨c, hc, ht⟩ => h c hc t ht⟩

theorem arePlain_append {cs ds : List Condition} (hcs : ArePlain cs) (hds : ArePlain ds) :
    ArePlain (cs ++ ds) :=
  arePlain_iff.2 (List.forall_mem_append.2 ⟨arePlain_iff.1 hcs, arePlain_iff.1 hds⟩)

theorem isPlain_conjunction {cs : List Condition} (h : ArePlain cs) : (conjunction cs).IsPlain := by
  match cs with
  | [] => exact h
  | [c] => exact arePlain_iff.1 h c List.mem_cons_self
  | _ :: _ :: _ => exact h

/-- A text that starts like an operator does so by its first character. -/
theorem isDollar_append {s t : String} (hs : isDollar s = false) (ht : isDollar t = false) :
    isDollar (s ++ t) = false := by
  rw [isDollar, String.toList_append]
  cases h : s.toList with
  | nil => simpa [isDollar, h] using ht
  | cons c rest => simpa [isDollar, h] using hs

theorem isDollar_join {path : String} (h : isDollar path = false) (field : String) :
    isDollar (Path.join path field) = false := by
  rw [Path.join, String.append_assoc]
  refine isDollar_append h ?_
  rw [isDollar, String.toList_append]
  rfl

/-- Operators start like operators, and so do combinators. -/
theorem ofToken?_eq_none {s : String} (h : isDollar s = false) :
    Combinator.ofToken? s = none := by
  rw [Combinator.ofToken?, List.find?_eq_none]
  intro combinator _ htoken
  rw [beq_iff_eq] at htoken
  subst htoken
  cases combinator <;> simp [isDollar, Combinator.token] at h

theorem arePlain_of_operators? {path : String} (hpath : isDollar path = false) :
    ∀ {entries : Entries} {cs : List Condition}, operators? path entries = some cs → ArePlain cs
  | [], _, h => by
    cases h
    exact fun _ ht => nomatch ht
  | entry :: rest, cs, h => by
    obtain ⟨op, -, others, hothers, rfl⟩ := operators?_cons_eq_some_iff.1 h
    refine arePlain_iff.2 (List.forall_mem_cons.2 ⟨fun t ht => ?_, ?_⟩)
    · rw [tests, List.mem_singleton] at ht
      exact ht ▸ hpath
    · exact arePlain_iff.1 (arePlain_of_operators? hpath hothers)

mutual

theorem arePlain_of_readField {path : String} (hpath : isDollar path = false) (v : Value)
    {cs : List Condition} (h : readField path v = .ok cs) : ArePlain cs := by
  cases v with
  | object entries | mapping _ entries =>
    rw [readField_of_entries? rfl] at h
    rcases readField_object_eq_ok_iff.1 h with hops | ⟨-, -, hnested⟩
    · exact arePlain_of_operators? hpath hops
    · exact arePlain_of_readNested hpath entries hnested
  | _ =>
    rw [readField_operand rfl] at h
    cases h
    exact fun t ht => List.mem_singleton.1 ht ▸ hpath

theorem arePlain_of_readNested {path : String} (hpath : isDollar path = false) (entries : Entries)
    {cs : List Condition} (h : readNested path entries = .ok cs) : ArePlain cs := by
  match entries with
  | [] =>
    cases h
    exact fun _ ht => nomatch ht
  | (.text s, v) :: rest =>
    obtain ⟨first, hfirst, others, hothers, rfl⟩ := readNested_cons_eq_ok_iff.1 h
    exact arePlain_append (arePlain_of_readField (isDollar_join hpath s) v hfirst)
      (arePlain_of_readNested hpath rest hothers)

end

mutual

theorem arePlain_of_readEntries (entries : Entries) {cs : List Condition}
    (h : readEntries entries = .ok cs) : ArePlain cs := by
  match entries with
  | [] =>
    cases h
    exact fun _ ht => nomatch ht
  | (.text s, v) :: rest =>
    cases hs : Combinator.ofToken? s with
    | some combinator =>
      obtain ⟨first, hfirst, others, hothers, rfl⟩ := (readEntries_combinator_eq_ok_iff hs).1 h
      exact arePlain_iff.2 (List.forall_mem_cons.2 ⟨isPlain_of_readCombinator combinator v hfirst,
        arePlain_iff.1 (arePlain_of_readEntries rest hothers)⟩)
    | none =>
      obtain ⟨hdollar, first, hfirst, others, hothers, rfl⟩ :=
        (readEntries_field_eq_ok_iff hs).1 h
      exact arePlain_append (arePlain_of_readField hdollar v hfirst)
        (arePlain_of_readEntries rest hothers)

theorem isPlain_of_readCombinator (combinator : Combinator) (v : Value) {c : Condition}
    (h : readCombinator combinator v = .ok c) : c.IsPlain := by
  match combinator, v with
  | .not, .object entries | .not, .mapping _ entries =>
    rw [readCombinator] at h
    obtain ⟨cs, hcs, h⟩ := exists_of_bind_eq_ok h
    cases h
    exact isPlain_conjunction (arePlain_of_readEntries entries hcs)
  | .and, .list items | .and, .tuple items | .or, .list items | .or, .tuple items =>
    rw [readCombinator] at h
    obtain ⟨cs, hcs, h⟩ := exists_of_bind_eq_ok h
    cases h
    exact arePlain_of_readItems _ items hcs

theorem arePlain_of_readItems (combinator : Combinator) (items : List Value) {cs : List Condition}
    (h : readItems combinator items = .ok cs) : ArePlain cs := by
  match items with
  | [] =>
    cases h
    exact fun _ ht => nomatch ht
  | item :: rest =>
    obtain ⟨first, hfirst, others, hothers, rfl⟩ := readItems_cons_eq_ok_iff.1 h
    exact arePlain_iff.2 (List.forall_mem_cons.2 ⟨isPlain_of_readItem combinator item hfirst,
      arePlain_iff.1 (arePlain_of_readItems combinator rest hothers)⟩)

theorem isPlain_of_readItem (combinator : Combinator) (item : Value) {c : Condition}
    (h : readItem combinator item = .ok c) : c.IsPlain := by
  match item with
  | .object entries | .mapping _ entries =>
    rw [readItem_of_entries? rfl] at h
    obtain ⟨cs, hcs, rfl⟩ := readItem_object_eq_ok_iff.1 h
    exact isPlain_conjunction (arePlain_of_readEntries entries hcs)

end

/-- A condition that is read from a document has no path that starts like an operator, and
    constrains something. -/
theorem isPlain_of_ofDocument {document : Value} {c : Condition}
    (h : ofDocument document = .ok (some c)) : c.IsPlain ∧ c ≠ .all [] := by
  match document with
  | .null => cases h
  | .object entries | .mapping _ entries =>
    rw [ofDocument] at h
    obtain ⟨cs, hcs, h⟩ := exists_of_bind_eq_ok h
    have hplain := isPlain_conjunction (arePlain_of_readEntries entries hcs)
    split at h
    · cases h
    · next hne =>
      cases h
      exact ⟨hplain, hne⟩

/-! ## Conjunctions that are grouped -/

/-- The tests of a conjunction, if they can be grouped by path. -/
def groupedTests? (children : List Condition) : Option (List FieldTest) :=
  (fieldTests? children).filter distinctTests

theorem grouped?_eq (children : List Condition) :
    grouped? children = (groupedTests? children).map writeFields := by
  rw [grouped?, groupedTests?]
  cases fieldTests? children with
  | none => rfl
  | some tests =>
    simp only [Option.bind_eq_bind, Option.bind_some, Option.filter_some]
    split <;> rfl

theorem eq_map_of_fieldTests? {children : List Condition} {tests : List FieldTest}
    (h : fieldTests? children = some tests) : children = tests.map FieldTest.toCondition := by
  induction children generalizing tests with
  | nil =>
    cases h
    rfl
  | cons c rest ih =>
    cases c with
    | field path operator operand =>
      rw [fieldTests?, Option.map_eq_some_iff] at h
      obtain ⟨others, hothers, rfl⟩ := h
      rw [List.map_cons, ← ih hothers]
      rfl
    | _ => cases h

theorem eq_map_of_groupedTests? {children : List Condition} {tests : List FieldTest}
    (h : groupedTests? children = some tests) : children = tests.map FieldTest.toCondition :=
  eq_map_of_fieldTests? (Option.filter_eq_some_iff.1 h).1

/-- Tests in the order in which they are read again: by path, the paths in the order in which they
    first occur. -/
def regrouped (tests : List FieldTest) : List FieldTest := (paths tests).flatMap (testsAt tests)

theorem mem_paths {tests : List FieldTest} {path : String} :
    path ∈ paths tests ↔ ∃ t ∈ tests, t.path = path := by
  rw [paths, List.mem_eraseDups, List.mem_map]

theorem mem_testsAt {tests : List FieldTest} {path : String} {t : FieldTest} :
    t ∈ testsAt tests path ↔ t ∈ tests ∧ t.path = path := by
  rw [testsAt, List.mem_filter, beq_iff_eq]

theorem mem_regrouped {tests : List FieldTest} {t : FieldTest} :
    t ∈ regrouped tests ↔ t ∈ tests := by
  simp only [regrouped, List.mem_flatMap, mem_testsAt, mem_paths]
  exact ⟨fun ⟨_, _, ht, _⟩ => ht, fun ht => ⟨t.path, ⟨t, ht, rfl⟩, ht, rfl⟩⟩

theorem regrouped_singleton (t : FieldTest) : regrouped [t] = [t] := by
  simp [regrouped, paths, testsAt, List.eraseDups_cons]

theorem regrouped_eq_nil {tests : List FieldTest} : regrouped tests = [] ↔ tests = [] := by
  simp only [List.eq_nil_iff_forall_not_mem, mem_regrouped]

@[simp] theorem tests_toCondition (t : FieldTest) : t.toCondition.tests = [t] := rfl

theorem testsOf_map_toCondition (tests : List FieldTest) :
    testsOf (tests.map FieldTest.toCondition) = tests := by
  induction tests with
  | nil => rfl
  | cons t rest ih => rw [List.map_cons, testsOf, ih, tests_toCondition, List.singleton_append]

theorem truthOfAll_map_toCondition (answer : FieldTest → Bool) (tests : List FieldTest) :
    truthOfAll answer (tests.map FieldTest.toCondition) = tests.all answer := by
  rw [truthOfAll_eq, List.all_map]
  rfl

mutual

/-- What is read from the document of a condition. -/
def reread : Condition → Condition
  | .field path operator operand => .field path operator operand
  | .all children =>
    match groupedTests? children with
    | some tests => conjunction ((regrouped tests).map FieldTest.toCondition)
    | none => .all (rereadAll children)
  | .any children => .any (rereadAll children)
  | .not child => .not (reread child)

/-- What is read from the documents of conditions. -/
def rereadAll : List Condition → List Condition
  | [] => []
  | child :: rest => reread child :: rereadAll rest

end

mutual

/-- What is read means what was written. -/
theorem reread_truth (answer : FieldTest → Bool) (c : Condition) :
    c.reread.truth answer = c.truth answer := by
  cases c with
  | field path operator operand => rfl
  | all children =>
    rw [reread]
    split
    · -- All tests have to hold, whatever their order.
      next tests htests =>
      rw [truth_conjunction, truthOfAll_map_toCondition, truth, eq_map_of_groupedTests? htests,
        truthOfAll_map_toCondition, Bool.eq_iff_iff, List.all_eq_true, List.all_eq_true]
      simp only [mem_regrouped]
    · rw [truth, truth, truthOfAll_eq, truthOfAll_eq]
      exact rereadAll_all answer children
  | any children =>
    rw [reread, truth, truth, truthOfAny_eq, truthOfAny_eq]
    exact rereadAll_any answer children
  | not child => rw [reread, truth, truth, reread_truth answer child]

theorem rereadAll_all (answer : FieldTest → Bool) (cs : List Condition) :
    (rereadAll cs).all (truth answer) = cs.all (truth answer) := by
  cases cs with
  | nil => rfl
  | cons c rest =>
    rw [rereadAll, List.all_cons, List.all_cons, reread_truth answer c, rereadAll_all answer rest]

theorem rereadAll_any (answer : FieldTest → Bool) (cs : List Condition) :
    (rereadAll cs).any (truth answer) = cs.any (truth answer) := by
  cases cs with
  | nil => rfl
  | cons c rest =>
    rw [rereadAll, List.any_cons, List.any_cons, reread_truth answer c, rereadAll_any answer rest]

end

mutual

/-- What is read has the tests of what was written, though not in the same order. -/
theorem mem_reread_tests {t : FieldTest} (c : Condition) : t ∈ c.reread.tests ↔ t ∈ c.tests := by
  cases c with
  | field path operator operand => rfl
  | all children =>
    rw [reread]
    split
    · next tests htests =>
      rw [tests_conjunction, testsOf_map_toCondition, mem_regrouped, Condition.tests,
        eq_map_of_groupedTests? htests, testsOf_map_toCondition]
    · exact mem_rereadAll_tests children
  | any children => exact mem_rereadAll_tests children
  | not child => exact mem_reread_tests child

theorem mem_rereadAll_tests {t : FieldTest} (cs : List Condition) :
    t ∈ testsOf (rereadAll cs) ↔ t ∈ testsOf cs := by
  cases cs with
  | nil => rfl
  | cons c rest =>
    rw [rereadAll, testsOf, testsOf, List.mem_append, List.mem_append, mem_reread_tests c,
      mem_rereadAll_tests rest]

end

/-- Only the empty conjunction is read again as one. -/
theorem reread_ne_all_nil {c : Condition} (h : c ≠ .all []) : c.reread ≠ .all [] := by
  cases c with
  | all children =>
    rw [reread]
    split
    · -- Regrouping loses no test, so that it leaves none only of none.
      next tests htests =>
      obtain rfl := eq_map_of_groupedTests? htests
      match hregrouped : regrouped tests with
      | [] =>
        rw [regrouped_eq_nil] at hregrouped
        subst hregrouped
        exact absurd rfl h
      | [t] => exact Condition.noConfusion
      | t :: u :: rest =>
        intro hall
        cases hall
    · cases children with
      | nil => exact absurd rfl h
      | cons child rest => simp [rereadAll]
  | _ => simp [reread]

/-! ## Reading what was written -/

theorem ofFields_cons (name : String) (v : Value) (rest : List (String × Value)) :
    Entries.ofFields ((name, v) :: rest) = (.text name, v) :: Entries.ofFields rest := rfl

/-- An operator is read as itself. -/
theorem operators?_record (path : String) (tests : List FieldTest) :
    operators? path (Entries.ofFields (tests.map fun t => (t.operator.token, t.operand))) =
      some (tests.map fun t => .field path t.operator t.operand) := by
  induction tests with
  | nil => rfl
  | cons t rest ih =>
    rw [List.map_cons, ofFields_cons, operators?, keyOperator?, Operator.ofToken?_token, ih]
    rfl

/-- What stands at a path is read as the tests at that path. -/
theorem readField_writeTests (path : String) (tests : List FieldTest) :
    readField path (writeTests tests) =
      .ok (tests.map fun t => .field path t.operator t.operand) := by
  have hrecord : readField path
      (.record (tests.map fun t => (t.operator.token, t.operand))) =
        .ok (tests.map fun t => .field path t.operator t.operand) := by
    rw [Value.record, readField, operators?_record]
  unfold writeTests
  split
  · next t =>
    split
    · next h =>
      rw [Bool.and_eq_true, decide_eq_true_eq, Option.isNone_iff_eq_none] at h
      obtain ⟨heq, hentries⟩ := h
      rw [readField_operand hentries, List.map_singleton, heq]
    · exact hrecord
  · exact hrecord

/-- An object with a combinator as its only key stands for what the combinator does. -/
theorem readEntries_combinator (combinator : Combinator) (v : Value) :
    readEntries (Entries.ofFields [(combinator.token, v)]) =
      (readCombinator combinator v).map ([·]) := by
  have htoken : Combinator.ofToken? combinator.token = some combinator := by
    cases combinator <;> decide
  rw [ofFields_cons, readEntries, htoken]
  simp only
  cases readCombinator combinator v <;> rfl

/-- Fields with tests are read one after the other. -/
theorem readEntries_fields {ps : List String} (tests : List FieldTest)
    (h : ∀ path ∈ ps, isDollar path = false) :
    readEntries (Entries.ofFields (ps.map fun path => (path, writeTests (testsAt tests path)))) =
      .ok ((ps.flatMap (testsAt tests)).map FieldTest.toCondition) := by
  induction ps with
  | nil => rfl
  | cons path rest ih =>
    have hpath := h path List.mem_cons_self
    have hat : (testsAt tests path).map (fun t => Condition.field path t.operator t.operand) =
        (testsAt tests path).map FieldTest.toCondition :=
      List.map_congr_left fun t ht => by rw [← (mem_testsAt.1 ht).2, FieldTest.toCondition]
    rw [List.map_cons, ofFields_cons, readEntries, ofToken?_eq_none hpath, readField_writeTests,
      hat, List.flatMap_cons, List.map_append,
      ih fun other hother => h other (List.mem_cons_of_mem path hother)]
    simp only [hpath]
    rfl

theorem readEntries_writeFields {tests : List FieldTest}
    (h : ∀ t ∈ tests, isDollar t.path = false) :
    readEntries (Entries.ofFields ((paths tests).map fun path =>
      (path, writeTests (testsAt tests path)))) =
        .ok ((regrouped tests).map FieldTest.toCondition) :=
  readEntries_fields tests fun _ hpath => by
    obtain ⟨t, ht, rfl⟩ := mem_paths.1 hpath
    exact h t ht

mutual

/-- The document of a condition is an object whose entries are read again as `reread`. -/
theorem exists_readEntries_toDocument (c : Condition) (h : c.IsPlain) :
    ∃ entries cs, c.toDocument = .object entries ∧ readEntries entries = .ok cs ∧
      conjunction cs = c.reread := by
  cases c with
  | field path operator operand =>
    refine ⟨_, _, rfl, readEntries_writeFields h, ?_⟩
    rw [regrouped_singleton]
    rfl
  | all children =>
    rw [toDocument, grouped?_eq, reread]
    cases htests : groupedTests? children with
    -- Tests that can be grouped are written as fields, and other conjunctions with `$and`.
    | some tests =>
      obtain rfl := eq_map_of_groupedTests? htests
      refine ⟨_, _, rfl, readEntries_writeFields ?_, rfl⟩
      rwa [IsPlain, Condition.tests, testsOf_map_toCondition] at h
    | none =>
      refine ⟨_, [.all (rereadAll children)], rfl, ?_, rfl⟩
      refine (readEntries_combinator .and _).trans ?_
      rw [readCombinator, readItems_toDocuments .and children h]
      rfl
  | any children =>
    refine ⟨_, [.any (rereadAll children)], rfl, ?_, rfl⟩
    refine (readEntries_combinator .or _).trans ?_
    rw [readCombinator, readItems_toDocuments .or children h]
    rfl
  | not child =>
    obtain ⟨entries, cs, hdocument, hread, hreread⟩ := exists_readEntries_toDocument child h
    refine ⟨_, [.not (reread child)], rfl, ?_, rfl⟩
    refine (readEntries_combinator .not _).trans ?_
    rw [hdocument, readCombinator, hread, ← hreread]
    rfl

theorem readItems_toDocuments (combinator : Combinator) (cs : List Condition) (h : ArePlain cs) :
    readItems combinator (toDocuments cs) = .ok (rereadAll cs) := by
  cases cs with
  | nil => rfl
  | cons c rest =>
    rw [arePlain_iff, List.forall_mem_cons] at h
    obtain ⟨entries, ds, hdocument, hread, hreread⟩ := exists_readEntries_toDocument c h.1
    rw [toDocuments, readItems, hdocument, readItem, hread,
      readItems_toDocuments combinator rest (arePlain_iff.2 h.2), rereadAll, ← hreread]
    rfl

end

/-- The document of a condition is read as `reread`, and it constrains something if the condition
    does. -/
theorem ofDocument_toDocument {c : Condition} (hplain : c.IsPlain) (hne : c ≠ .all []) :
    ofDocument c.toDocument = .ok (some c.reread) := by
  obtain ⟨entries, cs, hdocument, hread, hreread⟩ := exists_readEntries_toDocument c hplain
  rw [hdocument, ofDocument, hread]
  simp only [bind, Except.bind, hreread]
  split
  · next hall => exact absurd hall (reread_ne_all_nil hne)
  · rfl

end HouseholdAccess.Condition
