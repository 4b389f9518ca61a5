import HouseholdAccess.Condition.Parsing
import HouseholdAccess.Proofs.Condition.Grammar
import HouseholdAccess.Proofs.Demand

/-!
# The demands of parsing documents

Of a document for which JSON has a form of its own, only the depth counts: one that is not deep
is parsed without an obstacle (`Condition.allMet_demands`), and one that has been parsed is not
deep (`Condition.faithful_of_demands`). Both go along the reading of documents.

`Condition.parse_iff` says what comes of any value. What follows the grammar is accepted and the
rest refused for a fault, as long as all that is asked on the way can be done.
-/

namespace HouseholdAccess.Condition

open Demand Json

/-! ## Documents that are not deep -/

theorem allMet_operandDemands {depth k room : Nat} {entries : Entries}
    (hentries : FaithfulEntries depth entries) (hroom : k + 2 * depth + 1 ≤ room) :
    AllMet room (operandDemands k entries) := by
  induction entries with
  | nil => trivial
  | cons entry rest ih =>
    rw [operandDemands, List.flatMap_cons, allMet_append]
    exact ⟨Value.allMet_copying hentries.2.2.1 hroom, ih hentries.2.2.2⟩

mutual

theorem allMet_fieldDemands {depth k room : Nat} (path : String) {v : Value}
    (hv : Faithful depth v) (hroom : k + 2 * depth + 2 ≤ room) :
    AllMet room (fieldDemands k path v) := by
  cases v with
  | object entries =>
    have hdepth : 0 < depth := hv.1
    simp only [fieldDemands, allMet_cons, obstacle?_calls]
    refine ⟨by omega, ?_⟩
    split
    · exact allMet_operandDemands hv.2 (by omega)
    · split
      · exact allMet_nil
      · exact allMet_nestedDemands path hv.2 (by omega)
  | null | bool | int | text | list =>
    simp only [fieldDemands, allMet_cons, obstacle?_calls]
    exact ⟨by omega, Value.allMet_copying hv (by omega)⟩
  | _ => exact hv.elim

theorem allMet_nestedDemands {depth k room : Nat} (path : String) {entries : Entries}
    (hentries : FaithfulEntries depth entries) (hroom : k + 2 * depth + 2 ≤ room) :
    AllMet room (nestedDemands k path entries) := by
  cases entries with
  | nil => exact allMet_nil
  | cons entry rest =>
    obtain ⟨key, v⟩ := entry
    obtain ⟨⟨s, rfl⟩, -, hv, hrest⟩ := hentries
    simp only [nestedDemands, allMet_append]
    refine ⟨allMet_fieldDemands _ hv hroom, ?_⟩
    split
    · exact allMet_nestedDemands path hrest hroom
    · exact allMet_nil

end

mutual

theorem allMet_entryDemands {depth k room : Nat} {entries : Entries}
    (hentries : FaithfulEntries depth entries) (hroom : k + 2 * depth + 2 ≤ room) :
    AllMet room (entryDemands k entries) := by
  cases entries with
  | nil => simp only [entryDemands, allMet_nil]
  | cons entry rest =>
    obtain ⟨key, v⟩ := entry
    obtain ⟨⟨s, rfl⟩, -, hv, hrest⟩ := hentries
    simp only [entryDemands]
    split
    · rw [allMet_append]
      refine ⟨allMet_combinatorDemands _ hv hroom, ?_⟩
      split
      · exact allMet_entryDemands hrest hroom
      · exact allMet_nil
    · split
      · exact allMet_nil
      · rw [allMet_append]
        refine ⟨allMet_fieldDemands s hv hroom, ?_⟩
        split
        · exact allMet_entryDemands hrest hroom
        · exact allMet_nil

theorem allMet_combinatorDemands {depth k room : Nat} (combinator : Combinator) {v : Value}
    (hv : Faithful depth v) (hroom : k + 2 * depth + 2 ≤ room) :
    AllMet room (combinatorDemands k combinator v) := by
  cases v with
  | object entries =>
    have hdepth : 0 < depth := hv.1
    simp only [combinatorDemands, allMet_cons, obstacle?_calls]
    refine ⟨by omega, ?_⟩
    cases combinator with
    | not =>
      simp only [allMet_cons, obstacle?_calls]
      exact ⟨by omega, allMet_entryDemands hv.2 (by omega)⟩
    | and | or => exact allMet_nil
  | list items =>
    have hdepth : 0 < depth := hv.1
    simp only [combinatorDemands, allMet_cons, obstacle?_calls]
    refine ⟨by omega, ?_⟩
    cases combinator with
    | not => exact allMet_nil
    | and | or => exact allMet_itemDemands _ hv.2 (by omega)
  | null | bool | int | text =>
    simp only [combinatorDemands, allMet_cons, obstacle?_calls, allMet_nil, and_true]
    omega
  | _ => exact hv.elim

theorem allMet_itemDemands {depth k room : Nat} (combinator : Combinator) {items : List Value}
    (hitems : FaithfulItems depth items) (hroom : k + 2 * depth + 1 ≤ room) :
    AllMet room (itemDemands k combinator items) := by
  cases items with
  | nil => simp only [itemDemands, allMet_nil]
  | cons item rest =>
    rw [itemDemands, allMet_append]
    refine ⟨allMet_documentDemands hitems.1 hroom, ?_⟩
    split
    · exact allMet_itemDemands combinator hitems.2 hroom
    · exact allMet_nil

theorem allMet_documentDemands {depth k room : Nat} {v : Value} (hv : Faithful depth v)
    (hroom : k + 2 * depth + 1 ≤ room) : AllMet room (documentDemands k v) := by
  cases v with
  | object entries =>
    have hdepth : 0 < depth := hv.1
    simp only [documentDemands, allMet_cons, obstacle?_calls]
    exact ⟨by omega, allMet_entryDemands hv.2 (by omega)⟩
  | null | bool | int | text | list => simp only [documentDemands, allMet_nil]
  | _ => exact hv.elim

end

/-- A document that is not deep is parsed without an obstacle. -/
theorem allMet_demands {depth k room : Nat} {v : Value} (hv : Faithful depth v)
    (hroom : k + 2 * depth + 2 ≤ room) : AllMet room (demands k v) := by
  rw [demands, allMet_cons, obstacle?_calls]
  exact ⟨by omega, allMet_documentDemands hv (by omega)⟩

/-! ## Documents that have been parsed -/

theorem faithfulEntries_of_operandDemands {depth k room : Nat} {entries : Entries}
    (hentries : FaithfulEntries depth entries) (hmet : AllMet room (operandDemands k entries)) :
    FaithfulEntries (room - k) entries := by
  induction entries with
  | nil => trivial
  | cons entry rest ih =>
    rw [operandDemands, List.flatMap_cons, allMet_append] at hmet
    exact ⟨hentries.1, hentries.2.1, Value.faithful_of_copying hentries.2.2.1 hmet.1,
      ih hentries.2.2.2 hmet.2⟩

mutual

theorem faithful_of_fieldDemands {depth k room : Nat} {path : String} {v : Value}
    {cs : List Condition} (hv : Faithful depth v) (hread : readField path v = .ok cs)
    (hmet : AllMet room (fieldDemands k path v)) : Faithful (room - k) v := by
  cases v with
  | object entries =>
    simp only [fieldDemands, allMet_cons, obstacle?_calls] at hmet
    obtain ⟨hcalls, hmet⟩ := hmet
    refine ⟨by omega, ?_⟩
    obtain hops | ⟨hops, hplain, hread⟩ := readField_object_eq_ok_iff.1 hread
    · rw [hops] at hmet
      exact (faithfulEntries_of_operandDemands hv.2 hmet).mono (by omega)
    · have hnone : (entries.any fun entry => isDollarKey entry.1) = false :=
        List.any_eq_false.2 fun entry hentry => by
          rw [hplain entry hentry]
          exact Bool.false_ne_true
      simp only [hops, hnone, Bool.false_eq_true, if_false] at hmet
      exact (faithfulEntries_of_nestedDemands hv.2 hread hmet).mono (by omega)
  | null | bool | int | text => exact hv
  | list items =>
    simp only [fieldDemands, allMet_cons] at hmet
    exact (Value.faithful_of_copying hv hmet.2).mono (by omega)
  | _ => exact hv.elim

theorem faithfulEntries_of_nestedDemands {depth k room : Nat} {path : String} {entries : Entries}
    {cs : List Condition} (hentries : FaithfulEntries depth entries)
    (hread : readNested path entries = .ok cs)
    (hmet : AllMet room (nestedDemands k path entries)) : FaithfulEntries (room - k) entries := by
  cases entries with
  | nil => trivial
  | cons entry rest =>
    obtain ⟨key, v⟩ := entry
    obtain ⟨⟨s, rfl⟩, hfresh, hv, hrest⟩ := hentries
    obtain ⟨first, hfirst, others, hothers, -⟩ := readNested_cons_eq_ok_iff.1 hread
    simp only [nestedDemands, allMet_append, isOk_eq_true_iff.2 ⟨_, hfirst⟩, if_true] at hmet
    exact ⟨⟨s, rfl⟩, hfresh, faithful_of_fieldDemands hv hfirst hmet.1,
      faithfulEntries_of_nestedDemands hrest hothers hmet.2⟩

end

mutual

theorem faithfulEntries_of_entryDemands {depth k room : Nat} {entries : Entries}
    {cs : List Condition} (hentries : FaithfulEntries depth entries)
    (hread : readEntries entries = .ok cs) (hmet : AllMet room (entryDemands k entries)) :
    FaithfulEntries (room - k) entries := by
  cases entries with
  | nil => trivial
  | cons entry rest =>
    obtain ⟨key, v⟩ := entry
    obtain ⟨⟨s, rfl⟩, hfresh, hv, hrest⟩ := hentries
    cases hs : Combinator.ofToken? s with
    | some combinator =>
      obtain ⟨first, hfirst, others, hothers, -⟩ := (readEntries_combinator_eq_ok_iff hs).1 hread
      simp only [entryDemands, hs, allMet_append, isOk_eq_true_iff.2 ⟨_, hfirst⟩, if_true] at hmet
      exact ⟨⟨s, rfl⟩, hfresh, faithful_of_combinatorDemands hv hfirst hmet.1,
        faithfulEntries_of_entryDemands hrest hothers hmet.2⟩
    | none =>
      obtain ⟨hplain, first, hfirst, others, hothers, -⟩ :=
        (readEntries_field_eq_ok_iff hs).1 hread
      simp only [entryDemands, hs, hplain, Bool.false_eq_true, if_false, allMet_append,
        isOk_eq_true_iff.2 ⟨_, hfirst⟩, if_true] at hmet
      exact ⟨⟨s, rfl⟩, hfresh, faithful_of_fieldDemands hv hfirst hmet.1,
        faithfulEntries_of_entryDemands hrest hothers hmet.2⟩

theorem faithful_of_combinatorDemands {depth k room : Nat} {combinator : Combinator} {v : Value}
    {c : Condition} (hv : Faithful depth v) (hread : readCombinator combinator v = .ok c)
    (hmet : AllMet room (combinatorDemands k combinator v)) : Faithful (room - k) v := by
  cases v with
  | object entries =>
    simp only [combinatorDemands, allMet_cons, obstacle?_calls] at hmet
    obtain ⟨hcalls, hmet⟩ := hmet
    refine ⟨by omega, ?_⟩
    cases combinator with
    | not =>
      simp only [readCombinator, bind_eq_ok_iff] at hread
      obtain ⟨cs, hread, -⟩ := hread
      simp only [allMet_cons] at hmet
      exact (faithfulEntries_of_entryDemands hv.2 hread hmet.2).mono (by omega)
    | and | or => simp only [readCombinator, reduceCtorEq] at hread
  | list items =>
    simp only [combinatorDemands, allMet_cons, obstacle?_calls] at hmet
    obtain ⟨hcalls, hmet⟩ := hmet
    refine ⟨by omega, ?_⟩
    cases combinator with
    | not => simp only [readCombinator, reduceCtorEq] at hread
    | and | or =>
      simp only [readCombinator, bind_eq_ok_iff] at hread
      obtain ⟨cs, hread, -⟩ := hread
      exact (faithfulItems_of_itemDemands hv.2 hread hmet).mono (by omega)
  | null | bool | int | text => exact hv
  | _ => exact hv.elim

theorem faithfulItems_of_itemDemands {depth k room : Nat} {combinator : Combinator}
    {items : List Value} {cs : List Condition} (hitems : FaithfulItems depth items)
    (hread : readItems combinator items = .ok cs)
    (hmet : AllMet room (itemDemands k combinator items)) : FaithfulItems (room - k) items := by
  cases items with
  | nil => trivial
  | cons item rest =>
    obtain ⟨first, hfirst, others, hothers, -⟩ := readItems_cons_eq_ok_iff.1 hread
    simp only [itemDemands, allMet_append, isOk_eq_true_iff.2 ⟨_, hfirst⟩, if_true] at hmet
    exact ⟨faithful_of_itemDemands hitems.1 hfirst hmet.1,
      faithfulItems_of_itemDemands hitems.2 hothers hmet.2⟩

theorem faithful_of_itemDemands {depth k room : Nat} {combinator : Combinator} {item : Value}
    {c : Condition} (hitem : Faithful depth item) (hread : readItem combinator item = .ok c)
    (hmet : AllMet room (documentDemands k item)) : Faithful (room - k) item := by
  cases item with
  | object entries =>
    obtain ⟨cs, hread, -⟩ := readItem_object_eq_ok_iff.1 hread
    simp only [documentDemands, allMet_cons, obstacle?_calls] at hmet
    exact ⟨by omega, (faithfulEntries_of_entryDemands hitem.2 hread hmet.2).mono (by omega)⟩
  | null | bool | int | text | list => simp only [readItem, reduceCtorEq] at hread
  | _ => exact hitem.elim

end

/-- A document that has been parsed is not deep. -/
theorem faithful_of_demands {depth k room : Nat} {v : Value} {c : Option Condition}
    (hv : Faithful depth v) (hread : ofDocument v = .ok c) (hmet : AllMet room (demands k v)) :
    Faithful (room - (k + 1)) v := by
  rw [demands, allMet_cons] at hmet
  cases v with
  | object entries =>
    obtain ⟨cs, hread, -⟩ := bind_eq_ok_iff.1 hread
    have hmet := hmet.2
    simp only [documentDemands, allMet_cons, obstacle?_calls] at hmet
    exact ⟨by omega, (faithfulEntries_of_entryDemands hv.2 hread hmet.2).mono (by omega)⟩
  | null => exact hv
  | bool | int | text | list => cases hread
  | _ => exact hv.elim

/-! ## Parsing -/

/-- What comes of a value. It is accepted exactly if it is null or a document, and refused for a
    fault exactly if it is neither, where what is asked on the way can be done; then no path in what
    is read starts like an operator. If something cannot be done, the first such thing ends it,
    which does not happen to data that JSON has a form of its own for unless it is deep. -/
theorem parse_iff (room : Nat) (v : Value) :
    ((∃ c, parse room v = .ok c) ↔ (v = .null ∨ IsDocument v) ∧ AllMet room (demands 0 v)) ∧
    ((∃ fault : Fault, parse room v = .error (.fault fault)) ↔
      ¬(v = .null ∨ IsDocument v) ∧ AllMet room (demands 0 v)) ∧
    (∀ o, parse room v = .error (.obstacle o) ↔
      firstObstacle? room (demands 0 v) = some o) ∧
    (∀ depth, Faithful depth v → 2 * depth + 2 ≤ room → AllMet room (demands 0 v)) ∧
    ∀ c, parse room v = .ok (some c) → ∀ t ∈ c.tests, isDollar t.path = false := by
  obtain ⟨hok, hfault, hplain⟩ := ofDocument_iff v
  have hshallow (depth : Nat) (hv : Faithful depth v) (hroom : 2 * depth + 2 ≤ room) :
      AllMet room (demands 0 v) := allMet_demands hv (by omega)
  cases hobstacle : firstObstacle? room (demands 0 v) with
  | some o =>
    have hunmet : ¬AllMet room (demands 0 v) := by simp [AllMet, hobstacle]
    have hparse : parse room v = .error (.obstacle o) := by rw [parse, hobstacle]
    rw [hparse]
    refine ⟨by simp [hunmet], by simp [hunmet], fun o' => ?_, hshallow, by simp⟩
    rw [Except.error.injEq, Refusal.obstacle.injEq, Option.some.injEq]
  | none =>
    have hmet : AllMet room (demands 0 v) := hobstacle
    have hparse : parse room v = (ofDocument v).mapError .fault := by rw [parse, hobstacle]
    rw [hparse]
    refine ⟨?_, ?_, fun o => ?_, hshallow, fun c hc => hplain c (mapError_eq_ok_iff.1 hc)⟩
    · simp only [mapError_eq_ok_iff, hok, hmet, and_true]
    · rw [← hfault, and_iff_left hmet]
      cases ofDocument v <;> simp [Except.mapError]
    · cases ofDocument v <;> simp [Except.mapError]

/-- A document that compares a field with lists in lists asks for two calls for each of them. -/
theorem firstObstacle?_demands_boxed (room k n : Nat) :
    firstObstacle? room (demands k (Value.record [("a", Value.boxed n)])) =
      if k + 2 * n + 5 ≤ room then none else some .calls := by
  have hname : Combinator.ofToken? "a" = none := by decide
  have hplain : isDollar "a" = false := by decide
  have hdemands : demands k (Value.record [("a", Value.boxed n)]) = .calls (k + 1) ::
      .calls (k + 2) :: .calls (k + 3) :: (Value.boxed n).copying (k + 3) := by
    cases n <;> simp [demands, documentDemands, entryDemands, fieldDemands, Value.record,
      Entries.ofFields, Value.boxed, hname, hplain]
  simp only [hdemands, firstObstacle?_calls_cons, Value.firstObstacle?_copying_boxed]
  grind

/-- Not all documents are parsed: lists in lists that are deep enough are not copied. -/
theorem not_forall_exists_parse :
    ¬∀ v, (∃ c, parse callRoom v = .ok c) ↔ v = .null ∨ IsDocument v := by
  intro h
  have hdocument : IsDocument (Value.record [("a", Value.boxed 699)]) :=
    .object rfl <| List.forall_mem_singleton.2 <| .field (by decide) <| .operand rfl
  obtain ⟨c, hc⟩ := (h _).2 (.inr hdocument)
  rw [parse, firstObstacle?_demands_boxed, if_neg (by decide)] at hc
  cases hc

end HouseholdAccess.Condition
