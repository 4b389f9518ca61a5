import HouseholdAccess.Condition.Document
import HouseholdAccess.Proofs.Sequence

/-!
# How documents are read

Condition documents are read part by part. Here it is said of each part when it is read, and as
what: operators and fields at a path (`readField_object_eq_ok_iff`,
`readNested_cons_eq_ok_iff`), the entries of a document
(`readEntries_combinator_eq_ok_iff`, `readEntries_field_eq_ok_iff`), and the documents that
are combined (`readItems_cons_eq_ok_iff`, `readItem_object_eq_ok_iff`). What holds of all
conditions that are read is proved along these steps.
-/

namespace HouseholdAccess.Condition

variable {path s : String} {v : Value} {entries rest : Entries} {combinator : Combinator}
  {c : Condition} {cs : List Condition}

/-! ## Fields -/

theorem operators?_cons_eq_some_iff {entry : Key × Value} :
    operators? path (entry :: rest) = some cs ↔ ∃ op, keyOperator? entry.1 = some op ∧
      ∃ others, operators? path rest = some others ∧ cs = .field path op entry.2 :: others := by
  simp only [operators?, Option.bind_eq_bind, Option.bind_eq_some_iff, Option.pure_def,
    Option.some.injEq, eq_comm (b := cs)]

/-- What has no entries is an operand to compare with. -/
theorem readField_operand (hv : v.entries? = none) :
    readField path v = .ok [.field path .eq v] := by
  cases v with
  | object | mapping => cases hv
  | _ => simp only [readField]

/-- What has entries is read as an object. -/
theorem readField_of_entries? (hv : v.entries? = some entries) :
    readField path v = readField path (.object entries) := by
  cases v with
  | object | mapping =>
    cases hv
    simp only [readField]
  | _ => cases hv

/-- An object is read as operators if there is nothing else in it, or else as fields, if none looks
    like an operator. -/
theorem readField_object_eq_ok_iff : readField path (.object entries) = .ok cs ↔
    operators? path entries = some cs ∨ operators? path entries = none ∧
      (∀ entry ∈ entries, isDollarKey entry.1 = false) ∧ readNested path entries = .ok cs := by
  have hdollars : (∀ entry ∈ entries, isDollarKey entry.1 = false) ↔
      ¬(entries.any fun entry => isDollarKey entry.1) = true := by
    simp only [List.any_eq_true, not_exists, not_and, Bool.not_eq_true]
  rw [readField, hdollars]
  cases operators? path entries with
  | some conditions => simp
  | none =>
    simp only [reduceCtorEq, false_or, true_and]
    split
    · next hdollar => exact iff_of_false (by simp) fun h => h.1 hdollar
    · next hdollar => exact (and_iff_right hdollar).symm

theorem readNested_cons_eq_ok_iff : readNested path ((.text s, v) :: rest) = .ok cs ↔
    ∃ first, readField (Path.join path s) v = .ok first ∧
      ∃ others, readNested path rest = .ok others ∧ cs = first ++ others := by
  simp only [readNested, bind_eq_ok_iff, pure_eq_ok_iff]

/-! ## Documents -/

theorem readEntries_combinator_eq_ok_iff (h : Combinator.ofToken? s = some combinator) :
    readEntries ((.text s, v) :: rest) = .ok cs ↔
      ∃ first, readCombinator combinator v = .ok first ∧
        ∃ others, readEntries rest = .ok others ∧ cs = first :: others := by
  simp only [readEntries, h, bind_eq_ok_iff, pure_eq_ok_iff]

/-- What is no combinator is the name of a field if it does not look like an operator. -/
theorem readEntries_field_eq_ok_iff (h : Combinator.ofToken? s = none) :
    readEntries ((.text s, v) :: rest) = .ok cs ↔ isDollar s = false ∧
      ∃ first, readField s v = .ok first ∧
        ∃ others, readEntries rest = .ok others ∧ cs = first ++ others := by
  simp only [readEntries, h]
  cases isDollar s with
  | true => simp only [if_true, reduceCtorEq, false_and]
  | false =>
    simp only [Bool.false_eq_true, if_false, bind_eq_ok_iff, pure_eq_ok_iff, true_and]

theorem readItems_cons_eq_ok_iff {item : Value} {rest : List Value} :
    readItems combinator (item :: rest) = .ok cs ↔
      ∃ first, readItem combinator item = .ok first ∧
        ∃ others, readItems combinator rest = .ok others ∧ cs = first :: others := by
  simp only [readItems, bind_eq_ok_iff, pure_eq_ok_iff]

theorem readItem_of_entries? (hv : v.entries? = some entries) :
    readItem combinator v = readItem combinator (.object entries) := by
  cases v with
  | object | mapping =>
    cases hv
    simp only [readItem]
  | _ => cases hv

theorem readCombinator_of_entries? (hv : v.entries? = some entries) :
    readCombinator combinator v = readCombinator combinator (.object entries) := by
  cases v with
  | object | mapping =>
    cases hv
    simp only [readCombinator]
  | _ => cases hv

theorem ofDocument_of_entries? (hv : v.entries? = some entries) :
    ofDocument v = ofDocument (.object entries) := by
  cases v with
  | object | mapping =>
    cases hv
    rfl
  | _ => cases hv

theorem readItem_object_eq_ok_iff : readItem combinator (.object entries) = .ok c ↔
    ∃ cs, readEntries entries = .ok cs ∧ c = conjunction cs := by
  simp only [readItem, bind_eq_ok_iff, pure_eq_ok_iff]

end HouseholdAccess.Condition
