import HouseholdAccess.Proofs.Condition.Demands
import HouseholdAccess.Proofs.Rule.Format

/-!
# The demands of reading packed forms

Of an entry only the condition makes demands. So a packed form that is not deep is read without
an obstacle (`Packed.allMet_demands`), and one that has been read is not deep
(`Packed.faithful_of_demands`).

`Packed.unpackWithin_iff` says what comes of any value. The lists of entries that state rules are
read as these rules and the rest is refused as malformed, as long as all that is asked on the way
can be done.
-/

namespace HouseholdAccess.Packed

open Demand Json

variable {room depth : Nat} {v a s c i : Value} {entries : List Value} {rules : RuleSet}
  {o : Obstacle} {fault : Fault}

/-! ## Forms that are not deep -/

theorem allMet_entryDemands (hv : Faithful depth v) (hroom : 2 * depth + 4 ≤ room) :
    AllMet room (entryDemands v) := by
  have hdemands {c : Value} (hc : Faithful (depth - 1) c) (hdepth : 0 < depth) :
      AllMet room (Condition.demands 4 c) := Condition.allMet_demands hc (by omega)
  rw [entryDemands.eq_def]
  split
  · obtain ⟨hdepth, -, -, hc, -⟩ := hv
    split
    · exact hdemands hc hdepth
    · exact allMet_nil
  · obtain ⟨hdepth, -, -, hc, -⟩ := hv
    split
    · exact hdemands hc hdepth
    · exact allMet_nil
  · exact allMet_nil

theorem allMet_listDemands (hentries : FaithfulItems depth entries)
    (hroom : 2 * depth + 4 ≤ room) : AllMet room (listDemands entries) := by
  induction entries with
  | nil => exact allMet_nil
  | cons entry rest ih =>
    rw [listDemands, allMet_append]
    refine ⟨allMet_entryDemands hentries.1 hroom, ?_⟩
    split
    · exact ih hentries.2
    · exact allMet_nil

/-- A form that is not deep is read without an obstacle. -/
theorem allMet_demands (hv : Faithful depth v) (hroom : 2 * depth + 4 ≤ room) :
    AllMet room (demands v) := by
  cases v with
  | list entries =>
    rw [demands, allMet_cons, obstacle?_calls]
    exact ⟨by omega, allMet_listDemands hv.2 (by omega)⟩
  | null | bool | int | text | object =>
    rw [demands.eq_def, allMet_cons, obstacle?_calls]
    exact ⟨by omega, allMet_nil⟩
  | _ => exact hv.elim

/-! ## Forms that have been read -/

/-- What the condition of an entry asks for is asked for by the entry. -/
theorem faithful_of_condition {condition : Option Condition} (hc : Faithful depth c)
    (hread : readCondition c = .ok condition) (hcalls : 4 ≤ room)
    (hmet : isZero c = false → c.isObject = true → AllMet room (Condition.demands 4 c)) :
    Faithful (room - 4) c := by
  rw [readCondition] at hread
  cases c with
  | object entries =>
    have hobject := Condition.faithful_of_demands hc (mapError_eq_ok_iff.1 hread) (hmet rfl rfl)
    exact hobject.mono (by omega)
  | int => exact hc
  | null | bool | text | list => cases hread
  | _ => exact hc.elim

theorem faithful_flag {inverted : Bool} (hi : Faithful depth i)
    (hread : readFlag i = .ok inverted) (depth' : Nat) : Faithful depth' i := by
  cases i with
  | int | bool => exact hi
  | null | text | list | object => cases hread
  | _ => exact hi.elim

theorem exists_of_readEntry {r : Rule} (h : readEntry a s c i = .ok r) :
    (readTokens Action.ofToken? .action a).isOk = true ∧
      (readTokens SubjectType.ofToken? .subject s).isOk = true ∧
      readCondition c = .ok r.condition ∧ readFlag i = .ok r.inverted ∧
      (∃ text, a = .text text) ∧ ∃ text, s = .text text := by
  obtain ⟨ha, hs, hc, hi⟩ := readEntry_eq_ok_iff.1 h
  refine ⟨isOk_eq_true_iff.2 ⟨_, readActions_eq_ok_iff.2 ha⟩,
    isOk_eq_true_iff.2 ⟨_, readSubjects_eq_ok_iff.2 hs⟩, readCondition_eq_ok_iff.2 hc,
    readFlag_eq_ok_iff.2 hi, ?_, ?_⟩
  · cases ha
    exact ⟨_, rfl⟩
  · cases hs
    exact ⟨_, rfl⟩

theorem faithful_of_entryDemands {r : Rule} (hv : Faithful depth v)
    (hread : unpackRule v = .ok r) (hcalls : 4 ≤ room) (hmet : AllMet room (entryDemands v)) :
    Faithful (room - 3) v := by
  rw [unpackRule.eq_def] at hread
  split at hread
  · obtain ⟨-, -, -, -, ⟨_, rfl⟩, ⟨_, rfl⟩⟩ := exists_of_readEntry hread
    exact ⟨by omega, trivial, trivial, trivial⟩
  · obtain ⟨ha, hs, hc, -, ⟨_, rfl⟩, ⟨_, rfl⟩⟩ := exists_of_readEntry hread
    obtain ⟨-, -, -, hvc, -⟩ := hv
    simp only [entryDemands, ha, hs, Bool.true_and] at hmet
    refine ⟨by omega, trivial, trivial, ?_, trivial⟩
    exact faithful_of_condition hvc hc hcalls fun hzero hobject => by
      simpa [hzero, hobject] using hmet
  · obtain ⟨ha, hs, hc, hi, ⟨_, rfl⟩, ⟨_, rfl⟩⟩ := exists_of_readEntry hread
    obtain ⟨-, -, -, hvc, hvi, -⟩ := hv
    simp only [entryDemands, ha, hs, Bool.true_and] at hmet
    refine ⟨by omega, trivial, trivial, ?_, faithful_flag hvi hi _, trivial⟩
    exact faithful_of_condition hvc hc hcalls fun hzero hobject => by
      simpa [hzero, hobject] using hmet
  · cases hread

theorem faithfulItems_of_listDemands {index : Nat} (hentries : FaithfulItems depth entries)
    (hread : unpackFrom index entries = .ok rules) (hcalls : 4 ≤ room)
    (hmet : AllMet room (listDemands entries)) : FaithfulItems (room - 3) entries := by
  induction entries generalizing index rules with
  | nil => trivial
  | cons entry rest ih =>
    obtain ⟨r, hr, hread⟩ := exists_of_bind_eq_ok hread
    obtain ⟨others, hothers, -⟩ := exists_of_bind_eq_ok hread
    have hr := mapError_eq_ok_iff.1 hr
    rw [listDemands, isOk_eq_true_iff.2 ⟨r, hr⟩, if_pos rfl, allMet_append] at hmet
    exact ⟨faithful_of_entryDemands hentries.1 hr hcalls hmet.1,
      ih hentries.2 hothers hmet.2⟩

/-- A form that has been read is not deep. -/
theorem faithful_of_demands (hv : Faithful depth v) (hread : unpack v = .ok rules)
    (hmet : AllMet room (demands v)) : Faithful (room - 2) v := by
  cases v with
  | list entries =>
    rw [demands, allMet_cons, obstacle?_calls] at hmet
    exact ⟨by omega, faithfulItems_of_listDemands hv.2 hread hmet.1 hmet.2⟩
  | _ => cases hread

/-! ## Reading -/

theorem unpackWithin_of_allMet (h : AllMet room (demands v)) :
    unpackWithin room v = (unpack v).mapError .malformed := by
  rw [unpackWithin, h]

theorem unpackWithin_of_firstObstacle? (h : firstObstacle? room (demands v) = some o) :
    unpackWithin room v = .error (.tooDeep o) := by
  rw [unpackWithin, h]

theorem unpackWithin_eq_tooDeep_iff : unpackWithin room v = .error (.tooDeep o) ↔
    firstObstacle? room (demands v) = some o := by
  refine ⟨fun h => ?_, unpackWithin_of_firstObstacle?⟩
  cases hobstacle : firstObstacle? room (demands v) with
  | some o' =>
    rw [unpackWithin_of_firstObstacle? hobstacle] at h
    cases h
    rfl
  | none =>
    rw [unpackWithin_of_allMet hobstacle] at h
    cases hunpack : unpack v <;> simp [hunpack, Except.mapError] at h

theorem allMet_of_unpackWithin (h : ∀ o, unpackWithin room v ≠ .error (.tooDeep o)) :
    AllMet room (demands v) := by
  cases hobstacle : firstObstacle? room (demands v) with
  | some o => exact absurd (unpackWithin_of_firstObstacle? hobstacle) (h o)
  | none => exact hobstacle

theorem unpackWithin_eq_ok_iff : unpackWithin room v = .ok rules ↔
    unpack v = .ok rules ∧ AllMet room (demands v) := by
  constructor
  · intro h
    have hmet : AllMet room (demands v) := allMet_of_unpackWithin (by simp [h])
    rw [unpackWithin_of_allMet hmet] at h
    exact ⟨mapError_eq_ok_iff.1 h, hmet⟩
  · rintro ⟨hunpack, hmet⟩
    rw [unpackWithin_of_allMet hmet, hunpack]
    rfl

theorem unpackWithin_eq_malformed_iff : unpackWithin room v = .error (.malformed fault) ↔
    unpack v = .error fault ∧ AllMet room (demands v) := by
  constructor
  · intro h
    have hmet : AllMet room (demands v) := allMet_of_unpackWithin (by simp [h])
    rw [unpackWithin_of_allMet hmet] at h
    cases hunpack : unpack v with
    | ok rules => simp [hunpack, Except.mapError] at h
    | error fault' =>
      rw [hunpack] at h
      cases h
      exact ⟨rfl, hmet⟩
  · rintro ⟨hunpack, hmet⟩
    rw [unpackWithin_of_allMet hmet, hunpack]
    rfl

/-- What can be unpacked is unpacked unless there is an obstacle. -/
theorem exists_unpackWithin (hunpack : unpack v = .ok rules) (room : Nat) :
    ∃ x : Except Obstacle RuleSet, unpackWithin room v = x.mapError .tooDeep ∧
      ∀ rules', x = .ok rules' → rules' = rules := by
  cases hobstacle : firstObstacle? room (demands v) with
  | some o => exact ⟨.error o, unpackWithin_of_firstObstacle? hobstacle, by simp⟩
  | none => exact ⟨.ok rules, unpackWithin_eq_ok_iff.2 ⟨hunpack, hobstacle⟩, by simp [eq_comm]⟩

/-- What comes of a value. It is unpacked exactly if it is a list of entries that state rules, and
    then as these rules in this order, and refused as malformed exactly if it is not, where what is
    asked on the way can be done; of a list, its first entry that states no rule is named. If
    something cannot be done, the first such thing ends it, which does not happen to data that JSON
    has a form of its own for unless it is deep. -/
theorem unpackWithin_iff (room : Nat) (v : Value) :
    (∀ rules, unpackWithin room v = .ok rules ↔
      (∃ entries, v = .list entries ∧ List.Forall₂ States entries rules) ∧
        AllMet room (demands v)) ∧
    ((∃ fault, unpackWithin room v = .error (.malformed fault)) ↔
      (¬∃ entries, v = .list entries ∧ ∀ entry ∈ entries, ∃ r, States entry r) ∧
        AllMet room (demands v)) ∧
    (∀ fault, unpackWithin room v = .error (.malformed fault) → ∀ entries, v = .list entries →
      ∃ before entry after, entries = before ++ entry :: after ∧
        (∀ e ∈ before, ∃ r, States e r) ∧ (∀ r, ¬States entry r) ∧
          fault.details.field? "index" = some (.int before.length)) ∧
    (∀ o, unpackWithin room v = .error (.tooDeep o) ↔
      firstObstacle? room (demands v) = some o) ∧
    ∀ depth, Faithful depth v → 2 * depth + 4 ≤ room → AllMet room (demands v) := by
  obtain ⟨hok, hrules, hfault⟩ := unpack_iff v
  refine ⟨fun rules => ?_, ?_, fun fault h => hfault fault (unpackWithin_eq_malformed_iff.1 h).1,
    fun o => unpackWithin_eq_tooDeep_iff, fun depth hv hroom => allMet_demands hv hroom⟩
  · rw [unpackWithin_eq_ok_iff, hrules]
  · rw [← hok]
    simp only [unpackWithin_eq_malformed_iff, exists_and_right]
    refine and_congr_left fun _ => ?_
    cases unpack v <;> simp

/-! ## Lists in lists -/

/-- A form with one rule, which compares a field with lists in lists. -/
def boxedForm (n : Nat) : Value :=
  .list [.list [.text "read", .text "User", Value.record [("a", Value.boxed n)]]]

theorem exists_unpack_boxedForm (n : Nat) : ∃ rules, unpack (boxedForm n) = .ok rules := by
  cases n <;> exact ⟨_, rfl⟩

theorem faithful_boxedForm (n : Nat) : Faithful (n + 4) (boxedForm n) :=
  ⟨Nat.succ_pos _, ⟨Nat.succ_pos _, trivial, trivial, ⟨Nat.succ_pos _, ⟨"a", rfl⟩,
    List.forall_mem_nil _, Value.faithful_boxed n, trivial⟩, trivial⟩, trivial⟩

/-- It is read if there is room for two calls for each list. -/
theorem firstObstacle?_demands_boxed (room n : Nat) :
    firstObstacle? room (demands (boxedForm n)) =
      if 2 * n + 9 ≤ room then none else some .calls := by
  have hdemands : demands (boxedForm n) =
      .calls 4 :: (Condition.demands 4 (Value.record [("a", Value.boxed n)]) ++ []) := by
    cases n <;> rfl
  rw [hdemands, List.append_nil, firstObstacle?_calls_cons,
    Condition.firstObstacle?_demands_boxed]
  grind

/-- Not all lists of entries that state rules are unpacked, and not all that is refused is refused
    as malformed. -/
theorem not_forall_unpackWithin : ¬∀ v,
    ((∃ rules, unpackWithin callRoom v = .ok rules) ↔
      ∃ entries, v = .list entries ∧ ∀ entry ∈ entries, ∃ r, States entry r) ∧
    ∀ e, unpackWithin callRoom v = .error e → ∃ fault, e = .malformed fault := by
  intro h
  have hdeep : unpackWithin callRoom (boxedForm 699) = .error (.tooDeep .calls) :=
    unpackWithin_of_firstObstacle? ((firstObstacle?_demands_boxed _ _).trans (if_neg (by decide)))
  obtain ⟨fault, hfault⟩ := (h (boxedForm 699)).2 _ hdeep
  cases hfault

end HouseholdAccess.Packed
