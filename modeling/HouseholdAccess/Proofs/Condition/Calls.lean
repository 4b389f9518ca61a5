import HouseholdAccess.Condition.Matching
import HouseholdAccess.Proofs.Condition.Answered
import HouseholdAccess.Proofs.Condition.Demands

/-!
# The room that answers need

To decide a condition takes calls within each other, and how many is known beforehand
from how deep it is and how deep its operands are (`Condition.callsOption_le`). So
conditions that are not deep are decided wherever there is some room.

Where there is no room there is no answer. `Condition.meetsWithin_answered` says that this,
a pattern that cannot be used, and nothing else keeps a legible subject from an answer.
-/

namespace HouseholdAccess

/-! ## How deep values and conditions are -/

namespace Value

mutual

/-- How many lists and objects are in each other in a value. -/
def height : Value → Nat
  | .list items | .tuple items => 1 + heightOfAll items
  | .object entries | .mapping _ entries => 1 + heightOfEntries entries
  | _ => 0

/-- The greatest height of the items of a list. -/
def heightOfAll : List Value → Nat
  | [] => 0
  | v :: rest => max v.height (heightOfAll rest)

/-- The greatest height of the values of entries. -/
def heightOfEntries : List (Key × Value) → Nat
  | [] => 0
  | (_, v) :: rest => max v.height (heightOfEntries rest)

end

theorem height_le_of_get? {entries : Entries} {key : Key} {v : Value}
    (h : entries.get? key = some v) : v.height ≤ heightOfEntries entries := by
  obtain ⟨entry, hfind, rfl⟩ := Option.map_eq_some_iff.1 h
  have hmem := List.mem_of_find?_eq_some hfind
  clear h hfind
  induction entries with
  | nil => cases hmem
  | cons first rest ih =>
    rcases List.mem_cons.1 hmem with rfl | hmem
    · exact le_max_left _ _
    · exact (ih hmem).trans (le_max_right _ _)

mutual

/-- To compare with a value takes three calls for each list or object that is in another one. -/
theorem equalCalls_le (a b : Value) : a.equalCalls b ≤ 1 + 3 * b.height := by
  cases a with
  | list as | tuple as =>
    cases b with
    | list bs | tuple bs =>
      have hall := equalCallsAll_le as bs
      rw [equalCalls, height]
      split <;> omega
    | _ => simp [equalCalls]
  | object as | mapping _ as =>
    cases b with
    | object bs | mapping _ bs =>
      have heach := equalCallsEach_le as bs
      rw [equalCalls, height]
      split <;> omega
    | _ => simp [equalCalls]
  | _ => simp [equalCalls]

theorem equalCallsAll_le (as bs : List Value) : equalCallsAll as bs ≤ 1 + 3 * heightOfAll bs := by
  match as, bs with
  | a :: as, b :: bs =>
    have hfirst := equalCalls_le a b
    have hrest := equalCallsAll_le as bs
    simp only [equalCallsAll, heightOfAll]
    split <;> omega
  | [], _ | _ :: _, [] => simp [equalCallsAll]

theorem equalCallsEach_le (as bs : Entries) :
    equalCallsEach as bs ≤ 1 + 3 * heightOfEntries bs := by
  match as with
  | [] => simp [equalCallsEach]
  | (key, a) :: as =>
    have hrest := equalCallsEach_le as bs
    rw [equalCallsEach]
    split
    · next b hb =>
      have hfirst := equalCalls_le a b
      have hheight := height_le_of_get? hb
      split <;> omega
    · omega

end

theorem amongCalls_le (v : Value) (items : List Value) :
    v.amongCalls items ≤ 1 + 3 * heightOfAll items := by
  induction items with
  | nil => simp [amongCalls]
  | cons item rest ih =>
    have hfirst := equalCalls_le v item
    simp only [amongCalls, heightOfAll]
    split <;> omega

/-- The room that an operand needs. Of a text it is that of a pattern. -/
def operandRoom : Value → Nat
  | .text pattern => 3 + Pattern.calls pattern
  | v => 2 + 3 * v.height

end Value

/-- Whatever an operator is given to compare with, its operand says what room it needs. -/
theorem Operator.calls_le (op : Operator) (actual operand : Value) :
    op.calls actual operand ≤ operand.operandRoom := by
  have hequal := actual.equalCalls_le operand
  have hoperand : 2 + 3 * operand.height ≤ operand.operandRoom ∨
      ∃ pattern, operand = .text pattern := by
    cases operand with
    | text pattern => exact .inr ⟨pattern, rfl⟩
    | _ => exact .inl le_rfl
  rcases hoperand with hoperand | ⟨pattern, rfl⟩
  · cases op with
    | eq | ne | gt | gte | lt | lte | «exists» =>
      rw [calls]
      omega
    | isIn | notIn =>
      rw [calls]
      split
      · next items hitems =>
        have hamong := actual.amongCalls_le items
        have hheight : operand.height = 1 + Value.heightOfAll items := by
          cases operand <;> cases hitems <;> rfl
        omega
      · omega
    | regex =>
      simp only [calls]
      split
      · exact le_rfl
      · omega
  · have hheight : (Value.text pattern).height = 0 := rfl
    cases op <;> simp only [calls, items?, Value.operandRoom] <;> try omega
    split
    · next heq => rw [Value.text.inj heq]
    · omega

namespace Condition

mutual

/-- The room that a condition needs, whatever the subject. -/
def room : Condition → Nat
  | .field _ _ operand => 1 + max 1 operand.operandRoom
  | .all children | .any children => 3 + roomOfAll children
  | .not child => 1 + child.room

/-- The room that each condition of a list has enough of. -/
def roomOfAll : List Condition → Nat
  | [] => 0
  | child :: rest => max child.room (roomOfAll rest)

end

/-- The room that a condition needs that may be missing. -/
def roomOption : Option Condition → Nat
  | none => 0
  | some c => c.room

variable {subject : Value} {room : Nat}

theorem fieldCalls_le (path : String) (op : Operator) (operand : Value) :
    fieldCalls subject path op operand ≤ 1 + max 1 operand.operandRoom := by
  rw [fieldCalls]
  split
  · next actual _ =>
    have hop := op.calls_le actual operand
    omega
  · omega

mutual

theorem calls_le (c : Condition) : c.calls subject ≤ c.room := by
  cases c with
  | field path op operand => exact fieldCalls_le path op operand
  | all children => exact Nat.add_le_add_left (callsOfAll_le children) 3
  | any children => exact Nat.add_le_add_left (callsOfAny_le children) 3
  | not child => exact Nat.add_le_add_left (calls_le child) 1

theorem callsOfAll_le (cs : List Condition) : callsOfAll subject cs ≤ roomOfAll cs := by
  cases cs with
  | nil => exact le_rfl
  | cons c rest =>
    refine max_le_max (calls_le c) ?_
    split
    · exact callsOfAll_le rest
    · exact Nat.zero_le _

theorem callsOfAny_le (cs : List Condition) : callsOfAny subject cs ≤ roomOfAll cs := by
  cases cs with
  | nil => exact le_rfl
  | cons c rest =>
    refine max_le_max (calls_le c) ?_
    split
    · exact callsOfAny_le rest
    · exact Nat.zero_le _

end

/-- What a condition needs is enough for any subject. -/
theorem callsOption_le (c : Option Condition) : callsOption subject c ≤ roomOption c := by
  cases c with
  | none => exact le_rfl
  | some c => exact calls_le c

/-! ## Answers -/

theorem meetsWithin_of_le {c : Option Condition} (h : callsOption subject c ≤ room) :
    meetsWithin room subject c = (meetsOption subject c).mapError .trouble := by
  rw [meetsWithin, Demand.obstacle?_calls.2 h]

theorem meetsWithin_of_lt {c : Option Condition} (h : room < callsOption subject c) :
    meetsWithin room subject c = .error (.obstacle .calls) := by
  rw [meetsWithin, Demand.obstacle?, if_neg h.not_ge]

/-- On a legible subject a condition is answered exactly if there is room for the calls that it
    takes and no test that is looked at is stuck, and if it is not answered then for want of room or
    for the trouble in which such a test is. The room that is enough for any subject can be told
    from the condition. -/
theorem meetsWithin_answered (room : Nat) (c : Option Condition) (h : subject.isLegible = true) :
    ((∃ b, meetsWithin room subject c = .ok b) ↔ callsOption subject c ≤ room ∧
      ∀ t ∈ reachedOption subject c, ∀ trouble, ¬t.IsStuckOn subject trouble) ∧
    (∀ b, meetsWithin room subject c = .ok b → meetsOption subject c = .ok b) ∧
    (∀ e, meetsWithin room subject c = .error e →
      (e = .obstacle .calls ∧ room < callsOption subject c) ∨
      ∃ trouble, e = .trouble (.pattern trouble) ∧ trouble ≠ .malformed ∧
        ∃ t ∈ reachedOption subject c, t.IsStuckOn subject trouble) ∧
    callsOption subject c ≤ roomOption c := by
  obtain ⟨hanswered, htrouble⟩ := meetsOption_answered c h
  rcases Nat.lt_or_ge room (callsOption subject c) with hcalls | hcalls
  · rw [meetsWithin_of_lt hcalls]
    refine ⟨iff_of_false (by simp) fun h => absurd h.1 hcalls.not_ge, by simp, fun e he => ?_,
      callsOption_le c⟩
    cases he
    exact .inl ⟨rfl, hcalls⟩
  · rw [meetsWithin_of_le hcalls]
    simp only [mapError_eq_ok_iff]
    refine ⟨hanswered.trans (and_iff_right hcalls).symm, fun _ => id, fun e he => ?_,
      callsOption_le c⟩
    cases hmeets : meetsOption subject c with
    | ok b =>
      rw [hmeets] at he
      cases he
    | error e' =>
      rw [hmeets] at he
      cases he
      obtain ⟨trouble, rfl, h⟩ := htrouble e' hmeets
      exact .inr ⟨trouble, rfl, h⟩

/-! ### A pattern with options that exclude each other -/

/-- A pattern that is looked for where another field has the right value. -/
def guardedDocument : Value :=
  .record [("y", .int 2), ("x", .record [("$regex", .text "(?a)(?u)")])]

/-- The condition that the document stands for. -/
def guardedCondition : Condition :=
  .all [.field "y" .eq (.int 2), .field "x" .regex (.text "(?a)(?u)")]

/-- A subject with a text for the pattern. -/
def guardedSubject (y : Int) : Value :=
  .model [("x", .text "a"), ("y", .int y), ("read_field", .null)]

/-- Where a field has the wrong value, the pattern behind it takes no calls. -/
theorem meetsWithin_answered_guarded : (guardedSubject 3).isLegible = true ∧
    ∃ b, meetsWithin 7 (guardedSubject 3) (some guardedCondition) = .ok b := by
  have hlegible : (guardedSubject 3).isLegible = true := by decide
  refine ⟨hlegible, (meetsWithin_answered 7 (some guardedCondition) hlegible).1.2 ⟨?_, ?_⟩⟩
  · decide +kernel
  · have hreached : reachedOption (guardedSubject 3) (some guardedCondition) =
        [⟨"y", .eq, .int 2⟩] := rfl
    intro t ht trouble hstuck
    rw [hreached, List.mem_singleton] at ht
    subst ht
    cases hstuck.1

/-- The trouble with a pattern that stands for an answer, if one does. -/
def patternTrouble? : Except Trouble Bool → Option Pattern.Trouble
  | .error (.pattern trouble) => some trouble
  | _ => none

theorem eq_error_of_patternTrouble? {x : Except Trouble Bool} {trouble : Pattern.Trouble}
    (h : patternTrouble? x = some trouble) : x = .error (.pattern trouble) := by
  match x, h with
  | .error (.pattern _), rfl => rfl

/-- A condition that is parsed may not be answered: its pattern cannot be used for a text. -/
theorem exists_meetsWithin_eq_trouble :
    ∃ c, parse callRoom guardedDocument = .ok c ∧ (guardedSubject 2).isLegible = true ∧
      meetsWithin callRoom (guardedSubject 2) c =
        .error (.trouble (.pattern .incompatibleOptions)) := by
  refine ⟨some guardedCondition, ?_, by decide, ?_⟩
  · rw [parse, show Demand.firstObstacle? callRoom (demands 0 guardedDocument) = none by
      decide +kernel]
    rfl
  · have hcalls : callsOption (guardedSubject 2) (some guardedCondition) ≤ callRoom := by
      decide +kernel
    have hmeets : meetsOption (guardedSubject 2) (some guardedCondition) =
        .error (.pattern .incompatibleOptions) := eq_error_of_patternTrouble? (by decide +kernel)
    rw [meetsWithin_of_le hcalls, hmeets]
    rfl

/-! ### Lists in lists -/

theorem equals_boxed (n : Nat) : (Value.boxed n).equals (Value.boxed n) = true := by
  induction n with
  | zero => rfl
  | succ n ih => simp [Value.boxed, Value.equals, Value.equalsAll, ih]

theorem equalCalls_boxed (n : Nat) :
    (Value.boxed n).equalCalls (Value.boxed n) = 3 * n + 3 := by
  induction n with
  | zero => rfl
  | succ n ih => simp [Value.boxed, Value.equalCalls, Value.equalCallsAll, ih]; omega

/-- A document that compares a field with lists in lists can be parsed where it cannot be decided
    for the same lists. -/
theorem meetsWithin_boxed {room n : Nat} (hparse : 2 * n + 5 ≤ room) (hcalls : room < 3 * n + 5) :
    let subject := Value.record [("a", Value.boxed n)]
    ∃ c, parse room subject = .ok c ∧ subject.isLegible = true ∧
      meetsOption subject c = .ok true ∧
        meetsWithin room subject c = .error (.obstacle .calls) := by
  intro subject
  have hsubject : subject.isLegible = true ∧ subject.resolve "a" = .ok (Value.boxed n) ∧
      ofDocument subject = .ok (some (.field "a" .eq (Value.boxed n))) := by
    cases n <;> exact ⟨rfl, rfl, rfl⟩
  obtain ⟨hlegible, hresolve, hread⟩ := hsubject
  refine ⟨some (.field "a" .eq (Value.boxed n)), ?_, hlegible, ?_, meetsWithin_of_lt ?_⟩
  · rw [parse, firstObstacle?_demands_boxed, if_pos (by omega), hread]
    rfl
  · rw [meetsOption, meets, holdsAt, hresolve]
    exact congrArg Except.ok (equals_boxed n)
  · rw [callsOption, calls, fieldCalls, hresolve]
    simp only [Operator.calls, equalCalls_boxed]
    omega

/-- Nor is a condition answered that compares lists in lists which are deep enough, although it is
    met. -/
theorem exists_meetsWithin_eq_obstacle : ∃ document c subject,
    parse callRoom document = .ok c ∧ subject.isLegible = true ∧ meetsOption subject c = .ok true ∧
      meetsWithin callRoom subject c = .error (.obstacle .calls) := by
  obtain ⟨c, h⟩ := @meetsWithin_boxed callRoom 400 (by decide) (by decide)
  exact ⟨_, c, _, h⟩

end Condition

end HouseholdAccess
