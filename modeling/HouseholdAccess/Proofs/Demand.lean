import HouseholdAccess.Demand
import HouseholdAccess.Proofs.Json.RoundTrip

/-!
# Demands that are met

Demands are *met* (`Demand.AllMet`) where there is room for so many calls if none of them is an
obstacle, and then they are met where there is more room (`Demand.AllMet.mono`).

To copy a value takes the more calls the deeper it is. For what JSON has a form of its own for,
that is all it takes: what is not deep can be copied (`Value.allMet_copying`), and what can be
copied is not deep (`Value.faithful_of_copying`).
-/

namespace HouseholdAccess

namespace Demand

variable {room room' : Nat} {d : Demand} {ds ds' : List Demand}

/-- Where there is more room, a demand is still met. -/
theorem obstacle?_mono (hroom : room ≤ room') (h : d.obstacle? room = none) :
    d.obstacle? room' = none := by
  cases d with
  | calls depth =>
    simp only [obstacle?, ite_eq_left_iff, reduceCtorEq, imp_false, not_not] at h ⊢
    exact h.trans hroom
  | _ => exact h

/-- That there is no obstacle to any of some demands. -/
def AllMet (room : Nat) (ds : List Demand) : Prop := firstObstacle? room ds = none

instance (room : Nat) (ds : List Demand) : Decidable (AllMet room ds) :=
  inferInstanceAs (Decidable (_ = none))

theorem allMet_iff : AllMet room ds ↔ ∀ d ∈ ds, d.obstacle? room = none :=
  List.findSome?_eq_none_iff

theorem AllMet.mono (hroom : room ≤ room') (h : AllMet room ds) : AllMet room' ds :=
  allMet_iff.2 fun d hd => obstacle?_mono hroom (allMet_iff.1 h d hd)

@[simp] theorem allMet_nil : AllMet room [] := rfl

@[simp] theorem allMet_cons :
    AllMet room (d :: ds) ↔ d.obstacle? room = none ∧ AllMet room ds := by
  simp only [allMet_iff, List.forall_mem_cons]

@[simp] theorem allMet_append : AllMet room (ds ++ ds') ↔ AllMet room ds ∧ AllMet room ds' := by
  simp only [allMet_iff, List.forall_mem_append]

@[simp] theorem obstacle?_calls {depth : Nat} : obstacle? room (.calls depth) = none ↔
    depth ≤ room := by
  simp [obstacle?]

theorem firstObstacle?_calls_cons {depth : Nat} : firstObstacle? room (.calls depth :: ds) =
    if depth ≤ room then firstObstacle? room ds else some .calls := by
  by_cases h : depth ≤ room <;> simp [firstObstacle?, obstacle?, h]

end Demand

open Demand Json

namespace Value

/-! ## What is not deep can be copied -/

mutual

theorem allMet_copying {depth k room : Nat} {v : Value} (hv : Faithful depth v)
    (hroom : k + 2 * depth + 1 ≤ room) : AllMet room (v.copying k) := by
  cases v with
  | list items =>
    have hdepth : 0 < depth := hv.1
    simp only [copying, allMet_cons, obstacle?_calls]
    exact ⟨by omega, allMet_copyingAll hv.2 (by omega)⟩
  | object entries =>
    have hdepth : 0 < depth := hv.1
    simp only [copying, allMet_cons, obstacle?_calls]
    exact ⟨by omega, allMet_copyingEntries hv.2 (by omega)⟩
  | null | bool | int | text =>
    simp only [copying, allMet_cons, obstacle?_calls, allMet_nil, and_true]
    omega
  | _ => exact hv.elim

theorem allMet_copyingAll {depth k room : Nat} {items : List Value}
    (hitems : FaithfulItems depth items) (hroom : k + 2 * depth + 1 ≤ room) :
    AllMet room (copyingAll k items) := by
  cases items with
  | nil => trivial
  | cons v rest =>
    rw [copyingAll, allMet_append]
    exact ⟨allMet_copying hitems.1 hroom, allMet_copyingAll hitems.2 hroom⟩

theorem allMet_copyingEntries {depth k room : Nat} {entries : Entries}
    (hentries : FaithfulEntries depth entries) (hroom : k + 2 * depth + 1 ≤ room) :
    AllMet room (copyingEntries k entries) := by
  cases entries with
  | nil => trivial
  | cons entry rest =>
    obtain ⟨key, v⟩ := entry
    obtain ⟨⟨s, rfl⟩, -, hv, hrest⟩ := hentries
    simp only [copyingEntries, allMet_append, Key.copying, allMet_cons, obstacle?_calls,
      allMet_nil, and_true]
    exact ⟨⟨by omega, allMet_copying hv hroom⟩, allMet_copyingEntries hrest hroom⟩

end

/-! ## What can be copied is not deep -/

mutual

theorem faithful_of_copying {depth k room : Nat} {v : Value} (hv : Faithful depth v)
    (hmet : AllMet room (v.copying k)) : Faithful (room - k) v := by
  cases v with
  | list items =>
    simp only [copying, allMet_cons, obstacle?_calls] at hmet
    exact ⟨by omega, (faithfulItems_of_copyingAll hv.2 hmet.2).mono (by omega)⟩
  | object entries =>
    simp only [copying, allMet_cons, obstacle?_calls] at hmet
    exact ⟨by omega, (faithfulEntries_of_copyingEntries hv.2 hmet.2).mono (by omega)⟩
  | null | bool | int | text => exact hv
  | _ => exact hv.elim

theorem faithfulItems_of_copyingAll {depth k room : Nat} {items : List Value}
    (hitems : FaithfulItems depth items) (hmet : AllMet room (copyingAll k items)) :
    FaithfulItems (room - k) items := by
  cases items with
  | nil => trivial
  | cons v rest =>
    rw [copyingAll, allMet_append] at hmet
    exact ⟨faithful_of_copying hitems.1 hmet.1, faithfulItems_of_copyingAll hitems.2 hmet.2⟩

theorem faithfulEntries_of_copyingEntries {depth k room : Nat} {entries : Entries}
    (hentries : FaithfulEntries depth entries) (hmet : AllMet room (copyingEntries k entries)) :
    FaithfulEntries (room - k) entries := by
  cases entries with
  | nil => trivial
  | cons entry rest =>
    obtain ⟨key, v⟩ := entry
    obtain ⟨hkey, hfresh, hv, hrest⟩ := hentries
    rw [copyingEntries, allMet_append, allMet_append] at hmet
    exact ⟨hkey, hfresh, faithful_of_copying hv hmet.1.2,
      faithfulEntries_of_copyingEntries hrest hmet.2⟩

end

/-! ## Lists in lists -/

/-- An empty list in `n` others. -/
def boxed : Nat → Value
  | 0 => .list []
  | n + 1 => .list [boxed n]

theorem firstObstacle?_copying_boxed (room k n : Nat) : firstObstacle? room ((boxed n).copying k) =
    if k + 2 * n + 2 ≤ room then none else some .calls := by
  induction n generalizing k with
  | zero =>
    rw [boxed, copying, copyingAll, firstObstacle?_calls_cons]
    rfl
  | succ n ih =>
    rw [boxed, copying, copyingAll, copyingAll, List.append_nil, firstObstacle?_calls_cons, ih]
    grind

theorem faithful_boxed (n : Nat) : Faithful (n + 1) (boxed n) := by
  induction n with
  | zero => exact ⟨Nat.one_pos, trivial⟩
  | succ n ih => exact ⟨Nat.succ_pos _, ih, trivial⟩

end Value

end HouseholdAccess
