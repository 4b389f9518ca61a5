import HouseholdAccess.Proofs.Solo

/-!
# What work that is done alone ensures

`Flow.Ensures` says that a flow that is done alone comes to an end, and what then
holds of its result and of what is met after it. The rules for the parts of a flow
carry this from the parts to the whole.
-/

namespace HouseholdAccess.Flow

variable {α β : Type} {h : Helper} {flow : Flow α} {s : Solo}
  {P Q : Except Interruption α → Solo → Prop} {R : Except Interruption β → Solo → Prop}

/-- The flow ends, and `Q` holds of its result and of what is met then. -/
def Ensures (h : Helper) (flow : Flow α) (s : Solo) (Q : Except Interruption α → Solo → Prop) :
    Prop :=
  ∃ r s', flow.solo h s = some (r, s') ∧ Q r s'

theorem ensures_of_solo {r : Except Interruption α} {s' : Solo}
    (hflow : flow.solo h s = some (r, s')) (hQ : Q r s') : flow.Ensures h s Q :=
  ⟨r, s', hflow, hQ⟩

theorem Ensures.mono (hflow : flow.Ensures h s P) (hPQ : ∀ r s', P r s' → Q r s') :
    flow.Ensures h s Q := by
  obtain ⟨r, s', hsolo, hP⟩ := hflow
  exact ⟨r, s', hsolo, hPQ r s' hP⟩

theorem ensures_pure {a : α} (hQ : Q (.ok a) s) : (pure a : Flow α).Ensures h s Q :=
  ⟨.ok a, s, rfl, hQ⟩

theorem ensures_fail {f : Failure} (hQ : Q (.error (.failure f)) s) :
    (fail f : Flow α).Ensures h s Q :=
  ⟨.error (.failure f), s, rfl, hQ⟩

/-- What the first part ensures, the second part goes on with, unless the first is interrupted. -/
theorem Ensures.bind {f : α → Flow β} (hflow : flow.Ensures h s P)
    (hok : ∀ a s', P (.ok a) s' → (f a).Ensures h s' R)
    (herror : ∀ e s', P (.error e) s' → R (.error e) s') : (flow >>= f).Ensures h s R := by
  obtain ⟨r, s', hsolo, hP⟩ := hflow
  cases r with
  | ok a =>
    obtain ⟨r', s'', hnext, hR⟩ := hok a s' hP
    exact ⟨r', s'', (solo_bind_ok hsolo f).trans hnext, hR⟩
  | error e => exact ⟨.error e, s', solo_bind_error hsolo f, herror e s' hP⟩

/-- A part that succeeds with a known result. -/
theorem ensures_bind_ok {f : α → Flow β} {a : α} {s' : Solo}
    (hflow : flow.solo h s = some (.ok a, s')) (hnext : (f a).Ensures h s' R) :
    (flow >>= f).Ensures h s R := by
  obtain ⟨r, s'', hsolo, hR⟩ := hnext
  exact ⟨r, s'', (solo_bind_ok hflow f).trans hsolo, hR⟩

theorem Ensures.recover {handle : Failure → Flow α} (hflow : flow.Ensures h s P)
    (hok : ∀ a s', P (.ok a) s' → Q (.ok a) s')
    (hfailure : ∀ f s', P (.error (.failure f)) s' → (handle f).Ensures h s' Q)
    (hcancelled : ∀ s', P (.error .cancelled) s' → Q (.error .cancelled) s') :
    (flow.recover handle).Ensures h s Q := by
  obtain ⟨r, s', hsolo, hP⟩ := hflow
  match r with
  | .ok a => exact ⟨.ok a, s', solo_recover_ok hsolo handle, hok a s' hP⟩
  | .error (.failure f) =>
    obtain ⟨r', s'', hnext, hQ⟩ := hfailure f s' hP
    exact ⟨r', s'', (solo_recover_failure hsolo handle).trans hnext, hQ⟩
  | .error .cancelled =>
    refine ⟨.error .cancelled, s', ?_, hcancelled s' hP⟩
    rw [solo_recover, hsolo]
    rfl

/-- What is done at the end is done however the flow ends. -/
theorem Ensures.atLast {last : Program Unit} (hflow : flow.Ensures h s P)
    (hlast : ∀ r s', P r s' → ∃ s'', last.solo h s' = some ((), s'') ∧ Q r s'') :
    (flow.atLast last).Ensures h s Q := by
  obtain ⟨r, s', hsolo, hP⟩ := hflow
  obtain ⟨s'', hdone, hQ⟩ := hlast r s' hP
  refine ⟨r, s'', ?_, hQ⟩
  rw [solo_atLast, hsolo]
  simp only [Option.bind_some, hdone, Option.map_some]

end HouseholdAccess.Flow
