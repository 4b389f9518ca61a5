import HouseholdAccess.Proofs.Cache.Serving

/-!
# Routine changes

What goes on around the service all the time (`Change.IsRoutine`): role data
changes, time passes, and reads of role data fail for a while. Names stay texts, and
nothing is done to what is kept.
-/

namespace HouseholdAccess.Change

variable {c : Change} {w : World}

/-- A change of the role data under names that are texts, the passing of time, or a read of role
    data that fails or fails no more. -/
def IsRoutine : Change → Prop
  | .addMember row => row.household.isText = true ∧ row.user.isText = true
  | .removeMember household user | .setRole household user _ =>
    household.isText = true ∧ user.isText = true
  | .setManager user manager => user.isText = true ∧ ∀ m, manager = some m → m.isText = true
  | .advance _ => True
  | .fail p _ | .failFor p _ _ | .mend p => p.isRead = true
  | .setForm .. | .dropForm _ | .setInformation _ => False

/-- Names stay texts. -/
theorem IsRoutine.hasTextNames (hc : c.IsRoutine) (hw : w.HasTextNames) :
    (c.apply w).HasTextNames := by
  cases c with
  | addMember row =>
    refine ⟨fun r hr => ?_, hw.managers⟩
    rcases List.mem_append.1 hr with hr | hr
    · exact hw.rows r hr
    · exact List.mem_singleton.1 hr ▸ hc
  | removeMember household user =>
    exact ⟨fun r hr => hw.rows r (List.mem_filter.1 hr).1, hw.managers⟩
  | setRole household user role =>
    refine ⟨fun r hr => ?_, hw.managers⟩
    obtain ⟨row, hrow, rfl⟩ := List.mem_map.1 hr
    split <;> exact hw.rows row hrow
  | setManager user manager =>
    refine ⟨hw.rows, fun m hm => ?_⟩
    rcases List.mem_append.1 hm with hm | hm
    · exact hw.managers m (List.mem_filter.1 hm).1
    · rw [Option.mem_toList, Option.map_eq_some_iff] at hm
      obtain ⟨manager, hmanager, rfl⟩ := hm
      exact ⟨hc.1, hc.2 manager hmanager⟩
  | advance | fail | failFor | mend => exact ⟨hw.rows, hw.managers⟩
  | setForm | dropForm | setInformation => exact hc.elim

/-- Only reads of role data begin to fail. -/
theorem IsRoutine.serves (hc : c.IsRoutine) (hw : w.Serves) : (c.apply w).Serves := by
  cases c with
  | fail p f =>
    exact ⟨⟨hw.store, hw.cache⟩, List.forall_mem_cons.2
      ⟨hc, fun o ho => hw.sound o (List.mem_filter.1 ho).1⟩⟩
  | failFor p name f => exact ⟨⟨hw.store, hw.cache⟩, List.forall_mem_cons.2 ⟨hc, hw.sound⟩⟩
  | mend p => exact ⟨⟨hw.store, hw.cache⟩, fun o ho => hw.sound o (List.mem_filter.1 ho).1⟩
  | setForm | dropForm | setInformation => exact hc.elim
  | _ => exact ⟨⟨hw.store, hw.cache⟩, hw.sound⟩

theorem IsRoutine.kept (hc : c.IsRoutine) (w : World) :
    (c.apply w).entries = w.entries ∧ (c.apply w).forms = w.forms ∧ (c.apply w).held = w.held := by
  cases c with
  | setForm | dropForm | setInformation => exact hc.elim
  | _ => exact ⟨rfl, rfl, rfl⟩

end HouseholdAccess.Change
