import HouseholdAccess.Proofs.Machine.Working
import HouseholdAccess.Proofs.Stage.Order

/-!
# Loads that are registered

The desk *registers* for each user the load that new callers join. A load is registered
when it is started, and struck off when it is overtaken, or when it is forgotten after its
end. So a load that goes on is registered unless it has been overtaken, and one that has
ended is registered only until the job is done that lets the desk forget it
(`Machine.Registers`).

That a load is forgotten may come late, when another load of the user is registered
already: then nothing is struck off (`Desk.pendingOf_forget_eq`).
-/

namespace HouseholdAccess

/-! ## The desk -/

namespace Desk

variable {d : Desk} {user other : Id} {n : Nat}

theorem pendingOf_release_ne (d : Desk) (h : other ≠ user) :
    (d.release user).pendingOf other = d.pendingOf other := by
  rw [pendingOf, pendingOf, release]
  induction d.pending with
  | nil => rfl
  | cons p rest ih =>
    rw [List.filter_cons]
    by_cases hp : p.1 = user
    · have hne : (other == p.1) = false := by simpa [hp] using h
      rw [if_neg (by simp [hp]), ih, List.lookup_cons, hne]
    · rw [if_pos (by simpa using hp), List.lookup_cons, List.lookup_cons, ih]

theorem pendingOf_overtake_ne (d : Desk) (h : other ≠ user) :
    (d.overtake user).pendingOf other = d.pendingOf other := by
  rw [overtake]
  split
  · rfl
  · exact d.pendingOf_release_ne h

theorem pendingOf_start_ne (d : Desk) (h : other ≠ user) :
    (d.start user).2.pendingOf other = d.pendingOf other := by
  have hne : (other == user) = false := by simpa using h
  rw [pendingOf, pendingOf, start, List.lookup_append, List.lookup_cons, hne]
  exact Option.or_none

/-- A load is struck off when it is forgotten, and no other load is. -/
theorem pendingOf_forget_eq
    (h : d.pendingOf user = some n → ∃ load, d.loads[n]? = some load ∧ load.user = user) :
    (d.forget n).pendingOf user =
      if d.pendingOf user = some n then none else d.pendingOf user := by
  rw [forget]
  split
  · next hnone =>
    rw [if_neg]
    intro hpending
    obtain ⟨load, hload, -⟩ := h hpending
    rw [hnone] at hload
    cases hload
  · next load hload =>
    by_cases hpending : d.pendingOf user = some n
    · obtain ⟨load', hload', rfl⟩ := h hpending
      obtain rfl := Option.some.inj (hload.symm.trans hload')
      rw [if_pos hpending, if_pos hpending, pendingOf_release]
    · rw [if_neg hpending]
      split
      · next hother =>
        have hne : user ≠ load.user := by
          rintro rfl
          exact hpending hother
        exact d.pendingOf_release_ne hne
      · rfl

/-- What overtaking leaves of a load. -/
theorem exists_of_overtake {load : Load} (h : (d.overtake user).loads[n]? = some load) :
    ∃ before, d.loads[n]? = some before ∧ load.user = before.user ∧
      (load.overtaken = false → before.overtaken = false ∧ d.pendingOf user ≠ some n) := by
  rw [overtake] at h
  split at h
  · next hnone => exact ⟨load, h, rfl, fun hload => ⟨hload, by simp [hnone]⟩⟩
  · next l hl =>
    rw [List.getElem?_modify] at h
    obtain ⟨before, hbefore, rfl⟩ := Option.map_eq_some_iff.1 h
    refine ⟨before, hbefore, by split <;> rfl, fun hload => ?_⟩
    split at hload
    · cases hload
    · next hne => exact ⟨hload, fun heq => hne (Option.some.inj (hl.symm.trans heq))⟩

/-- A load that is not registered is not overtaken. -/
theorem getElem?_overtake (h : d.pendingOf user ≠ some n) :
    (d.overtake user).loads[n]? = d.loads[n]? := by
  rw [overtake]
  split
  · rfl
  · next l hl =>
    refine List.getElem?_modify_ne _ _ ?_
    rintro rfl
    exact h hl

end Desk

/-! ## Loads -/

namespace Machine

variable {α : Type} {m m' : Machine α} {user : Id} {n : Nat}

/-- The loads that go on are registered unless they have been overtaken, and only those, apart from
    loads that are to be forgotten. -/
structure Registers (m : Machine α) : Prop where
  numbered : m.loads.length = m.desk.loads.length
  pending : ∀ user n, m.desk.pendingOf user = some n →
    ∃ load, m.desk.loads[n]? = some load ∧ load.user = user ∧ load.overtaken = false
  active : ∀ n load, m.desk.loads[n]? = some load → load.overtaken = false →
    m.ended? n = none → m.desk.pendingOf load.user = some n
  forgets : ∀ n, .forget n ∈ m.ready → (m.ended? n).isSome
  forgotten : ∀ user n, m.desk.pendingOf user = some n → (m.ended? n).isSome →
    .forget n ∈ m.ready

namespace Registers

/-- What neither the desk nor the loads have to do with keeps the register. -/
theorem congr (h : m.Registers) (hdesk : m'.desk = m.desk)
    (hlength : m'.loads.length = m.loads.length) (hended : ∀ n, m'.ended? n = m.ended? n)
    (hforgets : ∀ n, .forget n ∈ m'.ready ↔ .forget n ∈ m.ready) : m'.Registers where
  numbered := by rw [hlength, hdesk, h.numbered]
  pending := hdesk ▸ h.pending
  active := by
    simp only [hdesk, hended]
    exact h.active
  forgets n hn := hended n ▸ h.forgets n ((hforgets n).1 hn)
  forgotten user n := by
    rw [hdesk, hended, hforgets]
    exact h.forgotten user n

theorem lt_length (h : m.Registers) (hn : m.desk.pendingOf user = some n) :
    n < m.loads.length := by
  obtain ⟨load, hload, -⟩ := h.pending user n hn
  exact h.numbered ▸ (List.getElem?_eq_some_iff.1 hload).1

/-- The load of a user is overtaken, and struck off. -/
theorem overtake (h : m.Registers) (user : Id) :
    Registers { m with desk := m.desk.overtake user } := by
  -- Whose load is registered then is another user, whose load stays as it is.
  have hother {v : Id} {n : Nat} (hv : (m.desk.overtake user).pendingOf v = some n) :
      v ≠ user ∧ m.desk.pendingOf v = some n := by
    have hne : v ≠ user := by
      rintro rfl
      rw [m.desk.pendingOf_overtake] at hv
      cases hv
    exact ⟨hne, m.desk.pendingOf_overtake_ne hne ▸ hv⟩
  refine ⟨h.numbered.trans (m.desk.length_loads_overtake user).symm, fun v n hv => ?_,
    fun n load hload hfresh hended => ?_, h.forgets,
    fun v n hv => h.forgotten v n (hother hv).2⟩
  · obtain ⟨hne, hpending⟩ := hother hv
    obtain ⟨load, hload, rfl, hfresh⟩ := h.pending v n hpending
    refine ⟨load, (Desk.getElem?_overtake fun heq => ?_).trans hload, rfl, hfresh⟩
    obtain ⟨load', hload', huser, -⟩ := h.pending user n heq
    exact hne (Option.some.inj (hload.symm.trans hload') ▸ huser)
  · obtain ⟨before, hbefore, huser, hkept⟩ := Desk.exists_of_overtake hload
    obtain ⟨hfresh', hpending⟩ := hkept hfresh
    have hactive := h.active n before hbefore hfresh' hended
    have hne : before.user ≠ user := fun heq => hpending (heq ▸ hactive)
    change (m.desk.overtake user).pendingOf load.user = some n
    rw [huser, m.desk.pendingOf_overtake_ne hne, hactive]

end Registers

/-- A load that is started has not ended. -/
theorem ended?_startLoad (m : Machine α) (user : Id) (fields : Entries) (n : Nat) :
    (m.startLoad user fields).2.ended? n = m.ended? n := by
  change ((m.loads ++ [({} : Running)])[n]?).bind (·.outcome) = (m.loads[n]?).bind _
  rw [List.getElem?_append]
  split
  · rfl
  · next hn =>
    rw [List.getElem?_eq_none (Nat.le_of_not_lt hn), List.getElem?_singleton]
    split <;> rfl

namespace Registers

/-- A load is started, and registered. -/
theorem startLoad (h : m.Registers) (hnone : m.desk.pendingOf user = none) (fields : Entries) :
    (m.startLoad user fields).2.Registers := by
  have hnew : m.ended? m.desk.loads.length = none := by
    rw [ended?, List.getElem?_eq_none h.numbered.le]
    rfl
  have hended := m.ended?_startLoad user fields
  have hforgets (n : Nat) :
      .forget n ∈ (m.startLoad user fields).2.ready ↔ .forget n ∈ m.ready := by
    simp [startLoad_eq]
  have hpending (v : Id) (n : Nat) (hv : (m.desk.start user).2.pendingOf v = some n) :
      v = user ∧ n = m.desk.loads.length ∨ m.desk.pendingOf v = some n := by
    by_cases hne : v = user
    · subst hne
      rw [Desk.pendingOf_start hnone] at hv
      exact .inl ⟨rfl, (Option.some.inj hv).symm⟩
    · exact .inr (m.desk.pendingOf_start_ne hne ▸ hv)
  refine ⟨by simp [startLoad_eq, Desk.start, h.numbered], fun v n hv => ?_,
    fun n load hload hfresh hn => ?_, fun n hn => ?_, fun v n hv hn => ?_⟩
  · rcases hpending v n hv with ⟨rfl, rfl⟩ | hv
    · exact ⟨_, List.getElem?_concat_length, rfl, rfl⟩
    · obtain ⟨load, hload, hkept⟩ := h.pending v n hv
      exact ⟨load, (List.getElem?_append_left (List.getElem?_eq_some_iff.1 hload).1).trans hload,
        hkept⟩
  · rcases Stage.getElem?_snoc_cases hload with hload | ⟨rfl, rfl⟩
    · have hactive := h.active n load hload hfresh ((hended n).symm.trans hn)
      have hne : load.user ≠ user := by
        rintro heq
        rw [heq, hnone] at hactive
        cases hactive
      exact (m.desk.pendingOf_start_ne hne).trans hactive
    · exact Desk.pendingOf_start hnone
  · exact (hended n).symm ▸ h.forgets n ((hforgets n).1 hn)
  · rcases hpending v n hv with ⟨rfl, rfl⟩ | hv
    · rw [hended, hnew] at hn
      cases hn
    · exact (hforgets n).2 (h.forgotten v n hv ((hended n) ▸ hn))

/-- A load ends, and is to be forgotten. -/
theorem endLoad (h : m.Registers) {outcome : Except Interruption RuleSet} {waiters : List Nat}
    (hdesk : m'.desk = m.desk)
    (hloads : m'.loads = m.loads.modify n ({ · with outcome := some outcome }))
    (hready : m'.ready = m.ready ++ .forget n :: waiters.map (.tell n)) (hn : n < m.loads.length) :
    m'.Registers := by
  have hself : m'.ended? n = some outcome := by
    rw [ended?, hloads, List.getElem?_modify_eq, List.getElem?_eq_getElem hn]
    rfl
  have hother {k : Nat} (hk : k ≠ n) : m'.ended? k = m.ended? k := by
    rw [ended?, hloads, List.getElem?_modify_ne _ _ (Ne.symm hk)]
    rfl
  have hforgets (k : Nat) : .forget k ∈ m'.ready ↔ .forget k ∈ m.ready ∨ k = n := by
    simp [hready]
  refine ⟨?_, hdesk ▸ h.pending, fun k load hload hfresh hk => ?_, fun k hk => ?_,
    fun v k hv hk => ?_⟩
  · rw [hloads, List.length_modify, hdesk, h.numbered]
  · have hne : k ≠ n := by
      rintro rfl
      rw [hself] at hk
      cases hk
    rw [hdesk] at hload ⊢
    exact h.active k load hload hfresh (hother hne ▸ hk)
  · by_cases hkn : k = n
    · subst hkn
      rw [hself]
      rfl
    · exact hother hkn ▸ h.forgets k (((hforgets k).1 hk).resolve_right hkn)
  · by_cases hkn : k = n
    · exact (hforgets k).2 (.inr hkn)
    · exact (hforgets k).2 (.inl (h.forgotten v k (hdesk ▸ hv) (hother hkn ▸ hk)))

/-- A load is forgotten that has ended. -/
theorem forget (h : m.Registers) {before after : List Job}
    (hready : m.ready = before ++ .forget n :: after) :
    Registers { m with ready := before ++ after, desk := m.desk.forget n } := by
  have hn : .forget n ∈ m.ready := by simp [hready]
  have hpending (v : Id) : (m.desk.forget n).pendingOf v =
      if m.desk.pendingOf v = some n then none else m.desk.pendingOf v :=
    Desk.pendingOf_forget_eq fun hv => by
      obtain ⟨load, hload, huser, -⟩ := h.pending v n hv
      exact ⟨load, hload, huser⟩
  have hother {v : Id} {k : Nat} (hv : (m.desk.forget n).pendingOf v = some k) :
      k ≠ n ∧ m.desk.pendingOf v = some k := by
    rw [hpending] at hv
    split at hv
    · cases hv
    · next hne =>
      refine ⟨?_, hv⟩
      rintro rfl
      exact hne hv
  refine ⟨h.numbered.trans (m.desk.length_loads_forget n).symm, fun v k hv => ?_,
    fun k load hload hfresh hk => ?_, fun k hk => ?_, fun v k hv hk => ?_⟩
  · obtain ⟨load, hload, hkept⟩ := h.pending v k (hother hv).2
    exact ⟨load, (m.desk.loads_forget n).symm ▸ hload, hkept⟩
  · have hload' : m.desk.loads[k]? = some load := (m.desk.loads_forget n) ▸ hload
    have hactive := h.active k load hload' hfresh hk
    have hne : m.desk.pendingOf load.user ≠ some n := by
      rw [hactive]
      rintro ⟨⟩
      have hended := h.forgets n hn
      rw [show m.ended? n = none from hk] at hended
      cases hended
    exact (hpending load.user).trans ((if_neg hne).trans hactive)
  · have hmem : .forget k ∈ before ++ after := hk
    refine h.forgets k ?_
    rw [hready]
    rcases List.mem_append.1 hmem with hmem | hmem
    · exact List.mem_append_left _ hmem
    · exact List.mem_append_right _ (List.mem_cons_of_mem _ hmem)
  · obtain ⟨hne, hv⟩ := hother hv
    have hmem := h.forgotten v k hv hk
    rw [hready] at hmem
    rcases List.mem_append.1 hmem with hmem | hmem
    · exact List.mem_append_left _ hmem
    · rcases List.mem_cons.1 hmem with heq | hmem
      · cases heq
        exact absurd rfl hne
      · exact List.mem_append_right _ hmem

end Registers

end Machine

end HouseholdAccess
