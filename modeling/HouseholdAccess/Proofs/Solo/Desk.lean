import HouseholdAccess.Proofs.Solo

/-!
# Loads, while a caller is alone

The desk knows of no load that a new caller could join once the only caller has
ended: the load that the caller joins is forgotten by then (`Solo.Tidy`,
`Solo.tidy_of_solo`). What the caller does apart from that only ever takes loads
away from those that can be joined (`Desk.Shrinks`).
-/

namespace HouseholdAccess

variable {β : Type}

/-- Loads are of the same users, and no load is new to those that callers join. -/
structure Desk.Shrinks (d d' : Desk) : Prop where
  pending : ∀ p ∈ d'.pending, p ∈ d.pending
  users : ∀ load : Nat, (d'.loads[load]?).map Load.user = (d.loads[load]?).map Load.user

theorem Desk.Shrinks.refl (d : Desk) : d.Shrinks d := ⟨fun _ => id, fun _ => rfl⟩

theorem Desk.Shrinks.trans {d₁ d₂ d₃ : Desk} (h : d₁.Shrinks d₂) (h' : d₂.Shrinks d₃) :
    d₁.Shrinks d₃ :=
  ⟨fun p hp => h.pending p (h'.pending p hp), fun load => (h'.users load).trans (h.users load)⟩

theorem Desk.shrinks_overtake (d : Desk) (user : Id) : d.Shrinks (d.overtake user) := by
  rw [Desk.overtake]
  split
  · exact Desk.Shrinks.refl d
  · refine ⟨fun _ hp => (List.mem_filter.1 hp).1, fun load => ?_⟩
    rw [List.getElem?_modify]
    cases d.loads[load]? with
    | none => rfl
    | some l =>
      simp only [Option.map_some]
      split <;> rfl

namespace Solo

theorem shrinks_of_plain? {s s' : Solo} {op : Operation} {reply : op.Reply}
    (hop : s.plain? op = some (reply, s')) : s.desk.Shrinks s'.desk := by
  cases op with
  | overtake user =>
    cases hop
    exact s.desk.shrinks_overtake user
  | joinLoad | awaitLoad | each => cases hop
  | _ =>
    cases hop
    exact Desk.Shrinks.refl _

theorem shrinks_of_runErrands {s s' : Solo} {errand : Errand} {ids : List Id}
    {rs : List (Except Interruption (List Id))} (hrs : runErrands errand ids s = some (rs, s')) :
    s.desk.Shrinks s'.desk := by
  induction ids generalizing s rs with
  | nil =>
    cases hrs
    exact Desk.Shrinks.refl _
  | cons id rest ih =>
    obtain ⟨r, _, others, hr, hothers, rfl⟩ := runErrands_cons_eq_some_iff.1 hrs
    obtain ⟨u, hu, rfl⟩ := runErrand_eq_some_iff.1 hr
    have hfirst : s.desk.Shrinks u.desk :=
      Program.solo_induction (R := fun s s' => s.desk.Shrinks s'.desk)
        (fun s => Desk.Shrinks.refl s.desk) Desk.Shrinks.trans shrinks_of_plain? hu
    have hrest := ih hothers
    exact hfirst.trans hrest

theorem shrinks_of_carry_load {s s' : Solo} {op : Operation} {reply : op.Reply}
    (hop : Helper.load.carry s op = some (reply, s')) : s.desk.Shrinks s'.desk := by
  cases op with
  | each errand ids =>
    obtain ⟨rs, hrs, -⟩ := gather_eq_some_iff.1 (Helper.carry_load_each.1 hop).2
    exact shrinks_of_runErrands hrs
  | _ => exact shrinks_of_plain? (show s.plain? _ = some (reply, s') from hop)

theorem shrinks_of_solo_load {s s' : Solo} {p : Program β} {b : β}
    (hp : p.solo .load s = some (b, s')) : s.desk.Shrinks s'.desk :=
  Program.solo_induction (R := fun s s' => s.desk.Shrinks s'.desk)
    (fun s => Desk.Shrinks.refl s.desk) Desk.Shrinks.trans shrinks_of_carry_load hp

/-- Callers can join no load but the one that has been joined. -/
def Tidy (s : Solo) : Prop :=
  match s.joined with
  | none => s.desk.pending = []
  | some j => (∀ p ∈ s.desk.pending, p = (j.user, j.load)) ∧
      (s.desk.loads[j.load]?).map Load.user = some j.user

theorem Tidy.of_shrinks {s s' : Solo} (h : s.Tidy) (hjoined : s'.joined = s.joined)
    (hshrinks : s.desk.Shrinks s'.desk) : s'.Tidy := by
  rw [Tidy, hjoined]
  rw [Tidy] at h
  cases hj : s.joined with
  | none =>
    rw [hj] at h
    exact List.eq_nil_iff_forall_not_mem.2 fun p hp => by
      have hmem := hshrinks.pending p hp
      rw [h] at hmem
      cases hmem
  | some j =>
    rw [hj] at h
    exact ⟨fun p hp => h.1 p (hshrinks.pending p hp), (hshrinks.users j.load).trans h.2⟩

/-- A load that is forgotten is joined by nobody. -/
theorem pending_forget {d : Desk} {user : Id} {load : Nat}
    (hpending : ∀ p ∈ d.pending, p = (user, load))
    (huser : (d.loads[load]?).map Load.user = some user) : (d.forget load).pending = [] := by
  obtain ⟨l, hl, rfl⟩ := Option.map_eq_some_iff.1 huser
  rw [Desk.forget, hl]
  simp only
  split
  · rw [Desk.release, List.filter_eq_nil_iff]
    intro p hp
    simp [hpending p hp]
  · -- If it cannot be joined, nothing can, as it is the only one that could be.
    next hother =>
    cases hd : d.pending with
    | nil => rfl
    | cons p rest =>
      have hp := hpending p (by rw [hd]; exact List.mem_cons_self)
      exact absurd (by rw [Desk.pendingOf, hd, hp, List.lookup_cons_self]) hother

theorem tidy_of_carry_call {s s' : Solo} {op : Operation} {reply : op.Reply}
    (hop : Helper.call.carry s op = some (reply, s')) (h : s.Tidy) : s'.Tidy := by
  cases op with
  | joinLoad user =>
    obtain ⟨hjoined, -, rfl, rfl⟩ := join_eq_some_iff.1 hop
    rw [Tidy, hjoined] at h
    refine ⟨fun p hp => ?_, ?_⟩
    · simpa [Desk.start, h] using hp
    · simp [Desk.start]
  | awaitLoad load =>
    -- While it is done, no other load is started, and it is forgotten after that.
    obtain ⟨j, u, hj, rfl, hu, rfl⟩ := await_eq_some_iff.1 hop
    rw [Tidy, hj] at h
    have hshrinks := shrinks_of_solo_load hu
    rw [Tidy, (rests_of_solo_load hu).joined]
    exact pending_forget (fun p hp => h.1 p (hshrinks.pending p hp))
      ((hshrinks.users j.load).trans h.2)
  | _ =>
    have hload : Helper.load.carry s _ = some (reply, s') := hop
    exact h.of_shrinks (rests_of_carry_load hload).joined (shrinks_of_carry_load hload)

/-- What a caller does leaves the desk tidy. -/
theorem tidy_of_solo {s s' : Solo} {p : Program β} {b : β} (hp : p.solo .call s = some (b, s'))
    (h : s.Tidy) : s'.Tidy :=
  Program.solo_induction (R := fun s s' => s.Tidy → s'.Tidy) (fun _ => id)
    (fun h h' hs => h' (h hs)) tidy_of_carry_call hp h

end Solo

end HouseholdAccess
