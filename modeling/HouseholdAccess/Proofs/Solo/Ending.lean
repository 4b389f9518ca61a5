import HouseholdAccess.Proofs.Cache.Keeping
import HouseholdAccess.Proofs.Cache.Shape

/-!
# What is done alone ends

A program that waits for no load ends when it is done alone (`Program.Only.exists_solo`),
and so does one that waits only for a load that it has just joined, if no other load is
under way (`Program.Shares.exists_solo`).
-/

namespace HouseholdAccess

variable {α : Type} {s : Solo} {p : Program α}

/-- Errands end. -/
theorem Program.Only.exists_solo_errand (hp : p.Only Operation.IsOfErrand) (s : Solo) :
    ∃ a s', p.solo .errand s = some (a, s') := by
  induction p generalizing s with
  | done a => exact ⟨a, s, rfl⟩
  | call op next ih =>
    obtain ⟨⟨reply, t⟩, ht⟩ : ∃ x, Helper.errand.carry s op = some x := by
      have hop := hp.1
      cases op with
      | access | overtake | count => exact ⟨_, rfl⟩
      | _ => exact hop.elim
    obtain ⟨a, u, hu⟩ := ih reply (hp.2 reply) t
    exact ⟨a, u, Option.bind_eq_some_iff.2 ⟨_, ht, hu⟩⟩

namespace Solo

theorem exists_runErrands (errand : Errand) (ids : List Id) (s : Solo) :
    ∃ x, runErrands errand ids s = some x := by
  induction ids generalizing s with
  | nil => exact ⟨_, rfl⟩
  | cons id rest ih =>
    obtain ⟨r, t, ht⟩ := (s.cache.only_errand errand id).exists_solo_errand s
    have hr : s.runErrand errand id = some (r, { t with fields := s.fields }) :=
      runErrand_eq_some_iff.2 ⟨t, ht, rfl⟩
    obtain ⟨⟨rs, u⟩, hu⟩ := ih { t with fields := s.fields }
    exact ⟨(r :: rs, u), runErrands_cons_eq_some_iff.2 ⟨r, _, rs, hr, hu, rfl⟩⟩

/-- What has nothing to do with waiting for loads is carried out while none has been joined. -/
theorem exists_carry_load (hs : s.joined = none) {op : Operation} (hop : op.IsApart) :
    ∃ x, Helper.load.carry s op = some x := by
  cases op with
  | each errand ids =>
    obtain ⟨x, hx⟩ := exists_runErrands errand ids s
    exact ⟨_, (Helper.gathers_load hs).trans (congrArg (Option.map _) hx)⟩
  | joinLoad | awaitLoad => exact hop.elim
  | _ => exact ⟨_, rfl⟩

end Solo

/-- What has nothing to do with waiting for loads ends. -/
theorem Program.Only.exists_solo (hp : p.Only Operation.IsApart) (hs : s.joined = none) :
    ∃ a s', p.solo .load s = some (a, s') := by
  induction p generalizing s with
  | done a => exact ⟨a, s, rfl⟩
  | call op next ih =>
    obtain ⟨⟨reply, t⟩, ht⟩ := Solo.exists_carry_load hs hp.1
    obtain ⟨a, u, hu⟩ := ih reply (hp.2 reply) ((Solo.rests_of_carry_load ht).joined.trans hs)
    exact ⟨a, u, Option.bind_eq_some_iff.2 ⟨_, ht, hu⟩⟩

theorem Operation.IsOfLoad.isApart {op : Operation} (hop : op.IsOfLoad) : op.IsApart := by
  cases op with
  | joinLoad | awaitLoad => exact hop.elim
  | _ => trivial

theorem Cache.exists_solo_load (c : Cache) (user : Id) (n : Nat) (hs : s.joined = none) :
    ∃ r s', (c.load user n).solo .load s = some (r, s') :=
  Program.Only.exists_solo ((c.only_load user n).mono fun _ => Operation.IsOfLoad.isApart) hs

namespace Program

/-- What a caller does that has nothing to do with waiting for loads is carried out, and no load is
    under way then either. -/
theorem exists_solo_call {op : Operation} (hop : op.IsApart) (hs : s.Free)
    {next : op.Reply → Program α}
    (hnext : ∀ (reply : op.Reply) {t : Solo}, t.Free →
      ∃ a s', (next reply).solo .call t = some (a, s') ∧ s'.joined = none) :
    ∃ a s', (call op next).solo .call s = some (a, s') ∧ s'.joined = none := by
  obtain ⟨⟨reply, t⟩, ht⟩ := Solo.exists_carry_load hs.joined hop
  have hcarry : Helper.call.carry s op = some (reply, t) := by
    cases op with
    | joinLoad | awaitLoad => exact hop.elim
    | _ => exact ht
  have hfree : t.Free := by
    refine ⟨(Solo.rests_of_carry_load ht).joined.trans hs.joined, ?_⟩
    refine List.eq_nil_iff_forall_not_mem.2 fun q hq => ?_
    have hmem := (Solo.shrinks_of_carry_load ht).pending q hq
    rw [hs.pending] at hmem
    cases hmem
  obtain ⟨a, u, hu, hjoined⟩ := hnext reply hfree
  exact ⟨a, u, Option.bind_eq_some_iff.2 ⟨_, hcarry, hu⟩, hjoined⟩

/-- A load that is joined and waited for is done. -/
theorem exists_solo_join (user : Id) (f : Except Interruption RuleSet → α) (hs : s.Free) :
    ∃ a s', (call (.joinLoad user) fun load => awaiting load f).solo .call s = some (a, s') ∧
      s'.joined = none := by
  let load := s.desk.loads.length
  let j : Joined := { load, user, fields := s.fields }
  let t : Solo := { s with desk := (s.desk.start user).2, joined := some j }
  have hjoin : Helper.call.carry s (.joinLoad user) = some (load, t) :=
    Solo.join_eq_some_iff.2 ⟨hs.joined, hs.pendingOf user, rfl, rfl⟩
  obtain ⟨r, u, hu⟩ := s.cache.exists_solo_load user load
    (show ({ t with joined := none } : Solo).joined = none from rfl)
  let v : Solo := { u with desk := u.desk.forget load, fields := s.fields }
  have hawait : t.await load = some (r, v) :=
    Solo.await_eq_some_iff.2 ⟨j, u, rfl, rfl, hu, rfl⟩
  refine ⟨f r, v, ?_, (Solo.rests_of_solo_load hu).joined⟩
  refine Option.bind_eq_some_iff.2 ⟨_, hjoin, ?_⟩
  exact Option.bind_eq_some_iff.2 ⟨_, hawait, rfl⟩

/-- What waits only for a load that it has just joined ends. -/
theorem Shares.exists_solo {f : Except Interruption RuleSet → α} (hp : p.Shares f)
    (hs : s.Free) : ∃ a s', p.solo .call s = some (a, s') ∧ s'.joined = none := by
  induction p generalizing s with
  | done a => exact ⟨a, s, rfl, hs.joined⟩
  | call op next ih =>
    cases op with
    | joinLoad user =>
      obtain rfl : next = fun load => awaiting load f := funext hp
      exact exists_solo_join user f hs
    | awaitLoad => exact hp.elim
    | _ =>
      refine exists_solo_call ?_ hs fun reply _ => ih reply (hp reply)
      trivial

end Program

/-- What a caller does leaves it at the same cache. -/
theorem Solo.cache_of_solo {a : α} {s' : Solo} (hp : p.solo .call s = some (a, s')) :
    s'.cache = s.cache := by
  refine Program.solo_induction (R := fun s s' => s'.cache = s.cache) (fun _ => rfl)
    (fun h h' => h'.trans h) (fun {s op reply s'} hop => ?_) hp
  cases op with
  | joinLoad user =>
    obtain ⟨-, -, -, rfl⟩ := Solo.join_eq_some_iff.1 hop
    rfl
  | awaitLoad load =>
    obtain ⟨j, u, -, -, hu, rfl⟩ := Solo.await_eq_some_iff.1 hop
    exact (rests_of_solo_load hu).cache
  | _ =>
    have hload : Helper.load.carry s _ = some (reply, s') := hop
    exact (rests_of_carry_load hload).cache

end HouseholdAccess
