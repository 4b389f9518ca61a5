import HouseholdAccess.Proofs.Role.Context
import HouseholdAccess.Proofs.Solo.Ensures

/-!
# Reading alone

What a flow that reads the store meets alone: the store answers what its rows
state, unless the point of the read fails (`Flow.solo_read`). Reading the context
of a user comes to `World.readContext` (`UserContext.solo_fetch`), and leaves the
world as it is but for the count of reads.
-/

namespace HouseholdAccess

/-- There are connections to the store and to the cache. -/
structure World.IsConnected (w : World) : Prop where
  store : w.storeConnected = true
  cache : w.cacheConnected = true

theorem World.IsConnected.notConnected?_eq_none {w : World} (h : w.IsConnected) (a : Access) :
    w.notConnected? a = none := by
  simp only [World.notConnected?, h.store, h.cache, Bool.not_true, Bool.and_false,
    Bool.false_eq_true, if_false]

/-- A helper has errands done one after the other, while no load has been joined. -/
def Helper.Gathers (h : Helper) : Prop :=
  ∀ ⦃s : Solo⦄ ⦃errand : Errand⦄ ⦃ids : List Id⦄, s.joined = none →
    h.carry s (.each errand ids) = s.gather errand ids

theorem Helper.gathers_load : Helper.load.Gathers := fun _ _ _ hs => by
  simp only [Helper.load, hs, Option.isNone_none, if_true]

theorem Helper.gathers_call : Helper.call.Gathers := fun _ _ _ hs => Helper.gathers_load hs

variable {α β : Type} {h : Helper} {s s' : Solo}

namespace Flow

/-- A read of the store about a user or a household gives what the store answers, unless it meets
    an outage. -/
theorem solo_read (hs : s.world.IsConnected) {a : Access} {p : Point} {name : Id} {x : a.Answer}
    (hpoint : s.world.pointOf? a = some p) (hname : a.name? = some name)
    (hanswer : (s.world.begin a).answer a = (x, s.world.begin a)) :
    (access a).solo h s =
      some ((s.world.attempt p name x).mapError .failure, { s with world := s.world.begin a }) := by
  -- To begin the access counts a read at most.
  have hbegin : (s.world.begin a).IsConnected ∧ (s.world.begin a).pointOf? a = some p ∧
      (s.world.begin a).failureOf p (some name) = s.world.failureOf p (some name) := by
    cases a <;> exact ⟨⟨hs.store, hs.cache⟩, hpoint, rfl⟩
  obtain ⟨hconnected, hpoint', hfailing⟩ := hbegin
  rw [solo_access, World.perform, hconnected.notConnected?_eq_none, World.failureAt?, hpoint',
    Option.bind_some, hname, hfailing, hanswer, World.attempt]
  cases s.world.failureOf p (some name) <;> rfl

/-- A flow that carries something out that may fail, and then goes on. -/
theorem solo_bind_mapError {flow : Flow α} {x : Except Failure α}
    (hflow : flow.solo h s = some (x.mapError .failure, s')) {f : α → Flow β}
    {g : α → Except Failure β}
    (hnext : ∀ a, x = .ok a → (f a).solo h s' = some ((g a).mapError .failure, s')) :
    (flow >>= f).solo h s = some ((x >>= g).mapError .failure, s') := by
  cases x with
  | error e => exact solo_bind_error hflow f
  | ok a => exact (solo_bind_ok hflow f).trans (hnext a rfl)

end Flow

namespace Solo

/-- Errands that read give what is read, and change nothing. -/
theorem runErrands_read {errand : Errand} {read : Id → Except Failure (List Id)}
    (hread : ∀ id, (s.cache.errand errand id).solo .errand s =
      some ((read id).mapError .failure, s)) (ids : List Id) :
    runErrands errand ids s = some (ids.map fun id => (read id).mapError .failure, s) := by
  induction ids with
  | nil => rfl
  | cons id rest ih =>
    have hfirst : s.runErrand errand id = some ((read id).mapError .failure, s) :=
      runErrand_eq_some_iff.2 ⟨s, hread id, rfl⟩
    exact runErrands_cons_eq_some_iff.2 ⟨_, s, _, hfirst, ih, rfl⟩

theorem gather_read {errand : Errand} {read : Id → Except Failure (List Id)}
    (hread : ∀ id, (s.cache.errand errand id).solo .errand s =
      some ((read id).mapError .failure, s)) (ids : List Id) :
    s.gather errand ids = some ((ids.mapM read).mapError .failure, s) :=
  gather_eq_some_iff.2
    ⟨_, runErrands_read hread ids, (mapM_map_mapError Interruption.failure ids).symm⟩

end Solo

namespace UserContext

/-- Asking for the context of a user alone. -/
theorem solo_ask (hh : h.Gathers) (hs : s.world.IsConnected) (hjoined : s.joined = none)
    (user : Id) :
    (ask user).solo h s = some ((s.world.readContext user).mapError .failure,
      { s with world := { s.world with reads := s.world.reads + 1 } }) := by
  let t : Solo := { s with world := { s.world with reads := s.world.reads + 1 } }
  have ht : t.world.IsConnected := ⟨hs.store, hs.cache⟩
  have hgather {errand : Errand} {read : Id → Except Failure (List Id)}
      (hread : ∀ id, (t.cache.errand errand id).solo .errand t =
        some ((read id).mapError .failure, t)) (ids : List Id) :
      (ExceptT.mk (Program.perform (.each errand ids)) : Flow (List (List Id))).solo h t =
        some ((ids.mapM read).mapError .failure, t) :=
    Flow.solo_perform ((hh (show t.joined = none from hjoined)).trans (Solo.gather_read hread ids))
  have hmembers (household : Id) : (t.cache.errand .members household).solo .errand t =
      some ((s.world.attempt .members household
        (s.world.membersOf household)).mapError .failure, t) :=
    Flow.solo_read ht rfl rfl rfl
  have haiUsers (household : Id) : (t.cache.errand .aiUsers household).solo .errand t =
      some ((s.world.attempt .aiUsers household
        (s.world.aiUsersOf household)).mapError .failure, t) :=
    Flow.solo_read ht rfl rfl rfl
  -- From here on, both go through the same reads in the same order.
  rw [ask, World.readContext]
  refine Flow.solo_bind_mapError (Flow.solo_read hs rfl rfl rfl) fun records _ => ?_
  refine Flow.solo_bind_mapError (Flow.solo_read ht rfl rfl rfl) fun managed _ => ?_
  refine Flow.solo_bind_mapError (Flow.solo_ofExcept id _) fun households _ => ?_
  refine Flow.solo_bind_mapError (Flow.solo_ofExcept id _) fun managing _ => ?_
  refine Flow.solo_bind_mapError (hgather hmembers _) fun members _ => ?_
  refine Flow.solo_bind_mapError (hgather haiUsers _) fun aiUsers _ => ?_
  exact Flow.solo_ofExcept id _

/-- How a failure to read the context of a user is reported. -/
def reported (user : Id) (f : Failure) : Failure :=
  if saysUnavailable f then f else .service (unavailable user f)

/-- Reading the context of a user alone. -/
theorem solo_fetch (hh : h.Gathers) (hs : s.world.IsConnected) (hjoined : s.joined = none)
    (user : Id) :
    (fetch user).solo h s =
      some ((s.world.readContext user).mapError fun f => .failure (reported user f),
        { s with world := { s.world with reads := s.world.reads + 1 } }) := by
  rw [fetch, Flow.solo_recover, solo_ask hh hs hjoined]
  cases s.world.readContext user <;> rfl

end UserContext

end HouseholdAccess
