import HouseholdAccess.Proofs.Cache.Loading
import HouseholdAccess.Session

/-!
# What callers do, whoever else is at work

Those who look the rule set of a user up or drop it leave both places to the loads:
they neither write on the record nor put anything into the cache (`CallerMay`).

An answer is either what has been found in the cache, or that of a load that has been
joined (`Cache.IsLookUp`). Dropping takes four operations (`Cache.IsInvalidation`),
and ends early if the entry cannot be taken out of the cache, or the record cannot be
wiped (`Cache.Drops`).
-/

namespace HouseholdAccess

open HouseholdAccess.Flow

/-- The call is a lookup of the rule set of the user, or drops it, or both. -/
def Call.IsAbout (user : Id) : Call → Prop
  | .get v | .invalidate v | .recompute v => v = user
  | _ => False

/-- What those may do next who look the rule set of a user up or drop it. -/
def CallerMay (user : Id) : Operation → Prop
  | .access (.cacheGet v) | .access (.cacheDelete v) | .access (.clear v) => v = user
  | .overtake v | .joinLoad v => v = user
  | .awaitLoad _ | .count _ => True
  | _ => False

namespace Cache

/-- The trace is that of a lookup that has come to a rule set. -/
inductive IsLookUp (user : Id) (rules : RuleSet) : List Exchange → Prop
  /-- The rule set has been found in the cache. -/
  | hit {time time' : Nat} {source source' : Mark} {text : String} :
    Packed.loads (.text text) = .ok rules → IsLookUp user rules
      [⟨time, source, .access (.cacheGet user), .ok (some text)⟩,
        ⟨time', source', .count (.cacheLookup .hit), ()⟩]
  /-- A load has been joined, and has come to the rule set. -/
  | joined (before : List Exchange) {time time' : Nat} {source source' : Mark} {load : Nat} :
    IsLookUp user rules (before ++ [⟨time, source, .joinLoad user, load⟩,
      ⟨time', source', .awaitLoad load, .ok rules⟩])

/-- The times of the operations of which dropping a rule set consists. -/
structure Invalidation where
  /-- When the load under way was overtaken, at the start. -/
  began : Nat
  /-- When the entry was taken out of the cache. -/
  deleted : Nat
  /-- When the record was wiped. -/
  cleared : Nat
  /-- When it was counted, at the end. -/
  returned : Nat

/-- The trace is that of dropping the rule set of the user. -/
def IsInvalidation (user : Id) (d : Invalidation) (tr : List Exchange) : Prop :=
  ∃ s₁ s₂ s₃ s₄ found,
    tr = [⟨d.began, s₁, .overtake user, ()⟩,
      ⟨d.deleted, s₂, .access (.cacheDelete user), .ok found⟩,
      ⟨d.cleared, s₃, .access (.clear user), .ok ()⟩,
      ⟨d.returned, s₄, .count .userInvalidation, ()⟩]

/-- Dropping overtakes the load under way, takes the entry out and wipes the record. -/
theorem IsInvalidation.mem {user : Id} {d : Invalidation} {tr : List Exchange}
    (h : IsInvalidation user d tr) :
    (∃ source, ⟨d.began, source, .overtake user, ()⟩ ∈ tr) ∧
    (∃ source found, ⟨d.deleted, source, .access (.cacheDelete user), .ok found⟩ ∈ tr) ∧
    ∃ source, ⟨d.cleared, source, .access (.clear user), .ok ()⟩ ∈ tr := by
  obtain ⟨s₁, s₂, s₃, s₄, found, rfl⟩ := h
  exact ⟨⟨s₁, List.mem_cons_self⟩, ⟨s₂, found, List.mem_cons_of_mem _ List.mem_cons_self⟩,
    s₃, List.mem_cons_of_mem _ (List.mem_cons_of_mem _ List.mem_cons_self)⟩

/-- Loads are overtaken once. -/
theorem IsInvalidation.time_eq {user : Id} {d : Invalidation} {tr : List Exchange}
    (h : IsInvalidation user d tr) {e : Exchange} (he : e ∈ tr) (hop : e.op = .overtake user) :
    e.time = d.began := by
  obtain ⟨s₁, s₂, s₃, s₄, found, rfl⟩ := h
  simp only [List.mem_cons, List.not_mem_nil, or_false] at he
  rcases he with rfl | rfl | rfl | rfl
  · rfl
  · cases hop
  · cases hop
  · cases hop

theorem IsInvalidation.began_lt_cleared {user : Id} {d : Invalidation} {tr : List Exchange}
    (h : IsInvalidation user d tr) (hincreasing : tr.Pairwise fun e e' => e.time < e'.time) :
    d.began < d.cleared := by
  obtain ⟨s₁, s₂, s₃, s₄, found, rfl⟩ := h
  exact (List.pairwise_cons.1 hincreasing).1 ⟨d.cleared, s₃, .access (.clear user), .ok ()⟩
    (List.mem_cons_of_mem _ List.mem_cons_self)

/-- How dropping the rule set of the user may go. -/
inductive Drops (user : Id) : List Exchange → Except Interruption Unit → Prop
  /-- The rule set has been dropped. -/
  | dropped {d : Invalidation} {part : List Exchange} :
    IsInvalidation user d part → Drops user part (.ok ())
  /-- The entry cannot be taken out of the cache, and the record has not been wiped. -/
  | notDeleted {time time' : Nat} {source source' : Mark} {f f' : Failure} :
    Drops user [⟨time, source, .overtake user, ()⟩,
      ⟨time', source', .access (.cacheDelete user), .error (.failure f)⟩] (.error (.failure f'))
  /-- The record cannot be wiped. -/
  | notCleared {time time' time'' : Nat} {source source' source'' : Mark} {found : Bool}
      {f f' : Failure} :
    Drops user [⟨time, source, .overtake user, ()⟩,
      ⟨time', source', .access (.cacheDelete user), .ok found⟩,
      ⟨time'', source'', .access (.clear user), .error (.failure f)⟩] (.error (.failure f'))

end Cache

namespace CacheKind

variable {user : Id} {tr : List Exchange} {G : List Exchange → Operation → Prop}

/-- A cache that cannot be used has no entry, or fails the caller. -/
theorem keeps_get {Q : List Exchange → Except Interruption (Option String) → Prop}
    (kind : CacheKind) (hG : G tr (.access (.cacheGet user)))
    (hok : ∀ time source found,
      Q (tr ++ [⟨time, source, .access (.cacheGet user), .ok found⟩]) (.ok found))
    (herror : ∀ time source f r, r = .ok none ∨ r = .error (.failure f) →
      Q (tr ++ [⟨time, source, .access (.cacheGet user), .error (.failure f)⟩]) r) :
    (kind.get user).Keeps Exchange.IsSound G Q tr := by
  match kind with
  | .local =>
    exact keeps_access hG (fun time source found _ => hok time source found)
      fun time source f => herror time source f _ (.inr rfl)
  | .shared =>
    exact keeps_access_recover hG (fun time source found _ => hok time source found)
      fun time source f => keeps_pure (herror time source f _ (.inl rfl))

/-- An entry that cannot be taken out fails the caller. -/
theorem keeps_delete {Q : List Exchange → Except Interruption Bool → Prop}
    (kind : CacheKind) (hG : G tr (.access (.cacheDelete user)))
    (hok : ∀ time source found,
      Q (tr ++ [⟨time, source, .access (.cacheDelete user), .ok found⟩]) (.ok found))
    (herror : ∀ time source f f',
      Q (tr ++ [⟨time, source, .access (.cacheDelete user), .error (.failure f)⟩])
        (.error (.failure f'))) :
    (kind.delete user).Keeps Exchange.IsSound G Q tr := by
  match kind with
  | .local =>
    exact keeps_access hG (fun time source found _ => hok time source found)
      fun time source f => herror time source f f
  | .shared =>
    exact keeps_access_recover hG (fun time source found _ => hok time source found)
      fun time source f => keeps_fail (herror time source f _)

end CacheKind

namespace Cache

variable {c : Cache} {user : Id} {tr : List Exchange}

/-- What the cache says is read from the entry. -/
def FindsEntry (user : Id) (tr tr' : List Exchange) (r : Except Interruption (Option RuleSet)) :
    Prop :=
  (∃ rest, tr' = tr ++ rest) ∧ ∀ rules, r = .ok (some rules) → ∃ time source text,
    tr' = tr ++ [⟨time, source, .access (.cacheGet user), .ok (some text)⟩] ∧
      Packed.loads (.text text) = .ok rules

theorem keeps_cached :
    (c.cached user).Keeps Exchange.IsSound (fun _ => CallerMay user) (FindsEntry user tr) tr := by
  have hnone {rest : List Exchange} {r : Except Interruption (Option RuleSet)}
      (hr : ∀ rules, r ≠ .ok (some rules)) : FindsEntry user tr (tr ++ rest) r :=
    ⟨⟨rest, rfl⟩, fun rules hrules => absurd hrules (hr rules)⟩
  refine keeps_bind (CacheKind.keeps_get c.kind rfl (fun time source found => ?_)
    fun time source f r hr => ?_)
  · cases found with
    | none => exact keeps_pure (hnone nofun)
    | some text =>
      simp only [Before]
      split
      · next rules hrules =>
        refine keeps_pure ⟨⟨_, rfl⟩, fun rules' hrules' => ?_⟩
        cases hrules'
        exact ⟨time, source, text, rfl, hrules⟩
      · -- An entry that cannot be read is taken out, and nothing has been found then.
        refine keeps_bind (CacheKind.keeps_delete c.kind rfl (fun time' source' found => ?_)
          fun time' source' f f' => ?_)
        · rw [List.append_assoc]
          exact keeps_pure (hnone nofun)
        · rw [List.append_assoc]
          exact hnone nofun
      · exact keeps_fail (hnone nofun)
  · rcases hr with rfl | rfl
    · exact keeps_pure (hnone nofun)
    · exact hnone nofun

/-- Whoever looks a rule set up has found it in the cache, or has waited for a load. -/
theorem keeps_lookUp :
    (c.lookUp user).Keeps Exchange.IsSound (fun _ => CallerMay user)
      (fun tr' r => ∀ rules, r = .ok rules → ∃ q, tr' = tr ++ q ∧ IsLookUp user rules q) tr := by
  refine Keeps.bind keeps_cached ?_ fun _ _ _ _ hrules => by cases hrules
  rintro tr' found ⟨⟨before, rfl⟩, hfound⟩
  cases found with
  | some rules =>
    obtain ⟨time, source, text, htr, hloads⟩ := hfound rules rfl
    rw [htr]
    refine keeps_bind (keeps_step (.count _) trivial fun time' source' _ _ => ?_)
    refine keeps_pure fun rules' hrules' => ?_
    cases hrules'
    rw [List.append_assoc]
    exact ⟨_, rfl, .hit hloads⟩
  | none =>
    -- Nothing has been found, whatever has been done so far.
    refine keeps_bind (keeps_step (.joinLoad user) rfl fun time source load _ => ?_)
    refine ⟨trivial, fun time' source' outcome _ rules hrules => ?_⟩
    obtain rfl : outcome = .ok rules := hrules
    rw [List.append_assoc, List.append_assoc]
    exact ⟨_, rfl, .joined before⟩

/-- Whoever drops a rule set overtakes the load under way, takes the entry out of the cache and
    wipes the record, in this order. -/
theorem keeps_invalidate :
    (c.invalidate user).Keeps Exchange.IsSound (fun _ => CallerMay user)
      (fun tr' r => ∃ part, tr' = tr ++ part ∧ Drops user part r) tr := by
  refine keeps_bind (keeps_step (.overtake user) rfl fun began s₁ _ _ => ?_)
  refine keeps_bind (CacheKind.keeps_delete c.kind rfl (fun deleted s₂ found => ?_)
    fun deleted s₂ f f' => ?_)
  · refine keeps_bind (StoreKind.keeps_clear c.store rfl (fun cleared s₃ => ?_)
      fun cleared s₃ f f' => ?_)
    · refine keeps_step (.count _) trivial fun returned s₄ _ _ => ?_
      rw [List.append_assoc, List.append_assoc, List.append_assoc]
      exact ⟨_, rfl, .dropped (d := ⟨began, deleted, cleared, returned⟩)
        ⟨s₁, s₂, s₃, s₄, found, rfl⟩⟩
    · rw [List.append_assoc, List.append_assoc]
      exact ⟨_, rfl, .notCleared⟩
  · rw [List.append_assoc]
    exact ⟨_, rfl, .notDeleted⟩

/-- A lookup that has come to a rule set has gone one of the two ways. -/
theorem isLookUp_of_follows {q : List Exchange} {rules : RuleSet}
    (hq : (c.lookUp user).run.Follows q (.ok rules)) (hsound : ∀ e ∈ q, e.IsSound) :
    IsLookUp user rules q := by
  obtain ⟨q', hq', hlookUp⟩ := Program.Keeps.of_follows keeps_lookUp hq hsound rules rfl
  rw [List.nil_append] at hq'
  exact hq' ▸ hlookUp

theorem drops_of_follows {part : List Exchange} {r : Except Interruption Unit}
    (hpart : (c.invalidate user).run.Follows part r) (hsound : ∀ e ∈ part, e.IsSound) :
    Drops user part r := by
  obtain ⟨part', hpart', hdrops⟩ := Program.Keeps.of_follows keeps_invalidate hpart hsound
  rw [List.nil_append] at hpart'
  exact hpart' ▸ hdrops

end Cache

/-- Those who look the rule set of a user up or drop it leave both places to the loads. -/
theorem Call.keeps_flow {user : Id} {call : Call} (hcall : call.IsAbout user) (service : Service) :
    (call.flow service).Keeps Exchange.IsSound (fun _ => CallerMay user) (fun _ _ => True) [] := by
  cases call with
  | get v =>
    obtain rfl := hcall
    exact Keeps.bind Cache.keeps_lookUp (fun _ _ _ => keeps_pure trivial) fun _ _ _ => trivial
  | invalidate v =>
    obtain rfl := hcall
    exact Keeps.bind Cache.keeps_invalidate (fun _ _ _ => keeps_pure trivial) fun _ _ _ => trivial
  | recompute v =>
    obtain rfl := hcall
    refine Keeps.bind (P := fun _ _ => True) ?_ (fun _ _ _ => keeps_pure trivial)
      fun _ _ _ => trivial
    refine Keeps.bind Cache.keeps_invalidate (fun _ _ _ => ?_) fun _ _ _ => trivial
    exact Cache.keeps_lookUp.mono fun _ _ _ => trivial
  | _ => exact hcall.elim

end HouseholdAccess
