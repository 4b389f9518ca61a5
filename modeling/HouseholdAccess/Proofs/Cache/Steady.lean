import HouseholdAccess.Proofs.Cache.Denied

/-!
# Work that is not cancelled

Nobody who works with the cache is ever cancelled by what is met on the way. If whatever is
refused is refused for a failure (`Exchange.IsReliable`), a flow is *steady* (`Flow.Steady`):
it comes to a result or to a failure, and on the way waits only for loads that it has
joined. This is put together from the parts of a flow, and holds of lookups, of what drops
rule sets, and of the loads and errands that these wait for (`Cache.steady_lookUp`,
`Cache.steady_invalidateHousehold`, `Cache.steady_load`, `Cache.steady_errand`).

None of them counts events or has to do with what log lines say (`Operation.IsUneventful`).
-/

namespace HouseholdAccess

variable {α β : Type} {P : Operation → Prop} {tr : List Exchange}

/-! ## Events and log lines -/

/-- The series counts events that end so. -/
def Series.isOfEvents (ok : Bool) (s : Series) : Bool :=
  s.name == "permission_events_total" && s.labels.lookup "status" == some (outcomeToken ok)

theorem Series.isOfEvents_event (type : String) (b ok : Bool) :
    (event type b).isOfEvents ok = (b == ok) := by
  cases b <;> cases ok <;> rfl

namespace Operation

/-- Whether the operation counts an event that ends so. -/
def countsEvent (ok : Bool) : Operation → Bool
  | .count s => s.isOfEvents ok
  | _ => false

/-- What log lines say after the operation. -/
def boundAfter (fields : Entries) : Operation → Entries
  | .bind more => more.foldl (fun es (key, v) => Entries.put es key v) fields
  | .unbind => []
  | _ => fields

/-- The operation counts no event. -/
def CountsNoEvent (op : Operation) : Prop := ∀ ok, op.countsEvent ok = false

/-- The operation counts no event, and log lines say the same after it. -/
structure IsUneventful (op : Operation) : Prop where
  counts : op.CountsNoEvent
  fields : ∀ fields, op.boundAfter fields = fields

theorem isUneventful_access (a : Access) : (access a).IsUneventful := ⟨fun _ => rfl, fun _ => rfl⟩

theorem isUneventful_each (e : Errand) (ids : List Id) : (each e ids).IsUneventful :=
  ⟨fun _ => rfl, fun _ => rfl⟩

/-- What is counted under another name is no event. -/
theorem isUneventful_count {s : Series} (h : s.name ≠ "permission_events_total") :
    (count s).IsUneventful := by
  refine ⟨fun ok => ?_, fun _ => rfl⟩
  rw [countsEvent, Series.isOfEvents, beq_false_of_ne h, Bool.false_and]

end Operation

/-! ## Steady flows -/

namespace Exchange

/-- What is refused is refused for a failure, and a load that is waited for has not been
    cancelled. -/
def IsReliable (e : Exchange) : Prop :=
  match e.op, e.reply with
  | .access _, .error x | .each .., .error x | .awaitLoad _, .error x => ∃ f, x = .failure f
  | _, _ => True

/-- The load has been joined. -/
def Joins (load : Nat) (e : Exchange) : Prop :=
  match e.op, e.reply with
  | .joinLoad _, n => n = load
  | _, _ => False

/-- What does not wait for a load is reliable if it is honest. -/
theorem IsHonest.isReliable {e : Exchange} (h : e.IsHonest) (hop : ∀ n, e.op ≠ .awaitLoad n) :
    e.IsReliable := by
  obtain ⟨time, source, op, reply⟩ := e
  cases op with
  | awaitLoad n => exact absurd rfl (hop n)
  | access | each =>
    cases reply with
    | ok => trivial
    | error => exact h
  | _ => trivial

end Exchange

/-- A load that is waited for has been joined. -/
def AwaitsJoined (tr : List Exchange) : Operation → Prop
  | .awaitLoad load => ∃ e ∈ tr, e.Joins load
  | _ => True

open HouseholdAccess.Flow

namespace Flow

/-- The flow does only what is of a kind, waits only for loads that it has joined, and is not
    cancelled. -/
def Steady (P : Operation → Prop) (flow : Flow α) : Prop :=
  ∀ tr, flow.Keeps Exchange.IsReliable (fun tr op => P op ∧ AwaitsJoined tr op)
    (fun _ r => r ≠ .error .cancelled) tr

variable {flow : Flow α}

theorem Steady.mono {P' : Operation → Prop} (h : flow.Steady P) (hP : ∀ op, P op → P' op) :
    flow.Steady P' :=
  fun tr => Program.Keeps.mono (h tr) (fun _ op hop => ⟨hP op hop.1, hop.2⟩) fun _ _ => id

theorem steady_pure (a : α) : (pure a : Flow α).Steady P := fun _ => keeps_pure nofun

theorem steady_fail (f : Failure) : (fail f : Flow α).Steady P := fun _ => keeps_fail nofun

theorem steady_ofExcept {ε : Type} {toFailure : ε → Failure} (x : Except ε α) :
    (ofExcept toFailure x).Steady P :=
  fun _ => keeps_ofExcept (fun _ _ => nofun) fun _ _ => nofun

theorem Steady.bind {f : α → Flow β} (h : flow.Steady P) (hf : ∀ a, (f a).Steady P) :
    (flow >>= f).Steady P := by
  refine fun tr => Keeps.bind (h tr) (fun tr a _ => hf a tr) fun _ e he hcancelled => he ?_
  cases hcancelled
  rfl

theorem Steady.recover {handle : Failure → Flow α} (h : flow.Steady P)
    (hhandle : ∀ f, (handle f).Steady P) : (flow.recover handle).Steady P :=
  fun tr => Keeps.recover (h tr) (fun _ _ => id) (fun tr f _ => hhandle f tr) fun _ => id

theorem steady_access {a : Access} (hP : P (.access a)) : (access a).Steady P := by
  refine fun tr => keeps_perform (.access a) ⟨hP, trivial⟩ fun time source reply hreliable => ?_
  rintro rfl
  obtain ⟨f, hf⟩ := hreliable
  cases hf

theorem steady_each {e : Errand} {ids : List Id} (hP : P (.each e ids)) :
    Steady P (ExceptT.mk (Program.perform (.each e ids))) := by
  refine fun tr => keeps_perform (.each e ids) ⟨hP, trivial⟩ fun time source reply hreliable => ?_
  rintro rfl
  obtain ⟨f, hf⟩ := hreliable
  cases hf

/-- Who has joined a load may wait for it. -/
theorem keeps_await {n : Nat} (hP : P (.awaitLoad n)) (hjoined : ∃ e ∈ tr, e.Joins n) :
    Keeps Exchange.IsReliable (fun tr op => P op ∧ AwaitsJoined tr op)
      (fun _ r => r ≠ .error .cancelled) (ExceptT.mk (Program.perform (.awaitLoad n))) tr := by
  refine keeps_perform (.awaitLoad n) ⟨hP, hjoined⟩ fun time source reply hreliable => ?_
  rintro rfl
  obtain ⟨f, hf⟩ := hreliable
  cases hf

theorem steady_step {op : Operation} (hP : P op) (hop : ∀ n, op ≠ .awaitLoad n) :
    (step op).Steady P := by
  refine fun tr => keeps_step op ⟨hP, ?_⟩ fun _ _ _ _ => nofun
  cases op with
  | awaitLoad n => exact absurd rfl (hop n)
  | _ => trivial

end Flow

open Operation (IsUneventful isUneventful_access isUneventful_each)

theorem Flow.steady_count (s : Series) (h : s.name ≠ "permission_events_total") :
    (count s).Steady IsUneventful :=
  steady_step (Operation.isUneventful_count h) nofun

/-! ## Caches and stores -/

namespace CacheKind

variable (kind : CacheKind) (user : Id)

theorem steady_get : (kind.get user).Steady IsUneventful := by
  cases kind with
  | «local» => exact steady_access (isUneventful_access _)
  | shared => exact (steady_access (isUneventful_access _)).recover fun _ => steady_pure _

theorem steady_set (text : String) (seconds : Binary64) :
    (kind.set user text seconds).Steady IsUneventful := by
  have hput : (do access (.cacheSet user text seconds); return true : Flow Bool).Steady
      IsUneventful := (steady_access (isUneventful_access _)).bind fun _ => steady_pure _
  cases kind with
  | «local» => exact hput
  | shared => exact hput.recover fun _ => steady_pure _

theorem steady_delete : (kind.delete user).Steady IsUneventful := by
  cases kind with
  | «local» => exact steady_access (isUneventful_access _)
  | shared => exact (steady_access (isUneventful_access _)).recover fun _ => steady_fail _

end CacheKind

namespace StoreKind

variable (kind : StoreKind) (user : Id)

theorem steady_load : (kind.load user).Steady IsUneventful := by
  cases kind with
  | table => exact steady_access (isUneventful_access _)
  | database =>
    refine ((steady_access (isUneventful_access _)).recover fun _ => steady_pure _).bind
      fun form => ?_
    cases form with
    | none => exact steady_pure _
    | some v => exact steady_ofExcept _

theorem steady_save (form : Value) : (kind.save user form).Steady IsUneventful := by
  cases kind with
  | table => exact (steady_access (isUneventful_access _)).bind fun _ => steady_pure _
  | database =>
    exact ((steady_ofExcept _).bind fun _ => (steady_access (isUneventful_access _)).bind fun _ =>
      steady_pure _).recover fun _ => steady_pure _

theorem steady_clear : (kind.clear user).Steady IsUneventful := by
  cases kind with
  | table => exact steady_access (isUneventful_access _)
  | database =>
    exact (steady_access (isUneventful_access _)).recover fun _ => steady_fail _

end StoreKind

theorem UserContext.steady_fetch (user : Id) : (fetch user).Steady IsUneventful := by
  have hask : (ask user).Steady IsUneventful :=
    (steady_access (isUneventful_access _)).bind fun _ =>
      (steady_access (isUneventful_access _)).bind fun _ =>
        (steady_ofExcept _).bind fun _ => (steady_ofExcept _).bind fun _ =>
          (steady_each (isUneventful_each _ _)).bind fun _ =>
            (steady_each (isUneventful_each _ _)).bind fun _ => steady_ofExcept _
  exact hask.recover fun _ => steady_fail _

/-! ## Loads, errands and lookups -/

namespace Cache

variable (c : Cache) (user : Id) (n : Nat)

theorem steady_isOvertaken : (step (.isOvertaken n)).Steady IsUneventful :=
  steady_step ⟨fun _ => rfl, fun _ => rfl⟩ nofun

theorem steady_populate (form : Value) : (c.populate user form n).Steady IsUneventful := by
  refine (steady_isOvertaken n).bind fun overtaken => ?_
  cases overtaken with
  | true => exact steady_pure _
  | false =>
    exact (steady_ofExcept _).bind fun _ => (c.kind.steady_set user _ _).bind fun _ => steady_pure _

theorem steady_compile : (compile user).Steady IsUneventful := by
  refine Steady.bind ((UserContext.steady_fetch user).recover fun f => ?_) fun _ =>
    (steady_count (.compilation true) (by decide)).bind fun _ =>
      (steady_count .compilationTime (by decide)).bind fun _ => steady_pure _
  cases UserContext.saysUnavailable f with
  | true =>
    exact (steady_count (.compilation false) (by decide)).bind fun _ => steady_fail _
  | false => exact steady_fail _

theorem steady_keep (rules : RuleSet) : (c.keep user n rules).Steady IsUneventful := by
  refine (steady_isOvertaken n).bind fun overtaken => ?_
  cases overtaken with
  | true => exact steady_pure _
  | false =>
    refine (c.store.steady_save user _).bind fun _ => (steady_isOvertaken n).bind
      fun overtaken => ?_
    cases overtaken with
    | true => exact (c.store.steady_clear user).bind fun _ => steady_pure _
    | false => exact (c.steady_populate user n _).bind fun _ => steady_pure _

theorem steady_compileAndKeep : (c.compileAndKeep user n).Steady IsUneventful :=
  (steady_count (.cacheLookup .miss) (by decide)).bind fun _ =>
    (steady_compile user).bind fun _ => c.steady_keep user n _

theorem steady_load : (c.load user n).Steady IsUneventful := by
  refine (c.store.steady_load user).bind fun form => ?_
  cases form with
  | none => exact c.steady_compileAndKeep user n
  | some form =>
    cases hform : Packed.unpackWithin loadRoom form with
    | error e =>
      simp only [hform]
      cases e with
      | malformed => exact c.steady_compileAndKeep user n
      | tooDeep => exact steady_fail _
    | ok rules =>
      simp only [hform]
      exact (steady_count (.cacheLookup .persisted) (by decide)).bind fun _ =>
        (c.steady_populate user n _).bind fun _ => steady_pure _

theorem steady_invalidate : (c.invalidate user).Steady IsUneventful := by
  have hovertake : (step (.overtake user)).Steady IsUneventful :=
    steady_step ⟨fun _ => rfl, fun _ => rfl⟩ nofun
  exact hovertake.bind fun _ => (c.kind.steady_delete user).bind fun _ =>
    (c.store.steady_clear user).bind fun _ => steady_count .userInvalidation (by decide)

theorem steady_errand (e : Errand) (id : Id) : (c.errand e id).Steady IsUneventful := by
  cases e with
  | invalidate => exact (c.steady_invalidate id).bind fun _ => steady_pure _
  | members | aiUsers => exact steady_access (isUneventful_access _)

theorem steady_invalidateHousehold (household : Id) :
    (c.invalidateHousehold household).Steady IsUneventful :=
  ((steady_access (isUneventful_access _)).recover fun _ => steady_fail _).bind fun _ =>
    (steady_each (isUneventful_each _ _)).bind fun _ =>
      (steady_count .householdInvalidation (by decide)).bind fun _ => steady_pure _

theorem steady_cached : (c.cached user).Steady IsUneventful := by
  refine (c.kind.steady_get user).bind fun found => ?_
  cases found with
  | none => exact steady_pure _
  | some text =>
    cases htext : Packed.loads (.text text) with
    | ok rules =>
      simp only [htext]
      exact steady_pure _
    | error e =>
      cases e with
      | malformed =>
        simp only [htext]
        exact (c.kind.steady_delete user).bind fun _ => steady_pure _
      | tooDeep isList =>
        simp only [htext]
        exact steady_fail _

/-- A lookup that misses the cache waits for the load that it has joined. -/
theorem steady_lookUp : (c.lookUp user).Steady IsUneventful := by
  refine (c.steady_cached user).bind fun found => ?_
  cases found with
  | some rules => exact (steady_count (.cacheLookup .hit) (by decide)).bind fun _ => steady_pure _
  | none =>
    intro tr
    refine keeps_bind ?_
    refine keeps_step (.joinLoad user) ⟨⟨fun _ => rfl, fun _ => rfl⟩, trivial⟩
      fun time source load _ => ?_
    exact keeps_await ⟨fun _ => rfl, fun _ => rfl⟩
      ⟨_, List.mem_append_right _ (List.mem_singleton.2 rfl), rfl⟩

theorem steady_recompute : (c.recompute user).Steady IsUneventful :=
  (c.steady_invalidate user).bind fun _ => c.steady_lookUp user

end Cache

end HouseholdAccess
