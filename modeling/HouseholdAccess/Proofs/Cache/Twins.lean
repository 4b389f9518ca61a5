import HouseholdAccess.Proofs.Cache.Calling
import HouseholdAccess.Proofs.Twins

/-!
# Callers and loads that do the same

Two caches that are used in the same way (`Cache.Twins`) make no difference to those who
look a rule set up or drop it: on terms that leave them their operations
(`Operation.IsBesideCache`), loads with corresponding numbers are twins
(`Cache.Twins.load`), and so are the callers of two services (`Cache.Twins.flow`).
-/

namespace HouseholdAccess

open HouseholdAccess.Flow

/-- The operation is one of a load of the user, or of dropping the rule set of the user, and has to
    do neither with the cache nor with waiting for loads. -/
def Operation.IsBesideCache (user : Id) : Operation → Prop
  | .access (.roles v) | .access (.load v) | .access (.save v _) | .access (.clear v)
  | .overtake v => v = user
  | .access (.managed _) | .access (.members _) | .access (.aiUsers _) | .count _ => True
  | .each errand _ => errand ≠ .invalidate
  | _ => False

variable {T : Terms} {c d : Cache} {user : Id} {n n' : Nat}

/-! ## The record -/

namespace StoreKind

variable (kind : StoreKind)

theorem twins_load (h : T.Passes (.access (.load user))) :
    (kind.load user).Twins T (kind.load user) := by
  cases kind with
  | table => exact twins_access h
  | database =>
    refine ((twins_access h).recover fun _ => twins_pure none).bind fun form => ?_
    cases form with
    | none => exact twins_pure none
    | some v => exact twins_ofExcept id _

theorem twins_save (form : Value) (h : ∀ form, T.Passes (.access (.save user form))) :
    (kind.save user form).Twins T (kind.save user form) := by
  cases kind with
  | table => exact (twins_access (h form)).bind fun _ => twins_pure true
  | database =>
    exact Twins.recover ((twins_ofExcept _ _).bind fun text => (twins_access (h _)).bind fun _ =>
      twins_pure _) fun _ => twins_pure false

theorem twins_clear (h : T.Passes (.access (.clear user))) :
    (kind.clear user).Twins T (kind.clear user) := by
  cases kind with
  | table => exact twins_access h
  | database => exact (twins_access h).recover fun _ => twins_fail _

end StoreKind

/-! ## Role data -/

theorem UserContext.twins_fetch (h : ∀ op : Operation, op.IsBesideCache user → T.Passes op) :
    (fetch user).Twins T (fetch user) := by
  have hask : (ask user).Twins T (ask user) := by
    refine (twins_access (h (.access (.roles user)) rfl)).bind fun records => ?_
    refine (twins_access (h (.access (.managed user)) trivial)).bind fun managed => ?_
    refine (twins_ofExcept id _).bind fun households => ?_
    refine (twins_ofExcept id _).bind fun managing => ?_
    refine Twins.bind (twins_perform (h (.each .members _) fun h => by cases h) id)
      fun members => ?_
    refine Twins.bind (twins_perform (h (.each .aiUsers _) fun h => by cases h) id)
      fun aiUsers => ?_
    exact twins_ofExcept id _
  exact hask.recover fun _ => twins_fail _

theorem Cache.twins_compile (h : ∀ op : Operation, op.IsBesideCache user → T.Passes op) :
    (compile user).Twins T (compile user) := by
  have hcount (series : Series) : (count series).Twins T (count series) :=
    twins_step (h (.count series) trivial)
  refine Twins.bind ((UserContext.twins_fetch h).recover fun f => ?_) fun context =>
    (hcount _).bind fun _ => (hcount _).bind fun _ => twins_pure _
  cases UserContext.saysUnavailable f with
  | true => exact (hcount _).bind fun _ => twins_fail f
  | false => exact twins_fail f

/-! ## The cache -/

/-- The caches are used in the same way, whatever taking an entry out says. -/
structure Cache.Twins (T : Terms) (user : Id) (c d : Cache) : Prop where
  store : d.store = c.store
  timeToLive : d.timeToLive = c.timeToLive
  get : (c.kind.get user).Twins T (d.kind.get user)
  set : ∀ text, (c.kind.set user text (.ofInt c.timeToLive)).Twins T
    (d.kind.set user text (.ofInt c.timeToLive))
  delete : ∀ {β : Type} {flow flow' : Flow β}, flow.Twins T flow' →
    (do let _ ← c.kind.delete user; flow : Flow β).Twins T
      (do let _ ← d.kind.delete user; flow' : Flow β)

namespace Cache.Twins

variable (h : c.Twins T user d)
include h

theorem cached : (c.cached user).Twins T (d.cached user) := by
  refine h.get.bind fun found => ?_
  cases found with
  | none => exact twins_pure none
  | some text =>
    cases hloads : Packed.loads (.text text) with
    | ok rules =>
      simp only [hloads]
      exact twins_pure (some rules)
    | error e =>
      cases e with
      | malformed =>
        simp only [hloads]
        exact h.delete (twins_pure none)
      | tooDeep isList =>
        simp only [hloads]
        exact twins_fail _

theorem populate (form : Value) (hn : T.asks n n') :
    (c.populate user form n).Twins T (d.populate user form n') := by
  refine (twins_isOvertaken hn).bind fun overtaken => ?_
  cases overtaken with
  | true => exact twins_pure ()
  | false =>
    refine (twins_ofExcept _ _).bind fun text => ?_
    rw [h.timeToLive]
    exact (h.set text).bind fun _ => twins_pure ()

variable (hop : ∀ op : Operation, op.IsBesideCache user → T.Passes op)
include hop

section Load

variable (hn : T.asks n n')
include hn

theorem keep (rules : RuleSet) : (c.keep user n rules).Twins T (d.keep user n' rules) := by
  refine (twins_isOvertaken hn).bind fun overtaken => ?_
  cases overtaken with
  | true => exact twins_pure rules
  | false =>
    rw [h.store]
    refine (c.store.twins_save _ fun _ => hop _ rfl).bind fun _ => ?_
    refine (twins_isOvertaken hn).bind fun overtaken => ?_
    cases overtaken with
    | true => exact (c.store.twins_clear (hop _ rfl)).bind fun _ => twins_pure rules
    | false => exact (h.populate _ hn).bind fun _ => twins_pure rules

theorem compileAndKeep : (c.compileAndKeep user n).Twins T (d.compileAndKeep user n') :=
  (twins_step (hop (.count _) trivial)).bind fun _ => (twins_compile hop).bind fun rules =>
    h.keep hop hn rules

/-- Loads with corresponding numbers do the same. -/
theorem load : (c.load user n).Twins T (d.load user n') := by
  rw [Cache.load, Cache.load, h.store]
  refine (c.store.twins_load (hop _ rfl)).bind fun form => ?_
  cases form with
  | none => exact h.compileAndKeep hop hn
  | some form =>
    cases hform : Packed.unpackWithin loadRoom form with
    | error e =>
      simp only [hform]
      cases e with
      | malformed => exact h.compileAndKeep hop hn
      | tooDeep => exact twins_fail _
    | ok rules =>
      simp only [hform]
      exact (twins_step (hop (.count _) trivial)).bind fun _ => (h.populate form hn).bind fun _ =>
        twins_pure rules

end Load

/-- Those who drop the rule set of the user do the same. -/
theorem invalidate : (c.invalidate user).Twins T (d.invalidate user) := by
  rw [Cache.invalidate, Cache.invalidate, h.store]
  refine (twins_step (hop (.overtake user) rfl)).bind fun _ => h.delete ?_
  exact (c.store.twins_clear (hop _ rfl)).bind fun _ => twins_step (hop (.count _) trivial)

variable (hallows : T.allows (.joinLoad user))
  (hjoin : ∀ m m', T.replies (.joinLoad user) m m' → T.waits m m')
include hallows hjoin

/-- Those who look the rule set of the user up do the same. -/
theorem lookUp : (c.lookUp user).Twins T (d.lookUp user) := by
  refine h.cached.bind fun found => ?_
  cases found with
  | some rules => exact (twins_step (hop (.count _) trivial)).bind fun _ => twins_pure rules
  | none => exact .call hallows fun m m' hm => .waits (hjoin m m' hm) fun _ => .done _

omit h in
/-- Callers of two services do the same. -/
theorem flow {s s' : Service} (h : s.cache.Twins T user s'.cache) {call : Call}
    (hcall : call.IsAbout user) : (call.flow s).Twins T (call.flow s') := by
  cases call with
  | get v =>
    obtain rfl : v = user := hcall
    exact (h.lookUp hop hallows hjoin).bind fun _ => twins_pure _
  | invalidate v =>
    obtain rfl : v = user := hcall
    exact (h.invalidate hop).bind fun _ => twins_pure _
  | recompute v =>
    obtain rfl : v = user := hcall
    exact ((h.invalidate hop).bind fun _ => h.lookUp hop hallows hjoin).bind fun _ => twins_pure _
  | _ => exact hcall.elim

end Cache.Twins

end HouseholdAccess
