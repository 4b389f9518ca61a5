import HouseholdAccess.Session

/-!
# What programs are made of

Which operations a program may come to, whatever is replied, can be read off its text
(`Program.Only`). Loads use the systems around the service, have errands done and ask
whether they have been overtaken, but neither join loads nor overtake them
(`Cache.only_load`). Errands wait for nobody (`Cache.only_errand`).

Callers who ask for a rule set or drop some (`Call.IsAboutRules`) wait for a load only
when they have just joined it, and end with what the load has come to
(`Call.shares_flow`).
-/

namespace HouseholdAccess

variable {α β : Type}

/-! ## Operations -/

namespace Program

variable {P Q : Operation → Prop}

/-- Whatever is replied, the program carries out only operations of a kind. -/
def Only (P : Operation → Prop) : Program α → Prop
  | .done _ => True
  | .call op next => P op ∧ ∀ reply, (next reply).Only P

theorem Only.mono {p : Program α} (hp : p.Only P) (hPQ : ∀ op, P op → Q op) : p.Only Q := by
  induction p with
  | done a => trivial
  | call op next ih => exact ⟨hPQ op hp.1, fun reply => ih reply (hp.2 reply)⟩

theorem Only.bind {p : Program α} {f : α → Program β} (hp : p.Only P) (hf : ∀ a, (f a).Only P) :
    (p >>= f).Only P := by
  induction p with
  | done a => exact hf a
  | call op next ih => exact ⟨hp.1, fun reply => ih reply (hp.2 reply)⟩

end Program

namespace Flow

variable {P : Operation → Prop} {flow : Flow α}

/-- Whatever is replied, the flow carries out only operations of a kind. -/
def Only (P : Operation → Prop) (flow : Flow α) : Prop := Program.Only P flow.run

theorem only_pure (a : α) : (pure a : Flow α).Only P := trivial

theorem only_fail (f : Failure) : (fail f : Flow α).Only P := trivial

theorem only_perform {op : Operation} {f : op.Reply → Except Interruption α} (h : P op) :
    Program.Only P (.call op fun reply => .done (f reply)) := ⟨h, fun _ => trivial⟩

theorem only_access {a : Access} (h : P (.access a)) : (access a).Only P := only_perform h

theorem only_step {op : Operation} (h : P op) : (step op).Only P := only_perform h

theorem Only.bind {f : α → Flow β} (hflow : flow.Only P) (hf : ∀ a, (f a).Only P) :
    (flow >>= f).Only P := by
  refine Program.Only.bind hflow fun r => ?_
  cases r with
  | ok a => exact hf a
  | error e => trivial

theorem Only.recover {handle : Failure → Flow α} (hflow : flow.Only P)
    (hhandle : ∀ f, (handle f).Only P) : (flow.recover handle).Only P := by
  refine Program.Only.bind hflow fun r => ?_
  match r with
  | .ok a => trivial
  | .error (.failure f) => exact hhandle f
  | .error .cancelled => trivial

theorem only_ofExcept {ε : Type} {toFailure : ε → Failure} (x : Except ε α) :
    (ofExcept toFailure x).Only P := by
  cases x <;> trivial

end Flow

/-- An operation of a load. -/
def Operation.IsOfLoad : Operation → Prop
  | .access _ | .isOvertaken _ | .count _ | .each .. => True
  | _ => False

/-- An operation of a lookup. -/
def Operation.IsOfLookUp : Operation → Prop
  | .access _ | .count _ | .joinLoad _ | .awaitLoad _ => True
  | _ => False

/-- An operation of an errand. -/
def Operation.IsOfErrand : Operation → Prop
  | .access _ | .overtake _ | .count _ => True
  | _ => False

open HouseholdAccess.Flow

theorem CacheKind.only_delete {P : Operation → Prop} (kind : CacheKind) {user : Id}
    (h : P (.access (.cacheDelete user))) : (kind.delete user).Only P := by
  cases kind with
  | «local» => exact only_access h
  | shared => exact (only_access h).recover fun _ => only_fail _

theorem StoreKind.only_clear {P : Operation → Prop} (kind : StoreKind) {user : Id}
    (h : P (.access (.clear user))) : (kind.clear user).Only P := by
  cases kind with
  | table => exact only_access h
  | database => exact (only_access h).recover fun _ => only_fail _

theorem Cache.only_invalidate {P : Operation → Prop} (c : Cache) {user : Id}
    (hovertake : P (.overtake user)) (haccess : ∀ a, P (.access a))
    (hcount : P (.count .userInvalidation)) : (c.invalidate user).Only P :=
  (only_step hovertake).bind fun _ => (c.kind.only_delete (haccess _)).bind fun _ =>
    (c.store.only_clear (haccess _)).bind fun _ => only_step hcount

theorem Cache.only_errand (c : Cache) (e : Errand) (id : Id) :
    (c.errand e id).Only Operation.IsOfErrand := by
  cases e with
  | invalidate =>
    exact (c.only_invalidate trivial (fun _ => trivial) trivial).bind fun _ => only_pure _
  | members | aiUsers => exact only_access trivial

/-! ## Loads -/

theorem UserContext.only_fetch (user : Id) : (fetch user).Only Operation.IsOfLoad := by
  have hask : (ask user).Only Operation.IsOfLoad :=
    (only_access trivial).bind fun _ => (only_access trivial).bind fun _ =>
      (only_ofExcept _).bind fun _ => (only_ofExcept _).bind fun _ =>
        Flow.Only.bind (only_perform trivial) fun _ =>
          Flow.Only.bind (only_perform trivial) fun _ => only_ofExcept _
  exact hask.recover fun _ => only_fail _

theorem CacheKind.only_set {P : Operation → Prop} (kind : CacheKind) {user : Id} {text : String}
    {seconds : Binary64} (h : P (.access (.cacheSet user text seconds))) :
    (kind.set user text seconds).Only P := by
  have hput : (do access (.cacheSet user text seconds); return true : Flow Bool).Only P :=
    (only_access h).bind fun _ => only_pure _
  cases kind with
  | «local» => exact hput
  | shared => exact hput.recover fun _ => only_pure _

theorem StoreKind.only_load {P : Operation → Prop} (kind : StoreKind) {user : Id}
    (h : P (.access (.load user))) : (kind.load user).Only P := by
  cases kind with
  | table => exact only_access h
  | database =>
    refine ((only_access h).recover fun _ => only_pure _).bind fun form => ?_
    cases form with
    | none => exact only_pure _
    | some v => exact only_ofExcept _

theorem StoreKind.only_save {P : Operation → Prop} (kind : StoreKind) {user : Id} (form : Value)
    (h : ∀ form, P (.access (.save user form))) : (kind.save user form).Only P := by
  cases kind with
  | table => exact (only_access (h form)).bind fun _ => only_pure _
  | database =>
    exact ((only_ofExcept _).bind fun _ => (only_access (h _)).bind fun _ =>
      only_pure _).recover fun _ => only_pure _

namespace Cache

variable (c : Cache) (user : Id) (n : Nat)

theorem only_populate {P : Operation → Prop} (hovertaken : P (.isOvertaken n))
    (hset : ∀ text seconds, P (.access (.cacheSet user text seconds))) (form : Value) :
    (c.populate user form n).Only P := by
  refine (only_step hovertaken).bind fun overtaken => ?_
  cases overtaken with
  | true => exact only_pure _
  | false =>
    exact (only_ofExcept _).bind fun _ => (c.kind.only_set (hset _ _)).bind fun _ => only_pure _

theorem only_compile : (compile user).Only Operation.IsOfLoad := by
  refine Flow.Only.bind ((UserContext.only_fetch user).recover fun f => ?_) fun _ =>
    (only_step trivial).bind fun _ => (only_step trivial).bind fun _ => only_pure _
  cases UserContext.saysUnavailable f with
  | true => exact (only_step trivial).bind fun _ => only_fail _
  | false => exact only_fail _

/-- What is done with a rule set that has been compiled. -/
theorem only_keep {P : Operation → Prop} (hovertaken : P (.isOvertaken n))
    (hsave : ∀ form, P (.access (.save user form))) (hclear : P (.access (.clear user)))
    (hset : ∀ text seconds, P (.access (.cacheSet user text seconds))) (rules : RuleSet) :
    (c.keep user n rules).Only P := by
  refine (only_step hovertaken).bind fun overtaken => ?_
  cases overtaken with
  | true => exact only_pure _
  | false =>
    refine (c.store.only_save _ hsave).bind fun _ =>
      (only_step hovertaken).bind fun overtaken => ?_
    cases overtaken with
    | true => exact (c.store.only_clear hclear).bind fun _ => only_pure _
    | false =>
      exact (c.only_populate user n hovertaken hset _).bind fun _ => only_pure _

theorem only_compileAndKeep : (c.compileAndKeep user n).Only Operation.IsOfLoad :=
  (only_step trivial).bind fun _ => (only_compile user).bind fun _ =>
    c.only_keep user n trivial (fun _ => trivial) trivial (fun _ _ => trivial) _

/-- A load joins no load and overtakes none. -/
theorem only_load : (c.load user n).Only Operation.IsOfLoad := by
  refine (c.store.only_load trivial).bind fun form => ?_
  cases form with
  | none => exact c.only_compileAndKeep user n
  | some form =>
    cases hform : Packed.unpackWithin loadRoom form with
    | error e =>
      cases e with
      | malformed =>
        simp only [hform]
        exact c.only_compileAndKeep user n
      | tooDeep =>
        simp only [hform]
        exact only_fail _
    | ok rules =>
      simp only [hform]
      exact (only_step trivial).bind fun _ =>
        (c.only_populate user n trivial (fun _ _ => trivial) _).bind fun _ => only_pure _

end Cache

/-! ## Callers -/

/-- An operation that has nothing to do with waiting for loads. -/
def Operation.IsApart : Operation → Prop
  | .joinLoad _ | .awaitLoad _ => False
  | _ => True

namespace Program

/-- A load is waited for, and then nothing else is done. -/
def awaiting (load : Nat) (f : Except Interruption RuleSet → α) : Program α :=
  .call (.awaitLoad load) fun outcome => .done (f outcome)

/-- A load is waited for only by those who have just joined it, and then nothing else is done. -/
def Shares (f : Except Interruption RuleSet → α) : Program α → Prop
  | .done _ => True
  | .call (.joinLoad _) next => ∀ load, next load = awaiting load f
  | .call (.awaitLoad _) _ => False
  | .call _ next => ∀ reply, (next reply).Shares f

variable {f : Except Interruption RuleSet → α} {g : Except Interruption RuleSet → β}
  {p : Program α}

theorem shares_call {op : Operation} (hop : op.IsApart) {next : op.Reply → Program α} :
    (call op next).Shares f ↔ ∀ reply, (next reply).Shares f := by
  cases op with
  | joinLoad | awaitLoad => exact hop.elim
  | _ => exact Iff.rfl

/-- What has nothing to do with loads may come first. -/
theorem Only.shares_bind (hp : p.Only Operation.IsApart) {k : α → Program β}
    (hk : ∀ a, (k a).Shares g) : (p >>= k).Shares g := by
  induction p with
  | done a => exact hk a
  | call op next ih => exact (shares_call hp.1).2 fun reply => ih reply (hp.2 reply)

/-- What the load has come to may be put differently at the end. -/
theorem Shares.bind (hp : p.Shares f) {k : α → Program β} (hk : ∀ a, (k a).Shares g)
    (hend : ∀ outcome, k (f outcome) = .done (g outcome)) : (p >>= k).Shares g := by
  induction p with
  | done a => exact hk a
  | call op next ih =>
    cases op with
    | joinLoad user =>
      intro load
      change next load >>= k = awaiting load g
      rw [hp load]
      exact congrArg _ (funext hend)
    | awaitLoad load => exact hp.elim
    | _ => exact fun reply => ih reply (hp reply)

end Program

/-- The flow comes to what a load has come to if it waits for one. -/
def Flow.Shares (f : Except Interruption RuleSet → Except Interruption α) (flow : Flow α) : Prop :=
  Program.Shares f flow.run

namespace Flow

variable {flow : Flow α} {f : Except Interruption RuleSet → Except Interruption α}
  {g : Except Interruption RuleSet → Except Interruption β}

theorem shares_pure (a : α) : (pure a : Flow α).Shares f := trivial

theorem Only.shares_bind (hflow : flow.Only Operation.IsApart) {k : α → Flow β}
    (hk : ∀ a, (k a).Shares g) : (flow >>= k).Shares g := by
  refine Program.Only.shares_bind hflow fun r => ?_
  cases r with
  | ok a => exact hk a
  | error e => trivial

/-- What a flow comes to may be put differently at its end. -/
theorem Shares.map (hflow : flow.Shares f) (k : α → β)
    (hend : ∀ outcome, (f outcome).map k = g outcome) :
    (flow >>= fun a => pure (k a)).Shares g := by
  refine Program.Shares.bind hflow (fun r => ?_) fun outcome => ?_
  · cases r <;> trivial
  · rw [← hend]
    cases f outcome <;> rfl

end Flow

namespace Cache

variable (c : Cache) (user : Id)

theorem only_cached {P : Operation → Prop} (h : ∀ a, P (.access a)) : (c.cached user).Only P := by
  have hget : (c.kind.get user).Only P := by
    cases c.kind with
    | «local» => exact only_access (h _)
    | shared => exact (only_access (h _)).recover fun _ => only_pure _
  refine hget.bind fun found => ?_
  cases found with
  | none => exact only_pure _
  | some text =>
    cases htext : Packed.loads (.text text) with
    | ok rules =>
      simp only [htext]
      exact only_pure _
    | error e =>
      cases e with
      | malformed =>
        simp only [htext]
        exact (c.kind.only_delete (h _)).bind fun _ => only_pure _
      | tooDeep o =>
        simp only [htext]
        exact only_fail _

/-- A lookup uses the cache, counts, and joins a load and waits for it. -/
theorem only_lookUp : (c.lookUp user).Only Operation.IsOfLookUp := by
  refine (c.only_cached user fun _ => trivial).bind fun found => ?_
  cases found with
  | some rules => exact (only_step trivial).bind fun _ => only_pure _
  | none => exact (only_step trivial).bind fun _ => only_perform trivial

/-- A lookup comes to what the load has come to that it joins. -/
theorem shares_lookUp : (c.lookUp user).Shares id := by
  refine (c.only_cached user fun _ => trivial).shares_bind fun found => ?_
  cases found with
  | some rules => exact (only_step trivial).shares_bind fun _ => shares_pure _
  | none => exact fun _ => rfl

end Cache

/-- A caller who asks for a rule set, or who drops some. -/
def Call.IsAboutRules : Call → Prop
  | .get _ | .recompute _ | .invalidate _ | .invalidateHousehold _ => True
  | _ => False

/-- What a caller gets from a load. -/
def Answer.ofLoad (outcome : Except Interruption RuleSet) : Except Interruption Answer :=
  outcome.map .rules

/-- Callers who ask for rule sets or drop some get what the load has come to that they join. -/
theorem Call.shares_flow (s : Service) {call : Call} (hcall : call.IsAboutRules) :
    (call.flow s).Shares Answer.ofLoad := by
  have hinvalidate (user : Id) : (s.cache.invalidate user).Only Operation.IsApart :=
    s.cache.only_invalidate trivial (fun _ => trivial) trivial
  cases call with
  | get user => exact (s.cache.shares_lookUp user).map Answer.rules fun _ => rfl
  | recompute user =>
    exact ((hinvalidate user).shares_bind fun _ => s.cache.shares_lookUp user).map Answer.rules
      fun _ => rfl
  | invalidate user => exact (hinvalidate user).shares_bind fun _ => shares_pure _
  | invalidateHousehold household =>
    have hdrop : (s.cache.invalidateHousehold household).Only Operation.IsApart :=
      ((only_access trivial).recover fun _ => only_fail _).bind fun _ =>
        Flow.Only.bind (only_perform trivial) fun _ => (only_step trivial).bind fun _ =>
          only_pure _
    exact hdrop.shares_bind fun _ => shares_pure _
  | _ => exact hcall.elim

end HouseholdAccess
