import HouseholdAccess.Proofs.Cache.Shape

/-!
# Programs that do the same

Two programs are *twins* (`Program.Twins`) if they carry out corresponding operations as
long as the replies to these correspond, and end with the same result. What corresponds is
laid down by their `Terms`: replies may have to be equal, or need not be if nothing
depends on them, and loads may go by different numbers.

The rules for the parts of a `Flow` carry this from the parts to the whole.
-/

namespace HouseholdAccess

variable {α β : Type}

/-- On what terms two programs are to do the same. -/
structure Terms where
  /-- The operations that both may carry out. -/
  allows : Operation → Prop
  /-- Which replies to an operation correspond. -/
  replies : (op : Operation) → op.Reply → op.Reply → Prop
  /-- Which loads correspond where it is asked whether they are overtaken. -/
  asks : Nat → Nat → Prop
  /-- Which loads correspond where they are waited for. -/
  waits : Nat → Nat → Prop

/-- The operation may be carried out, and only equal replies to it correspond. -/
structure Terms.Passes (T : Terms) (op : Operation) : Prop where
  allows : T.allows op
  eq : ∀ {r r' : op.Reply}, T.replies op r r' → r = r'

/-- The programs do the same on the terms. -/
inductive Program.Twins (T : Terms) : Program α → Program α → Prop
  | done (a : α) : Twins T (.done a) (.done a)
  | call {op : Operation} {next next' : op.Reply → Program α} : T.allows op →
    (∀ r r', T.replies op r r' → Twins T (next r) (next' r')) →
    Twins T (.call op next) (.call op next')
  | asks {n n' : Nat} {next next' : Bool → Program α} : T.asks n n' →
    (∀ b, Twins T (next b) (next' b)) →
    Twins T (.call (.isOvertaken n) next) (.call (.isOvertaken n') next')
  | waits {n n' : Nat} {next next' : Except Interruption RuleSet → Program α} : T.waits n n' →
    (∀ r, Twins T (next r) (next' r)) →
    Twins T (.call (.awaitLoad n) next) (.call (.awaitLoad n') next')

variable {T : Terms}

theorem Program.Twins.bind {p q : Program α} {f g : α → Program β} (h : p.Twins T q)
    (hf : ∀ a, (f a).Twins T (g a)) : (p >>= f).Twins T (q >>= g) := by
  induction h with
  | done a => exact hf a
  | call hop _ ih => exact .call hop ih
  | asks hn _ ih => exact .asks hn ih
  | waits hn _ ih => exact .waits hn ih

/-- What twins carry out is allowed, or is about loads, if every reply corresponds to itself. -/
theorem Program.Twins.only {p q : Program α} {P : Operation → Prop} (h : p.Twins T q)
    (hreplies : ∀ (op : Operation) (r : op.Reply), T.replies op r r)
    (hallows : ∀ op, T.allows op → P op) (hasks : ∀ n, P (.isOvertaken n))
    (hwaits : ∀ n, P (.awaitLoad n)) : p.Only P := by
  induction h with
  | done a => trivial
  | call hop _ ih => exact ⟨hallows _ hop, fun r => ih r r (hreplies _ r)⟩
  | asks _ _ ih => exact ⟨hasks _, ih⟩
  | waits _ _ ih => exact ⟨hwaits _, ih⟩

namespace Flow

variable {flow flow' : Flow α}

/-- The programs of the flows do the same on the terms. -/
def Twins (T : Terms) (flow flow' : Flow α) : Prop := Program.Twins T flow.run flow'.run

theorem twins_pure (a : α) : (pure a : Flow α).Twins T (pure a) := .done _

theorem twins_fail (f : Failure) : (fail f : Flow α).Twins T (fail f) := .done _

theorem twins_ofExcept {ε : Type} (toFailure : ε → Failure) (x : Except ε α) :
    (ofExcept toFailure x).Twins T (ofExcept toFailure x) := by
  cases x <;> exact .done _

theorem Twins.bind {f g : α → Flow β} (h : flow.Twins T flow')
    (hf : ∀ a, (f a).Twins T (g a)) : (flow >>= f).Twins T (flow' >>= g) := by
  refine Program.Twins.bind h fun r => ?_
  cases r with
  | ok a => exact hf a
  | error e => exact .done _

theorem Twins.recover {handle handle' : Failure → Flow α} (h : flow.Twins T flow')
    (hhandle : ∀ f, (handle f).Twins T (handle' f)) :
    (flow.recover handle).Twins T (flow'.recover handle') := by
  refine Program.Twins.bind h fun r => ?_
  match r with
  | .ok a => exact .done _
  | .error (.failure f) => exact hhandle f
  | .error .cancelled => exact .done _

/-- An operation to which the replies are equal. -/
theorem twins_perform {op : Operation} (hop : T.Passes op) (f : op.Reply → Except Interruption α) :
    Program.Twins T (.call op fun r => .done (f r)) (.call op fun r => .done (f r)) := by
  refine .call hop.allows fun r r' hr => ?_
  obtain rfl := hop.eq hr
  exact .done _

theorem twins_access {a : Access} (ha : T.Passes (.access a)) :
    (access a).Twins T (access a) := twins_perform ha _

theorem twins_step {op : Operation} (hop : T.Passes op) : (step op).Twins T (step op) :=
  twins_perform hop _

theorem twins_isOvertaken {n n' : Nat} (hn : T.asks n n') :
    (step (.isOvertaken n)).Twins T (step (.isOvertaken n')) := .asks hn fun _ => .done _

end Flow

end HouseholdAccess
