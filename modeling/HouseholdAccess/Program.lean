import HouseholdAccess.World

/-!
# Programs of the service

What the service does is written as *programs* (`Program`): trees whose nodes are
operations and whose branches are what an operation may reply. A program does
nothing by itself. It is run by something that knows how to carry out the
operations, such as the scheduler of `HouseholdAccess.Schedule`, where the
programs of many callers take turns.

An operation is either

* an *access* to one of the systems around the service (`Access`), which may be
  held up and may fail;
* a *step at the desk*, which takes no time: the service keeps for each user the
  load of permissions that is under way (`Desk`), counts, and remembers what its
  log lines should say;
* a *wait*, for a load or for several errands at once.

A `Flow` is a program that may be interrupted, by a failure or because its caller
has gone; only failures can be recovered from (`Flow.recover`).
-/

namespace HouseholdAccess

/-- What ends a piece of work before its time. -/
inductive Interruption
  /-- Something has failed. -/
  | failure (f : Failure)
  /-- Nobody waits for the work any more. -/
  | cancelled

/-- Work of which several pieces are done at once. -/
inductive Errand
  /-- Drops the permissions of a user. -/
  | invalidate
  /-- Asks for the users of a household. -/
  | members
  /-- Asks for the AI users of a household. -/
  | aiUsers
  deriving DecidableEq

/-- An operation of a program. -/
inductive Operation
  /-- Uses a system around the service. -/
  | access (a : Access)
  /-- Joins the load of a user's permissions that is under way, or starts one. -/
  | joinLoad (user : Id)
  /-- Forgets the load of a user's permissions that is under way, which is overtaken then. -/
  | overtake (user : Id)
  /-- Asks whether a load has been overtaken. -/
  | isOvertaken (load : Nat)
  /-- Waits for a load. -/
  | awaitLoad (load : Nat)
  /-- Does an errand for each name, all at once, and waits for all of them. -/
  | each (errand : Errand) (ids : List Id)
  /-- Counts one more of a series. -/
  | count (series : Series)
  /-- Asks for what has been counted. -/
  | counted
  /-- Adds fields to what log lines say. -/
  | bind (fields : Entries)
  /-- Drops all fields that log lines say. -/
  | unbind
  /-- Asks for the fields that log lines say. -/
  | bound
  /-- Asks for the time. -/
  | time
  /-- Sets whether events are being consumed. -/
  | setConsuming (b : Bool)
  /-- Asks whether events are being consumed. -/
  | isConsuming

/-- The type of what is replied to an operation. -/
@[reducible] def Operation.Reply : Operation → Type
  | .access a => Except Interruption a.Answer
  | .joinLoad _ => Nat
  | .isOvertaken _ | .isConsuming => Bool
  | .awaitLoad _ => Except Interruption RuleSet
  | .each .. => Except Interruption (List (List Id))
  | .counted => Option Registry
  | .bound => Entries
  | .time => Binary64
  | .overtake _ | .count _ | .bind _ | .unbind | .setConsuming _ => Unit

/-- A program with a result. -/
inductive Program (α : Type) : Type
  /-- The result. -/
  | done (a : α)
  /-- An operation, and how to go on with the reply. -/
  | call (op : Operation) (next : op.Reply → Program α)

namespace Program

variable {α β : Type}

/-- One program after the other. -/
def andThen : Program α → (α → Program β) → Program β
  | .done a, f => f a
  | .call op next, f => .call op fun reply => (next reply).andThen f

instance : Monad Program where
  pure := .done
  bind := .andThen

/-- The program of one operation. -/
def perform (op : Operation) : Program op.Reply := .call op .done

end Program

/-- A program that may be interrupted. -/
abbrev Flow := ExceptT Interruption Program

namespace Flow

variable {α : Type}

/-- Uses a system. -/
def access (a : Access) : Flow a.Answer := ExceptT.mk (Program.perform (.access a))

/-- Carries out an operation that cannot be interrupted. -/
def step (op : Operation) : Flow op.Reply := ExceptT.lift (Program.perform op)

/-- Fails. -/
def fail (f : Failure) : Flow α := throw (.failure f)

/-- Goes on after a failure. -/
def recover (flow : Flow α) (handle : Failure → Flow α) : Flow α :=
  ExceptT.mk do
    match ← ExceptT.run flow with
    | .error (.failure f) => ExceptT.run (handle f)
    | outcome => pure outcome

/-- Does something at the end, however the flow ends. -/
def atLast (flow : Flow α) (last : Program Unit) : Flow α :=
  ExceptT.mk do
    let outcome ← ExceptT.run flow
    last
    pure outcome

/-- Goes on with a result, or fails. -/
def ofExcept {ε : Type} (toFailure : ε → Failure) : Except ε α → Flow α
  | .ok a => pure a
  | .error e => fail (toFailure e)

/-- Counts one more of a series. -/
def count (s : Series) : Flow Unit := step (.count s)

end Flow

/-! ## The desk -/

/-- A load of the permissions of a user. -/
structure Load where
  /-- The user. -/
  user : Id
  /-- Whether the permissions have been dropped since. -/
  overtaken : Bool := false

/-- What the service knows about the loads of permissions. A load is known by its number. -/
structure Desk where
  /-- All loads so far, in order. -/
  loads : List Load := []
  /-- For each user the load that new callers join. -/
  pending : List (Id × Nat) := []

namespace Desk

/-- The load that new callers of a user join. -/
def pendingOf (d : Desk) (user : Id) : Option Nat := d.pending.lookup user

/-- Starts a load. -/
def start (d : Desk) (user : Id) : Nat × Desk :=
  let load := d.loads.length
  (load, { loads := d.loads ++ [{ user }], pending := d.pending ++ [(user, load)] })

/-- Lets new callers start a load. -/
def release (d : Desk) (user : Id) : Desk :=
  { d with pending := d.pending.filter fun p => p.1 ≠ user }

/-- Forgets the load under way of a user, which is overtaken then. -/
def overtake (d : Desk) (user : Id) : Desk :=
  match d.pendingOf user with
  | none => d
  | some load => { d.release user with loads := d.loads.modify load ({ · with overtaken := true }) }

/-- Forgets a load that has ended, unless a newer one is under way already. -/
def forget (d : Desk) (load : Nat) : Desk :=
  match d.loads[load]? with
  | none => d
  | some l => if d.pendingOf l.user = some load then d.release l.user else d

/-- Whether a load has been overtaken. -/
def isOvertaken (d : Desk) (load : Nat) : Bool :=
  match d.loads[load]? with
  | none => false
  | some l => l.overtaken

end Desk

end HouseholdAccess
