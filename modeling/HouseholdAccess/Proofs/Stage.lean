import HouseholdAccess.Proofs.Cache.Calling
import HouseholdAccess.Proofs.Session.Routine

/-!
# Work that is done together

A *stage* is the service at work for callers who come and go as they like. The
programs of callers, the loads and the errands of loads take turns in any order,
one operation at a time (`Stage.Step`), so that an operation takes effect at one
point between its call and its return, and anything may happen before it and after
it. A load is forgotten by the desk some time after it has ended. Systems may fail at
any time, and be in order again.

That is more than the scheduler of `HouseholdAccess.Schedule` does, where a program
goes on until it has to wait, and jobs are done in order. What holds here in every
order holds there, as whatever happens in a session can happen on a stage
(`Session.Runs.exists_enacts`).

Apart from what the service can see, a stage knows the time, which is the number of
what has happened so far, and which operations have taken effect when (`Stage.log`). It
knows who has put the entry of the cache and the form on the record where they are
(`Stage.entry`, `Stage.form`). There is one such mark for each of the two places, as
the calls are about one user (`Call.IsAbout`).
-/

namespace HouseholdAccess

/-! ## Strands -/

/-- The result of a program that has ended. -/
def Program.result? {α : Type} : Program α → Option α
  | .done a => some a
  | .call .. => none

/-- The program of an errand. -/
abbrev ErrandProgram := Program (Except Interruption (List Id))

/-- The errands that a program waits for. -/
def Cache.errandsOf {α : Type} (c : Cache) : Program α → List ErrandProgram
  | .call (.each errand ids) _ => ids.map fun id => (c.errand errand id).run
  | _ => []

theorem Cache.exists_of_mem_errandsOf {α : Type} {c : Cache} {p : Program α} {q : ErrandProgram}
    (h : q ∈ c.errandsOf p) : ∃ errand ids next id,
      p = .call (.each errand ids) next ∧ q = (c.errand errand id).run := by
  cases p with
  | done => cases h
  | call op next =>
    cases op with
    | each errand ids =>
      obtain ⟨id, -, rfl⟩ := List.mem_map.1 h
      exact ⟨errand, ids, next, id, rfl, rfl⟩
    | _ => cases h

/-- Why an errand has failed, if it has. -/
def ErrandProgram.failure? : ErrandProgram → Option Interruption
  | .done (.error e) => some e
  | _ => none

/-- Whether the operation has taken effect: an access that is refused has none. -/
def Exchange.tookEffect (e : Exchange) : Bool :=
  match e.op, e.reply with
  | .access _, .error _ => false
  | _, _ => true

/-- Whether the operation reads role data. -/
def Operation.readsRoles : Operation → Bool
  | .access (.roles _) | .access (.managed _) | .access (.members _) | .access (.aiUsers _) => true
  | _ => false

/-- A program at work. -/
structure Strand (α : Type) where
  /-- When it was begun. -/
  begun : Nat
  /-- What is still to be done. -/
  program : Program (Except Interruption α)
  /-- The errands that it waits for. -/
  parts : List ErrandProgram := []
  /-- Why the first of them that has failed has done so. -/
  failed : Option Interruption := none
  /-- What has been done. -/
  trace : List Exchange := []
  /-- When role data has been asked for, by the program or by one of its errands. -/
  reads : List Nat := []

namespace Strand

variable {α : Type}

/-- A program that is begun. -/
def start (c : Cache) (begun : Nat) (program : Program (Except Interruption α)) : Strand α :=
  { begun, program, parts := c.errandsOf program }

/-- The reads after an operation. -/
def readsAfter (t : Strand α) (time : Nat) (op : Operation) : List Nat :=
  if op.readsRoles then t.reads ++ [time] else t.reads

/-- Goes on after an operation. -/
def go (t : Strand α) (c : Cache) (e : Exchange) (rest : Program (Except Interruption α)) :
    Strand α where
  begun := t.begun
  program := rest
  parts := c.errandsOf rest
  trace := t.trace ++ [e]
  reads := t.readsAfter e.time e.op

/-- Goes on after an operation of an errand. -/
def goErrand (t : Strand α) (i time : Nat) (op : Operation) (rest : ErrandProgram) : Strand α :=
  { t with
    parts := t.parts.set i rest
    failed := t.failed <|> rest.failure?
    reads := t.readsAfter time op }

/-- What the errands have come to, once one has failed or all have ended. -/
def gathered? (t : Strand α) : Option (Except Interruption (List (List Id))) :=
  match t.failed with
  | some e => some (.error e)
  | none => (t.parts.mapM Program.result?).map (·.mapM id)

end Strand

/-! ## Stages -/

/-- The service at work for callers who take turns. -/
structure Stage where
  /-- The service. -/
  service : Service
  /-- What a program meets. -/
  place : Solo
  /-- The time. -/
  clock : Nat := 1
  /-- Who has put the entry into the cache. -/
  entry : Mark := {}
  /-- Who has written the form on the record. -/
  form : Mark := {}
  /-- What has taken effect, and when. -/
  log : List (Nat × Operation) := []
  /-- The programs of callers, by number. -/
  callers : List (Strand Answer) := []
  /-- The loads, by number. -/
  loads : List (Strand RuleSet) := []

namespace Stage

/-- A stage in a world, on which nobody has entered. -/
def begin (service : Service) (world : World) (registry : Option Registry) : Stage where
  service := service
  place := { cache := service.cache, world, desk := {}, registry, consuming := false, fields := [] }

/-- Carries out an operation, for a program whose errands have come to what is given: the reply,
    what is met after it, and the load that is started by it, if one is. -/
def carry (s : Stage) (gathered : Option (Except Interruption (List (List Id)))) :
    (op : Operation) → Option (op.Reply × Solo × List (Strand RuleSet))
  | .joinLoad user =>
    match s.place.desk.pendingOf user with
    | some n => some (n, s.place, [])
    | none =>
      let (n, desk) := s.place.desk.start user
      let program := (s.service.cache.load user n).run
      some (n, { s.place with desk }, [Strand.start s.service.cache s.clock program])
  | .awaitLoad n => ((s.loads[n]?).bind (·.program.result?)).map fun r => (r, s.place, [])
  | .each .. => gathered.map fun r => (r, s.place, [])
  | op => (s.place.plain? op).map fun x => (x.1, x.2, [])

/-- Where what an operation reads comes from. -/
def source (s : Stage) : Operation → Mark
  | .access (.cacheGet _) => s.entry
  | .access (.load _) => s.form
  | _ => {}

/-- What has taken effect after an operation. -/
def noted (s : Stage) (e : Exchange) : List (Nat × Operation) :=
  if e.tookEffect then s.log ++ [(s.clock, e.op)] else s.log

/-- The stage after an operation of a load or of a caller. -/
def after (s : Stage) (load : Option Nat) (e : Exchange) (place : Solo)
    (started : List (Strand RuleSet)) : Stage where
  service := s.service
  place := place
  clock := s.clock + 1
  entry := match e.op, e.tookEffect with
    | .access (.cacheSet ..), true => ⟨load, s.clock⟩
    | _, _ => s.entry
  form := match e.op, e.tookEffect with
    | .access (.save ..), true => ⟨load, s.clock⟩
    | _, _ => s.form
  log := s.noted e
  callers := s.callers
  loads := s.loads ++ started

/-- What is noted of an operation that is replied to now. -/
def exchange (s : Stage) (op : Operation) (reply : op.Reply) : Exchange :=
  ⟨s.clock, s.source op, op, reply⟩

/-- Carries out the next operation of a program. -/
def act {α : Type} (s : Stage) (load : Option Nat) (t : Strand α) : Option (Strand α × Stage) :=
  match t.program with
  | .done _ => none
  | .call op next => (s.carry t.gathered? op).map fun x =>
    (t.go s.service.cache (s.exchange op x.1) (next x.1),
      s.after load (s.exchange op x.1) x.2.1 x.2.2)

/-- Lets a caller in. -/
def enter (s : Stage) (call : Call) : Stage :=
  { s with
    clock := s.clock + 1
    callers := s.callers ++
      [Strand.start s.service.cache s.clock (call.flow s.service).run] }

/-- Lets a caller do the next operation. -/
def goCaller? (s : Stage) (n : Nat) : Option Stage := do
  let x ← s.act none (← s.callers[n]?)
  return { x.2 with callers := x.2.callers.set n x.1 }

/-- Lets a load do the next operation. -/
def goLoad? (s : Stage) (n : Nat) : Option Stage := do
  let x ← s.act (some n) (← s.loads[n]?)
  return { x.2 with loads := x.2.loads.set n x.1 }

/-- Lets an errand of a load do the next operation. -/
def goErrand? (s : Stage) (n i : Nat) : Option Stage := do
  let t ← s.loads[n]?
  match ← t.parts[i]? with
  | .done _ => none
  | .call op next =>
    let x ← s.place.plain? op
    let s' := s.after (some n) (s.exchange op x.1) x.2 []
    return { s' with loads := s'.loads.set n (t.goErrand i s.clock op (next x.1)) }

/-- Lets the desk forget a load that has ended. -/
def forget? (s : Stage) (n : Nat) : Option Stage :=
  ((s.loads[n]?).bind (·.program.result?)).map fun _ =>
    { s with place := { s.place with desk := s.place.desk.forget n } }

/-- Changes the world. -/
def change (s : Stage) (c : Change) : Stage :=
  { s with place := { s.place with world := c.apply s.place.world } }

end Stage

/-! ## Runs -/

/-- A routine change, or one after which something fails, or is in order again. -/
def Change.IsUsual : Change → Prop
  | .fail .. | .mend _ => True
  | c => c.IsRoutine

namespace Stage

/-- One thing that may happen while callers ask for the rule set of a user. -/
inductive Step (user : Id) (s : Stage) : Stage → Prop
  /-- A caller enters. -/
  | enter {call : Call} : call.IsAbout user → Step user s (s.enter call)
  /-- A caller goes on. -/
  | caller {n : Nat} {s' : Stage} : s.goCaller? n = some s' → Step user s s'
  /-- A load goes on. -/
  | load {n : Nat} {s' : Stage} : s.goLoad? n = some s' → Step user s s'
  /-- An errand of a load goes on. -/
  | errand {n i : Nat} {s' : Stage} : s.goErrand? n i = some s' → Step user s s'
  /-- The desk forgets a load. -/
  | forget {n : Nat} {s' : Stage} : s.forget? n = some s' → Step user s s'
  /-- Role data changes, time passes, or something fails or is in order again. -/
  | change {c : Change} : c.IsUsual → Step user s (s.change c)

/-- What is reached from a stage, one step after the other. -/
inductive Reached (user : Id) (start : Stage) : Stage → Prop
  | start : Reached user start start
  | step {s s' : Stage} : Reached user start s → Step user s s' → Reached user start s'

end Stage

end HouseholdAccess
