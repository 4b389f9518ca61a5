import HouseholdAccess.Cache

/-!
# Taking turns

The service works for many callers at once, and does so by taking turns. The
program of a caller runs until it has to wait; then it is the turn of the next
*job* in a queue, first come, first served. A job lets a task go on, or passes on
the news that something has ended.

* A task waits at a point that is held up, and goes on when the point is
  released, in the order of arrival (`Machine.release`).
* A load is a task of its own. When it ends, the desk forgets it first, and then
  those who wait for it are told, in the order in which they came.
* Errands that are done at once are tasks of their own, too. Their caller goes on
  when all of them have ended, or when the first of them has failed; the others go
  on by themselves.
* A caller that is cancelled stops waiting (`Machine.cancel`). A load goes on
  without it; its errands are cancelled with it.

`Machine.settle` lets jobs be done until there are none.
-/

namespace HouseholdAccess

/-- What a task waits for. -/
inductive Wait
  /-- A point that is held up. -/
  | point (p : Point)
  /-- A load. -/
  | load (load : Nat)
  /-- A group of errands. -/
  | group (group : Nat)
  deriving DecidableEq

/-- Why a task goes on. -/
inductive Wake
  /-- It has not begun yet. -/
  | start
  /-- Its point is released. -/
  | released
  /-- Its load has ended. -/
  | loaded (outcome : Except Interruption RuleSet)
  /-- Its errands have ended, or one has failed. -/
  | gathered (outcome : Except Interruption (List (List Id)))
  /-- It is cancelled. -/
  | cancelled

/-- What a task does. The type is that of the results of callers. -/
inductive Work (α : Type)
  /-- The program of a caller. -/
  | call (program : Program (Except Interruption α))
  /-- A load. -/
  | load (load : Nat) (program : Program (Except Interruption RuleSet))
  /-- One of a group of errands. -/
  | errand (group index : Nat) (program : Program (Except Interruption (List Id)))

/-- A task. -/
structure Task (α : Type) where
  /-- What it does. -/
  work : Work α
  /-- What its log lines say. -/
  fields : Entries := []
  /-- What it waits for. -/
  wait : Option Wait := none

/-- Something to be done. -/
inductive Job
  /-- Lets a task go on. -/
  | resume (task : Nat) (wake : Wake)
  /-- Lets the desk forget a load. -/
  | forget (load : Nat)
  /-- Tells a task that its load has ended. -/
  | tell (load task : Nat)
  /-- Tells a group that one of its errands has ended. -/
  | report (group index : Nat) (outcome : Except Interruption (List Id))

/-- A load that has been started. -/
structure Running where
  /-- How it has ended, if it has. -/
  outcome : Option (Except Interruption RuleSet) := none
  /-- The tasks that wait for it. -/
  waiters : List Nat := []

/-- A group of errands. -/
structure Group where
  /-- The task that waits for them. -/
  caller : Nat
  /-- The tasks that do them. -/
  tasks : List Nat
  /-- What they have brought back so far. -/
  results : List (Option (List Id))
  /-- Whether the caller has been told. -/
  settled : Bool := false

/-- The service at work. -/
structure Machine (α : Type) where
  /-- How permissions are kept. -/
  cache : Cache
  /-- The systems around the service. -/
  world : World
  /-- What is known about loads. -/
  desk : Desk := {}
  /-- What has been counted, if anything is counted. -/
  registry : Option Registry := none
  /-- Whether events are being consumed. -/
  consuming : Bool := false
  /-- The tasks that have not ended, by number. -/
  tasks : List (Option (Task α)) := []
  /-- The loads, by number. -/
  loads : List Running := []
  /-- The groups of errands, by number. -/
  groups : List Group := []
  /-- The jobs to be done, in order. -/
  ready : List Job := []
  /-- The tasks that wait at points, in the order of arrival. -/
  queue : List (Point × Nat) := []
  /-- The results of callers. -/
  outcomes : List (Nat × Except Interruption α) := []

namespace Machine

variable {α β : Type}

/-- The task of a number. -/
def task? (m : Machine α) (n : Nat) : Option (Task α) := m.tasks[n]?.join

/-- Puts a task in place of the one with its number. -/
def setTask (m : Machine α) (n : Nat) (t : Option (Task α)) : Machine α :=
  { m with tasks := m.tasks.set n t }

/-- Adds a job at the end of the queue. -/
def push (m : Machine α) (j : Job) : Machine α := { m with ready := m.ready ++ [j] }

/-- Starts a task. -/
def spawn (m : Machine α) (work : Work α) (fields : Entries := []) : Nat × Machine α :=
  let n := m.tasks.length
  let task : Task α := { work, fields }
  (n, push { m with tasks := m.tasks ++ [some task] } (.resume n .start))

/-- Starts the load of a user's permissions. -/
def startLoad (m : Machine α) (user : Id) (fields : Entries) : Nat × Machine α :=
  let (load, desk) := m.desk.start user
  let running : Running := { outcome := none }
  let m := { m with desk, loads := m.loads ++ [running] }
  (load, (m.spawn (.load load (m.cache.load user load).run) fields).2)

/-- Starts errands for names, the first of them with the given index in a group. -/
def startErrands (errand : Errand) (group : Nat) (fields : Entries) :
    Nat → List Id → Machine α → List Nat × Machine α
  | _, [], m => ([], m)
  | index, id :: rest, m =>
    let (n, m) := m.spawn (.errand group index (m.cache.errand errand id).run) fields
    let (ns, m) := startErrands errand group fields (index + 1) rest m
    (n :: ns, m)

/-- Starts a group of errands for a task. -/
def startGroup (m : Machine α) (caller : Nat) (errand : Errand) (ids : List Id)
    (fields : Entries) : Nat × Machine α :=
  let group := m.groups.length
  let (tasks, m) := startErrands errand group fields 0 ids m
  (group, { m with groups := m.groups ++ [{ caller, tasks, results := ids.map fun _ => none }] })

/-- Where a program stops. -/
inductive Stop (β : Type)
  /-- At its end. -/
  | ended (result : β)
  /-- Where it has to wait, before the operation that waits. -/
  | waits (wait : Wait) (rest : Program β)

/-- A machine, and what the log lines of the task at work say. -/
structure Turn (α : Type) where
  /-- The machine. -/
  machine : Machine α
  /-- What the log lines say. -/
  fields : Entries

/-- Carries out an access. -/
def Turn.access (t : Turn α) (a : Access) : Except Interruption a.Answer × Turn α :=
  let (r, world) := t.machine.world.perform a
  (r.mapError .failure, { t with machine := { t.machine with world } })

/-- Runs the program of a task until it has to wait. -/
def advance (self : Nat) : Program β → Turn α → Stop β × Turn α
  | .done result, t => (.ended result, t)
  | .call op next, t =>
    let m := t.machine
    match op, next with
    | .access a, next =>
      let t := { t with machine := { m with world := m.world.begin a } }
      match m.world.heldAt? a with
      | some p => (.waits (.point p) (.call (.access a) next), t)
      | none =>
        let (r, t) := t.access a
        advance self (next r) t
    | .joinLoad user, next =>
      match m.desk.pendingOf user with
      | some load => advance self (next load) t
      | none =>
        let (load, m) := m.startLoad user t.fields
        advance self (next load) { t with machine := m }
    | .overtake user, next =>
      advance self (next ()) { t with machine := { m with desk := m.desk.overtake user } }
    | .isOvertaken load, next => advance self (next (m.desk.isOvertaken load)) t
    | .awaitLoad load, next =>
      match (m.loads[load]?).bind (·.outcome) with
      | some outcome => advance self (next outcome) t
      | none =>
        let loads := m.loads.modify load fun r => { r with waiters := r.waiters ++ [self] }
        (.waits (.load load) (.call (.awaitLoad load) next),
          { t with machine := { m with loads } })
    | .each errand ids, next =>
      if ids.isEmpty then advance self (next (.ok [])) t
      else
        let (group, m) := m.startGroup self errand ids t.fields
        (.waits (.group group) (.call (.each errand ids) next), { t with machine := m })
    | .count series, next =>
      let registry := m.registry.map (·.count series)
      advance self (next ()) { t with machine := { m with registry } }
    | .counted, next => advance self (next m.registry) t
    | .bind fields, next =>
      advance self (next ())
        { t with fields := fields.foldl (fun es (key, v) => Entries.put es key v) t.fields }
    | .unbind, next => advance self (next ()) { t with fields := [] }
    | .bound, next => advance self (next t.fields) t
    | .time, next => advance self (next m.world.now) t
    | .setConsuming b, next =>
      advance self (next ()) { t with machine := { m with consuming := b } }
    | .isConsuming, next => advance self (next m.consuming) t

/-- Lets the program of a task go on. -/
def continueWith (self : Nat) (wake : Wake) (p : Program β) (t : Turn α) : Stop β × Turn α :=
  match wake, p with
  | .released, .call (.access a) next =>
    let (r, t) := t.access a
    advance self (next r) t
  | .cancelled, .call (.access _) next => advance self (next (.error .cancelled)) t
  | .loaded outcome, .call (.awaitLoad _) next => advance self (next outcome) t
  | .cancelled, .call (.awaitLoad _) next => advance self (next (.error .cancelled)) t
  | .gathered outcome, .call (.each ..) next => advance self (next outcome) t
  | _, p => advance self p t

/-- Notes that a load has ended: the desk forgets it, and those who wait are told. -/
def endLoad (m : Machine α) (load : Nat) (outcome : Except Interruption RuleSet) : Machine α :=
  let waiters := ((m.loads[load]?).map (·.waiters)).getD []
  let m := { m with loads := m.loads.modify load ({ · with outcome := some outcome }) }
  waiters.foldl (fun m n => m.push (.tell load n)) (m.push (.forget load))

/-- Puts a task where its program has stopped. -/
def park {β : Type} (n : Nat) (work : Program β → Work α) (finish : Machine α → β → Machine α) :
    Stop β × Turn α → Machine α
  | (.ended result, t) => finish (t.machine.setTask n none) result
  | (.waits wait rest, t) =>
    let m := t.machine.setTask n (some { work := work rest, fields := t.fields, wait := some wait })
    match wait with
    | .point p => { m with queue := m.queue ++ [(p, n)] }
    | _ => m

/-- Lets a task go on. -/
def resume (m : Machine α) (n : Nat) (wake : Wake) : Machine α :=
  match m.task? n with
  | none => m
  | some task =>
    let t : Turn α := { machine := m, fields := task.fields }
    match task.work with
    | .call p =>
      park n .call (fun m result => { m with outcomes := m.outcomes ++ [(n, result)] })
        (continueWith n wake p t)
    | .load load p =>
      park n (.load load) (fun m outcome => m.endLoad load outcome) (continueWith n wake p t)
    | .errand group index p =>
      park n (.errand group index) (fun m outcome => m.push (.report group index outcome))
        (continueWith n wake p t)

/-- Stops the waiting of a task that waits for the given. -/
def stopWaiting (m : Machine α) (n : Nat) (wait : Wait) : Option (Machine α) :=
  match m.task? n with
  | some task =>
    if task.wait = some wait then some (m.setTask n (some { task with wait := none })) else none
  | none => none

/-- Tells a task that its load has ended. -/
def tell (m : Machine α) (load n : Nat) : Machine α :=
  match m.stopWaiting n (.load load), (m.loads[load]?).bind (·.outcome) with
  | some m, some outcome => m.push (.resume n (.loaded outcome))
  | _, _ => m

/-- Tells a group that one of its errands has ended. -/
def report (m : Machine α) (group index : Nat) (outcome : Except Interruption (List Id)) :
    Machine α :=
  match m.groups[group]? with
  | none => m
  | some g =>
    if g.settled then m
    else
      let results := match outcome with
        | .ok ids => g.results.set index (some ids)
        | .error _ => g.results
      let news : Option (Except Interruption (List (List Id))) := match outcome with
        | .ok _ => (results.mapM id).map .ok
        | .error e => some (.error e)
      let m := { m with groups := m.groups.set group { g with results, settled := news.isSome } }
      match news with
      | none => m
      | some news => m.push (.resume g.caller (.gathered news))

/-- Does a job. -/
def perform (m : Machine α) : Job → Machine α
  | .resume n wake => m.resume n wake
  | .forget load => { m with desk := m.desk.forget load }
  | .tell load n => m.tell load n
  | .report group index outcome => m.report group index outcome

/-- Does the first job, if there is one. -/
def next? (m : Machine α) : Option (Machine α) :=
  match m.ready with
  | [] => none
  | job :: rest => some ({ m with ready := rest }.perform job)

/-- Does jobs until there are none, if that ever happens. -/
def settle? (m : Machine α) : Option (Machine α) :=
  match m.next? with
  | none => some m
  | some m => by
    apply settle?
    exact m
partial_fixpoint

/-- Does jobs until there are none. -/
def settle (m : Machine α) : Machine α := m.settle?.getD m

/-! ## From outside -/

/-- Starts the program of a caller. -/
def submit (m : Machine α) (flow : Flow α) : Nat × Machine α := m.spawn (.call flow.run)

/-- How a caller has ended, if it has. -/
def outcome? (m : Machine α) (n : Nat) : Option (Except Interruption α) := m.outcomes.lookup n

/-- Starts the program of a caller and lets everyone go on; the caller may have ended then. -/
def call (m : Machine α) (flow : Flow α) : Nat × Machine α :=
  let (n, m) := m.submit flow
  (n, m.settle)

/-- Holds a point up. -/
def hold (m : Machine α) (p : Point) : Machine α :=
  { m with world := { m.world with held := p :: m.world.held.filter (· ≠ p) } }

/-- Lets all tasks go on that wait at a point, and no more wait there. -/
def release (m : Machine α) (p : Point) : Machine α :=
  let waiting := (m.queue.filter fun w => w.1 = p).map Prod.snd
  let m := { m with world := { m.world with held := m.world.held.filter (· ≠ p) },
                    queue := m.queue.filter fun w => w.1 ≠ p }
  waiting.foldl (fun m n => (m.stopWaiting n (.point p)).elim m (·.push (.resume n .released))) m

/-- Cancels a task that waits at a point or for a load. -/
def cancelWaiting (m : Machine α) (n : Nat) : Machine α :=
  match (m.task? n).bind (·.wait) with
  | some (.point p) =>
    let m := { m with queue := m.queue.filter fun w => w.2 ≠ n }
    (m.stopWaiting n (.point p)).elim m (·.push (.resume n .cancelled))
  | some (.load load) =>
    let loads := m.loads.modify load fun r => { r with waiters := r.waiters.filter (· ≠ n) }
    let m := { m with loads }
    (m.stopWaiting n (.load load)).elim m (·.push (.resume n .cancelled))
  | _ => m

/-- Cancels a task, or the errands that it waits for. -/
def cancel (m : Machine α) (n : Nat) : Machine α :=
  match (m.task? n).bind (·.wait) with
  | some (.group group) =>
    ((m.groups[group]?).map (·.tasks)).getD [] |>.foldl (fun m n => m.cancelWaiting n) m
  | _ => m.cancelWaiting n

end Machine

end HouseholdAccess
