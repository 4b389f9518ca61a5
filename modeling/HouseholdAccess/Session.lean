import HouseholdAccess.Rule.Enquiry
import HouseholdAccess.Schedule
import HouseholdAccess.Service

/-!
# Sessions

A session is the service at work, with callers who come one after the other while
the world around it changes: members join households and leave them, time passes,
systems are slow or out of order.

A `Call` is what a caller wants, with an `Answer`. `Session.call` lets a caller in
and everyone go on until all are waiting; a caller may then have its answer, or be
waiting itself. Callers may be given names, to look for their answers later
(`Session.outcomeOf`) or to send them away (`Session.cancel`).
-/

namespace HouseholdAccess

open HouseholdAccess.Flow

/-! ## Calls -/

/-- A part of the service. -/
inductive Part
  /-- All of it. -/
  | service
  /-- The use of the cache. -/
  | cache
  /-- The use of the store. -/
  | store

/-- What a caller wants. -/
inductive Call
  /-- The rule set of a user. -/
  | get (user : Id)
  /-- The rule set of a user, computed again. -/
  | recompute (user : Id)
  /-- The rule set of a user to be dropped. -/
  | invalidate (user : Id)
  /-- The rule sets of the members of a household to be dropped. -/
  | invalidateHousehold (household : Id)
  /-- Whether the answer to a question is yes. -/
  | can (q : Cache.Check)
  /-- The answer to a question. -/
  | evaluate (q : Cache.Check)
  /-- A failure unless the answer to a question is yes. -/
  | require (q : Cache.Check)
  /-- What a rule set is made of, and the answers to enquiries. -/
  | ability (user : Id) (enquiries : List Enquiry)
  /-- The context of a user. -/
  | context (user : Id)
  /-- An event to be handled. -/
  | handle (e : RoleChangeEvent)
  /-- A payload to be handled. -/
  | payload (topic : String) (payload : Value)
  /-- A batch to be handled. -/
  | batch (b : Cache.Batch)
  /-- A consumer to be run. -/
  | consume (topics : List String) (polls : List Poll) (atOnce : Bool)
  /-- The entry of the cache for a user. -/
  | cacheGet (user : Id)
  /-- An entry to be put into the cache. -/
  | cacheSet (user : Id) (text : String) (seconds : Binary64)
  /-- An entry to be taken out of the cache. -/
  | cacheDelete (user : Id)
  /-- How the cache is used. -/
  | cacheStats
  /-- Whether the cache is there. -/
  | cacheHealth
  /-- What is written on the record of a user. -/
  | storeLoad (user : Id)
  /-- Something to be written on the record of a user. -/
  | storeSave (user : Id) (form : Value)
  /-- Whether the store is there. -/
  | storeHealth
  /-- A part to be started. -/
  | start (part : Part)
  /-- A part to be stopped. -/
  | stop (part : Part)
  /-- A request to be answered. -/
  | request (r : Http.Request)
  /-- A request to be answered in the lifetime of the service and after it. -/
  | lifespan (r : Http.Request)

/-- What a caller gets. -/
inductive Answer
  /-- Nothing. -/
  | nothing
  /-- A rule set. -/
  | rules (rules : RuleSet)
  /-- Names. -/
  | ids (ids : List Id)
  /-- Yes or no. -/
  | truth (b : Bool)
  /-- The answer to a question. -/
  | verdict (v : Verdict)
  /-- What a rule set is made of, and answers to enquiries. -/
  | ability (stats : RuleSet.Stats) (answers : List Bool)
  /-- A context. -/
  | context (c : UserContext)
  /-- Whose rule sets an event has touched, and what log lines say afterwards. -/
  | handled (h : Cache.Handled) (fields : Entries)
  /-- Whether a payload has been handled, and what log lines say afterwards. -/
  | applied (b : Bool) (fields : Entries)
  /-- A number. -/
  | number (n : Nat)
  /-- How a consumer has gone. -/
  | report (r : PollingReport)
  /-- A value. -/
  | value (v : Value)
  /-- Topics. -/
  | topics (topics : List String)
  /-- A response. -/
  | response (r : Http.Response)
  /-- A response in the lifetime of the service, and one after it. -/
  | responses (inside after : Http.Response)

namespace Call

/-- What the service does for a caller. -/
def flow (s : Service) : Call → Flow Answer
  | .get user => return .rules (← s.cache.lookUp user)
  | .recompute user => return .rules (← s.cache.recompute user)
  | .invalidate user => do
    s.cache.invalidate user
    return .nothing
  | .invalidateHousehold household => return .ids (← s.cache.invalidateHousehold household)
  | .can q => return .truth (← s.cache.can q)
  | .evaluate q => return .verdict (← s.cache.evaluate q)
  | .require q => do
    s.cache.require q
    return .nothing
  | .ability user enquiries => do
    let rules ← s.cache.lookUp user
    let answers ← ofExcept id (Enquiry.askAll { rules } enquiries)
    return .ability rules.stats answers
  | .context user => return .context (← UserContext.fetch user)
  | .handle e => do
    let handled ← s.cache.handle e
    return .handled handled (← step .bound)
  | .payload topic content => do
    let applied ← s.cache.handleMessage topic content
    return .applied applied (← step .bound)
  | .batch b => return .number (← s.cache.handleBatch b)
  | .consume topics polls atOnce => return .report (← s.cache.consume topics polls atOnce)
  | .cacheGet user => return .value (.ofText? (← s.cache.kind.get user))
  | .cacheSet user text seconds => return .truth (← s.cache.kind.set user text seconds)
  | .cacheDelete user => return .truth (← s.cache.kind.delete user)
  | .cacheStats => return .value (← s.cache.kind.stats)
  | .cacheHealth => return .truth (← s.cache.kind.isHealthy)
  | .storeLoad user => return .value ((← s.cache.store.load user).getD .null)
  | .storeSave user form => return .truth (← s.cache.store.save user form)
  | .storeHealth => return .truth (← s.cache.store.isHealthy)
  | .start .service => do
    match ← s.start with
    | some topics => return .topics topics
    | none => return .nothing
  | .start .cache => do
    s.cache.kind.start
    return .nothing
  | .start .store => do
    s.cache.store.start
    return .nothing
  | .stop .service => do
    s.stop
    return .nothing
  | .stop .cache => do
    s.cache.kind.stop
    return .nothing
  | .stop .store => do
    s.cache.store.stop
    return .nothing
  | .request r => return .response (← s.site.respond r)
  | .lifespan r => do
    let (inside, after) ← s.lifespan r
    return .responses inside after

end Call

/-! ## Changes of the world -/

/-- A change of the world. -/
inductive Change
  /-- Time passes. -/
  | advance (seconds : Binary64)
  /-- A user joins a household in a role. -/
  | addMember (row : MemberRow)
  /-- A user leaves a household. -/
  | removeMember (household user : Id)
  /-- A user has another role in a household. -/
  | setRole (household user : Id) (role : Value)
  /-- A user is managed by another one, or by nobody. -/
  | setManager (user : Id) (manager : Option Id)
  /-- Something is written on the record of a user. -/
  | setForm (user : Id) (form : Value)
  /-- The record of a user is wiped. -/
  | dropForm (user : Id)
  /-- A shared cache tells something else about itself. -/
  | setInformation (v : Value)
  /-- A point begins to fail, and so it does for everybody. -/
  | fail (p : Point) (f : Failure)
  /-- A point begins to fail for one user or household. -/
  | failFor (p : Point) (name : Id) (f : Failure)
  /-- A point fails no more. -/
  | mend (p : Point)

namespace Change

/-- Whether a row is about a user in a household. -/
def isAbout (household user : Id) (row : MemberRow) : Bool :=
  row.household = household && row.user = user

/-- What a change does. -/
def apply (w : World) : Change → World
  | .advance seconds => { w with now := w.now.add seconds }
  | .addMember row => { w with rows := w.rows ++ [row] }
  | .removeMember household user =>
    { w with rows := w.rows.filter fun row => !isAbout household user row }
  | .setRole household user role =>
    { w with rows := w.rows.map fun row =>
        if isAbout household user row then { row with role } else row }
  | .setManager user manager =>
    let others := w.managers.filter fun m => m.1 ≠ user
    { w with managers := others ++ (manager.map fun m => (user, m)).toList }
  | .setForm user form => w.setForm user form
  | .dropForm user => w.clearForm user
  | .setInformation v => { w with information := v }
  | .fail p f => { w with failing := ⟨p, none, f⟩ :: w.failing.filter fun o => o.point ≠ p }
  | .failFor p name f => { w with failing := ⟨p, some name, f⟩ :: w.failing }
  | .mend p => { w with failing := w.failing.filter fun o => o.point ≠ p }

end Change

/-! ## Sessions -/

/-- A session. -/
structure Session where
  /-- The service. -/
  service : Service
  /-- The service at work. -/
  machine : Machine Answer
  /-- The numbers of callers with names, the latest first. -/
  names : List (String × Nat) := []

namespace Session

/-- A session in a world, which begins with nothing under way. -/
def begin (service : Service) (world : World) (counts : Bool) : Session where
  service := service
  machine :=
    { cache := service.cache, world,
      registry := if counts then some (Registry.ofService Service.name) else none }

/-- Changes the world. -/
def change (s : Session) (c : Change) : Session :=
  { s with machine := { s.machine with world := c.apply s.machine.world } }

/-- Holds a point up. -/
def hold (s : Session) (p : Point) : Session := { s with machine := s.machine.hold p }

/-- Releases a point, and lets everyone go on. -/
def release (s : Session) (p : Point) : Session :=
  { s with machine := (s.machine.release p).settle }

/-- Lets a caller in, and everyone go on. The caller may have its answer then. -/
def call (s : Session) (name : Option String) (c : Call) :
    Option (Except Interruption Answer) × Session :=
  let (n, machine) := s.machine.call (c.flow s.service)
  let names := (name.map fun name => (name, n)).toList ++ s.names
  (machine.outcome? n, { s with machine, names })

/-- How a caller has ended, if it has. -/
def outcomeOf (s : Session) (name : String) : Option (Except Interruption Answer) :=
  (s.names.lookup name).bind s.machine.outcome?

/-- Sends a caller away, and lets everyone go on. -/
def cancel (s : Session) (name : String) : Session :=
  match s.names.lookup name with
  | some n => { s with machine := (s.machine.cancel n).settle }
  | none => s

/-! ## What can be seen -/

/-- Names in order. -/
def inOrder (ids : List Id) : List Id := ids.mergeSort fun a b => !b.before a

/-- The users with an entry in the cache. -/
def cachedUsers (s : Session) : List Id := inOrder (s.machine.world.presentEntries.map (·.key))

/-- The users with something written on their records. -/
def writtenUsers (s : Session) : List Id :=
  let written := s.machine.world.forms.filter fun f => match f.2 with
    | .null => false
    | _ => true
  inOrder (written.map Prod.fst)

/-- The users with a load that new callers join. -/
def pendingUsers (s : Session) : List Id := inOrder (s.machine.desk.pending.map Prod.fst)

end Session

end HouseholdAccess
