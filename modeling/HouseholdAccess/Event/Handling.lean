import HouseholdAccess.Cache
import HouseholdAccess.Event
import HouseholdAccess.Log

/-!
# Handling role-change events

An event about a membership drops the rule sets of all members of its household,
since each of them sees the others; then the rule set of its user is computed
again (`Cache.handle`). A payload that cannot be read, or an event that cannot be
handled, is counted and passed over, so that one bad event does not stop the
others (`Cache.handleMessage`).
-/

namespace HouseholdAccess.Cache

open HouseholdAccess.Flow

/-- Whose rule sets an event has touched. -/
structure Handled where
  /-- The users whose rule sets are dropped. -/
  invalidated : List Id
  /-- The users whose rule sets are computed again. -/
  recomputed : List Id

/-- What log lines say while an event is handled. -/
def logFields (e : RoleChangeEvent) : Entries :=
  Log.userFields ((e.user.map Id.toValue).getD .null) ((e.household.map Id.toValue).getD .null)

/-- Drops the rule sets of the household of an event, if the event is about a membership. -/
def dropHousehold (c : Cache) (e : RoleChangeEvent) : Flow (List Id) :=
  match e.household with
  | some household =>
    if e.type.isMembership && household.isTruthy then c.invalidateHousehold household
    else return []
  | none => return []

/-- Computes the rule set of the user of an event again. -/
def refreshUser (c : Cache) (e : RoleChangeEvent) : Flow (List Id) :=
  match e.user with
  | some user =>
    if user.isTruthy then do
      let _ ← c.recompute user
      return [user]
    else return []
  | none => return []

/-- Handles an event. -/
def handle (c : Cache) (e : RoleChangeEvent) : Flow Handled := do
  step (.bind (logFields e))
  let invalidated ← c.dropHousehold e
  let recomputed ← c.refreshUser e
  return { invalidated, recomputed }

/-- The failure of a payload that cannot be read. -/
def unreadable : Failure := .outside .value "the payload is not a JSON text"

/-- The content of a payload: bytes are text, and a text is JSON. -/
def content (payload : Value) : Except Failure Value :=
  let payload := match payload with
    | .bytes bs => (Encoding.decode .utf8 bs).map Value.text
    | v => some v
  let v := match payload with
    | some (.text s) => (Json.read s).toOption
    | v => v
  v.elim (.error unreadable) .ok

/-- The event of a payload under a topic. -/
def readEvent (topic : String) (payload : Value) : Except Failure RoleChangeEvent := do
  let v ← content payload
  (RoleChangeEvent.ofPayload topic v).mapError .service

/-- Handles the event of a payload, and says of which type it is. -/
def applyPayload (c : Cache) (topic : String) (payload : Value) : Flow EventType := do
  let e ← ofExcept id (readEvent topic payload)
  let _ ← c.handle e
  return e.type

/-- Handles a payload under a topic, and says whether the event has been handled. -/
def handleMessage (c : Cache) (topic : String) (payload : Value) : Flow Bool := do
  let attempt : Flow (Option EventType) := do
    let type ← c.applyPayload topic payload
    return some type
  let outcome ← (attempt.recover fun _ => do
    count (.event topic false)
    return none).atLast (Program.perform .unbind)
  match outcome with
  | none => return false
  | some type =>
    count (.event type.token true)
    return true

/-- Messages under a topic, as they are polled. -/
abbrev Batch := List (String × List Value)

/-- Handles messages under one topic, and says how many events have been handled. -/
def handleMessages (c : Cache) (topic : String) : List Value → Flow Nat
  | [] => return 0
  | payload :: rest => do
    let applied ← c.handleMessage topic payload
    let others ← c.handleMessages topic rest
    return (if applied then 1 else 0) + others

/-- Handles a batch of messages in order, and says how many events have been handled. -/
def handleBatch (c : Cache) : Batch → Flow Nat
  | [] => return 0
  | (topic, messages) :: rest => do
    let applied ← c.handleMessages topic messages
    let others ← c.handleBatch rest
    return applied + others

end HouseholdAccess.Cache
