import HouseholdAccess.Metric
import HouseholdAccess.Role

/-!
# The systems around the service

The service works on systems of other hands: a store of roles and of the
permissions written on the records of users, a cache, and an event broker. This
module says what they hold (`World`) and what they answer (`World.answer`).

An `Access` is one use of such a system. Every access passes a named `Point`,
where a system may be slow or out of order. A system may be out of order there for
everybody, or for one user or household alone (`Outage`), so that of several reads
made at once one fails and the others do not; an access that meets an outage fails
with the failure set there and has no effect (`World.perform`).

The systems come in two kinds each.

* A *table* keeps names as they are and lists them in its own order; a
  *database* keeps names as texts, lists them in the order of texts, and
  permissions as JSON text.
* A *local* cache keeps an entry that has expired until someone looks for it; in
  a *shared* cache it is gone at once.

A database or a shared cache cannot be used before a connection is made.
-/

namespace HouseholdAccess

/-- The kinds of store. -/
inductive StoreKind
  /-- A table in memory. -/
  | table
  /-- A database. -/
  | database
  deriving DecidableEq

/-- The kinds of cache. -/
inductive CacheKind
  /-- A cache in the memory of the service. -/
  | local
  /-- A cache that services share. -/
  | shared
  deriving DecidableEq

/-- The points that uses of the systems pass. -/
inductive Point
  | roles
  | managed
  | aiUsers
  | members
  | load
  | save
  | clear
  | cacheGet
  | cacheSet
  | cacheDelete
  | cacheInfo
  | cachePing
  | storeStart
  | storeStop
  | storePing
  | storeUnhealthy
  | brokerConnect
  | brokerSubscribe
  deriving DecidableEq

/-- One use of a system. -/
inductive Access
  /-- What is known about the roles of a user. -/
  | roles (user : Id)
  /-- The users that a user manages. -/
  | managed (user : Id)
  /-- The users of a household. -/
  | members (household : Id)
  /-- The AI users of a household. -/
  | aiUsers (household : Id)
  /-- What is written on the record of a user. -/
  | load (user : Id)
  /-- Writes on the record of a user. -/
  | save (user : Id) (form : Value)
  /-- Wipes what is written on the record of a user. -/
  | clear (user : Id)
  /-- The entry of the cache for a user. -/
  | cacheGet (user : Id)
  /-- Puts an entry into the cache for some seconds. -/
  | cacheSet (user : Id) (text : String) (seconds : Binary64)
  /-- Takes an entry out of the cache, and says whether there was one. -/
  | cacheDelete (user : Id)
  /-- The number of entries of a local cache. -/
  | cacheSize
  /-- What a shared cache tells about itself. -/
  | cacheInfo
  /-- Whether the cache is there. -/
  | cachePing
  /-- Makes the connection to a shared cache. -/
  | cacheOpen
  /-- Lets go of the cache. -/
  | cacheClose
  /-- Makes the connection to the store. -/
  | storeStart
  /-- Lets go of the store. -/
  | storeStop
  /-- Whether the store is there. -/
  | storePing
  /-- Makes the connection to the broker. -/
  | brokerConnect
  /-- Subscribes to topics. -/
  | brokerSubscribe (topics : List String)

namespace Access

/-- The type of what an access answers. -/
@[reducible] def Answer : Access → Type
  | .roles _ => List RoleRecord
  | .managed _ | .members _ | .aiUsers _ => List Id
  | .load _ => Option Value
  | .cacheGet _ => Option String
  | .cacheDelete _ | .storePing => Bool
  | .cacheSize => Nat
  | .cacheInfo => Value
  | .save .. | .clear _ | .cacheSet .. | .cachePing | .cacheOpen | .cacheClose | .storeStart
  | .storeStop | .brokerConnect | .brokerSubscribe _ => Unit

/-- The point that an access passes, if it passes one. -/
def point? : Access → Option Point
  | .roles _ => some .roles
  | .managed _ => some .managed
  | .members _ => some .members
  | .aiUsers _ => some .aiUsers
  | .load _ => some .load
  | .save .. => some .save
  | .clear _ => some .clear
  | .cacheGet _ => some .cacheGet
  | .cacheSet .. => some .cacheSet
  | .cacheDelete _ => some .cacheDelete
  | .cacheSize | .cacheInfo => some .cacheInfo
  | .cachePing => some .cachePing
  | .cacheOpen | .cacheClose => none
  | .storeStart => some .storeStart
  | .storeStop => some .storeStop
  | .storePing => some .storePing
  | .brokerConnect => some .brokerConnect
  | .brokerSubscribe _ => some .brokerSubscribe

/-- The user or the household that an access is about, if it is about one. -/
def name? : Access → Option Id
  | .roles id | .managed id | .members id | .aiUsers id | .load id | .save id _ | .clear id
  | .cacheGet id | .cacheSet id _ _ | .cacheDelete id => some id
  | _ => none

/-- Whether an access uses what a connection to the store gives. -/
def usesStore : Access → Bool
  | .roles _ | .managed _ | .members _ | .aiUsers _ | .load _ | .save .. | .clear _
  | .storePing => true
  | _ => false

/-- The command that an access gives to a shared cache, if it gives one. -/
def cacheCommand? : Access → Option String
  | .cacheGet _ => some "get"
  | .cacheSet .. => some "setex"
  | .cacheDelete _ => some "delete"
  | .cacheInfo => some "info"
  | .cachePing => some "ping"
  | _ => none

end Access

/-- A user in a household, with the role as it is written. -/
structure MemberRow where
  /-- The household. -/
  household : Id
  /-- The user. -/
  user : Id
  /-- The role. -/
  role : Value

/-- An entry of the cache. -/
structure CacheEntry where
  /-- For whom it is. -/
  key : Id
  /-- What it says. -/
  text : String
  /-- When it expires. -/
  expires : Binary64

/-- A point at which a system is out of order. -/
structure Outage where
  /-- The point. -/
  point : Point
  /-- The user or the household for whom alone it is out of order, if not for everybody. -/
  name : Option Id := none
  /-- What accesses fail with. -/
  failure : Failure

/-- Whether an outage is one for the accesses at a point that are about somebody, or nobody. -/
def Outage.isFor (o : Outage) (p : Point) (name : Option Id) : Bool :=
  o.point = p && (o.name = none || o.name = name)

/-- The systems around the service. -/
structure World where
  /-- The kind of the store. -/
  storeKind : StoreKind := .table
  /-- The kind of the cache. -/
  cacheKind : CacheKind := .local
  /-- The time in seconds. -/
  now : Binary64 := .ofInt 1000
  /-- The members of households, in the order in which they joined. -/
  rows : List MemberRow := []
  /-- Users with the users who manage them. -/
  managers : List (Id × Id) := []
  /-- What is written on the records of users. -/
  forms : List (Id × Value) := []
  /-- The entries of the cache. -/
  entries : List CacheEntry := []
  /-- What a shared cache tells about itself. -/
  information : Value := .object []
  /-- Whether there is a connection to the store. -/
  storeConnected : Bool := true
  /-- Whether there is a connection to the cache. -/
  cacheConnected : Bool := true
  /-- The outages, the latest first. -/
  failing : List Outage := []
  /-- The points that are held up. -/
  held : List Point := []
  /-- How often the roles of a user have been asked for. -/
  reads : Nat := 0

namespace World

/-! ## Names -/

/-- A name as the store keeps it. -/
def storeName (w : World) (id : Id) : Id :=
  match w.storeKind with
  | .table => id
  | .database => .text id.asText

/-- A name as the cache keeps it. -/
def cacheName (w : World) (id : Id) : Id :=
  match w.cacheKind with
  | .local => id
  | .shared => .text id.asText

/-- Names as the store lists them. -/
def listed (w : World) (ids : List Id) : List Id :=
  match w.storeKind with
  | .table => ids
  | .database => (ids.map w.storeName).mergeSort fun a b => !b.before a

/-- Whether two names are the same to the store. -/
def sameName (w : World) (a b : Id) : Bool := w.storeName a = w.storeName b

/-! ## Roles -/

/-- The role that a table writes for a record without one. -/
def noRole : String := "<missing>"

/-- The record that a row states about its user. -/
def record (w : World) (row : MemberRow) : RoleRecord :=
  let role := match w.storeKind, row.role with
    | .table, .text s => if s = noRole then none else some (.text s)
    | _, role => some role
  { household := some (w.storeName row.household), role }

/-- What is known about the roles of a user. -/
def recordsOf (w : World) (user : Id) : List RoleRecord :=
  (w.rows.filter fun row => w.sameName row.user user).map w.record

/-- The users that a user manages. -/
def managedBy (w : World) (user : Id) : List Id :=
  w.listed ((w.managers.filter fun m => w.sameName m.2 user).map Prod.fst)

/-- The users of a household. -/
def membersOf (w : World) (household : Id) : List Id :=
  w.listed ((w.rows.filter fun row => w.sameName row.household household).map (·.user))

/-- Whether a role is written as that of an AI user. -/
def isAiRole : Value → Bool
  | .text s => s == HouseholdRole.ai.token
  | _ => false

/-- The AI users of a household. -/
def aiUsersOf (w : World) (household : Id) : List Id :=
  w.listed ((w.rows.filter fun row =>
    w.sameName row.household household && isAiRole row.role).map (·.user))

/-! ## Records of users -/

/-- What is written on the record of a user; nothing counts as not written. -/
def formOf (w : World) (user : Id) : Option Value :=
  match w.forms.lookup (w.storeName user) with
  | some .null => none
  | form => form

/-- Puts a value under a name: in place of the old one, or at the end. -/
def putForm (user : Id) (form : Value) : List (Id × Value) → List (Id × Value)
  | [] => [(user, form)]
  | (u, v) :: rest => if u = user then (u, form) :: rest else (u, v) :: putForm user form rest

/-- Writes on the record of a user. -/
def setForm (w : World) (user : Id) (form : Value) : World :=
  { w with forms := putForm (w.storeName user) form w.forms }

/-- Wipes what is written on the record of a user. -/
def clearForm (w : World) (user : Id) : World :=
  { w with forms := w.forms.filter fun f => f.1 ≠ w.storeName user }

/-! ## The cache -/

/-- Whether an entry has expired: that its time has come for a local cache, and that its time is not
    still to come for a shared one. -/
def expired (w : World) (e : CacheEntry) : Bool :=
  let now := Value.float w.now
  let expires := Value.float e.expires
  match w.cacheKind with
  | .local => Value.numberBelow expires now || Value.sameNumber expires now
  | .shared => !Value.numberBelow now expires

/-- The entries that are there: those of a shared cache that have expired are not. -/
def presentEntries (w : World) : List CacheEntry :=
  match w.cacheKind with
  | .local => w.entries
  | .shared => w.entries.filter fun e => !w.expired e

/-- The entry for a user that is there. -/
def entryOf (w : World) (user : Id) : Option CacheEntry :=
  w.presentEntries.find? fun e => e.key = w.cacheName user

/-- Takes an entry out of the cache. -/
def dropEntry (w : World) (user : Id) : World :=
  { w with entries := w.entries.filter fun e => e.key ≠ w.cacheName user }

/-- Puts an entry in place of the one with its key, or at the end. -/
def putEntry (e : CacheEntry) : List CacheEntry → List CacheEntry
  | [] => [e]
  | f :: rest => if f.key = e.key then e :: rest else f :: putEntry e rest

/-- Puts an entry into the cache for some seconds. -/
def setEntry (w : World) (user : Id) (text : String) (seconds : Binary64) : World :=
  let e : CacheEntry :=
    { key := w.cacheName user, text, expires := w.now.add seconds }
  { w with entries := putEntry e w.presentEntries }

/-- Looks for the entry for a user. One that has expired is not found, and is gone then. -/
def lookUp (w : World) (user : Id) : Option String × World :=
  match w.entryOf user with
  | none => (none, w)
  | some e => if w.expired e then (none, w.dropEntry user) else (some e.text, w)

/-! ## Answers -/

/-- What the accesses at a point that are about somebody, or nobody, fail with. -/
def failureOf (w : World) (p : Point) (name : Option Id) : Option Failure :=
  (w.failing.find? fun o => o.isFor p name).map (·.failure)

/-- What an access answers, and what it does. -/
def answer (w : World) : (a : Access) → a.Answer × World
  | .roles user => (w.recordsOf user, w)
  | .managed user => (w.managedBy user, w)
  | .members household => (w.membersOf household, w)
  | .aiUsers household => (w.aiUsersOf household, w)
  | .load user => (w.formOf user, w)
  | .save user form => ((), w.setForm user form)
  | .clear user => ((), w.clearForm user)
  | .cacheGet user => w.lookUp user
  | .cacheSet user text seconds => ((), w.setEntry user text seconds)
  | .cacheDelete user => ((w.entryOf user).isSome, w.dropEntry user)
  | .cacheSize => (w.presentEntries.length, w)
  | .cacheInfo => (w.information, w)
  | .cachePing => ((), w)
  | .cacheOpen => ((), { w with cacheConnected := true })
  | .cacheClose =>
    ((), match w.cacheKind with
      | .local => { w with entries := [] }
      | .shared => w)
  | .storeStart => ((), { w with storeConnected := true })
  | .storeStop => ((), w)
  | .storePing => ((w.failureOf .storeUnhealthy none).isNone || w.storeKind = .database, w)
  | .brokerConnect => ((), w)
  | .brokerSubscribe _ => ((), w)

/-- The failure of an access for want of a connection. -/
def notConnected? (w : World) (a : Access) : Option Failure :=
  if a.usesStore && w.storeKind = .database && !w.storeConnected then
    some (.notConnected "acquire")
  else if w.cacheKind = .shared && !w.cacheConnected then
    a.cacheCommand?.map .notConnected
  else none

/-- The point that an access passes. There is none on the way out of a database that there is no
    connection to. -/
def pointOf? (w : World) (a : Access) : Option Point :=
  match a with
  | .storeStop =>
    if w.storeKind = .database && !w.storeConnected then none else some .storeStop
  | a => a.point?

/-- The failure that an access meets at its point. -/
def failureAt? (w : World) (a : Access) : Option Failure :=
  (w.pointOf? a).bind fun p => w.failureOf p a.name?

/-- The point at which an access is held up, if it is. -/
def heldAt? (w : World) (a : Access) : Option Point :=
  if (w.notConnected? a).isSome then none
  else (w.pointOf? a).filter fun p => w.held.contains p

/-- Counts an access that is begun: only questions for the roles of a user are counted. -/
def begin (w : World) : Access → World
  | .roles _ => { w with reads := w.reads + 1 }
  | _ => w

/-- Carries an access out: it fails without effect, or it answers. -/
def perform (w : World) (a : Access) : Except Failure a.Answer × World :=
  match w.notConnected? a with
  | some f => (.error f, w)
  | none =>
    match w.failureAt? a with
    | some f => (.error f, w)
    | none =>
      let (r, w) := w.answer a
      (.ok r, w)

end World

end HouseholdAccess
