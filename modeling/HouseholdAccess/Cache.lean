import HouseholdAccess.Cache.Kind
import HouseholdAccess.Role.Reading
import HouseholdAccess.Store

/-!
# The permissions of users

The rule set of a user is looked for in the cache, then on the record of the
user, and compiled from the roles of the user if it is in neither place; what is
found is put into the places before (`Cache.lookUp`). Callers who miss the cache
at the same time share one *load*.

`Cache.invalidate` drops the rule set of a user from both places. A load that is
under way then has been *overtaken*: it still answers those who wait for it, but
leaves nothing behind. After that the desk knows of no load, the cache of no
entry, and the record says nothing, so that the next lookup starts afresh.
-/

namespace HouseholdAccess

/-- How permissions are kept. -/
structure Cache where
  /-- The kind of cache. -/
  kind : CacheKind := .local
  /-- The kind of store. -/
  store : StoreKind := .table
  /-- How many seconds an entry stays. -/
  timeToLive : Int := 300

namespace Cache

open HouseholdAccess.Flow

/-! ## Looking up -/

/-- The rule set in the cache. An entry that cannot be read is taken out. -/
def cached (c : Cache) (user : Id) : Flow (Option RuleSet) := do
  match ← c.kind.get user with
  | none => return none
  | some text =>
    match Packed.loads (.text text) with
    | .ok rules => return some rules
    | .error (.malformed _) =>
      let _ ← c.kind.delete user
      return none
    | .error (.tooDeep o) => fail (.tooDeep o)

/-- Puts a packed form into the cache, unless the load has been overtaken. -/
def populate (c : Cache) (user : Id) (form : Value) (load : Nat) : Flow Unit := do
  if ← step (.isOvertaken load) then return
  let text ← ofExcept .unwritable (Json.write Json.compact form)
  let _ ← c.kind.set user text (.ofInt c.timeToLive)

/-- Compiles the rule set of a user. -/
def compile (user : Id) : Flow RuleSet := do
  let context ← (UserContext.fetch user).recover fun f => do
    if UserContext.saysUnavailable f then count (.compilation false)
    fail f
  count (.compilation true)
  count .compilationTime
  return context.compile

/-- Writes a compiled rule set on the record and into the cache. If the load is overtaken while the
    record is written, the record is wiped again. -/
def keep (c : Cache) (user : Id) (load : Nat) (rules : RuleSet) : Flow RuleSet := do
  let form := Packed.pack rules
  if ← step (.isOvertaken load) then return rules
  let _ ← c.store.save user form
  if ← step (.isOvertaken load) then
    c.store.clear user
    return rules
  c.populate user form load
  return rules

/-- Compiles the rule set of a user and keeps it. -/
def compileAndKeep (c : Cache) (user : Id) (load : Nat) : Flow RuleSet := do
  count (.cacheLookup .miss)
  let rules ← compile user
  c.keep user load rules

/-- How many calls a load can make within each other. It is a task of its own, within fewer other
    calls than the reading of an entry. -/
def loadRoom : Nat := callRoom + 2

/-- What a load does: it reads the record of the user, and compiles if that says nothing that can
    be read. -/
def load (c : Cache) (user : Id) (load : Nat) : Flow RuleSet := do
  match ← c.store.load user with
  | none => c.compileAndKeep user load
  | some form =>
    match Packed.unpackWithin loadRoom form with
    | .error (.malformed _) => c.compileAndKeep user load
    | .error (.tooDeep o) => fail (.tooDeep o)
    | .ok rules =>
      count (.cacheLookup .persisted)
      c.populate user form load
      return rules

/-- The rule set of a user. -/
def lookUp (c : Cache) (user : Id) : Flow RuleSet := do
  match ← c.cached user with
  | some rules =>
    count (.cacheLookup .hit)
    return rules
  | none =>
    let load ← step (.joinLoad user)
    ExceptT.mk (Program.perform (.awaitLoad load))

/-! ## Dropping -/

/-- Drops the rule set of a user. -/
def invalidate (c : Cache) (user : Id) : Flow Unit := do
  step (.overtake user)
  let _ ← c.kind.delete user
  c.store.clear user
  count .userInvalidation

/-- The failure to read the members of a household. -/
def membersUnavailable (household : Id) (f : Failure) : ServiceFailure where
  kind := .roleDataUnavailable
  message := "Could not load members of household " ++ household.asText
  details := Entries.ofFields [("household_id", household.toValue), ("error", .text f.message)]

/-- Drops the rule sets of the members of a household, all at once, and says whose. -/
def invalidateHousehold (_ : Cache) (household : Id) : Flow (List Id) := do
  let members ← (access (.members household)).recover fun f =>
    fail (.service (membersUnavailable household f))
  let _ ← ExceptT.mk (Program.perform (.each .invalidate members))
  count .householdInvalidation
  return members

/-- Drops the rule set of a user and looks it up again. -/
def recompute (c : Cache) (user : Id) : Flow RuleSet := do
  c.invalidate user
  c.lookUp user

/-! ## Errands -/

/-- What an errand does for one name, and the names it brings back. -/
def errand (c : Cache) (e : Errand) (id : Id) : Flow (List Id) :=
  match e with
  | .invalidate => do
    c.invalidate id
    return []
  | .members => access (.members id)
  | .aiUsers => access (.aiUsers id)

end Cache

end HouseholdAccess
