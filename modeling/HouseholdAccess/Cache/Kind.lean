import HouseholdAccess.Program

/-!
# Using a cache

How the service uses the two kinds of cache. What fails in a local cache fails
the caller. A shared cache may be away: then nothing is found in it and nothing
is put into it, and only taking an entry out has to work, since an entry that is
no longer true must not stay (`CacheKind.delete`).
-/

namespace HouseholdAccess

/-- What failures of the shared cache call it. -/
def sharedCacheName : String := "redis"

namespace CacheKind

open HouseholdAccess.Flow

/-- The entry for a user. -/
def get (kind : CacheKind) (user : Id) : Flow (Option String) :=
  match kind with
  | .local => access (.cacheGet user)
  | .shared => (access (.cacheGet user)).recover fun _ => pure none

/-- Puts an entry for some seconds, and says whether it has been put. -/
def set (kind : CacheKind) (user : Id) (text : String) (seconds : Binary64) : Flow Bool :=
  let put : Flow Bool := do
    access (.cacheSet user text seconds)
    return true
  match kind with
  | .local => put
  | .shared => put.recover fun _ => pure false

/-- Takes the entry for a user out, and says whether there was one. -/
def delete (kind : CacheKind) (user : Id) : Flow Bool :=
  match kind with
  | .local => access (.cacheDelete user)
  | .shared => (access (.cacheDelete user)).recover fun f =>
    fail (.service (.external sharedCacheName f.message
      (Entries.ofFields [("user_id", user.toValue)])))

/-- The number that a value counts as in a sum. -/
def summand? : Value → Option (Int ⊕ Binary64)
  | .bool b => some (.inl (if b then 1 else 0))
  | .int n => some (.inl n)
  | .float x => some (.inr x)
  | _ => none

/-- A number as a floating-point one, unless it is too large. -/
def toFloat? : Int ⊕ Binary64 → Option Binary64
  | .inl n => match Binary64.ofInt n with
    | .infinity _ => none
    | x => some x
  | .inr x => some x

/-- The quotient of two integers, unless it is too large. -/
def quotient? (m n : Int) : Option Binary64 :=
  match Binary64.ofRat (mkRat m n.natAbs * n.sign) with
  | .infinity _ => none
  | x => some x

/-- The share of hits in all lookups, zero if there were none; there is none of what does not add
    up. -/
def hitRate? (hits misses : Value) : Option Binary64 :=
  match summand? hits, summand? misses with
  | some (.inl m), some (.inl n) => if m + n = 0 then some (.zero false) else quotient? m (m + n)
  | some m, some n => do
    let x ← toFloat? m
    let y ← toFloat? n
    let total := x.add y
    if total.isZero then some (.zero false) else some (x.divide total)
  | _, _ =>
    match hits, misses with
    | .text "", .text "" | .list [], .list [] | .tuple [], .tuple [] | .bytes [], .bytes [] =>
      some (.zero false)
    | _, _ => none

/-- What a shared cache tells about its use, if it makes sense. -/
def sharedStats? : Value → Option Value
  | .object information =>
    let hits := (Entries.field? information "keyspace_hits").getD (.int 0)
    let misses := (Entries.field? information "keyspace_misses").getD (.int 0)
    (hitRate? hits misses).map fun rate => Value.record
      [("backend", .text sharedCacheName),
        ("redis_version", (Entries.field? information "redis_version").getD .null),
        ("used_memory", (Entries.field? information "used_memory_human").getD .null),
        ("keyspace_hits", hits), ("keyspace_misses", misses), ("hit_rate", .float rate)]
  | _ => none

/-- How the cache is used. -/
def stats : CacheKind → Flow Value
  | .local => do
    let size ← access .cacheSize
    return .record [("backend", .text "memory"), ("entries", .int size)]
  | .shared =>
    let plain := Value.record [("backend", .text sharedCacheName)]
    (do
      let information ← access .cacheInfo
      return (sharedStats? information).getD plain : Flow Value).recover fun _ => pure plain

/-- Whether the cache is there. -/
def isHealthy (kind : CacheKind) : Flow Bool :=
  let ping : Flow Bool := do
    access .cachePing
    return true
  match kind with
  | .local => ping
  | .shared => ping.recover fun _ => pure false

/-- Makes the connection to the cache. -/
def start : CacheKind → Flow Unit
  | .local => pure ()
  | .shared =>
    (do
      access .cacheOpen
      access .cachePing : Flow Unit).recover fun f =>
        fail (.service (.external sharedCacheName f.message))

/-- Lets go of the cache. -/
def stop (_ : CacheKind) : Flow Unit := access .cacheClose

end CacheKind

end HouseholdAccess
