import HouseholdAccess.Json.Reader
import HouseholdAccess.Program

/-!
# Using a store

How the service uses the two kinds of store for the permissions that are written
on the records of users. What fails in a table fails the caller. A database may
be away: then nothing is read and nothing is written, and only wiping has to
work (`StoreKind.clear`). A database holds the packed form as JSON text; what it
cannot make sense of counts as not written.
-/

namespace HouseholdAccess

/-- What failures of the database call it. -/
def databaseName : String := "postgres"

namespace StoreKind

open HouseholdAccess.Flow

/-- What a value of the database says: a text or bytes are JSON, anything else speaks for
    itself. What is no JSON says nothing. -/
def decoded (v : Value) : Except Failure (Option Value) :=
  let read := match v with
    | .text s => Json.read s
    | .bytes bs => Json.readBytes bs
    | v => .ok v
  match read with
  | .ok .null => .ok none
  | .ok form => .ok (some form)
  | .error (.tooDeep isList) => .error (.tooDeep (.json isList))
  | .error _ => .ok none

/-- What is written on the record of a user. -/
def load (kind : StoreKind) (user : Id) : Flow (Option Value) :=
  match kind with
  | .table => access (.load user)
  | .database => do
    let form ← (access (.load user)).recover fun _ => pure none
    match form with
    | some v => ofExcept id (decoded v)
    | none => return none

/-- Whether a value has a length. -/
def hasLength : Value → Bool
  | .text _ | .bytes _ | .list _ | .tuple _ | .object _ | .mapping _ _ => true
  | _ => false

/-- Writes on the record of a user, and says whether all went well. -/
def save (kind : StoreKind) (user : Id) (form : Value) : Flow Bool :=
  match kind with
  | .table => do
    access (.save user form)
    return true
  | .database =>
    (do
      let text ← ofExcept .unwritable (Json.write Json.spaced form)
      access (.save user (.text text))
      return hasLength form : Flow Bool).recover fun _ => pure false

/-- Wipes what is written on the record of a user. -/
def clear (kind : StoreKind) (user : Id) : Flow Unit :=
  match kind with
  | .table => access (.clear user)
  | .database => (access (.clear user)).recover fun f =>
    fail (.service (.external databaseName f.message
      (Entries.ofFields [("user_id", user.toValue)])))

/-- Whether the store is there. -/
def isHealthy (kind : StoreKind) : Flow Bool :=
  match kind with
  | .table => access .storePing
  | .database => (access .storePing).recover fun _ => pure false

/-- Makes the connection to the store. -/
def start (kind : StoreKind) : Flow Unit :=
  match kind with
  | .table => access .storeStart
  | .database => (access .storeStart).recover fun f =>
    fail (.service (.external databaseName f.message))

/-- Lets go of the store. -/
def stop (_ : StoreKind) : Flow Unit := access .storeStop

end StoreKind

end HouseholdAccess
