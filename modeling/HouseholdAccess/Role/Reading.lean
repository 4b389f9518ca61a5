import HouseholdAccess.Program
import HouseholdAccess.Role.Policy

/-!
# Reading the context of a user

What the permissions of a user depend on is asked for in turn: the roles of the
user, the users whom the user manages, and then, at once for all households, the
members of each household of the user and the AI users of each household that
the user runs (`UserContext.ask`).

Whatever goes wrong is reported as role data that cannot be read
(`UserContext.fetch`).
-/

namespace HouseholdAccess.UserContext

open HouseholdAccess.Flow

/-- The households in which the records name the user as manager. -/
def managedHouseholds (records : List RoleRecord) : Except Failure (List Id) := do
  let memberships ← records.mapM fun r => do
    let role ← r.readRole
    let household ← r.readHousehold
    return (household, role)
  return Policy.distinct ((memberships.filter fun m => m.2 = .manager).map Prod.fst)

/-- Asks for the context of a user. -/
def ask (user : Id) : Flow UserContext := do
  let records ← access (.roles user)
  let managed ← access (.managed user)
  let households ← ofExcept id (records.mapM RoleRecord.readHousehold)
  let households := Policy.distinct households
  let managing ← ofExcept id (managedHouseholds records)
  let members ← ExceptT.mk (Program.perform (.each .members households))
  let aiUsers ← ExceptT.mk (Program.perform (.each .aiUsers managing))
  ofExcept id (ofRecords user records managed (managing.zip aiUsers) (households.zip members))

/-- The failure to read role data, for want of which the context of a user is not known. -/
def unavailable (user : Id) (f : Failure) : ServiceFailure where
  kind := .roleDataUnavailable
  message := "Could not load role data for user " ++ user.asText
  details := Entries.ofFields [("user_id", user.toValue), ("error", .text f.message)]

/-- Whether a failure says that role data cannot be read. -/
def saysUnavailable : Failure → Bool
  | .service f => f.kind = .roleDataUnavailable
  | _ => false

/-- The context of a user. -/
def fetch (user : Id) : Flow UserContext :=
  (ask user).recover fun f =>
    fail (if saysUnavailable f then f else .service (unavailable user f))

end HouseholdAccess.UserContext
