import HouseholdAccess.Failure

/-!
# Household roles

Users belong to households in roles: as manager, as member, or as an artificial
user (AI). A role store gives them as records (`RoleRecord`), which may be
incomplete; read, they are memberships.

Everything that the permissions of one user depend on is a `UserContext`: the
memberships, the users that the user manages, and for each household its
members and AI users.
-/

namespace HouseholdAccess

/-- The name of a user or of a household. -/
inductive Id
  /-- A name that is a text. -/
  | text (s : String)
  /-- A name that is an integer. -/
  | number (n : Int)
  /-- A floating-point number in place of a name. -/
  | float (x : Binary64)
  /-- A truth value in place of a name. -/
  | truth (b : Bool)
  /-- Null in place of a name. -/
  | nothing
  deriving DecidableEq, Inhabited

namespace Id

/-- The name as a value. -/
def toValue : Id → Value
  | .text s => .text s
  | .number n => .int n
  | .float x => .float x
  | .truth b => .bool b
  | .nothing => .null

/-- The name as a text. -/
def asText : Id → String
  | .text s => s
  | .number n => toString n
  | .float x => x.text
  | .truth b => boolShown b
  | .nothing => Value.null.shown

/-- Whether the name counts as one: the empty text and zero do not. -/
def isTruthy (id : Id) : Bool := id.toValue.isTruthy

/-- Whether the name is a text. -/
def isText : Id → Bool
  | .text _ => true
  | _ => false

/-- Where names of a kind stand among the others. -/
def kindRank : Id → Nat
  | .nothing => 0
  | .truth _ => 1
  | .number _ => 2
  | .float _ => 3
  | .text _ => 4

/-- The order of names: numbers by size, texts code point by code point, and one kind after the
    other. -/
def before : Id → Id → Bool
  | .text s, .text t => textBefore s t
  | .number m, .number n => m < n
  | .truth a, .truth b => !a && b
  | a, b => a.kindRank < b.kindRank

end Id

/-- The role of a user in a household. -/
inductive HouseholdRole
  /-- Runs the household. -/
  | manager
  /-- Belongs to the household. -/
  | member
  /-- An artificial user of the household. -/
  | ai
  deriving DecidableEq

namespace HouseholdRole

/-- All roles. -/
def all : List HouseholdRole := [manager, member, ai]

/-- How the role is written. -/
def token : HouseholdRole → String
  | manager => "manager"
  | member => "member"
  | ai => "ai"

/-- The role that a token stands for. -/
def ofToken? (s : String) : Option HouseholdRole := all.find? fun r => r.token == s

/-- The role that a value stands for. -/
def ofValue (v : Value) : Except UnknownToken HouseholdRole :=
  match v with
  | .text s => (ofToken? s).elim (.error ⟨"HouseholdRole", v⟩) .ok
  | v => .error ⟨"HouseholdRole", v⟩

end HouseholdRole

/-- The role of a user in one household. -/
structure Membership where
  /-- The household. -/
  household : Id
  /-- The role. -/
  role : HouseholdRole
  deriving DecidableEq

/-- What a role store says about a user in one household. -/
structure RoleRecord where
  /-- The household, if the record names one. -/
  household : Option Id
  /-- The role, if the record names one. -/
  role : Option Value

namespace RoleRecord

/-- The household of the record. -/
def readHousehold (r : RoleRecord) : Except Failure Id :=
  r.household.elim (.error (.missingField "household_id")) .ok

/-- The role of the record. -/
def readRole (r : RoleRecord) : Except Failure HouseholdRole :=
  match r.role with
  | none => .error (.missingField "role")
  | some v => (HouseholdRole.ofValue v).mapError .unknownToken

/-- The membership that the record states. -/
def read (r : RoleRecord) : Except Failure Membership := do
  let household ← r.readHousehold
  let role ← r.readRole
  return { household, role }

end RoleRecord

/-- Users by household. -/
abbrev UsersByHousehold := List (Id × List Id)

/-- The users of a household, none if it is not listed. -/
def UsersByHousehold.of (users : UsersByHousehold) (household : Id) : List Id :=
  (users.lookup household).getD []

/-- Everything that the permissions of one user depend on. -/
structure UserContext where
  /-- The user. -/
  user : Id
  /-- The memberships, in the order in which they were made. -/
  memberships : List Membership := []
  /-- The users that the user manages. -/
  managed : List Id := []
  /-- The AI users of households. -/
  aiUsers : UsersByHousehold := []
  /-- The members of households. -/
  members : UsersByHousehold := []

namespace UserContext

/-- The households of the user, in the order of the memberships. -/
def households (c : UserContext) : List Id := c.memberships.map (·.household)

/-- The households in which the user has a role, in the order of the memberships. -/
def householdsAs (c : UserContext) (role : HouseholdRole) : List Id :=
  (c.memberships.filter fun m => m.role = role).map (·.household)

/-- Whether the user has roles, and all of them are AI. -/
def isPureAi (c : UserContext) : Bool :=
  !c.memberships.isEmpty && c.memberships.all fun m => m.role = .ai

/-- The context that records of a role store state. -/
def ofRecords (user : Id) (records : List RoleRecord) (managed : List Id := [])
    (aiUsers members : UsersByHousehold := []) : Except Failure UserContext := do
  let memberships ← records.mapM RoleRecord.read
  return { user, memberships, managed, aiUsers, members }

end UserContext

end HouseholdAccess
