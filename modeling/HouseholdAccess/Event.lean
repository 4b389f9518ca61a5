import HouseholdAccess.Role

/-!
# Role-change events

An event tells that the roles of a user, or of the users of a household, have
changed. It comes as a payload under a topic; the names of the user and of the
household may be written in either of two spellings, and a topic may have an
older one (`RoleChangeEvent.ofPayload`).
-/

namespace HouseholdAccess

/-- What has changed. -/
inductive EventType
  /-- A user has joined a household. -/
  | memberAdded
  /-- A user has left a household. -/
  | memberRemoved
  /-- A user has another role in a household. -/
  | memberRoleChanged
  /-- A user is managed by someone else. -/
  | managedChanged
  /-- The permissions of a user are to be computed again. -/
  | recompute
  /-- Something that is no concern of permissions. -/
  | other (name : String)
  deriving DecidableEq

namespace EventType

/-- The types of event that there are. -/
def known : List EventType :=
  [memberAdded, memberRemoved, memberRoleChanged, managedChanged, recompute]

/-- How the type is written. -/
def token : EventType → String
  | memberAdded => "household.member.added"
  | memberRemoved => "household.member.removed"
  | memberRoleChanged => "household.member.role_changed"
  | managedChanged => "user.managed_relationship_changed"
  | recompute => "user.permissions.recompute"
  | other name => name

/-- The type that is written so. -/
def ofToken (s : String) : EventType := (known.find? fun t => t.token == s).getD (other s)

/-- Older spellings of topics. -/
def aliases : List (String × EventType) :=
  [("household.member.role.changed", memberRoleChanged)]

/-- The type that a topic stands for, in its present spelling or in an older one. -/
def ofTopic (s : String) : EventType := (aliases.lookup s).getD (ofToken s)

/-- Whether the event is about a membership. -/
def isMembership : EventType → Bool
  | memberAdded | memberRemoved | memberRoleChanged => true
  | _ => false

/-- Whether the event is about one user. -/
def isUser : EventType → Bool
  | managedChanged | recompute => true
  | _ => false

/-- The topics that tell about role changes, older spellings last. -/
def topics : List String := known.map token ++ aliases.map Prod.fst

end EventType

/-- A role-change event. -/
structure RoleChangeEvent where
  /-- What has changed. -/
  type : EventType
  /-- For which user. -/
  user : Option Id := none
  /-- In which household. -/
  household : Option Id := none
  /-- Why. -/
  reason : Value := .null

namespace RoleChangeEvent

/-- A refused payload. -/
def refused (message topic : String) : ServiceFailure :=
  { kind := .validation, message, details := Entries.ofFields [("event_type", .text topic)] }

/-- A name in a payload: under its first spelling if that is there, else under the second one. -/
def nameIn (entries : Entries) (first second : String) : Option Id :=
  let v := (Entries.field? entries first).getD ((Entries.field? entries second).getD .null)
  if v.isTruthy then some (.text v.asText) else none

/-- The event that a payload under a topic stands for. -/
def ofPayload (topic : String) : Value → Except ServiceFailure RoleChangeEvent
  | .object entries =>
    let type := EventType.ofTopic topic
    let user := nameIn entries "user_id" "userId"
    let household := nameIn entries "household_id" "householdId"
    if !type.isMembership && !type.isUser then
      .error (refused "Unknown event type" type.token)
    else if type.isUser && user.isNone then
      .error (refused "Event requires user_id" type.token)
    else if type.isMembership && user.isNone && household.isNone then
      .error (refused "Event requires user_id or household_id" type.token)
    else
      .ok { type, user, household, reason := (Entries.field? entries "reason").getD .null }
  | _ => .error (refused "Event payload must be an object" topic)

end RoleChangeEvent

end HouseholdAccess
