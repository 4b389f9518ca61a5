import HouseholdAccess.Role

/-!
# The permissions of roles

What the roles of a user allow, as an ordered rule set (`UserContext.compile`).
Each user may see and change themselves; managers may do more or less
everything in their households, except change other managers; members and AI
users may see their households and write messages, and members may change their
own. What an AI user must not do is denied at the end, where it overrides the
rules before.
-/

namespace HouseholdAccess

namespace Policy

/-- A condition that a field is one of several names. -/
def oneOf (field : String) (ids : List Id) : Option Condition :=
  some (.field field .isIn (.list (ids.map Id.toValue)))

/-- A condition that a field is a name. -/
def isId (field : String) (id : Id) : Option Condition := some (.field field .eq id.toValue)

/-- The rule, if the condition holds. -/
def onlyIf (condition : Bool) (rule : Rule) : List Rule := if condition then [rule] else []

/-- Names without repetitions, each where it comes first. -/
def distinct (ids : List Id) : List Id := ids.eraseDups

end Policy

open Policy

namespace UserContext

/-- The households in which the user takes part without running them. -/
def participating (c : UserContext) : List Id :=
  distinct (c.householdsAs .member ++ c.householdsAs .ai)

/-- The AI users of the households that the user runs. -/
def manageableAi (c : UserContext) : List Id :=
  distinct ((c.householdsAs .manager).flatMap c.aiUsers.of)

/-- The user and all members of the user's households. -/
def visibleUsers (c : UserContext) : List Id :=
  distinct (c.user :: c.households.flatMap c.members.of)

/-- What every user may do, and what follows from managing other users. -/
def userRules (c : UserContext) : List Rule :=
  [.can [.read] [.user] (isId "id" c.user), .can [.create] [.household],
    .can [.update] [.user] (isId "id" c.user)] ++
  onlyIf (!c.managed.isEmpty && !c.isPureAi)
    (.can [.update] [.user] (oneOf "id" (distinct c.managed))) ++
  onlyIf (!c.manageableAi.isEmpty) (.can [.update] [.user] (oneOf "id" c.manageableAi))

/-- What the roles allow in the households: with the households, with their members and with their
    messages. -/
def householdRules (c : UserContext) : List Rule :=
  let managing := c.householdsAs .manager
  let belonging := c.householdsAs .member
  onlyIf (!managing.isEmpty) (.can [.manage] [.household] (oneOf "id" managing)) ++
  onlyIf (!c.participating.isEmpty) (.can [.read] [.household] (oneOf "id" c.participating)) ++
  onlyIf (!managing.isEmpty)
    (.can [.manage] [.householdMember]
      (some (.all [.field "household_id" .isIn (.list (managing.map Id.toValue)),
        .field "role" .ne (.text HouseholdRole.manager.token)]))) ++
  onlyIf (!c.households.isEmpty)
    (.can [.read] [.householdMember] (oneOf "household_id" c.households)) ++
  onlyIf (!managing.isEmpty) (.can [.manage] [.message] (oneOf "household_id" managing)) ++
  onlyIf (!c.participating.isEmpty)
    (.can [.create, .read] [.message] (oneOf "household_id" c.participating)) ++
  onlyIf (!belonging.isEmpty)
    (.can [.update, .delete] [.message]
      (some (.all [.field "household_id" .isIn (.list (belonging.map Id.toValue)),
        .field "user_id" .eq c.user.toValue])))

/-- The users that the user may see through common households. -/
def visibilityRules (c : UserContext) : List Rule :=
  onlyIf (!c.households.isEmpty) (.can [.read] [.user] (oneOf "id" c.visibleUsers))

/-- What a user who is only ever an AI user must not do. -/
def aiRules (c : UserContext) : List Rule :=
  if c.isPureAi then
    [.cannot [.update] [.user] (some (.field "id" .ne c.user.toValue)),
      .cannot [.create, .update, .delete] [.householdMember]]
  else []

/-- What the user may do. -/
def compile (c : UserContext) : RuleSet :=
  c.userRules ++ c.householdRules ++ c.visibilityRules ++ c.aiRules

end UserContext

end HouseholdAccess
