import HouseholdAccess.Cache
import HouseholdAccess.Rule.Verdict

/-!
# Answering for permissions

Questions about what a user may do, answered from the rule set of the user. The
tokens of a question are read only when the rule set is there, so that a
question with unknown tokens looks the rule set up all the same.
-/

namespace HouseholdAccess.Cache

open HouseholdAccess.Flow

/-- A question about a user, with the tokens as they are written. -/
structure Check where
  /-- The user. -/
  user : Id
  /-- The action. -/
  action : Value
  /-- The type of subject. -/
  type : Value
  /-- The subject, if the question is about one. -/
  subject : Option Value := none

/-- The answer of a rule set to a question. -/
def Check.verdict (q : Check) (rules : RuleSet) : Except Failure Verdict := do
  let action ← (Action.ofValue q.action).mapError .unknownToken
  let type ← (SubjectType.ofValue q.type).mapError .unknownToken
  (rules.evaluate action type q.subject).mapError .undecided

/-- The answer to a question. -/
def evaluate (c : Cache) (q : Check) : Flow Verdict := do
  let rules ← c.lookUp q.user
  let verdict ← ofExcept id (q.verdict rules)
  count (.check verdict.allowed)
  count .checkTime
  return verdict

/-- Whether the answer to a question is yes. -/
def can (c : Cache) (q : Check) : Flow Bool := do
  let verdict ← c.evaluate q
  return verdict.allowed

/-- The failure that tells that the answer to a question is no. -/
def denied (q : Check) (verdict : Verdict) : ServiceFailure where
  kind := .authorization
  message := "Permission denied"
  details := Entries.ofFields
    [("user_id", q.user.toValue), ("action", .text q.action.asText),
      ("subject_type", .text q.type.asText), ("reason", .text verdict.reason)]

/-- Fails unless the answer to a question is yes. -/
def require (c : Cache) (q : Check) : Flow Unit := do
  let verdict ← c.evaluate q
  if verdict.allowed then return () else fail (.service (denied q verdict))

end HouseholdAccess.Cache
