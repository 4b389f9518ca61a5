import HouseholdAccess.Condition.Document

/-!
# Rules

A rule allows or denies some actions on some types of subject, maybe under a
condition (`Rule`). A rule set is an ordered list of rules; what it answers is
decided by the last rule that matches (`HouseholdAccess.Rule.Verdict`).

Two tokens stand for more than themselves: a rule about `Action.manage` is about
every action, and a rule about `SubjectType.all` about every type of subject.

Rules are also written by their tokens and a condition document (`Rule.read`).
-/

namespace HouseholdAccess

/-- A token that a vocabulary does not have. -/
structure UnknownToken where
  /-- The vocabulary. -/
  vocabulary : String
  /-- What stands in place of a token. -/
  token : Value

/-- The message about a token that a vocabulary does not have. -/
def UnknownToken.message (u : UnknownToken) : String :=
  u.token.shown ++ " is not a valid " ++ u.vocabulary

/-- What a rule is about to let someone do. -/
inductive Action
  /-- Making a new one. -/
  | create
  /-- Seeing it. -/
  | read
  /-- Changing it. -/
  | update
  /-- Removing it. -/
  | delete
  /-- Every action. -/
  | manage
  deriving DecidableEq

namespace Action

/-- All actions. -/
def all : List Action := [create, read, update, delete, manage]

/-- How the action is written. -/
def token : Action → String
  | create => "create"
  | read => "read"
  | update => "update"
  | delete => "delete"
  | manage => "manage"

/-- The action that a token stands for. -/
def ofToken? (s : String) : Option Action := all.find? fun a => a.token == s

/-- The action that a value stands for. -/
def ofValue (v : Value) : Except UnknownToken Action :=
  match v with
  | .text s => (ofToken? s).elim (.error ⟨"Action", v⟩) .ok
  | v => .error ⟨"Action", v⟩

theorem ofToken?_token (a : Action) : ofToken? a.token = some a := by cases a <;> decide

end Action

/-- What a rule is about. -/
inductive SubjectType
  /-- A user. -/
  | user
  /-- A household. -/
  | household
  /-- A membership of a user in a household. -/
  | householdMember
  /-- A message in a household. -/
  | message
  /-- Every type of subject. -/
  | all
  deriving DecidableEq

namespace SubjectType

/-- All types of subject. -/
def every : List SubjectType := [user, household, householdMember, message, all]

/-- How the type is written. -/
def token : SubjectType → String
  | user => "User"
  | household => "Household"
  | householdMember => "HouseholdMember"
  | message => "Message"
  | all => "all"

/-- The type that a token stands for. -/
def ofToken? (s : String) : Option SubjectType := every.find? fun t => t.token == s

/-- The type that a value stands for. -/
def ofValue (v : Value) : Except UnknownToken SubjectType :=
  match v with
  | .text s => (ofToken? s).elim (.error ⟨"SubjectType", v⟩) .ok
  | v => .error ⟨"SubjectType", v⟩

theorem ofToken?_token (t : SubjectType) : ofToken? t.token = some t := by cases t <;> decide

end SubjectType

/-- A rule. -/
structure Rule where
  /-- The actions it is about. -/
  actions : List Action
  /-- The types of subject it is about. -/
  subjects : List SubjectType
  /-- What a subject has to meet, if anything. -/
  condition : Option Condition := none
  /-- Whether it denies rather than allows. -/
  inverted : Bool := false

/-- An ordered list of rules, of which the last one that matches decides. -/
abbrev RuleSet := List Rule

namespace Rule

/-- Whether the rule is about an action on a type of subject. -/
def appliesTo (r : Rule) (action : Action) (subject : SubjectType) : Bool :=
  (r.actions.contains action || r.actions.contains .manage) &&
    (r.subjects.contains subject || r.subjects.contains .all)

/-- Whether a subject meets the condition of the rule. -/
def admits (r : Rule) (subject : Value) : Except Condition.Trouble Bool :=
  Condition.meetsOption subject r.condition

/-- A rule that allows. -/
def can (actions : List Action) (subjects : List SubjectType)
    (condition : Option Condition := none) : Rule :=
  { actions, subjects, condition }

/-- A rule that denies. -/
def cannot (actions : List Action) (subjects : List SubjectType)
    (condition : Option Condition := none) : Rule :=
  { actions, subjects, condition, inverted := true }

/-- What is wrong with a written rule. -/
inductive Fault
  /-- A token is in no vocabulary. -/
  | unknownToken (u : UnknownToken)
  /-- The tokens are neither a text nor items. -/
  | noTokens (v : Value)
  /-- The condition does not follow the grammar. -/
  | condition (fault : Condition.Fault)

/-- The message of a fault. -/
def Fault.message : Fault → String
  | .unknownToken u => u.message
  | .noTokens v => Quoted.text v.kindName ++ " object is not iterable"
  | .condition fault => fault.message

/-- The tokens that a value holds: a text is one token, and a record has a pair of its name and its
    value for each field. -/
def tokensOf : Value → Except Fault (List Value)
  | .text s => .ok [.text s]
  | .list items | .tuple items => .ok items
  | .bytes bs => .ok (bs.map fun b => .int b.toNat)
  | .object entries => .ok (entries.map fun entry => entry.1.toValue)
  | .model fields => .ok (fields.map fun (name, v) => .tuple [.text name, v])
  | v => .error (.noTokens v)

/-- Reads each token of a value. -/
def readTokens {α : Type} (ofValue : Value → Except UnknownToken α) (v : Value) :
    Except Fault (List α) := do
  (← tokensOf v).mapM fun token => (ofValue token).mapError .unknownToken

/-- Reads a rule from its tokens and its condition document. -/
def read (inverted : Bool) (actions subjects condition : Value) : Except Fault Rule := do
  let actions ← readTokens Action.ofValue actions
  let subjects ← readTokens SubjectType.ofValue subjects
  let condition ← (Condition.ofDocument condition).mapError .condition
  return { actions, subjects, condition, inverted }

end Rule

end HouseholdAccess
