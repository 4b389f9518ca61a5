import HouseholdAccess.Rule

/-!
# Deciding questions

A question asks whether an action on a type of subject is allowed, or on one
subject of that type. The rules about the action and the type are looked at in
order, and the last one that matches decides (`RuleSet.evaluate`); without one
the answer is no.

* On one subject, a rule matches when the subject meets its condition.
* Without a subject the question is whether the action is possible at all: rules
  that allow match whatever their condition, and rules that deny only if they
  have none.

`IndexedRules` answer the same, and remember which rules are about which action
and type.
-/

namespace HouseholdAccess

/-- The answer to a question. -/
structure Verdict where
  /-- Whether the action is allowed. -/
  allowed : Bool
  /-- The position of the rule that decided. -/
  matched : Option Nat
  deriving DecidableEq

/-- Why the answer is what it is. -/
def Verdict.reason (v : Verdict) : String :=
  match v.matched with
  | none => "No matching rule"
  | some i => "Rule " ++ toString i ++ (if v.allowed then " allowed" else " denied")

/-- The answer when no rule matches. -/
def Verdict.default : Verdict := ⟨false, none⟩

/-- Whether a rule that is about the action and the type matches. -/
def Rule.matches (r : Rule) (subject : Option Value) : Except Condition.Trouble Bool :=
  match subject with
  | none => .ok (r.condition.isNone || !r.inverted)
  | some v => r.admits v

namespace RuleSet

/-- The positions of the rules about an action on a type of subject, counted from `start`. -/
def relevantFrom (action : Action) (subject : SubjectType) : Nat → List Rule → List Nat
  | _, [] => []
  | i, r :: rest =>
    if r.appliesTo action subject then i :: relevantFrom action subject (i + 1) rest
    else relevantFrom action subject (i + 1) rest

/-- The positions of the rules about an action on a type of subject. -/
def relevant (rules : RuleSet) (action : Action) (subject : SubjectType) : List Nat :=
  relevantFrom action subject 0 rules

/-- Goes through the rules at the given positions, with the answer so far. -/
def decideAt (rules : RuleSet) (subject : Option Value) :
    List Nat → Verdict → Except Condition.Trouble Verdict
  | [], verdict => .ok verdict
  | i :: rest, verdict =>
    match rules[i]? with
    | none => decideAt rules subject rest verdict
    | some r => do
      if ← r.matches subject then decideAt rules subject rest ⟨!r.inverted, some i⟩
      else decideAt rules subject rest verdict

/-- The answer to a question. -/
def evaluate (rules : RuleSet) (action : Action) (type : SubjectType)
    (subject : Option Value := none) : Except Condition.Trouble Verdict :=
  decideAt rules subject (rules.relevant action type) .default

/-- Whether the answer to a question is yes. -/
def can (rules : RuleSet) (action : Action) (type : SubjectType)
    (subject : Option Value := none) : Except Condition.Trouble Bool :=
  (rules.evaluate action type subject).map (·.allowed)

/-- Whether the answer to a question is no. -/
def cannot (rules : RuleSet) (action : Action) (type : SubjectType)
    (subject : Option Value := none) : Except Condition.Trouble Bool :=
  (rules.can action type subject).map (!·)

/-- The rules about an action on a type of subject, in order. -/
def rulesFor (rules : RuleSet) (action : Action) (type : SubjectType) : List Rule :=
  (rules.relevant action type).filterMap fun i => rules[i]?

/-- What a rule set is made of. -/
structure Stats where
  /-- How many rules there are. -/
  total : Nat
  /-- How many of them deny. -/
  denying : Nat
  /-- How many have a condition. -/
  conditional : Nat
  /-- The types of subject that rules are about, in the order of their tokens. -/
  subjects : List String

/-- Puts a text into a sorted list, once. -/
def insertText (s : String) : List String → List String
  | [] => [s]
  | t :: rest =>
    if s == t then t :: rest
    else if textBefore s t then s :: t :: rest
    else t :: insertText s rest

/-- The texts in order, each once. -/
def sortedTexts (texts : List String) : List String :=
  texts.foldl (fun sorted s => insertText s sorted) []

/-- What the rule set is made of. -/
def stats (rules : RuleSet) : Stats where
  total := rules.length
  denying := (rules.filter (·.inverted)).length
  conditional := (rules.filter (·.condition.isSome)).length
  subjects := sortedTexts (rules.flatMap fun r => r.subjects.map SubjectType.token)

end RuleSet

/-- A rule set with the positions of the rules about the actions and types asked for so far. -/
structure IndexedRules where
  /-- The rules. -/
  rules : RuleSet
  /-- The positions found so far. -/
  index : List ((Action × SubjectType) × List Nat) := []

namespace IndexedRules

/-- The positions of the rules about an action on a type of subject, found before or found now. -/
def relevant (x : IndexedRules) (action : Action) (type : SubjectType) :
    List Nat × IndexedRules :=
  match x.index.lookup (action, type) with
  | some found => (found, x)
  | none =>
    let found := x.rules.relevant action type
    (found, { x with index := ((action, type), found) :: x.index })

/-- The answer to a question. -/
def evaluate (x : IndexedRules) (action : Action) (type : SubjectType)
    (subject : Option Value := none) : Except Condition.Trouble Verdict × IndexedRules :=
  let (found, x) := x.relevant action type
  (x.rules.decideAt subject found .default, x)

/-- Whether the answer to a question is yes. -/
def can (x : IndexedRules) (action : Action) (type : SubjectType)
    (subject : Option Value := none) : Except Condition.Trouble Bool × IndexedRules :=
  let (verdict, x) := x.evaluate action type subject
  (verdict.map (·.allowed), x)

/-- Whether the answer to a question is no. -/
def cannot (x : IndexedRules) (action : Action) (type : SubjectType)
    (subject : Option Value := none) : Except Condition.Trouble Bool × IndexedRules :=
  let (allowed, x) := x.can action type subject
  (allowed.map (!·), x)

/-- The rules about an action on a type of subject, in order. -/
def rulesFor (x : IndexedRules) (action : Action) (type : SubjectType) :
    List Rule × IndexedRules :=
  let (found, x) := x.relevant action type
  (found.filterMap fun i => x.rules[i]?, x)

end IndexedRules

end HouseholdAccess
