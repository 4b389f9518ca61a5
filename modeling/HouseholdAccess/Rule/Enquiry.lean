import HouseholdAccess.Failure

/-!
# Enquiries

What callers ask a rule set by name: a named question, or whether anything is
possible on a type of subject. `Enquiry.ask` answers one, `Enquiry.askAll` one
after the other. An enquiry fails when its name or its arguments are wrong, or
when a condition cannot be decided.
-/

namespace HouseholdAccess

/-- A question that is asked by name. -/
structure Enquiry where
  /-- The name of the question. -/
  name : String
  /-- What it is asked about. -/
  arguments : List Value

namespace Enquiry

/-- Whether anything is possible on the type of subject that a token stands for. -/
def askAnything (x : IndexedRules) (type : Value) : Except Failure (Bool × IndexedRules) := do
  let type ← (SubjectType.ofValue type).mapError .unknownToken
  let (answer, x) := x.allowsAnything type
  (answer.map (·, x)).mapError .undecided

/-- The answer to a named question. -/
def askNamed (x : IndexedRules) (e : Enquiry) : Except Failure (Bool × IndexedRules) := do
  let question ← (Question.ofName e.name e.arguments).mapError .misnamed
  let (answer, x) := x.ask question
  (answer.map (·, x)).mapError .undecided

/-- The answer to an enquiry, and the rules with what they remember afterwards. -/
def ask (x : IndexedRules) (e : Enquiry) : Except Failure (Bool × IndexedRules) :=
  match e.name, e.arguments with
  | "has_any_permission", [type] => askAnything x type
  | _, _ => e.askNamed x

/-- The answers to enquiries, one after the other. -/
def askAll (x : IndexedRules) : List Enquiry → Except Failure (List Bool)
  | [] => .ok []
  | enquiry :: rest => do
    let (answer, x) ← enquiry.ask x
    let answers ← askAll x rest
    return answer :: answers

end Enquiry

end HouseholdAccess
