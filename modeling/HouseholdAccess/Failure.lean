import HouseholdAccess.Rule.Packed
import HouseholdAccess.Rule.Question

/-!
# Failures

What can go wrong while the service works. A `ServiceFailure` is one that it
reports to its callers, with a code, a message and details; its kind decides
the code and the status of the response. The other failures come from what the
service works on: tokens, conditions, values, and the systems around it.

Every failure has one message (`Failure.message`).
-/

namespace HouseholdAccess

/-- The kinds of failure that callers are told about. -/
inductive ServiceKind
  /-- A failure under a code of its own. -/
  | other (code : String)
  /-- Something is not allowed. -/
  | authorization
  /-- Something given is wrong. -/
  | validation
  /-- A packed form cannot be read. -/
  | malformedRuleSet
  /-- Role data cannot be read. -/
  | roleDataUnavailable
  /-- Another system fails. -/
  | externalService
  deriving DecidableEq

/-- The code that responses give. -/
def ServiceKind.code : ServiceKind → String
  | .other code => code
  | .authorization => "AUTHORIZATION_ERROR"
  | .validation => "VALIDATION_ERROR"
  | .malformedRuleSet => "MALFORMED_RULE_SET"
  | .roleDataUnavailable => "ROLE_DATA_UNAVAILABLE"
  | .externalService => "EXTERNAL_SERVICE_ERROR"

/-- The status of the response. -/
def ServiceKind.status : ServiceKind → Nat
  | .other _ | .validation => 400
  | .authorization => 403
  | .malformedRuleSet => 500
  | .roleDataUnavailable | .externalService => 503

/-- The message when none is given. -/
def ServiceKind.defaultMessage : ServiceKind → String
  | .other _ => ""
  | .authorization => "Authorization failed"
  | .validation => "Validation failed"
  | .malformedRuleSet => "Malformed rule set"
  | .roleDataUnavailable => "Role data unavailable"
  | .externalService => "External service error"

/-- A failure that callers are told about. -/
structure ServiceFailure where
  /-- What kind of failure it is. -/
  kind : ServiceKind
  /-- What happened. -/
  message : String
  /-- What it happened to. -/
  details : Entries := []

namespace ServiceFailure

/-- A failure of another system, named in front of the message. -/
def external (system : String) (message : String := ServiceKind.externalService.defaultMessage)
    (details : Entries := []) : ServiceFailure :=
  { kind := .externalService, message := system ++ ": " ++ message, details }

/-- A packed form that cannot be read. -/
def malformed (fault : Packed.Fault) : ServiceFailure :=
  { kind := .malformedRuleSet, message := fault.message, details := fault.details }

end ServiceFailure

/-- The kinds of failure of the systems around the service. -/
inductive OutsideKind
  /-- A failure while running. -/
  | runtime
  /-- A connection that fails. -/
  | connection
  /-- A value that is refused. -/
  | value
  deriving DecidableEq

/-- What can go wrong. -/
inductive Failure
  /-- A failure that callers are told about. -/
  | service (f : ServiceFailure)
  /-- A token that a vocabulary does not have. -/
  | unknownToken (u : UnknownToken)
  /-- A record without a field. -/
  | missingField (name : String)
  /-- A question that is asked by a wrong name or with wrong arguments. -/
  | misnamed (fault : Question.NameFault)
  /-- A condition that cannot be decided. -/
  | undecided (trouble : Condition.Trouble)
  /-- An obstacle: most of the time, something is in too many others. -/
  | tooDeep (o : Obstacle)
  /-- A value that has no JSON form. -/
  | unwritable (u : Json.Unwritable)
  /-- A failure of a system around the service. -/
  | outside (kind : OutsideKind) (message : String)
  /-- A connection that is used before it is made. -/
  | notConnected (operation : String)

/-- The message of a trouble with a pattern. -/
def Pattern.Trouble.message : Pattern.Trouble → String
  | .malformed => "not a pattern"
  | .repetitionTooLarge => "the repetition number is too large"
  | .incompatibleOptions => "ASCII and UNICODE flags are incompatible"
  | .tooFarBehind => "invalid SRE code"
  | .reversedCapture =>
    "The span of capturing group is wrong, please report a bug for the re module."

/-- The message of a trouble with a condition. -/
def Condition.Trouble.message : Condition.Trouble → String
  | .pattern trouble => trouble.message
  | .unreadable record => record.message

/-- The message of a failure. -/
def Failure.message : Failure → String
  | .service f => f.message
  | .unknownToken u => u.message
  | .missingField name => Quoted.text name
  | .misnamed fault => fault.message
  | .undecided trouble => trouble.message
  | .tooDeep o => o.message
  | .unwritable u => u.message
  | .outside _ message => message
  | .notConnected operation =>
    "'NoneType' object has no attribute " ++ Quoted.text operation

end HouseholdAccess
