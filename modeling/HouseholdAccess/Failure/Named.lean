import HouseholdAccess.Failure
import HouseholdAccess.Signature
import HouseholdAccess.Value.Plain
import HouseholdAccess.Value.Shown

/-!
# Failures by name

Each kind of failure has a name, and a failure is made by naming its kind and giving
arguments (`ServiceFailure.make`): a code first for one under a code of its own,
the name of the system first for one of another system, then the message, then the
details. All that are not needed may be left out at the end.
-/

namespace HouseholdAccess

namespace ServiceKind

/-- The name of a kind. -/
def name : ServiceKind → String
  | .other _ => "ServiceException"
  | .authorization => "AuthorizationError"
  | .validation => "ValidationError"
  | .malformedRuleSet => "MalformedRuleSet"
  | .roleDataUnavailable => "RoleDataUnavailable"
  | .externalService => "ExternalServiceError"

/-- All kinds, with one code for those under a code of their own. -/
def every (code : String) : List ServiceKind :=
  [.other code, .authorization, .validation, .malformedRuleSet, .roleDataUnavailable,
    .externalService]

/-- The kind of a name, under the given code if it has one of its own. -/
def ofName? (code name : String) : Option ServiceKind :=
  (every code).find? fun kind => kind.name == name

/-- What making a failure of the kind takes. -/
def signature (kind : ServiceKind) : Signature :=
  let name := kind.name ++ ".__init__"
  match kind with
  | .other _ => { name, needed := ["code", "message"], extra := 1 }
  | .externalService => { name, needed := ["service"], extra := 2 }
  | _ => { name, needed := [], extra := 2 }

end ServiceKind

namespace ServiceFailure

/-- The entries of details: what is no object has none. -/
def detailsOf : Option Value → Entries
  | some (.object entries) => entries
  | _ => []

/-- The failure of a kind with the given arguments. -/
def make (kind : ServiceKind) (arguments : List Value) : Except Signature.Fault ServiceFailure :=
  match kind.signature.fault? arguments.length with
  | some fault => .error fault
  | none =>
    let text (i : Nat) (default : String) : String :=
      (arguments[i]?.map Value.asText).getD default
    let details (i : Nat) : Entries := detailsOf arguments[i]?
    .ok (match kind with
      | .other _ => { kind := .other (text 0 ""), message := text 1 "", details := details 2 }
      | .externalService => external (text 0 "") (text 1 kind.defaultMessage) (details 2)
      | kind => { kind, message := text 0 kind.defaultMessage, details := details 1 })

/-- The details as responses give them. -/
def plainDetails (f : ServiceFailure) : Entries := Value.plainEntries f.details

end ServiceFailure

end HouseholdAccess
