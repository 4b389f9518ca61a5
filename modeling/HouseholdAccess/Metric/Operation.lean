import HouseholdAccess.Metric
import HouseholdAccess.Value.Shown

/-!
# Operations on metrics

What callers ask of a registry by name, with arguments that are given in order or
by name (`Registry.perform`). Parameters come first; what else is given by name are
labels, where an operation takes any. The registry itself goes by the name `self`
among the parameters, which therefore is no label.
-/

namespace HouseholdAccess

/-- Arguments in order and by name. -/
structure Arguments where
  /-- Those in order. -/
  positional : List Value
  /-- Those by name. -/
  named : List (String × Value)

namespace Arguments

/-- The values of parameters and what else is given by name; there are none if there are more
    arguments in order than parameters, or if one is given twice. -/
def bind? (a : Arguments) (parameters : List String) :
    Option (List (Option Value) × List (String × Value)) :=
  let taken := "self" :: parameters.take a.positional.length
  if parameters.length < a.positional.length || taken.any fun n => (a.named.lookup n).isSome then
    none
  else
    let inOrder := a.positional.map some ++
      List.replicate (parameters.length - a.positional.length) none
    let values := (parameters.zip inOrder).map fun (n, v) => v.or (a.named.lookup n)
    some (values, a.named.filter fun f => !parameters.contains f.1)

/-- The values of parameters that are all given, and the labels. -/
def bindAll? (a : Arguments) (parameters : List String) :
    Option (List Value × List (String × String)) := do
  let (values, rest) ← a.bind? parameters
  let values ← values.mapM id
  return (values, rest.map fun (n, v) => (n, v.asText))

end Arguments

/-- What is wrong with an operation on a registry. -/
inductive OperationFault
  /-- There is no such operation. -/
  | unknown
  /-- The arguments do not fit the parameters. -/
  | arguments
  /-- The measurement does not fit. -/
  | measurement (fault : MetricFault)

namespace Registry

/-- The registry after a measurement, with what is wrong with it. -/
def measured (result : Option MetricFault × Registry) : Option OperationFault × Registry :=
  (result.1.map .measurement, result.2)

/-- Takes a measurement by a value that is to name a family: one that could be no key at all is
    refused, and one that is no text names nothing. -/
def measureNamed (r : Registry) (name : Value) (m : Measurement)
    (labels : List (String × String)) : Option OperationFault × Registry :=
  match name with
  | .text name => measured (r.measure name m labels)
  | v => (if v.isKey then none else some .arguments, r)

/-- Does what is asked of the registry. -/
def perform (r : Registry) (operation : String) (a : Arguments) :
    Option OperationFault × Registry :=
  let refused : Option OperationFault × Registry := (some .arguments, r)
  match operation with
  | "increment_counter" =>
    match a.bindAll? ["metric_name"] with
    | some ([name], labels) => r.measureNamed name .one labels
    | _ => refused
  | "observe_histogram" =>
    match a.bindAll? ["metric_name", "value"] with
    | some ([name, v], labels) => r.measureNamed name (.observed v) labels
    | _ => refused
  | "record_http_request" =>
    match a.bindAll? ["method", "endpoint", "status_code", "duration"] with
    | some ([method, path, status, time], []) =>
      measured (r.recordRequest method.asText path.asText status.asText time)
    | _ => refused
  | "record_health_check" =>
    match a.bindAll? ["status"] with
    | some ([status], []) => (none, r.count (.healthCheck status.asText))
    | _ => refused
  | "record_error" =>
    match a.bind? ["error_type", "service"] with
    | some ([some type, service], []) =>
      let service := (service.filter Value.isTruthy).map Value.asText
      (none, r.recordFailure type.asText service)
    | _ => refused
  | _ => (some .unknown, r)

end Registry

end HouseholdAccess
