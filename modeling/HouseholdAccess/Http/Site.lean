import HouseholdAccess.Failure.Named
import HouseholdAccess.Http
import HouseholdAccess.Log
import HouseholdAccess.Permission

/-!
# The site of a service

A site answers requests (`Site.respond`). Every site tells about its health and
what it has counted; the site of the service that answers for permissions also
answers questions, hands out packed rule sets and drops them.

A failure that callers are told about is answered with its status and its code.
Any other failure is answered with the status 500 from outside: such a request
is not counted, and the response does not name it.
-/

namespace HouseholdAccess

open HouseholdAccess.Flow HouseholdAccess.Http

/-- Where requests go. -/
inductive Endpoint
  /-- Whether the service and what it depends on are well. -/
  | health
  /-- What has been counted. -/
  | metrics
  /-- What the service is. -/
  | root
  /-- A question about a user. -/
  | check
  /-- The packed rule set of a user. -/
  | rules
  /-- Drops the rule set of a user. -/
  | invalidateUser
  /-- Drops the rule sets of the members of a household. -/
  | invalidateHousehold
  /-- How the cache is used. -/
  | stats
  deriving DecidableEq

namespace Endpoint

/-- The routes that every site has. -/
def commonRoutes : List (Route Endpoint) :=
  [⟨"GET", [.fixed "health"], health⟩, ⟨"GET", [.fixed "metrics"], metrics⟩]

/-- The routes of the service that answers for permissions. -/
def permissionRoutes : List (Route Endpoint) :=
  [⟨"GET", [.fixed ""], root⟩,
    ⟨"POST", [.fixed "permissions", .fixed "check"], check⟩,
    ⟨"GET", [.fixed "permissions", .any "user_id", .fixed "rules"], rules⟩,
    ⟨"POST", [.fixed "permissions", .any "user_id", .fixed "invalidate"], invalidateUser⟩,
    ⟨"POST",
      [.fixed "permissions", .fixed "households", .any "household_id", .fixed "invalidate"],
      invalidateHousehold⟩,
    ⟨"GET", [.fixed "permissions", .fixed "stats"], stats⟩]

end Endpoint

/-- The site of a service. -/
structure Site where
  /-- The name of the service. -/
  service : String
  /-- How permissions are kept. -/
  cache : Cache := {}
  /-- The routes. -/
  routes : List (Route Endpoint) := Endpoint.commonRoutes
  /-- Asks for the state of what the service depends on. -/
  dependencies : Flow Entries := pure []

namespace Site

/-! ## Health and metrics -/

/-- Whether a state is that of something that is well. -/
def isWell : Value → Bool
  | .text s => s == "ok"
  | _ => false

/-- The health of the service, and with which status it is told. -/
def healthReport (site : Site) : Flow (Nat × Value) :=
  (do
    let dependencies ← site.dependencies
    let status := if dependencies.all fun d => isWell d.2 then "ok" else "degraded"
    count (.healthCheck status)
    let now ← step .time
    return (200, .record
      [("service", .text site.service), ("status", .text status), ("uptime_seconds", .float now),
        ("dependencies", .object dependencies), ("version", .text "1.0.0"),
        ("commit", .text "unknown")]) : Flow (Nat × Value)).recover fun f => do
    count (.healthCheck "error")
    return (503, .record
      [("service", .text site.service), ("status", .text "error"), ("error", .text f.message)])

/-- The lines of the page of metrics. -/
def metricsPage : Flow (List String) := do
  let registry ← step .counted
  return (registry.map Registry.page).getD []

/-! ## Questions -/

/-- A field of a body that has to be there. -/
def required {α : Type} (body : Entries) (name : String) (read : Value → Except String α) :
    Except BodyFault α :=
  match Entries.field? body name with
  | none => .error ⟨["body", name], "missing"⟩
  | some v => (read v).mapError fun token => ⟨["body", name], token⟩

/-- A text. -/
def readText : Value → Except String String
  | .text s => .ok s
  | _ => .error "string_type"

/-- The subject of a question: none, or an object. -/
def readSubject (body : Entries) : Except BodyFault (Option Value) :=
  match Entries.field? body "instance" with
  | none | some .null => .ok none
  | some (.object entries) => .ok (some (.object entries))
  | some _ => .error ⟨["body", "instance"], "dict_type"⟩

/-- The fault of a reading, if there is one. -/
def faultOf {α : Type} : Except BodyFault α → List BodyFault
  | .ok _ => []
  | .error fault => [fault]

/-- Why no question has been read from a body. -/
inductive CheckFault
  /-- The body, or parts of it, are not as they should be. -/
  | faults (faults : List BodyFault)
  /-- The body cannot be read at all. -/
  | unreadable

/-- The question that a body asks. -/
def readCheck (body : Option String) : Except CheckFault Cache.Check :=
  match body with
  | none | some "" => .error (.faults [⟨["body"], "missing"⟩])
  | some text =>
    match Json.readBytes text.toUTF8.toList with
    | .error .malformed => .error (.faults [⟨["body"], "json_invalid"⟩])
    | .error _ => .error .unreadable
    | .ok (.object body) =>
      let action := required body "action" fun v => (Action.ofValue v).mapError fun _ => "enum"
      let subject := readSubject body
      let type := required body "subject_type" fun v =>
        (SubjectType.ofValue v).mapError fun _ => "enum"
      let user := required body "user_id" readText
      match action, subject, type, user with
      | .ok action, .ok subject, .ok type, .ok user =>
        .ok { user := .text user, action := .text action.token, type := .text type.token, subject }
      | action, subject, type, user =>
        .error (.faults (faultOf action ++ faultOf subject ++ faultOf type ++ faultOf user))
    | .ok _ => .error (.faults [⟨["body"], "model_attributes_type"⟩])

/-- The answer to a question, or the content that says that there is none. -/
def checkContent (site : Site) (q : Cache.Check) : Flow Content := do
  step (.bind (Log.userFields q.user.toValue .null))
  let content : Flow Content := do
    let verdict ← site.cache.evaluate q
    ofExcept id (Content.ofValue 200 (.record
      [("allowed", .bool verdict.allowed), ("reason", .text verdict.reason),
        ("matched_rule", (verdict.matched.map fun i => Value.int i).getD .null)]))
  content.recover fun f =>
    match f with
    | .service _ => fail f
    | _ => return Content.remark 500 "Internal server error"

/-! ## Rule sets -/

/-- A key with texts in place of null and of numbers that are not finite. -/
def finiteKey : Key → Key
  | .null => .text Key.null.shown
  | .float x => .text x.text
  | key => key

mutual

/-- A value with nothing in place of numbers that are not finite. -/
def finite : Value → Value
  | .float x => if x.toRat?.isNone then .null else .float x
  | .list items => .list (finiteAll items)
  | .tuple items => .list (finiteAll items)
  | .object entries => .object (finiteEntries entries)
  | v => v

/-- Values with nothing in place of numbers that are not finite. -/
def finiteAll : List Value → List Value
  | [] => []
  | v :: rest => finite v :: finiteAll rest

/-- Entries with nothing in place of numbers that are not finite. -/
def finiteEntries : List (Key × Value) → List (Key × Value)
  | [] => []
  | (key, v) :: rest => (finiteKey key, finite v) :: finiteEntries rest

end

/-- The packed rule set of a user as content. -/
def rulesContent (site : Site) (user : String) : Flow Content := do
  step (.bind (Log.userFields (.text user) .null))
  let rules ← site.cache.lookUp (.text user)
  let now ← step .time
  ofExcept id (Content.ofValue 200 (.record
    [("user_id", .text user), ("rules", finite (Packed.pack rules)),
      ("generated_at", .float now)]))

/-- What is said of dropped rule sets, if all users have texts for names. -/
def invalidated (scope target : String) (users : List Id) : Except Failure Content :=
  if users.all fun user => user.isText then
    Content.ofValue 200 (.record
      [("scope", .text scope), ("target_id", .text target),
        ("invalidated_users", .list (users.map Id.toValue))])
  else .error (.outside .value "names of users have to be texts")

/-! ## Answering -/

/-- What the service is. -/
def about : Value := .record
  [("service", .text "permissions"), ("message", .text "Household Permissions Service"),
    ("version", .text "1.0.0"),
    ("capabilities", .list
      [.text "rule_compiler", .text "caching", .text "persistence", .text "events"])]

/-- The content of an endpoint. -/
def contentOf (site : Site) (r : Request) : Endpoint → List String → Flow Content
  | .health, _ => do
    let (status, report) ← site.healthReport
    ofExcept id (Content.ofAny status report)
  | .metrics, _ => do
    let lines ← metricsPage
    return ⟨200, .page lines⟩
  | .root, _ => ofExcept id (Content.ofValue 200 about)
  | .check, _ =>
    match readCheck r.body with
    | .error (.faults faults) => return ⟨422, .faults faults⟩
    | .error .unreadable => return Content.remark 400 "There was an error parsing the body"
    | .ok q => site.checkContent q
  | .rules, names => site.rulesContent (names.headD "")
  | .invalidateUser, names => do
    let user := names.headD ""
    site.cache.invalidate (.text user)
    ofExcept id (invalidated "user" user [.text user])
  | .invalidateHousehold, names => do
    let household := names.headD ""
    step (.bind (Log.userFields .null (.text household)))
    let users ← site.cache.invalidateHousehold (.text household)
    ofExcept id (invalidated "household" household users)
  | .stats, _ => do
    let now ← step .time
    let cache ← site.cache.kind.stats
    let consuming ← step .isConsuming
    ofExcept id (Content.ofAny 200 (.record
      [("timestamp", .float now), ("cache", cache), ("event_consumer", .bool consuming)]))

/-- The methods that a browser may ask leave for. -/
def methods : List String := ["DELETE", "GET", "HEAD", "OPTIONS", "PATCH", "POST", "PUT"]

/-- The answer to a browser that asks for leave to send a request from another site. -/
def leave? (r : Request) : Option Content :=
  match r.method, r.headers.lookup "origin", r.headers.lookup "access-control-request-method" with
  | "OPTIONS", some _, some method =>
    some (if methods.contains method then ⟨200, .text "OK"⟩
      else ⟨400, .text "Disallowed CORS method"⟩)
  | _, _, _ => none

/-- The content that a request is answered with. -/
def route (site : Site) (r : Request) (path : List Char) : Flow Content :=
  match leave? r with
  | some content => return content
  | none =>
    match find site.routes r.method path with
    | .endpoint e names => site.contentOf r e names
    | .otherMethod => return Content.remark 405 "Method Not Allowed"
    | .otherSlash => return ⟨307, .text ""⟩
    | .nowhere => return Content.remark 404 "Not Found"

/-- A failure that callers are told about, as content. -/
def failureContent (f : ServiceFailure) : Except Failure Content :=
  if f.details.all fun (key, _) => key.isTextual then
    Content.ofValue f.kind.status (.record
      [("trace_id", .null), ("code", .text f.kind.code), ("message", .text f.message),
        ("details", .object f.plainDetails)])
  else .error (.outside .value "keys of details have to be texts")

/-- The content that a request is answered with, failures that callers are told about included. -/
def answer (site : Site) (r : Request) (path : List Char) : Flow Content :=
  (site.route r path).recover fun f =>
    match f with
    | .service g => do
      count (.failure g.kind.code site.service)
      ofExcept id (failureContent g)
    | f => fail f

/-- What a request is answered with after a failure that callers are not told about. -/
def internalError : Content := ⟨500, .json
  "\x7b\"code\":\"INTERNAL_ERROR\",\"message\":\"Internal server error\",\"details\":\x7b\x7d\x7d"⟩

/-- What log lines say of a request. -/
def requestFields : RequestName → Entries
  | .given name => Entries.ofFields [("request_id", .text name)]
  | .fresh => []

/-- The response to a request. -/
def respond (site : Site) (r : Request) : Flow Response := do
  let path := pathOf r
  step (.bind (requestFields r.name))
  let attempt : Flow (Option Content) := do
    let content ← site.answer r path
    return some content
  let outcome ← (attempt.recover fun _ => return none).atLast (Program.perform .unbind)
  match outcome with
  | some content =>
    let endpoint := endpointOf path
    count (.request r.method endpoint (toString content.status))
    count (.requestTime r.method endpoint)
    return { content, name := some r.name }
  | none =>
    count (.failure "INTERNAL_ERROR" site.service)
    return { content := internalError, name := none }

end Site

end HouseholdAccess
