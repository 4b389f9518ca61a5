import HouseholdAccess.Value.Order
import HouseholdAccess.Value.Shown

/-!
# Metrics

What a service counts. A *family* has a name, a kind and labels; with a text for
each label it is a *series*, which a registry counts. Three kinds of family are
known: counters, which are incremented, histograms, which count observed
numbers, and information about the service itself.

A series appears in a registry (`Registry`) once it is named; a histogram
without labels is there from the start. `Registry.measure` takes a measurement
by the name of its family, and says what is wrong with one that does not fit
(`MetricFault`); the series that the service itself counts are built by
functions (`Series.cacheLookup`, …), so that nothing is wrong with them.
-/

namespace HouseholdAccess

/-- Something that is counted. -/
structure Series where
  /-- Its name. -/
  name : String
  /-- Its labels with their texts, in the order of the labels. -/
  labels : List (String × String) := []
  deriving DecidableEq

/-- The kinds of family. -/
inductive FamilyKind
  /-- Information about the service. -/
  | information
  /-- Something that is incremented. -/
  | counter
  /-- Numbers that are observed. -/
  | histogram
  deriving DecidableEq

/-- What the name of a series adds to the name of its family. -/
def FamilyKind.ending : FamilyKind → String
  | .information => "_info"
  | .counter => ""
  | .histogram => "_count"

/-- A family of series. -/
structure Family where
  /-- Its name. -/
  name : String
  /-- Its kind. -/
  kind : FamilyKind
  /-- Its labels, in order. -/
  labels : List String := []

/-- A measurement. -/
inductive Measurement
  /-- One more. -/
  | one
  /-- A value is observed. -/
  | observed (v : Value)

/-- What is wrong with a measurement. -/
inductive MetricFault
  /-- The labels are not those of the family. -/
  | labels
  /-- The family does not take such measurements. -/
  | unsupported
  /-- What is observed is not a number. -/
  | notNumber
  /-- What is observed is an integer beyond all floating-point numbers. -/
  | tooLarge
  deriving DecidableEq

/-- The texts in order. -/
def inTextOrder (texts : List String) : List String :=
  texts.mergeSort fun s t => !textBefore t s

/-- Labels in the order of their names. -/
def inLabelOrder (labels : List (String × String)) : List (String × String) :=
  labels.mergeSort fun a b => !textBefore b.1 a.1

namespace Family

/-- The families that every service has. -/
def common : List Family :=
  [{ name := "service_info", kind := .information },
    { name := "http_requests_total", kind := .counter,
      labels := ["endpoint", "method", "status_code"] },
    { name := "http_request_duration_seconds", kind := .histogram,
      labels := ["endpoint", "method"] },
    { name := "health_check_total", kind := .counter, labels := ["status"] },
    { name := "errors_total", kind := .counter, labels := ["error_type", "service"] }]

/-- The families of the service that answers for permissions. -/
def permissions : List Family :=
  [{ name := "permission_checks_total", kind := .counter, labels := ["decision"] },
    { name := "permission_check_duration_seconds", kind := .histogram },
    { name := "permission_cache_lookups_total", kind := .counter, labels := ["result"] },
    { name := "permission_compiles_total", kind := .counter, labels := ["status"] },
    { name := "permission_compile_duration_seconds", kind := .histogram },
    { name := "permission_invalidations_total", kind := .counter, labels := ["scope"] },
    { name := "permission_events_total", kind := .counter, labels := ["event_type", "status"] }]

/-- The families of a service. -/
def ofService (service : String) : List Family :=
  if service = "permissions" then common ++ permissions else common

/-- The series of the family with the given labels. -/
def series (f : Family) (labels : List (String × String)) : Series :=
  { name := f.name ++ f.kind.ending, labels := inLabelOrder labels }

/-- Whether the family takes such measurements. -/
def takes (f : Family) : Measurement → Bool
  | .one => f.kind = .counter
  | .observed _ => f.kind = .histogram

end Family

/-- How a lookup of permissions ends. -/
inductive LookupResult
  /-- In the cache. -/
  | hit
  /-- With the stored form. -/
  | persisted
  /-- With a compilation. -/
  | miss
  deriving DecidableEq

/-- How labels write the end of a lookup. -/
def LookupResult.token : LookupResult → String
  | .hit => "hit"
  | .persisted => "persisted"
  | .miss => "miss"

/-- How labels write whether something has worked. -/
def outcomeToken (ok : Bool) : String := if ok then "ok" else "error"

namespace Series

/-- Lookups that end in one way. -/
def cacheLookup (result : LookupResult) : Series :=
  ⟨"permission_cache_lookups_total", [("result", result.token)]⟩

/-- Compilations that work, or that fail. -/
def compilation (ok : Bool) : Series :=
  ⟨"permission_compiles_total", [("status", outcomeToken ok)]⟩

/-- Compilations whose time is taken. -/
def compilationTime : Series := ⟨"permission_compile_duration_seconds_count", []⟩

/-- Users whose permissions are dropped. -/
def userInvalidation : Series := ⟨"permission_invalidations_total", [("scope", "user")]⟩

/-- Households whose permissions are dropped. -/
def householdInvalidation : Series :=
  ⟨"permission_invalidations_total", [("scope", "household")]⟩

/-- Checks with one decision. -/
def check (allowed : Bool) : Series :=
  ⟨"permission_checks_total", [("decision", if allowed then "allow" else "deny")]⟩

/-- Checks whose time is taken. -/
def checkTime : Series := ⟨"permission_check_duration_seconds_count", []⟩

/-- Events of one type that are applied, or that fail. -/
def event (type : String) (ok : Bool) : Series :=
  ⟨"permission_events_total", [("event_type", type), ("status", outcomeToken ok)]⟩

/-- Health checks with one result. -/
def healthCheck (status : String) : Series := ⟨"health_check_total", [("status", status)]⟩

/-- Failures of one type. -/
def failure (type service : String) : Series :=
  ⟨"errors_total", [("error_type", type), ("service", service)]⟩

/-- Requests with one status. -/
def request (method path status : String) : Series :=
  ⟨"http_requests_total",
    [("endpoint", path), ("method", method), ("status_code", status)]⟩

/-- Requests whose time is taken. -/
def requestTime (method path : String) : Series :=
  ⟨"http_request_duration_seconds_count", [("endpoint", path), ("method", method)]⟩

/-- The series in short. -/
def text (s : Series) : String :=
  let labels := s.labels.map fun (name, value) => name ++ "=" ++ value
  s.name ++ "\x7b" ++ ",".intercalate labels ++ "\x7d"

/-- A character of a label's text between quotes. -/
def escape (c : Char) : List Char :=
  if c = '\\' || c = '"' then ['\\', c]
  else if c = '\n' then ['\\', 'n']
  else [c]

/-- The series as a page of metrics names it. -/
def pageText (s : Series) : String :=
  if s.labels.isEmpty then s.name
  else
    let labels := s.labels.map fun (name, value) =>
      name ++ "=\"" ++ String.ofList (value.toList.flatMap escape) ++ "\""
    s.name ++ "\x7b" ++ ",".intercalate labels ++ "\x7d"

end Series

/-- What a service has counted. -/
structure Registry where
  /-- The name of the service. -/
  service : String
  /-- The series named so far with their counts. -/
  counts : List (Series × Nat)

namespace Registry

/-- Adds to the count of a series, which appears if it is not there. -/
def addTo (s : Series) (n : Nat) : List (Series × Nat) → List (Series × Nat)
  | [] => [(s, n)]
  | (t, m) :: rest => if t = s then (t, m + n) :: rest else (t, m) :: addTo s n rest

/-- Counts one more of a series. -/
def count (r : Registry) (s : Series) : Registry := { r with counts := addTo s 1 r.counts }

/-- Makes a series appear. -/
def touch (r : Registry) (s : Series) : Registry := { r with counts := addTo s 0 r.counts }

/-- The count of a series. -/
def countOf (r : Registry) (s : Series) : Nat := (r.counts.lookup s).getD 0

/-- The registry of a service at the start. -/
def ofService (service : String) : Registry :=
  let information : Series :=
    ⟨"service_info_info", [("service", service), ("version", "1.0.0")]⟩
  let plain := (Family.ofService service).filter fun f =>
    f.kind = .histogram ∧ f.labels.isEmpty
  { service, counts := (information, 1) :: plain.map fun f => (f.series [], 0) }

/-- Takes a measurement of a series. What is not a number, or is rounded to none, is refused, and an
    observation that is no number in the sense of `Binary64.nan` does not count. -/
def take (r : Registry) (s : Series) : Measurement → Option MetricFault × Registry
  | .one => (none, r.count s)
  | .observed (.float .nan) => (none, r)
  | .observed (.int n) =>
    match Binary64.ofInt n with
    | .infinity _ => (some .tooLarge, r)
    | _ => (none, r.count s)
  | .observed (.bool _) | .observed (.float _) => (none, r.count s)
  | .observed _ => (some .notNumber, r)

/-- Takes a measurement of a family. Labels are looked at first, if there are any, and name a
    series, which appears even if the measurement does not fit the family. -/
def takeFrom (r : Registry) (f : Family) (m : Measurement) (labels : List (String × String)) :
    Option MetricFault × Registry :=
  if labels.isEmpty then
    if !f.takes m then (some .unsupported, r)
    else if !f.labels.isEmpty then (some .labels, r)
    else r.take (f.series []) m
  else if f.labels ≠ (inLabelOrder labels).map Prod.fst then (some .labels, r)
  else
    let s := f.series labels
    if !f.takes m then (some .unsupported, r.touch s) else (r.touch s).take s m

/-- Takes a measurement by the name of its family; an unknown name is nothing to measure. -/
def measure (r : Registry) (name : String) (m : Measurement) (labels : List (String × String)) :
    Option MetricFault × Registry :=
  match (Family.ofService r.service).find? fun f => f.name == name with
  | some f => r.takeFrom f m labels
  | none => (none, r)

/-- Counts a request and observes its time. -/
def recordRequest (r : Registry) (method path status : String) (time : Value) :
    Option MetricFault × Registry :=
  let s := Series.requestTime method path
  ((r.count (.request method path status)).touch s).take s (.observed time)

/-- Counts a failure of the service of the given name, or else of this one. -/
def recordFailure (r : Registry) (type : String) (service : Option String := none) : Registry :=
  r.count (.failure type (service.getD r.service))

/-- The lines of the page of metrics, in order. -/
def page (r : Registry) : List String :=
  inTextOrder (r.counts.map fun (s, n) => s.pageText ++ " " ++ toString n)

end Registry

end HouseholdAccess
