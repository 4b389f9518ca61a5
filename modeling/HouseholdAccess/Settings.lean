import HouseholdAccess.Settings.Numeral
import HouseholdAccess.Settings.Source
import HouseholdAccess.Text.Encoding
import HouseholdAccess.Value.Plain
import HouseholdAccess.Value.Shown

/-!
# Settings

The settings of a service. Each one is looked for where settings come from
(`Settings.Source`), and has a default otherwise; the name and the port of the
service are always given, and given apart (`Settings.read`). What else is given is
kept beside the settings.

Values are converted where that loses nothing: texts to numbers and truth
values, numbers without a fraction to integers. What cannot be converted is a
fault of the setting (`SettingFault`), and all faults are reported together.
-/

namespace HouseholdAccess

/-- What is wrong with a setting. -/
inductive SettingFault
  /-- The text spells no integer. -/
  | integerText
  /-- The integer is too large to be read. -/
  | integerSize
  /-- The number has a fraction. -/
  | fraction
  /-- The number is not finite. -/
  | notFinite
  /-- The value is no integer. -/
  | integer
  /-- The text or number stands for no truth value. -/
  | truthText
  /-- The value is no truth value. -/
  | truth
  /-- The value is no text. -/
  | text
  /-- The bytes are no text. -/
  | textEncoding
  /-- The number is too small. -/
  | tooSmall
  deriving DecidableEq

/-- The name of a fault in reports. -/
def SettingFault.token : SettingFault → String
  | .integerText => "int_parsing"
  | .integerSize => "int_parsing_size"
  | .fraction => "int_from_float"
  | .notFinite => "finite_number"
  | .integer => "int_type"
  | .truthText => "bool_parsing"
  | .truth => "bool_type"
  | .text => "string_type"
  | .textEncoding => "string_unicode"
  | .tooSmall => "greater_than_equal"

namespace Setting

/-- The least number that is not below any integer of 64 bits. -/
def wide : Int := 9223372036854775808

/-- The fault that a spelling of an integer has. -/
def faultOf : Numeral.Fault → SettingFault
  | .malformed => .integerText
  | .tooLong => .integerSize

/-- The integer that a text spells. -/
def readNumeral (s : String) : Except SettingFault Int := (Numeral.integer s).mapError faultOf

/-- An integer, converted from a text, a truth value or a number of 64 bits without a fraction. -/
def readInteger : Value → Except SettingFault Int
  | .int n => .ok n
  | .bool b => .ok (if b then 1 else 0)
  | .text s => readNumeral s
  | .bytes bs => (Encoding.decode .utf8 bs).elim (.error .integerText) readNumeral
  | .float x =>
    match x.toRat? with
    | none => .error .notFinite
    | some q =>
      if q.den ≠ 1 then .error .fraction
      else if -wide < q.num ∧ q.num < wide then .ok q.num
      else .error .integerSize
  | _ => .error .integer

/-- The truth value of a word in any case. -/
def truth? (s : String) : Option Bool :=
  let s := s.map Char.toLower
  if ["true", "t", "yes", "y", "on", "1"].contains s then some true
  else if ["false", "f", "no", "n", "off", "0"].contains s then some false
  else none

/-- The truth value of an integer of 64 bits. -/
def truthOfInteger (n : Int) : Except SettingFault Bool :=
  if n = 0 then .ok false else if n = 1 then .ok true else .error .truthText

/-- A truth value, converted from a word or from zero or one. What is no integer of 64 bits could
    not stand for one at all. -/
def readTruth : Value → Except SettingFault Bool
  | .bool b => .ok b
  | .text s => (truth? s).elim (.error .truthText) .ok
  | .bytes bs => ((Encoding.decode .utf8 bs).bind truth?).elim (.error .truthText) .ok
  | .int n => if -wide ≤ n ∧ n < wide then truthOfInteger n else .error .truth
  | .float x =>
    match x.toInt? with
    | some n => if -wide < n ∧ n < wide then truthOfInteger n else .error .truth
    | none => .error .truth
  | _ => .error .truth

/-- A text, which is not converted from anything but bytes. -/
def readText : Value → Except SettingFault String
  | .text s => .ok s
  | .bytes bs => (Encoding.decode .utf8 bs).elim (.error .textEncoding) .ok
  | _ => .error .text

/-- An integer that is at least one. -/
def readPositive (v : Value) : Except SettingFault Int := do
  let n ← readInteger v
  if n < 1 then .error .tooSmall else .ok n

end Setting

/-- The settings of a service. -/
structure Settings where
  /-- The environment that the service runs in. -/
  environment : String := "local"
  /-- The least severity of log lines. -/
  logLevel : String := "info"
  /-- Where the shared cache is. -/
  cacheUrl : String := "redis://localhost:6379/0"
  /-- Where the database is. -/
  databaseUrl : String := "postgres://localhost:5432/jeeves"
  /-- Where the event broker is. -/
  broker : String := "localhost:9092"
  /-- The group of consumers that the service belongs to. -/
  consumerGroup : String := "permissions"
  /-- The kind of cache. -/
  cacheKind : String := "memory"
  /-- How many seconds permissions stay in the cache. -/
  timeToLive : Int := 300
  /-- Whether the service consumes events. -/
  consumesEvents : Bool := false
  /-- The name of the service. -/
  service : String
  /-- Where it listens. -/
  port : Int
  /-- For whom it listens. -/
  host : String := "0.0.0.0"
  /-- What else was given. -/
  extra : Entries := []

namespace Settings

/-- The faults found so far, each with the name of its setting. -/
abbrev Faults := List (String × SettingFault)

/-- Reads a setting; a fault is noted, and the default stands in. -/
def Source.take {α : Type} (source : Source) (name : String)
    (read : Value → Except SettingFault α) (default : α) : StateM Faults α := do
  match source.value? name with
  | none => return default
  | some v =>
    match read v with
    | .ok a => return a
    | .error fault =>
      modify (· ++ [(name, fault)])
      return default

/-- The names of all settings. -/
def names : List String :=
  ["cache_backend", "enable_event_consumer", "env", "host", "kafka_bootstrap", "kafka_group_id",
    "log_level", "permission_cache_ttl_seconds", "port", "postgres_dsn", "redis_url",
    "service_name"]

/-- Reads all settings, in the order of their names. -/
def collect (source : Source) : StateM Faults Settings := do
  let unset : Settings := { service := "", port := 0 }
  let cacheKind ← source.take "cache_backend" Setting.readText unset.cacheKind
  let consumesEvents ←
    source.take "enable_event_consumer" Setting.readTruth unset.consumesEvents
  let environment ← source.take "env" Setting.readText unset.environment
  let host ← source.take "host" Setting.readText unset.host
  let broker ← source.take "kafka_bootstrap" Setting.readText unset.broker
  let consumerGroup ← source.take "kafka_group_id" Setting.readText unset.consumerGroup
  let logLevel ← source.take "log_level" Setting.readText unset.logLevel
  let timeToLive ←
    source.take "permission_cache_ttl_seconds" Setting.readPositive unset.timeToLive
  let port ← source.take "port" Setting.readInteger unset.port
  let databaseUrl ← source.take "postgres_dsn" Setting.readText unset.databaseUrl
  let cacheUrl ← source.take "redis_url" Setting.readText unset.cacheUrl
  let service ← source.take "service_name" Setting.readText unset.service
  let extra := Value.plainEntries (source.rest names)
  return { environment, logLevel, cacheUrl, databaseUrl, broker, consumerGroup, cacheKind,
           timeToLive, consumesEvents, service, port, host, extra }

/-- Why there are no settings. -/
inductive Refusal
  /-- The name or the port of the service is given once more among the values. -/
  | givenTwice (name : String)
  /-- Settings have faults. -/
  | faults (faults : Faults)

/-- The name of the setting that is the name of the service. -/
def serviceKey : String := "service_name"

/-- The name of the setting that is the port. -/
def portKey : String := "port"

/-- The settings of a service with the given name and port, or all faults. -/
def read (service port : Value) (environment : List (String × String)) (given : Entries) :
    Except Refusal Settings :=
  match given.findSome? fun (key, _) => [serviceKey, portKey].find? key.isText with
  | some name => .error (.givenTwice name)
  | none =>
    let given := (.text serviceKey, service) :: (.text portKey, port) :: given
    let (settings, faults) := (collect (.ofGiven given environment)).run []
    if faults.isEmpty then .ok settings else .error (.faults faults)

end Settings

end HouseholdAccess
