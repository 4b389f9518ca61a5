import HouseholdAccess.Json.Writer
import HouseholdAccess.Text.LetterCase
import HouseholdAccess.Value.Shown

/-!
# Log lines

A log line is a JSON object: the fields bound to the work at hand (`Entries`,
the *correlation fields*), overridden by the fields given with the event, and
on top of them the event, the logger, the severity, the service of the logger
and the trace of the work (`Log.line`). A line below the threshold of the log is
left out.

A logger is named after its service and a part of it, with a dot between them:
`permissions.cache` belongs to the service `permissions`.
-/

namespace HouseholdAccess

/-- How severe an event is. -/
inductive Severity
  /-- Not set, below everything. -/
  | unset
  /-- Of interest when looking for a fault. -/
  | debug
  /-- As expected. -/
  | info
  /-- Worth a look. -/
  | warning
  /-- Something has failed. -/
  | error
  /-- The service cannot go on. -/
  | critical
  deriving DecidableEq

namespace Severity

/-- The rank among severities. -/
def rank : Severity → Nat
  | unset => 0
  | debug => 10
  | info => 20
  | warning => 30
  | error => 40
  | critical => 50

/-- How lines write the severity. -/
def token : Severity → String
  | unset => "notset"
  | debug => "debug"
  | info => "info"
  | warning => "warning"
  | error => "error"
  | critical => "critical"

/-- The severities by the names that settings give them, in capitals. -/
def names : List (String × Severity) :=
  [("CRITICAL", critical), ("FATAL", critical), ("ERROR", error), ("WARN", warning),
    ("WARNING", warning), ("INFO", info), ("DEBUG", debug), ("NOTSET", unset)]

/-- What is wrong with a name that is to be that of a severity, in capitals. -/
inductive NameFault
  /-- Nothing has the name. -/
  | unknown (name : String)
  /-- The layout of plain lines has the name. -/
  | layout
  /-- The table of layouts has the name. -/
  | layouts

/-- The layout of plain lines. -/
def plainLayout : String := "%(levelname)s:%(name)s:%(message)s"

/-- The layouts of plain lines by the sign of their style, with the name of the style. -/
def layouts : List (String × String × String) :=
  [("%", "PercentStyle", plainLayout),
    ("\x7b", "StrFormatStyle", "\x7blevelname\x7d:\x7bname\x7d:\x7bmessage\x7d"),
    ("$", "StringTemplateStyle", "$\x7blevelname\x7d:$\x7bname\x7d:$\x7bmessage\x7d")]

/-- The table of layouts as messages show it. -/
def layoutTable : String :=
  objectShown (layouts.map fun (sign, style, layout) =>
    Quoted.text sign ++ ": " ++
      tupleShown ["<class " ++ Quoted.text ("logging." ++ style) ++ ">", Quoted.text layout])

/-- The message of a fault. -/
def NameFault.message : NameFault → String
  | .unknown name => "module 'logging' has no attribute " ++ "'" ++ name ++ "'"
  | .layout => "Unknown level: " ++ Quoted.text plainLayout
  | .layouts => "Level not an integer or a valid string: " ++ layoutTable

/-- The severity of a name in small or capital letters. -/
def ofName (name : String) : Except NameFault Severity :=
  let name := LetterCase.uppercase name
  match names.lookup name with
  | some severity => .ok severity
  | none =>
    if name = "BASIC_FORMAT" then .error .layout
    else if name = "_STYLES" then .error .layouts
    else .error (.unknown name)

end Severity

/-- A piece of traced work. -/
structure Span where
  /-- The trace that it is part of, zero for none. -/
  trace : Int
  /-- Its number in the trace, zero for none. -/
  number : Int
  /-- Whether it is recorded. -/
  recording : Bool := true

/-- A number in hexadecimal digits, with zeros between sign and digits up to the width. -/
def hexText (width : Nat) (n : Int) : String :=
  let sign := if n < 0 then ['-'] else []
  let digits := (Nat.toDigits 16 n.natAbs).length
  String.ofList (sign ++ Quoted.hex (max (width - sign.length) digits) n.natAbs)

namespace Span

/-- The trace as texts give it, if the work is recorded in one. -/
def traceText? (s : Span) : Option String :=
  if s.recording && s.trace ≠ 0 then some (hexText 32 s.trace) else none

/-- The number as texts give it, if the work is recorded under one. -/
def numberText? (s : Span) : Option String :=
  if s.recording && s.number ≠ 0 then some (hexText 16 s.number) else none

/-- The trace of the current piece of work, if there is one. -/
def traceOf (s : Option Span) : Option String := s.bind traceText?

end Span

namespace Log

/-- The service that a logger belongs to, if its name tells. -/
def serviceOf? (logger : String) : Option String :=
  if logger.toList.contains '.' then
    some (String.ofList (logger.toList.takeWhile (· ≠ '.')))
  else none

/-- The name that a value gives to a logger: what does not count as true names none, and what else
    is no text cannot be a name. -/
def loggerOf? (v : Value) : Option String :=
  match v with
  | .text s => some s
  | v => if v.isTruthy then none else some ""

/-- The name of a logger; the one without a name is the root. -/
def loggerName (logger : String) : String := if logger.isEmpty then "root" else logger

/-- Puts a text under a name, if there is one. -/
def putText? (fields : Entries) (name : String) (text : Option String) : Entries :=
  match text with
  | some s => Entries.put fields (.text name) (.text s)
  | none => fields

/-- Puts fields over others. -/
def override (fields others : Entries) : Entries :=
  others.foldl (fun fields (key, v) => Entries.put fields key v) fields

mutual

/-- A value as a line shows it: what has no JSON form by its spelling. -/
def written : Value → Value
  | .list items => .list (writtenAll items)
  | .tuple items => .list (writtenAll items)
  | .object entries => .object (writtenEntries entries)
  | .null => .null
  | .bool b => .bool b
  | .int n => .int n
  | .float x => .float x
  | .text s => .text s
  | .bytes bs => .text (Quoted.bytes bs)
  | .model fields => .text (Value.model fields).shown
  | .readable fields => .text (Value.readable fields).shown
  | .unreadable => .text Value.unreadable.shown
  | .absent => .text Value.absent.shown
  | .foreign o | .mapping o _ => .text o.shown

/-- Values as a line shows them. -/
def writtenAll : List Value → List Value
  | [] => []
  | v :: rest => written v :: writtenAll rest

/-- Entries as a line shows them. -/
def writtenEntries : List (Key × Value) → List (Key × Value)
  | [] => []
  | (key, v) :: rest => (key, written v) :: writtenEntries rest

end

/-- The field that says whether a failure is to be described, which lines do not show. -/
def failureField : String := "exc_info"

/-- What lines say of the failure that a field describes: there is something to say only of one that
    is described by its three parts, and these are all null. -/
def failureText? (given : Entries) : Option String :=
  match Entries.field? given failureField with
  | some (.tuple [.null, .null, .null]) => some "NoneType: None"
  | _ => none

/-- Puts the event among fields; null is no event. -/
def putEvent (fields : Entries) : Value → Entries
  | .null => fields
  | event => Entries.put fields (.text "event") event

/-- What is wrong with the logger of an event: a value of this kind cannot name one. -/
inductive LoggerFault
  /-- Nothing can be looked for in it. -/
  | notSearchable (kind : String)
  /-- It cannot be divided at its dots. -/
  | notDivisible (kind : String)
  /-- Bytes hold no dot that is a text. -/
  | bytes
  /-- It has no name. -/
  | nameless (kind : String)

/-- The message of a fault. -/
def LoggerFault.message : LoggerFault → String
  | .notSearchable kind => "argument of type " ++ Quoted.text kind ++ " is not iterable"
  | .notDivisible kind =>
    Quoted.text kind ++ " object has no attribute " ++ Quoted.text "split"
  | .nameless kind =>
    Quoted.text kind ++ " object has no attribute " ++ Quoted.text "name"
  | .bytes => "a bytes-like object is required, not " ++ Quoted.text "str"

/-- Tags an event with the service of its logger. In a record it is only its pairs of names and
    values that are looked through. -/
def tagService (event : Entries) : Except LoggerFault Entries :=
  let hasDot (items : List Value) : Bool :=
    items.any fun v => match v with | .text s => s == "." | _ => false
  match (Entries.field? event "logger").getD (.text "") with
  | .text logger => .ok (putText? event "service" (serviceOf? logger))
  | .bytes _ => .error .bytes
  | .list items => if hasDot items then .error (.notDivisible "list") else .ok event
  | .tuple items => if hasDot items then .error (.notDivisible "tuple") else .ok event
  | .object entries =>
    if (Entries.field? entries ".").isSome then .error (.notDivisible "dict") else .ok event
  | .model _ => .ok event
  | v => .error (.notSearchable v.kindName)

/-- The field that tells who logs in place of the logger. -/
def recordField : String := "_record"

/-- Who logs: the logger, unless a field tells another name. -/
def namedLogger (fields : Entries) (logger : String) : Except LoggerFault Value :=
  match (Entries.field? fields recordField).getD .null with
  | .null => .ok (.text (loggerName logger))
  | .model record =>
    match record.find? fun field => field.1 == "name" with
    | some (_, name) => .ok name
    | none => .error (.nameless (Value.model record).kindName)
  | v => .error (.nameless v.kindName)

/-- The fields of a line. -/
def fields (bound given : Entries) (logger : String) (severity : Severity) (event : Value)
    (span : Option Span) : Except LoggerFault Entries := do
  let failure := failureText? given
  let given := given.filter fun (key, _) => !key.isText failureField
  let fields := override bound (putEvent given event)
  let fields := Entries.put fields (.text "logger") (← namedLogger fields logger)
  let fields := Entries.put fields (.text "level") (.text severity.token)
  let fields ← tagService (putText? fields "exception" failure)
  let fields := putText? fields "trace_id" (span.bind Span.traceText?)
  return putText? fields "span_id" (span.bind Span.numberText?)

/-- Why there is no line. -/
inductive LineFault
  /-- It cannot be told who logs. -/
  | logger (fault : LoggerFault)
  /-- A field has no JSON form. -/
  | unwritable (u : Json.Unwritable)

/-- The line of an event, if the log has a threshold and the event reaches it. -/
def line (threshold : Option Severity) (bound given : Entries) (logger : String)
    (severity : Severity) (event : Value) (span : Option Span := none) :
    Except LineFault (Option String) :=
  match threshold with
  | none => .ok none
  | some least =>
    if severity.rank < least.rank then .ok none
    else do
      let fields ← (fields bound given logger severity event span).mapError .logger
      let text ← (Json.write Json.spaced (written (.object fields))).mapError .unwritable
      return some text

/-- A log: from which severity on it has lines, if it is set up, and what its lines say. -/
structure Journal where
  /-- The least severity of its lines. -/
  threshold : Option Severity := none
  /-- The fields that lines say. -/
  bound : Entries := []

namespace Journal

/-- Sets the log up with the name of a severity, and says what is wrong with the name. Once it is
    set up it stays so. What has another use than naming a severity is found out only while the log
    is set up, which leaves it at warnings. -/
def setUp (j : Journal) (level : String) : Option Severity.NameFault × Journal :=
  match Severity.ofName level with
  | .ok severity => (none, { j with threshold := some (j.threshold.getD severity) })
  | .error (.unknown name) => (some (.unknown name), j)
  | .error fault =>
    if j.threshold.isSome then (none, j) else (some fault, { j with threshold := some .warning })

/-- Adds fields to what lines say. -/
def bind (j : Journal) (fields : Entries) : Journal := { j with bound := override j.bound fields }

/-- Drops all fields that lines say. -/
def unbind (j : Journal) : Journal := { j with bound := [] }

/-- The line of an event, if there is one. -/
def line (j : Journal) (given : Entries) (logger : String) (severity : Severity) (event : Value)
    (span : Option Span := none) : Except LineFault (Option String) :=
  Log.line j.threshold j.bound given logger severity event span

end Journal

/-- What can be asked of a logger. -/
inductive Operation
  /-- A line for looking for faults. -/
  | debug
  /-- A line for information. -/
  | info
  /-- A warning. -/
  | warning
  /-- A line about a failure. -/
  | error
  /-- A line about a failure at hand. -/
  | exception
  /-- A line about the end of the service. -/
  | critical

namespace Operation

/-- The name of an operation. -/
def name : Operation → String
  | debug => "debug"
  | info => "info"
  | warning => "warning"
  | error => "error"
  | exception => "exception"
  | critical => "critical"

/-- How severe the events of an operation are. -/
def severity : Operation → Severity
  | debug => .debug
  | info => .info
  | warning => .warning
  | error | exception => .error
  | critical => .critical

/-- The operation of a name; two operations have a second one. -/
def ofName : String → Operation
  | "debug" => debug
  | "info" => info
  | "warning" | "warn" => warning
  | "error" => error
  | "exception" => exception
  | _ => critical

end Operation

/-- A field that an event cannot be given, because its name stands for something else there. -/
structure FieldClash where
  /-- The name of what is asked of the logger. -/
  operation : String
  /-- The name of the field. -/
  name : String

/-- The message about such a field. -/
def FieldClash.message (c : FieldClash) : String :=
  "BoundLogger." ++ c.operation ++ "() got multiple values for argument " ++ "'" ++ c.name ++ "'"

/-- The first field that clashes: the event and the logger are looked at before the name that the
    operation is given inside. -/
def Operation.clash? (o : Operation) (given : Entries) : Option FieldClash :=
  match given.findSome? fun (key, _) => ["event", "self"].find? key.isText with
  | some name => some ⟨o.name, name⟩
  | none =>
    if given.any fun (key, _) => key.isText "method_name" then
      some ⟨"_proxy_to_logger", "method_name"⟩
    else none

/-- The fields to bind for a user and a household, those that count as known. -/
def userFields (user household : Value) : Entries :=
  let known := [("user_id", user), ("household_id", household)].filter fun f => f.2.isTruthy
  Entries.ofFields known

end Log

end HouseholdAccess
