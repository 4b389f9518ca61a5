import HouseholdAccess.Failure
import HouseholdAccess.Json.Reader
import HouseholdAccess.Metric

/-!
# Requests and responses

The messages that the service exchanges with its clients: a `Request` with a
method, a path, headers and possibly a body, and a `Response` with a status, the
name of the request and a body.

The path of a request is written with percent signs for bytes that would not
stand in one; `Http.pathOf` reads it. A `Route` is a method with a pattern of
paths, in which names may stand for parts of the path. `Http.find` looks for the
route of a request: the first one with its method and path, or else the reason
why there is none (`Http.Found`).
-/

namespace HouseholdAccess.Http

/-! ## Messages -/

/-- A request. -/
structure Request where
  /-- What is to be done. -/
  method : String
  /-- What it is to be done with, as it is sent. -/
  target : String
  /-- The headers. -/
  headers : List (String × String) := []
  /-- The body. -/
  body : Option String := none

/-- The name of a request. -/
inductive RequestName
  /-- The one that its sender has given. -/
  | given (name : String)
  /-- One that is made up for it. -/
  | fresh

/-- What is wrong with a part of a body. -/
structure BodyFault where
  /-- Where the part is. -/
  location : List String
  /-- What is wrong with it. -/
  token : String

/-- The body of a response. -/
inductive Body
  /-- A JSON text. -/
  | json (text : String)
  /-- What is wrong with the body of the request. -/
  | faults (faults : List BodyFault)
  /-- The lines of the page of metrics. -/
  | page (lines : List String)
  /-- A plain text. -/
  | text (s : String)

/-- What a request is answered with. -/
structure Content where
  /-- The status. -/
  status : Nat
  /-- The body. -/
  body : Body

/-- A response. -/
structure Response where
  /-- What the request is answered with. -/
  content : Content
  /-- The name of the request, if the response gives it. -/
  name : Option RequestName

/-- The header that names a request. -/
def nameHeader : String := "x-request-id"

/-- The name of a request. -/
def Request.name (r : Request) : RequestName := (r.headers.lookup nameHeader).elim .fresh .given

/-! ## Paths -/

/-- The bytes of a text in which a percent sign with two digits stands for a byte. -/
def bytesOf : List Char → List UInt8
  | '%' :: a :: b :: rest =>
    match Json.hexValue? a, Json.hexValue? b with
    | some x, some y => UInt8.ofNat (16 * x + y) :: bytesOf rest
    | _, _ => 37 :: bytesOf (a :: b :: rest)
  | c :: rest => (String.singleton c).toUTF8.toList ++ bytesOf rest
  | [] => []

/-- The characters in front of a question mark or a number sign. -/
def beforeMarks (cs : List Char) : List Char := cs.takeWhile fun c => c ≠ '?' && c ≠ '#'

/-- The path of a request. -/
def pathOf (r : Request) : List Char :=
  Encoding.decodeLeniently (bytesOf (beforeMarks r.target.toList))

/-- The path as metrics show it: without line breaks and tabs, and up to a mark that it has come to
    hold by reading. -/
def endpointOf (path : List Char) : String :=
  String.ofList ((beforeMarks path).filter fun c => c ≠ '\n' && c ≠ '\r' && c ≠ '\t')

/-- The parts of a path between slashes. -/
def partsFrom (current : List Char) : List Char → List (List Char)
  | [] => [current.reverse]
  | '/' :: rest => current.reverse :: partsFrom [] rest
  | c :: rest => partsFrom (c :: current) rest

/-- The parts of a path that starts with a slash. -/
def parts? : List Char → Option (List (List Char))
  | '/' :: rest => some (partsFrom [] rest)
  | _ => none

/-! ## Routes -/

/-- A part of a pattern. -/
inductive Segment
  /-- Stands for itself. -/
  | fixed (s : String)
  /-- Stands for any part that is not empty. -/
  | any (name : String)

/-- A method with a pattern of paths. -/
structure Route (ε : Type) where
  /-- The method. -/
  method : String
  /-- The pattern. -/
  pattern : List Segment
  /-- Where requests go. -/
  endpoint : ε

namespace Route

variable {ε : Type}

/-- The names in a path that follows a pattern. -/
def names? : List Segment → List (List Char) → Option (List String)
  | [], [] => some []
  | .fixed s :: pattern, p :: parts => if p = s.toList then names? pattern parts else none
  | .any _ :: pattern, p :: parts =>
    if p.isEmpty then none else (names? pattern parts).map (String.ofList p :: ·)
  | _, _ => none

/-- The names in a path that follows the pattern of a route; a line break at the end does not
    count. -/
def take? (r : Route ε) (path : List Char) : Option (List String) :=
  let take (path : List Char) := (parts? path).bind (names? r.pattern)
  match take path with
  | some names => some names
  | none => if path.getLast? = some '\n' then take path.dropLast else none

/-- How the route is written. -/
def text (r : Route ε) : String :=
  let segment : Segment → String
    | .fixed s => "/" ++ s
    | .any name => "/\x7b" ++ name ++ "\x7d"
  r.method ++ " " ++ String.join (r.pattern.map segment)

end Route

/-- What is found for a request. -/
inductive Found (ε : Type)
  /-- Where it goes, with the names in its path. -/
  | endpoint (e : ε) (names : List String)
  /-- Its path is known, but its method is not. -/
  | otherMethod
  /-- Its path is known with a slash more or less at the end. -/
  | otherSlash
  /-- Its path is not known. -/
  | nowhere

/-- The path with a slash more at the end, or without those at its end. -/
def otherSlashed (path : List Char) : List Char :=
  if path.getLast? = some '/' then (path.reverse.dropWhile (· = '/')).reverse else path ++ ['/']

/-- Looks for the route of a request. -/
def find {ε : Type} (routes : List (Route ε)) (method : String) (path : List Char) : Found ε :=
  let taking := routes.filterMap fun r => (r.take? path).map fun names => (r, names)
  match taking.find? fun t => t.1.method == method with
  | some (r, names) => .endpoint r.endpoint names
  | none =>
    if !taking.isEmpty then .otherMethod
    else if path ≠ ['/'] && routes.any fun r => (r.take? (otherSlashed path)).isSome then
      .otherSlash
    else .nowhere

/-! ## Contents -/

/-- A JSON value as content, if it has a standard form. -/
def Content.ofValue (status : Nat) (v : Value) : Except Failure Content :=
  ((Json.write Json.strict v).map fun text => ⟨status, .json text⟩).mapError .unwritable

/-! ### Any value as content -/

/-- Bytes as the text that they spell. -/
def textOf (bs : List UInt8) : Except Failure String :=
  (Encoding.decode .utf8 bs).elim (.error (.outside .value "the bytes are no text")) .ok

/-- Whether an entry of an object is left out: the mark is that of bookkeeping by others. -/
def isLeftOut : Key → Bool
  | .text s => "_sa".toList.isPrefixOf s.toList
  | _ => false

/-- A key in terms of JSON. -/
def standardKey : Key → Except Failure Key
  | .bytes bs => (textOf bs).map .text
  | .tuple _ => .error (.unwritable (.key "list"))
  | .absent | .unreadable | .foreign _ => .error (.unwritable (.key "dict"))
  | key => .ok key

mutual

/-- A value in terms of JSON: bytes are the text that they spell, records objects of their fields,
    and objects of no known kind have no fields. -/
def standard : Value → Except Failure Value
  | .list items | .tuple items => (standardAll items).map .list
  | .object entries | .mapping _ entries => (standardEntries entries).map fun entries =>
    .object (Entries.ofPairs entries)
  | .model fields => (standardFields fields).map .object
  | .bytes bs => (textOf bs).map .text
  | .readable _ | .unreadable | .absent | .foreign _ => .ok (.object [])
  | .null => .ok .null
  | .bool b => .ok (.bool b)
  | .int n => .ok (.int n)
  | .float x => .ok (.float x)
  | .text s => .ok (.text s)

/-- Values in terms of JSON. -/
def standardAll : List Value → Except Failure (List Value)
  | [] => .ok []
  | v :: rest => do
    let v ← standard v
    return v :: (← standardAll rest)

/-- Entries in terms of JSON. -/
def standardEntries : List (Key × Value) → Except Failure (List (Key × Value))
  | [] => .ok []
  | (key, v) :: rest => do
    if isLeftOut key then standardEntries rest
    else
      let key ← standardKey key
      let v ← standard v
      return (key, v) :: (← standardEntries rest)

/-- Fields as entries in terms of JSON. -/
def standardFields : List (String × Value) → Except Failure (List (Key × Value))
  | [] => .ok []
  | (name, v) :: rest => do
    let v ← standard v
    return (.text name, v) :: (← standardFields rest)

end

/-- Any value as content, if it can be brought into a standard form. -/
def Content.ofAny (status : Nat) (v : Value) : Except Failure Content := do
  Content.ofValue status (← standard v)

/-- A remark as content. -/
def Content.remark (status : Nat) (detail : String) : Content :=
  ⟨status, .json ("\x7b\"detail\":" ++ Json.quote detail ++ "\x7d")⟩

end HouseholdAccess.Http
