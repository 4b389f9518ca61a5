import HouseholdAccess.Text.Quoted
import HouseholdAccess.Value

/-!
# Field paths

A path names a field inside nested records: its segments, separated by points,
are read one after the other. A segment that is not there makes the whole path
absent.

A record may keep a reader of its own (`Value.readerName`), which then is to read
its fields. No value that a record can keep is able to, so that of such a record
no field can be read (`Value.Unreadable`); only null in this place is no reader.

* `Path.segments` splits a path, and `Path.segments_join` says that joining
  two paths by a point joins their segments;
* `Value.resolve_join` says that a joined path is resolved by resolving the
  second part on what the first part resolves to.
-/

namespace HouseholdAccess

namespace Path

/-- The segments of a path, with `current` read so far of the first one, in reverse. -/
def segmentsFrom (current : List Char) : List Char → List String
  | [] => [String.ofList current.reverse]
  | c :: rest =>
    if c = '.' then String.ofList current.reverse :: segmentsFrom [] rest
    else segmentsFrom (c :: current) rest

/-- The segments of a path. A path without a point is its own only segment. -/
def segments (path : String) : List String := segmentsFrom [] path.toList

/-- Two paths joined by a point. -/
def join (path field : String) : String := path ++ "." ++ field

theorem segmentsFrom_append (current p q : List Char) :
    segmentsFrom current (p ++ '.' :: q) = segmentsFrom current p ++ segmentsFrom [] q := by
  induction p generalizing current with
  | nil => simp [segmentsFrom]
  | cons c rest ih =>
    by_cases h : c = '.'
    · simp [segmentsFrom, h, ih]
    · simp [segmentsFrom, h, ih]

/-- Joining two paths by a point joins their segments. -/
theorem segments_join (p q : String) : segments (join p q) = segments p ++ segments q := by
  simp [segments, join, String.toList_append, segmentsFrom_append]

end Path

namespace Value

/-- The name under which a record keeps its own reader of fields. -/
def readerName : String := "read_field"

/-- What is wrong with a record of which no field can be read: the reader that it keeps is a
    value of this kind, which reads nothing. -/
structure Unreadable where
  /-- The kind of the reader. -/
  kind : String
  deriving DecidableEq

/-- What messages say about such a record. -/
def Unreadable.message (u : Unreadable) : String :=
  Quoted.text u.kind ++ " object is not callable"

/-- The value of a field that a record declares. -/
def fieldOf (fields : List (String × Value)) (name : String) : Value :=
  ((fields.find? fun field => field.1 == name).map Prod.snd).getD .absent

/-- The value of a field that a record declares, if it keeps no reader of its own. -/
def fieldOfModel (fields : List (String × Value)) (name : String) : Except Unreadable Value :=
  match fields.find? fun field => field.1 == readerName with
  | none | some (_, .null) => .ok (fieldOf fields name)
  | some (_, reader) => .error ⟨reader.kindName⟩

/-- The value of a field. Scalars and lists have no fields. -/
def readField (v : Value) (name : String) : Except Unreadable Value :=
  match v with
  | .object entries | .mapping _ entries =>
    .ok ((Entries.field? entries name).getD .absent)
  | .model fields => fieldOfModel fields name
  | .readable fields => .ok (fieldOf fields name)
  | _ => .ok .absent

/-- The value found by reading one field after the other. -/
def readFields (v : Value) : List String → Except Unreadable Value
  | [] => .ok v
  | name :: rest => v.readField name >>= fun field => field.readFields rest

/-- The value that a path leads to. -/
def resolve (v : Value) (path : String) : Except Unreadable Value :=
  v.readFields (Path.segments path)

theorem readFields_append (v : Value) (first second : List String) :
    v.readFields (first ++ second) =
      v.readFields first >>= fun field => field.readFields second := by
  induction first generalizing v with
  | nil => rfl
  | cons name rest ih =>
    simp only [List.cons_append, readFields]
    cases v.readField name with
    | error u => rfl
    | ok field => exact ih field

/-- A joined path is resolved part by part. -/
theorem resolve_join (v : Value) (p q : String) :
    v.resolve (Path.join p q) = v.resolve p >>= fun field => field.resolve q := by
  rw [resolve, Path.segments_join, readFields_append]
  rfl

@[simp] theorem readFields_absent (names : List String) :
    absent.readFields names = .ok absent := by
  induction names with
  | nil => rfl
  | cons name rest ih => exact ih

end Value

end HouseholdAccess
