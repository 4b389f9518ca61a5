import HouseholdAccess.Value

/-!
# Plain values

Where details and settings are given away, the records in them that declare their
fields become objects with these fields (`Value.plain`), at any depth.
-/

namespace HouseholdAccess

namespace Value

mutual

/-- A value with objects in place of records that declare their fields. -/
def plain : Value → Value
  | .list items => .list (plainAll items)
  | .tuple items => .tuple (plainAll items)
  | .object entries => .object (plainEntries entries)
  | .model fields => .object (plainFields fields)
  | .null => .null
  | .bool b => .bool b
  | .int n => .int n
  | .float x => .float x
  | .text s => .text s
  | .bytes bs => .bytes bs
  | .readable fields => .readable fields
  | .unreadable => .unreadable
  | .absent => .absent
  | .foreign o => .foreign o
  | .mapping o entries => .mapping o entries

/-- Values with objects in place of records. -/
def plainAll : List Value → List Value
  | [] => []
  | v :: rest => plain v :: plainAll rest

/-- Entries with objects in place of records. -/
def plainEntries : List (Key × Value) → List (Key × Value)
  | [] => []
  | (key, v) :: rest => (key, plain v) :: plainEntries rest

/-- Fields as entries with objects in place of records. -/
def plainFields : List (String × Value) → List (Key × Value)
  | [] => []
  | (name, v) :: rest => (.text name, plain v) :: plainFields rest

end

end Value

end HouseholdAccess
