import HouseholdAccess.Json.Reader

/-!
# Demands on the interpreter

The service is carried out by an interpreter that does not do everything: calls
are made within each other only up to a limit, some objects cannot be copied, and
integers with too many digits cannot be spelled. What is asked of it is a *demand*
(`Demand`), and one that is not met an *obstacle* (`Obstacle`).

What a part of the service comes to is defined without the interpreter. Beside such
a definition stand the demands that it makes, in the order in which they are made
and up to the place where it stops; the first one that is not met ends it
(`Demand.firstObstacle?`). Of calls that lead no further than to their own end, only
the outermost are counted.
-/

namespace HouseholdAccess

/-- What the interpreter does not do. -/
inductive Obstacle
  /-- Lists, or else objects, of a JSON text are in too many others. -/
  | json (isList : Bool)
  /-- A call is made within too many others. -/
  | calls
  /-- An object of this kind cannot be copied. -/
  | uncopied (kind : String)
  /-- An integer has too many digits to be spelled. -/
  | unspelled
  deriving DecidableEq

/-- The message of an obstacle. Of too many calls it depends on which one was made last; this is the
    message where that was a call of a function that is built in. -/
def Obstacle.message : Obstacle → String
  | .json isList => Json.depthMessage isList
  | .calls => "maximum recursion depth exceeded while calling a Python object"
  | .uncopied kind => "cannot pickle " ++ Quoted.text kind ++ " object"
  | .unspelled =>
    "Exceeds the limit (" ++ toString Json.digitLimit ++ " digits) for integer string " ++
      "conversion; use sys.set_int_max_str_digits() to increase the limit"

/-- How many calls can be made within each other where permissions are looked up. A list or an
    object of a JSON text takes one of them. -/
def callRoom : Nat := Json.depthLimit

/-- Something that is asked of the interpreter. -/
inductive Demand
  /-- To make calls within each other, as many as this. -/
  | calls (depth : Nat)
  /-- To copy an object of another hand. -/
  | copy (o : Foreign)
  /-- To spell an integer. -/
  | spell (n : Int)

namespace Demand

/-- What keeps a demand from being met where there is room for so many calls. -/
def obstacle? (room : Nat) : Demand → Option Obstacle
  | .calls depth => if depth ≤ room then none else some .calls
  | .copy o => if o.copies then none else some (.uncopied o.kind)
  | .spell n => if n.natAbs < Nat.pow 10 Json.digitLimit then none else some .unspelled

/-- What keeps the first of some demands that is not met from being met. -/
def firstObstacle? (room : Nat) (demands : List Demand) : Option Obstacle :=
  demands.findSome? (obstacle? room)

end Demand

namespace Key

mutual

/-- The demands of spelling a key, within `depth` other calls. -/
def spelling (depth : Nat) : Key → List Demand
  | .int n => [.calls (depth + 1), .spell n]
  | .tuple items => .calls (depth + 1) :: spellingAll (depth + 1) items
  | _ => [.calls (depth + 1)]

/-- The demands of spelling a list of keys. -/
def spellingAll (depth : Nat) : List Key → List Demand
  | [] => []
  | key :: rest => key.spelling depth ++ spellingAll depth rest

end

mutual

/-- The demands of copying a key. -/
def copying (depth : Nat) : Key → List Demand
  | .tuple items => .calls (depth + 3) :: copyingAll (depth + 3) items
  | .foreign o => [.calls (depth + 1), .copy o]
  | _ => [.calls (depth + 1)]

/-- The demands of copying a list of keys. -/
def copyingAll (depth : Nat) : List Key → List Demand
  | [] => []
  | key :: rest => key.copying depth ++ copyingAll depth rest

end

end Key

namespace Value

mutual

/-- The demands of copying a value with all that is in it, within `depth` other calls. -/
def copying (depth : Nat) : Value → List Demand
  | .list items => .calls (depth + 2) :: copyingAll (depth + 2) items
  | .tuple items => .calls (depth + 3) :: copyingAll (depth + 3) items
  | .object entries => .calls (depth + 2) :: copyingEntries (depth + 2) entries
  | .model fields | .readable fields => .calls (depth + 4) :: copyingFields (depth + 4) fields
  | .foreign o => [.calls (depth + 1), .copy o]
  | .mapping o entries => .calls (depth + 1) :: .copy o :: copyingEntries (depth + 4) entries
  | _ => [.calls (depth + 1)]

/-- The demands of copying a list of values. -/
def copyingAll (depth : Nat) : List Value → List Demand
  | [] => []
  | v :: rest => v.copying depth ++ copyingAll depth rest

/-- The demands of copying entries. -/
def copyingEntries (depth : Nat) : List (Key × Value) → List Demand
  | [] => []
  | (key, v) :: rest => key.copying depth ++ v.copying depth ++ copyingEntries depth rest

/-- The demands of copying fields. -/
def copyingFields (depth : Nat) : List (String × Value) → List Demand
  | [] => []
  | (_, v) :: rest => v.copying depth ++ copyingFields depth rest

end

end Value

end HouseholdAccess
