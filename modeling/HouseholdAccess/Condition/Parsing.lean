import HouseholdAccess.Condition.Document
import HouseholdAccess.Demand

/-!
# Parsing condition documents

`Condition.ofDocument` says what a document stands for. To parse it is to read it
with an interpreter: each object in another one takes a call or two, each operand is
copied, and of a key that is no text the message gives the spelling. What is refused
then (`Condition.Refusal`) is refused for a fault or for an obstacle, whichever comes
first (`Condition.parse`).
-/

namespace HouseholdAccess.Condition

/-! ## Demands -/

/-- The demands of copying operands. -/
def operandDemands (depth : Nat) (entries : Entries) : List Demand :=
  entries.flatMap fun entry => entry.2.copying depth

mutual

/-- The demands of reading the value at a path, within `depth` other calls. -/
def fieldDemands (depth : Nat) (path : String) : Value → List Demand
  | .object entries | .mapping _ entries =>
    .calls (depth + 1) ::
      match operators? path entries with
      | some _ => operandDemands (depth + 2) entries
      | none =>
        if entries.any fun entry => isDollarKey entry.1 then []
        else nestedDemands (depth + 1) path entries
  | v => .calls (depth + 1) :: v.copying (depth + 1)

/-- The demands of reading fields nested under a path. -/
def nestedDemands (depth : Nat) (path : String) : List (Key × Value) → List Demand
  | [] => []
  | (key, v) :: rest =>
    match key with
    | .text s =>
      fieldDemands depth (Path.join path s) v ++
        if (readField (Path.join path s) v).isOk then nestedDemands depth path rest else []
    | key => key.spelling depth

end

mutual

/-- The demands of reading the entries of a document. -/
def entryDemands (depth : Nat) : List (Key × Value) → List Demand
  | [] => []
  | (key, v) :: rest =>
    match key with
    | .text s =>
      match Combinator.ofToken? s with
      | some combinator =>
        combinatorDemands depth combinator v ++
          if (readCombinator combinator v).isOk then entryDemands depth rest else []
      | none =>
        if isDollar s then []
        else
          fieldDemands depth s v ++ if (readField s v).isOk then entryDemands depth rest else []
    | key => key.spelling depth

/-- The demands of reading a combinator with its value. -/
def combinatorDemands (depth : Nat) (combinator : Combinator) : Value → List Demand
  | .object entries | .mapping _ entries =>
    .calls (depth + 1) ::
      match combinator with
      | .not => .calls (depth + 2) :: entryDemands (depth + 2) entries
      | _ => []
  | .list items | .tuple items =>
    .calls (depth + 1) ::
      match combinator with
      | .not => []
      | _ => itemDemands (depth + 1) combinator items
  | _ => [.calls (depth + 1)]

/-- The demands of reading a list of documents. -/
def itemDemands (depth : Nat) (combinator : Combinator) : List Value → List Demand
  | [] => []
  | item :: rest =>
    documentDemands depth item ++
      if (readItem combinator item).isOk then itemDemands depth combinator rest else []

/-- The demands of reading a document within another one. -/
def documentDemands (depth : Nat) : Value → List Demand
  | .object entries | .mapping _ entries =>
    .calls (depth + 1) :: entryDemands (depth + 1) entries
  | _ => []

end

/-- The demands of parsing a document. -/
def demands (depth : Nat) (v : Value) : List Demand :=
  .calls (depth + 1) :: documentDemands (depth + 1) v

/-! ## Parsing -/

/-- Why a document is refused. -/
inductive Refusal
  /-- It does not follow the grammar. -/
  | fault (f : Fault)
  /-- There is an obstacle to reading it. -/
  | obstacle (o : Obstacle)

/-- The condition that a document stands for, if it constrains anything, where there is room for so
    many calls. -/
def parse (room : Nat) (v : Value) : Except Refusal (Option Condition) :=
  match Demand.firstObstacle? room (demands 0 v) with
  | some o => .error (.obstacle o)
  | none => (ofDocument v).mapError .fault

end HouseholdAccess.Condition
