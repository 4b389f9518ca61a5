import HouseholdAccess.Condition.Parsing
import HouseholdAccess.Rule

/-!
# Packed rules

The flat form in which rule sets are stored and sent: a list with one entry per
rule, `[actions, subjects, condition, inverted]`. The tokens are joined by
commas, the condition is its document or `0`, the flag `1` or `0`, and trailing
zeros are left out, so that an entry has two to four items.

* `Packed.pack` and `Packed.unpack` go to that form and back; reading refuses
  what it does not understand (`Packed.Fault`) rather than leaving it out;
* `Packed.unpackWithin` reads with an interpreter, to which there may be an
  obstacle;
* `Packed.dumps` and `Packed.loads` do the same with its JSON text.
-/

namespace HouseholdAccess.Packed

/-! ## Writing -/

/-- The condition of a rule as an item of its entry. A document that constrains nothing is `0`. -/
def packCondition : Option Condition → Value
  | none => .int 0
  | some c =>
    let document := c.toDocument
    if document.isTruthy then document else .int 0

/-- Whether an item is the number zero. -/
def isZero : Value → Bool
  | .int n => n = 0
  | .float x => x.isZero
  | .foreign o => o.number = some 0
  | _ => false

/-- The items without the zeros at their end. -/
def trim (items : List Value) : List Value := (items.reverse.dropWhile isZero).reverse

/-- The entry of a rule. -/
def packRule (r : Rule) : Value :=
  let actions := ",".intercalate (r.actions.map Action.token)
  let subjects := ",".intercalate (r.subjects.map SubjectType.token)
  let flag := Value.int (if r.inverted then 1 else 0)
  .list (.text actions :: .text subjects :: trim [packCondition r.condition, flag])

/-- The packed form of a rule set. -/
def pack (rules : RuleSet) : Value := .list (rules.map packRule)

/-! ## Reading -/

/-- A part of an entry that holds tokens. -/
inductive Part
  /-- The actions. -/
  | action
  /-- The types of subject. -/
  | subject
  deriving DecidableEq

/-- What messages call the part. -/
def Part.label : Part → String
  | .action => "action"
  | .subject => "subject"

/-- What is wrong with an entry. -/
inductive EntryFault
  /-- It is not a list of two to four items. -/
  | shape
  /-- The tokens are not a text, or an empty one. -/
  | noTokens (part : Part)
  /-- Some token of the text is unknown. -/
  | unknownToken (part : Part) (text : String)
  /-- The condition does not follow the grammar. -/
  | condition (fault : Condition.Fault)
  /-- The condition is neither an object nor zero. -/
  | noCondition
  /-- The flag is neither zero nor one. -/
  | flag

/-- What is wrong with a packed form. -/
inductive Fault
  /-- It is not a list. -/
  | notList (v : Value)
  /-- It is not a JSON text. -/
  | notJson
  /-- The entry at a position is wrong. -/
  | entry (index : Nat) (fault : EntryFault)

/-- What is wrong with an entry, in words. -/
def EntryFault.words : EntryFault → String
  | .shape => "expected an array of 2 to 4 items"
  | .noTokens part => part.label ++ " must be a non-empty string"
  | .unknownToken part _ => "unknown " ++ part.label ++ " token"
  | .condition fault => fault.message
  | .noCondition => "conditions must be an object or 0"
  | .flag => "inverted flag must be 0 or 1"

/-- The message of a fault. -/
def Fault.message : Fault → String
  | .notList _ => "Packed rules must be an array"
  | .notJson => "Packed rules are not valid JSON"
  | .entry index fault => "Rule " ++ toString index ++ ": " ++ fault.words

/-- The details of a fault. -/
def Fault.details : Fault → Entries
  | .notList v => Entries.ofFields [("type", .text v.kindName)]
  | .notJson => Entries.ofFields [("error", .text "not a JSON text")]
  | .entry index (.unknownToken _ text) =>
    Entries.ofFields [("index", .int index), ("value", .text text)]
  | .entry index _ => Entries.ofFields [("index", .int index)]

/-- The pieces of a text between commas, with `current` read so far of the first one, in
    reverse. -/
def splitFrom (current : List Char) : List Char → List String
  | [] => [String.ofList current.reverse]
  | c :: rest =>
    if c = ',' then String.ofList current.reverse :: splitFrom [] rest
    else splitFrom (c :: current) rest

/-- The pieces of a text between commas. -/
def splitCommas (s : String) : List String := splitFrom [] s.toList

/-- Reads the tokens of an item. -/
def readTokens {α : Type} (ofToken? : String → Option α) (part : Part) :
    Value → Except EntryFault (List α)
  | .text s =>
    if s.isEmpty then .error (.noTokens part)
    else match (splitCommas s).mapM ofToken? with
      | some tokens => .ok tokens
      | none => .error (.unknownToken part s)
  | _ => .error (.noTokens part)

/-- Reads the condition of an entry. -/
def readCondition (v : Value) : Except EntryFault (Option Condition) :=
  if isZero v then .ok none
  else if v.isObject then (Condition.ofDocument v).mapError .condition
  else .error .noCondition

/-- Whether an item is a number that is worth as much as an integer. -/
def isWorth (n : Int) : Value → Bool
  | .foreign o => o.number = some (n : Rat)
  | v => v.equals (.int n)

/-- Reads the flag of an entry. -/
def readFlag : Value → Except EntryFault Bool
  | .bool b => .ok b
  | v =>
    if isWorth 0 v then .ok false
    else if isWorth 1 v then .ok true
    else .error .flag

/-- Reads the items of an entry. -/
def readEntry (actions subjects condition inverted : Value) : Except EntryFault Rule := do
  let actions ← readTokens Action.ofToken? .action actions
  let subjects ← readTokens SubjectType.ofToken? .subject subjects
  let condition ← readCondition condition
  let inverted ← readFlag inverted
  return { actions, subjects, condition, inverted }

/-- Reads an entry; a missing condition or flag is `0`. -/
def unpackRule : Value → Except EntryFault Rule
  | .list [a, s] => readEntry a s (.int 0) (.int 0)
  | .list [a, s, c] => readEntry a s c (.int 0)
  | .list [a, s, c, i] => readEntry a s c i
  | _ => .error .shape

/-- Reads entries, the first one at the given position. -/
def unpackFrom (index : Nat) : List Value → Except Fault RuleSet
  | [] => .ok []
  | v :: rest => do
    let rule ← (unpackRule v).mapError (.entry index)
    return rule :: (← unpackFrom (index + 1) rest)

/-- Reads a packed form. -/
def unpack : Value → Except Fault RuleSet
  | .list entries => unpackFrom 0 entries
  | v => .error (.notList v)

/-! ## Reading with an interpreter -/

/-- Why no rule set is loaded. -/
inductive LoadFault
  /-- The packed form is wrong. -/
  | malformed (fault : Fault)
  /-- There is an obstacle: most of the time, something is in too many others. -/
  | tooDeep (o : Obstacle)

/-- The demands of reading an entry. Only a condition makes any, and only if the tokens in front of
    it are known. -/
def entryDemands : Value → List Demand
  | .list [a, s, c] | .list [a, s, c, _] =>
    if (readTokens Action.ofToken? .action a).isOk &&
        (readTokens SubjectType.ofToken? .subject s).isOk && !isZero c && c.isObject then
      Condition.demands 4 c
    else []
  | _ => []

/-- The demands of reading entries. -/
def listDemands : List Value → List Demand
  | [] => []
  | v :: rest => entryDemands v ++ if (unpackRule v).isOk then listDemands rest else []

/-- The demands of reading a packed form. -/
def demands : Value → List Demand
  | .list entries => .calls 4 :: listDemands entries
  | _ => [.calls 1]

/-- Reads a packed form where there is room for so many calls. -/
def unpackWithin (room : Nat) (v : Value) : Except LoadFault RuleSet :=
  match Demand.firstObstacle? room (demands v) with
  | some o => .error (.tooDeep o)
  | none => (unpack v).mapError .malformed

/-! ## Text -/

/-- The JSON text of the packed form of a rule set. -/
def dumps (rules : RuleSet) : Except Json.Unwritable String := Json.write Json.compact (pack rules)

/-- Why nothing is loaded where a JSON text cannot be read. -/
def LoadFault.ofText : Json.ReadFault → LoadFault
  | .tooDeep isList => .tooDeep (.json isList)
  | _ => .malformed .notJson

/-- Reads the packed form that a JSON text has been read as. -/
def unpackText (read : Except Json.ReadFault Value) : Except LoadFault RuleSet := do
  let form ← read.mapError .ofText
  unpackWithin callRoom form

/-- Reads a packed form, or the JSON text of one as a text or a byte string. -/
def loads : Value → Except LoadFault RuleSet
  | .text s => unpackText (Json.read s)
  | .bytes bs => unpackText (Json.readBytes bs)
  | v => unpackWithin callRoom v

end HouseholdAccess.Packed
