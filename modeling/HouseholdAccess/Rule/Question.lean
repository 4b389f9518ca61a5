import HouseholdAccess.Rule.Verdict
import HouseholdAccess.Signature

/-!
# Named questions

Questions that callers ask by name (`Question.ofName`), which keeps the fields
that conditions refer to in one place.
-/

namespace HouseholdAccess

/-- A question with its arguments. -/
inductive Question
  /-- May this user be seen? -/
  | readUser (user : Value)
  /-- May this user be changed? -/
  | updateUser (user : Value)
  /-- May users be made? -/
  | createUser
  /-- May this user be removed? -/
  | deleteUser (user : Value)
  /-- May households be made? -/
  | createHousehold
  /-- May this household be seen? -/
  | readHousehold (household : Value)
  /-- May this household be changed? -/
  | updateHousehold (household : Value)
  /-- May this household be removed? -/
  | deleteHousehold (household : Value)
  /-- May everything be done with this household? -/
  | manageHousehold (household : Value)
  /-- May the members of this household be seen? -/
  | readMember (household : Value)
  /-- May members of this household be made? -/
  | createMember (household : Value)
  /-- May a member of this household be changed, one of the given role if one is given? -/
  | updateMember (household : Value) (role : Value)
  /-- May members of this household be removed? -/
  | deleteMember (household : Value)
  /-- May everything be done with the members of this household? -/
  | manageMember (household : Value)
  /-- May messages in this household be made? -/
  | createMessage (household : Value)
  /-- May messages in this household be seen? -/
  | readMessage (household : Value)
  /-- May everything be done with messages in this household? -/
  | manageMessage (household : Value)
  /-- May a message by this author be changed? -/
  | updateOwnMessage (message household author : Value)
  /-- May a message by this author be removed? -/
  | deleteOwnMessage (message household author : Value)
  /-- May a message by an author not given be changed? -/
  | updateAnyMessage (message household : Value)
  /-- May a message by an author not given be removed? -/
  | deleteAnyMessage (message household : Value)

namespace Question

/-- A subject with the given fields. -/
def subject (fields : List (String × Value)) : Option Value := some (Value.record fields)

/-- The question of a name with its arguments, if there is one. -/
def ofName? (name : String) (arguments : List Value) : Option Question :=
  match name, arguments with
  | "can_read_user", [u] => some (.readUser u)
  | "can_update_user", [u] => some (.updateUser u)
  | "can_create_user", [] => some .createUser
  | "can_delete_user", [u] => some (.deleteUser u)
  | "can_create_household", [] => some .createHousehold
  | "can_read_household", [h] => some (.readHousehold h)
  | "can_update_household", [h] => some (.updateHousehold h)
  | "can_delete_household", [h] => some (.deleteHousehold h)
  | "can_manage_household", [h] => some (.manageHousehold h)
  | "can_read_household_member", [h] => some (.readMember h)
  | "can_create_household_member", [h] => some (.createMember h)
  | "can_update_household_member", [h] => some (.updateMember h .null)
  | "can_update_household_member", [h, r] => some (.updateMember h r)
  | "can_delete_household_member", [h] => some (.deleteMember h)
  | "can_manage_household_member", [h] => some (.manageMember h)
  | "can_create_message", [h] => some (.createMessage h)
  | "can_read_message", [h] => some (.readMessage h)
  | "can_manage_message", [h] => some (.manageMessage h)
  | "can_update_own_message", [m, h, a] => some (.updateOwnMessage m h a)
  | "can_delete_own_message", [m, h, a] => some (.deleteOwnMessage m h a)
  | "can_update_any_message", [m, h] => some (.updateAnyMessage m h)
  | "can_delete_any_message", [m, h] => some (.deleteAnyMessage m h)
  | _, _ => none

/-- What is wrong with a question that is asked by name. -/
inductive NameFault
  /-- No question has the name. -/
  | unknown (name : String)
  /-- The arguments do not fit. -/
  | arguments (fault : Signature.Fault)

/-- Who answers named questions. -/
def answerer : String := "PermissionEvaluator"

/-- The message of a fault. -/
def NameFault.message : NameFault → String
  | .unknown name =>
    Quoted.text answerer ++ " object has no attribute " ++ Quoted.text name
  | .arguments fault => fault.message

/-- What named questions take. -/
def signatures : List Signature :=
  let of (name : String) (needed : List String) (extra : Nat) : Signature :=
    { name := answerer ++ "." ++ name, needed, extra }
  [of "can_read_user" ["target_user_id"] 0, of "can_update_user" ["target_user_id"] 0,
    of "can_create_user" [] 0, of "can_delete_user" ["target_user_id"] 0,
    of "can_create_household" [] 0, of "can_read_household" ["household_id"] 0,
    of "can_update_household" ["household_id"] 0, of "can_delete_household" ["household_id"] 0,
    of "can_manage_household" ["household_id"] 0,
    of "can_read_household_member" ["household_id"] 0,
    of "can_create_household_member" ["household_id"] 0,
    of "can_update_household_member" ["household_id"] 1,
    of "can_delete_household_member" ["household_id"] 0,
    of "can_manage_household_member" ["household_id"] 0,
    of "can_create_message" ["household_id"] 0, of "can_read_message" ["household_id"] 0,
    of "can_manage_message" ["household_id"] 0,
    of "can_update_own_message" ["message_id", "household_id", "author_id"] 0,
    of "can_delete_own_message" ["message_id", "household_id", "author_id"] 0,
    of "can_update_any_message" ["message_id", "household_id"] 0,
    of "can_delete_any_message" ["message_id", "household_id"] 0,
    of "has_any_permission" ["subject_type"] 0]

/-- What is wrong with the name of a question, or with its arguments. -/
def nameFault (name : String) (arguments : List Value) : NameFault :=
  let found := signatures.find? fun s => s.name == answerer ++ "." ++ name
  match found.bind fun s => s.fault? arguments.length with
  | some fault => .arguments fault
  | none => .unknown name

/-- The question of a name with its arguments. -/
def ofName (name : String) (arguments : List Value) : Except NameFault Question :=
  (ofName? name arguments).elim (.error (nameFault name arguments)) .ok

/-- The action, the type of subject and the subject that a question is about. -/
def parts : Question → Action × SubjectType × Option Value
  | readUser user => (.read, .user, subject [("id", user)])
  | updateUser user => (.update, .user, subject [("id", user)])
  | createUser => (.create, .user, none)
  | deleteUser user => (.delete, .user, subject [("id", user)])
  | createHousehold => (.create, .household, none)
  | readHousehold household => (.read, .household, subject [("id", household)])
  | updateHousehold household => (.update, .household, subject [("id", household)])
  | deleteHousehold household => (.delete, .household, subject [("id", household)])
  | manageHousehold household => (.manage, .household, subject [("id", household)])
  | readMember household => (.read, .householdMember, subject [("household_id", household)])
  | createMember household => (.create, .householdMember, subject [("household_id", household)])
  | updateMember household role =>
    let role := if role.isTruthy then [("role", role)] else []
    (.update, .householdMember, subject (("household_id", household) :: role))
  | deleteMember household => (.delete, .householdMember, subject [("household_id", household)])
  | manageMember household => (.manage, .householdMember, subject [("household_id", household)])
  | createMessage household => (.create, .message, subject [("household_id", household)])
  | readMessage household => (.read, .message, subject [("household_id", household)])
  | manageMessage household => (.manage, .message, subject [("household_id", household)])
  | updateOwnMessage message household author =>
    (.update, .message,
      subject [("id", message), ("household_id", household), ("user_id", author)])
  | deleteOwnMessage message household author =>
    (.delete, .message,
      subject [("id", message), ("household_id", household), ("user_id", author)])
  | updateAnyMessage message household =>
    (.update, .message, subject [("id", message), ("household_id", household)])
  | deleteAnyMessage message household =>
    (.delete, .message, subject [("id", message), ("household_id", household)])

end Question

namespace IndexedRules

/-- Who answers questions about an action and a type of subject. -/
def answerer : String := "RuleEngine"

/-- What is wrong with the number of arguments of such a question, if anything is. -/
def argumentFault? (question : String) (given : Nat) : Option Signature.Fault :=
  let needed := ["action", "subject_type"]
  let extra := if question = "rules_for" then 0 else 1
  Signature.fault? { name := answerer ++ "." ++ question, needed, extra } given

/-- Whether the answer to a named question is yes. -/
def ask (x : IndexedRules) (q : Question) : Except Condition.Trouble Bool × IndexedRules :=
  let (action, type, subject) := q.parts
  x.can action type subject

/-- Whether one of the actions is possible on a type of subject, asking until one is. -/
def allowsOne (x : IndexedRules) (type : SubjectType) :
    List Action → Except Condition.Trouble Bool × IndexedRules
  | [] => (.ok false, x)
  | action :: rest =>
    match x.can action type with
    | (.ok false, x) => x.allowsOne type rest
    | answer => answer

/-- Whether some action at all is possible on a type of subject. -/
def allowsAnything (x : IndexedRules) (type : SubjectType) :
    Except Condition.Trouble Bool × IndexedRules :=
  x.allowsOne type Action.all

end IndexedRules

end HouseholdAccess
