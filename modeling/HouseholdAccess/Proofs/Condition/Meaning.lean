import HouseholdAccess.Proofs.Condition.Reading
import HouseholdAccess.Proofs.Condition.Truth

/-!
# The meaning of a document

What a condition document asks of a subject can be told from the document itself,
key by key, without reading it as a condition (`Document.holds`): all its entries have
to hold; `$and`, `$or` and `$not` are what their names say; and at a path there is
either an operand, or an object of operators, or an object of fields below that path.

Reading the document first (`Condition.ofDocument`) flattens nested fields, drops
conjunctions of one condition, and finds that some documents ask nothing at all. The
tree that is left means the same (`Condition.meetsOption_ofDocument`).
-/

namespace HouseholdAccess

/-! ## What documents ask -/

namespace Document

/-- Whether what is asked holds of the value that a path leads to. What cannot be decided does
    not. -/
def holdsAt (subject : Value) (path : String) (asks : Value → Except Pattern.Trouble Bool) : Bool :=
  match subject.resolve path with
  | .ok actual => (asks actual).toOption.getD false
  | .error _ => false

mutual

/-- Whether what stands at a path holds of a subject: all operators if there are nothing but
    operators, else all fields below the path; or that the operand is equal. -/
def fieldHolds (subject : Value) (path : String) : Value → Bool
  | .object entries | .mapping _ entries =>
    if entries.all fun entry => (Condition.keyOperator? entry.1).isSome then
      entries.all fun entry =>
        (Condition.keyOperator? entry.1).all fun operator =>
          holdsAt subject path fun actual => operator.holds actual entry.2
    else nestedHolds subject path entries
  | operand => holdsAt subject path fun actual => .ok (actual.equals operand)

/-- Whether what stands at each of the fields below a path holds of a subject. -/
def nestedHolds (subject : Value) (path : String) : List (Key × Value) → Bool
  | [] => true
  | (.text field, v) :: rest =>
    fieldHolds subject (Path.join path field) v && nestedHolds subject path rest
  | _ => false

end

mutual

/-- Whether a document holds of a subject: each of its entries has to. -/
def holds (subject : Value) : Value → Bool
  | .object entries | .mapping _ entries => entriesHold subject entries
  | _ => true

/-- Whether all entries of a document hold of a subject. -/
def entriesHold (subject : Value) : List (Key × Value) → Bool
  | [] => true
  | (.text key, v) :: rest =>
    (match Combinator.ofToken? key with
      | some combinator => combinedHolds subject combinator v
      | none => fieldHolds subject key v) && entriesHold subject rest
  | _ => false

/-- Whether what is combined holds of a subject: all documents of a list, some of them, or not the
    one document. -/
def combinedHolds (subject : Value) (combinator : Combinator) : Value → Bool
  | .list items | .tuple items =>
    match combinator with
    | .and => everyHolds subject items
    | .or => someHolds subject items
    | .not => false
  | .object entries | .mapping _ entries =>
    match combinator with
    | .not => !entriesHold subject entries
    | _ => false
  | _ => false

/-- Whether all documents hold of a subject. -/
def everyHolds (subject : Value) : List Value → Bool
  | [] => true
  | document :: rest => holds subject document && everyHolds subject rest

/-- Whether some document holds of a subject. -/
def someHolds (subject : Value) : List Value → Bool
  | [] => false
  | document :: rest => holds subject document || someHolds subject rest

end

end Document

/-! ## What they are read as -/

namespace Condition

open HouseholdAccess.Document

variable {subject : Value} {path : String}

/-- A condition on a field is met when what is asked holds of the value there. -/
theorem FieldTest.answerOn_eq_holdsAt (t : FieldTest) :
    t.answerOn subject = Document.holdsAt subject t.path fun actual =>
      t.operator.holds actual t.operand := by
  rw [answerOn, holdsOn, Condition.holdsAt, Document.holdsAt]
  cases subject.resolve t.path with
  | error e => rfl
  | ok actual =>
    change (Except.mapError Trouble.pattern
        (t.operator.holds actual t.operand)).toOption.getD false =
      (t.operator.holds actual t.operand).toOption.getD false
    cases t.operator.holds actual t.operand <;> rfl

/-- Operators at a path are read if there is nothing but operators, and mean what they ask. -/
theorem operators?_eq (entries : Entries) :
    operators? path entries =
      if entries.all fun entry => (keyOperator? entry.1).isSome then
        some (entries.filterMap fun entry =>
          (keyOperator? entry.1).map fun operator => .field path operator entry.2)
      else none := by
  induction entries with
  | nil => rfl
  | cons entry rest ih =>
    obtain ⟨key, operand⟩ := entry
    rw [operators?, ih]
    cases hop : keyOperator? key with
    | none => simp [hop]
    | some operator =>
      by_cases hrest : rest.all fun entry => (keyOperator? entry.1).isSome
      · simp [hop, hrest]
      · simp [hop, hrest]

theorem truthOfAll_operators (entries : Entries) :
    truthOfAll (FieldTest.answerOn subject) (entries.filterMap fun entry =>
        (keyOperator? entry.1).map fun operator => .field path operator entry.2) =
      entries.all fun entry => (keyOperator? entry.1).all fun operator =>
        Document.holdsAt subject path fun actual => operator.holds actual entry.2 := by
  induction entries with
  | nil => rfl
  | cons entry rest ih =>
    rw [List.all_cons, ← ih, List.filterMap_cons]
    cases keyOperator? entry.1 with
    | none => rfl
    | some operator =>
      change (FieldTest.answerOn subject ⟨path, operator, entry.2⟩ && _) = _
      rw [FieldTest.answerOn_eq_holdsAt]
      rfl

mutual

/-- What stands at a path is read as conditions that mean the same. -/
theorem truthOfAll_of_readField (path : String) (v : Value) {cs : List Condition}
    (h : readField path v = .ok cs) :
    truthOfAll (FieldTest.answerOn subject) cs = fieldHolds subject path v := by
  cases v with
  | object entries | mapping _ entries =>
    rw [readField_of_entries? rfl, readField_object_eq_ok_iff, operators?_eq] at h
    rw [fieldHolds]
    -- Both sides ask the same question of the keys.
    by_cases hoperators : entries.all fun entry => (keyOperator? entry.1).isSome
    · rw [if_pos hoperators] at h ⊢
      obtain rfl := Option.some.inj (h.resolve_right fun h => nomatch h.1)
      exact truthOfAll_operators entries
    · rw [if_neg hoperators] at h ⊢
      exact truthOfAll_of_readNested path entries (h.resolve_left nofun).2.2
  | _ =>
    rw [readField_operand rfl] at h
    cases h
    rw [truthOfAll, truth, truthOfAll, Bool.and_true, FieldTest.answerOn_eq_holdsAt, fieldHolds]
    · rfl
    all_goals nofun

/-- Fields below a path are read as conditions that mean the same. -/
theorem truthOfAll_of_readNested (path : String) (entries : Entries) {cs : List Condition}
    (h : readNested path entries = .ok cs) :
    truthOfAll (FieldTest.answerOn subject) cs = nestedHolds subject path entries := by
  match entries with
  | [] =>
    cases h
    rfl
  | (.text s, v) :: rest =>
    obtain ⟨first, hfirst, others, hothers, rfl⟩ := readNested_cons_eq_ok_iff.1 h
    rw [truthOfAll_append, nestedHolds, truthOfAll_of_readField _ v hfirst,
      truthOfAll_of_readNested path rest hothers]

end

mutual

/-- The entries of a document are read as conditions that mean the same. -/
theorem truthOfAll_of_readEntries (entries : Entries) {cs : List Condition}
    (h : readEntries entries = .ok cs) :
    truthOfAll (FieldTest.answerOn subject) cs = entriesHold subject entries := by
  match entries with
  | [] =>
    cases h
    rfl
  | (.text key, v) :: rest =>
    rw [entriesHold]
    cases hkey : Combinator.ofToken? key with
    | some combinator =>
      obtain ⟨first, hfirst, others, hothers, rfl⟩ := (readEntries_combinator_eq_ok_iff hkey).1 h
      rw [truthOfAll, truth_of_readCombinator combinator v hfirst,
        truthOfAll_of_readEntries rest hothers]
    | none =>
      obtain ⟨-, first, hfirst, others, hothers, rfl⟩ := (readEntries_field_eq_ok_iff hkey).1 h
      rw [truthOfAll_append, truthOfAll_of_readField key v hfirst,
        truthOfAll_of_readEntries rest hothers]

/-- A combinator with what it combines is read as a condition that means the same. -/
theorem truth_of_readCombinator (combinator : Combinator) (v : Value) {c : Condition}
    (h : readCombinator combinator v = .ok c) :
    c.truth (FieldTest.answerOn subject) = combinedHolds subject combinator v := by
  match combinator, v with
  | .not, .object entries | .not, .mapping _ entries =>
    rw [readCombinator] at h
    obtain ⟨cs, hcs, h⟩ := exists_of_bind_eq_ok h
    cases h
    rw [truth, truth_conjunction, truthOfAll_of_readEntries entries hcs]
    rfl
  | .and, .list items | .and, .tuple items =>
    rw [readCombinator] at h
    obtain ⟨cs, hcs, h⟩ := exists_of_bind_eq_ok h
    cases h
    rw [truth, (truth_of_readItems .and items hcs).1]
    rfl
  | .or, .list items | .or, .tuple items =>
    rw [readCombinator] at h
    obtain ⟨cs, hcs, h⟩ := exists_of_bind_eq_ok h
    cases h
    rw [truth, (truth_of_readItems .or items hcs).2]
    rfl

/-- Documents of a list are read as conditions that mean the same, one by one. -/
theorem truth_of_readItems (combinator : Combinator) (items : List Value) {cs : List Condition}
    (h : readItems combinator items = .ok cs) :
    truthOfAll (FieldTest.answerOn subject) cs = everyHolds subject items ∧
      truthOfAny (FieldTest.answerOn subject) cs = someHolds subject items := by
  match items with
  | [] =>
    cases h
    exact ⟨rfl, rfl⟩
  | item :: rest =>
    obtain ⟨first, hfirst, others, hothers, rfl⟩ := readItems_cons_eq_ok_iff.1 h
    -- Conjunction and disjunction go through the list alike.
    have hitem := truth_of_readItem combinator item hfirst
    obtain ⟨hevery, hsome⟩ := truth_of_readItems combinator rest hothers
    exact ⟨by rw [truthOfAll, everyHolds, hitem, hevery],
      by rw [truthOfAny, someHolds, hitem, hsome]⟩

/-- A document in a list is read as a condition that means the same. -/
theorem truth_of_readItem (combinator : Combinator) (item : Value) {c : Condition}
    (h : readItem combinator item = .ok c) :
    c.truth (FieldTest.answerOn subject) = holds subject item := by
  match item with
  | .object entries | .mapping _ entries =>
    rw [readItem_of_entries? rfl] at h
    obtain ⟨cs, hcs, rfl⟩ := readItem_object_eq_ok_iff.1 h
    rw [truth_conjunction, truthOfAll_of_readEntries entries hcs]
    rfl

end

/-- What a subject is asked by a document is read as a condition that comes to the same. -/
theorem truth_of_ofDocument {document : Value} {c : Option Condition}
    (hread : ofDocument document = .ok c) :
    Document.holds subject document = c.all (truth (FieldTest.answerOn subject)) := by
  match document with
  | .null =>
    cases hread
    rfl
  | .object entries | .mapping _ entries =>
    rw [ofDocument] at hread
    obtain ⟨cs, hcs, hread⟩ := exists_of_bind_eq_ok hread
    rw [Document.holds, ← truthOfAll_of_readEntries entries hcs, ← truth_conjunction]
    split at hread
    · -- A document that asks nothing comes to no condition at all.
      next hnone =>
      cases hread
      rw [hnone]
      rfl
    · cases hread
      rfl

/-- Where the tests of a document can be decided, whether a subject meets what the document is read
    as is what the document means; and if not all of them can, it is never anything else. -/
theorem meetsOption_ofDocument {document : Value} {c : Option Condition}
    (hread : ofDocument document = .ok c) :
    ((∀ condition ∈ c, condition.DecidedOn subject) →
        meetsOption subject c = .ok (Document.holds subject document)) ∧
      ∀ b, meetsOption subject c = .ok b → b = Document.holds subject document := by
  rw [truth_of_ofDocument hread]
  cases c with
  | none => exact ⟨fun _ => rfl, fun b hb => (Except.ok.inj hb).symm⟩
  | some condition =>
    refine ⟨fun hdecided => (hdecided condition rfl).meets_eq, fun b hb => ?_⟩
    exact (truth_of_meets condition (fun _ _ _ => FieldTest.answerOn_eq) hb).symm

/-- A document with fields below a field, and with parts that ask nothing. -/
def nestedDocument : Value :=
  .record [("home", .record [("size", .record [("$gt", .int 2), ("$lt", .int 9)]),
      ("open", .record [])]),
    ("$and", .list [.record [], .record [("$not", .record [("name", .text "a")])]])]

/-- What it is read as. -/
def nestedCondition : Condition :=
  .all [.field "home.size" .gt (.int 2), .field "home.size" .lt (.int 9),
    .all [.all [], .not (.field "name" .eq (.text "a"))]]

/-- A subject with these fields. -/
def nestedSubject : Value := .record [("home", .record [("size", .int 5)]), ("name", .text "b")]

theorem ofDocument_nestedDocument : ofDocument nestedDocument = .ok (some nestedCondition) := rfl

theorem decidedOn_nestedSubject : nestedCondition.DecidedOn nestedSubject := by
  intro t ht
  simp only [nestedCondition, tests, testsOf, List.append_nil, List.nil_append, List.cons_append,
    List.mem_cons, List.not_mem_nil, or_false] at ht
  rcases ht with rfl | rfl | rfl
  · exact ⟨true, rfl⟩
  · exact ⟨true, rfl⟩
  · exact ⟨false, rfl⟩

/-- The subject meets what the document is read as, as the document holds of it. -/
theorem meetsOption_nestedDocument :
    ofDocument nestedDocument = .ok (some nestedCondition) ∧
      nestedCondition.DecidedOn nestedSubject ∧
      meetsOption nestedSubject (some nestedCondition) = .ok true := by
  refine ⟨ofDocument_nestedDocument, decidedOn_nestedSubject, ?_⟩
  have hmeans := (@meetsOption_ofDocument nestedSubject _ _ ofDocument_nestedDocument).1
    fun condition hcondition => (Option.some.inj hcondition) ▸ decidedOn_nestedSubject
  rw [hmeans]
  rfl

end Condition

end HouseholdAccess
