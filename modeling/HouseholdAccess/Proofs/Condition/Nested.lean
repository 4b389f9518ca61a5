import HouseholdAccess.Proofs.Condition.Grammar
import HouseholdAccess.Proofs.Condition.Meaning

/-!
# Documents below a path

A document of fields may stand at a path of another one. It asks there of what the path
leads to what it would ask by itself: its tests are read as tests at longer paths
(`Condition.readField_under`), and a longer path is resolved part by part, from
what the shorter one leads to (`Condition.FieldTest.holdsOn_under`). So it does not matter
whether a document is matched below a path, or by itself with what is found at the path
(`Condition.meetsOption_nested`), be that a record, a scalar, nothing or absent.

If nothing can be read at the path, as a record on the way is unreadable, every test of
the document fails for this reason, and only a document without tests asks nothing.
-/

namespace HouseholdAccess

theorem Path.join_join (p q r : String) :
    Path.join (Path.join p q) r = Path.join p (Path.join q r) := by
  simp only [Path.join, String.append_assoc]

namespace Condition

variable {path : String}

/-- The test of what stands at a path, as a test of what the path starts from. -/
def FieldTest.under (path : String) (t : FieldTest) : FieldTest :=
  { t with path := Path.join path t.path }

/-- A test below a path is decided on what the path leads to. -/
theorem FieldTest.holdsOn_under (t : FieldTest) (subject : Value) :
    (t.under path).holdsOn subject =
      (subject.resolve path).mapError .unreadable >>= fun found => t.holdsOn found := by
  rw [holdsOn, holdsAt, under, Value.resolve_join]
  cases subject.resolve path <;> rfl

/-! ## Reading below a path -/

/-- Operators at a path are read as tests there, and as the same tests below another path. -/
theorem operators?_under (above : String) {entries : Entries} {cs : List Condition}
    (h : operators? path entries = some cs) : ∃ tests : List FieldTest,
      cs = tests.map FieldTest.toCondition ∧ operators? (Path.join above path) entries =
        some (tests.map fun t => (t.under above).toCondition) := by
  induction entries generalizing cs with
  | nil =>
    cases h
    exact ⟨[], rfl, rfl⟩
  | cons entry rest ih =>
    obtain ⟨op, hop, others, hothers, rfl⟩ := operators?_cons_eq_some_iff.1 h
    obtain ⟨tests, rfl, hrest⟩ := ih hothers
    exact ⟨⟨path, op, entry.2⟩ :: tests, rfl,
      operators?_cons_eq_some_iff.2 ⟨op, hop, _, hrest, rfl⟩⟩

mutual

/-- What stands at a path is read as tests, and as the same tests below another path. -/
theorem readField_under (above path : String) (v : Value) {cs : List Condition}
    (h : readField path v = .ok cs) : ∃ tests : List FieldTest,
      cs = tests.map FieldTest.toCondition ∧ readField (Path.join above path) v =
        .ok (tests.map fun t => (t.under above).toCondition) := by
  cases v with
  | object entries | mapping _ entries =>
    rw [@readField_of_entries? path _ entries rfl] at h
    rw [@readField_of_entries? (Path.join above path) _ entries rfl]
    rcases readField_object_eq_ok_iff.1 h with hoperators | ⟨hoperators, hplain, hnested⟩
    · obtain ⟨tests, rfl, htests⟩ := operators?_under above hoperators
      exact ⟨tests, rfl, readField_object_eq_ok_iff.2 (.inl htests)⟩
    · have hnone : operators? (Path.join above path) entries = none := by
        rw [operators?_eq] at hoperators ⊢
        split at hoperators
        · cases hoperators
        · next hnot => rw [if_neg hnot]
      obtain ⟨tests, rfl, htests⟩ := readNested_under above path entries hnested
      exact ⟨tests, rfl, readField_object_eq_ok_iff.2 (.inr ⟨hnone, hplain, htests⟩)⟩
  | _ =>
    rw [readField_operand rfl] at h
    cases h
    exact ⟨[⟨path, .eq, _⟩], rfl, readField_operand rfl⟩

/-- Fields below a path are read as tests, and as the same tests below another path. -/
theorem readNested_under (above path : String) (entries : Entries) {cs : List Condition}
    (h : readNested path entries = .ok cs) : ∃ tests : List FieldTest,
      cs = tests.map FieldTest.toCondition ∧ readNested (Path.join above path) entries =
        .ok (tests.map fun t => (t.under above).toCondition) := by
  match entries with
  | [] =>
    cases h
    exact ⟨[], rfl, rfl⟩
  | (.text s, v) :: rest =>
    obtain ⟨first, hfirst, others, hothers, rfl⟩ := readNested_cons_eq_ok_iff.1 h
    obtain ⟨tests, rfl, htests⟩ := readField_under above _ v hfirst
    obtain ⟨tests', rfl, htests'⟩ := readNested_under above path rest hothers
    refine ⟨tests ++ tests', List.map_append.symm, readNested_cons_eq_ok_iff.2
      ⟨_, ?_, _, htests', List.map_append⟩⟩
    rw [Path.join_join, htests]

end

/-- A document of fields is read as tests, and as the same tests where it stands at a path. -/
theorem readEntries_under (above : String) {entries : Entries} {cs : List Condition}
    (hfields : ∀ entry ∈ entries, isDollarKey entry.1 = false)
    (h : readEntries entries = .ok cs) : ∃ tests : List FieldTest,
      cs = tests.map FieldTest.toCondition ∧
        readNested above entries = .ok (tests.map fun t => (t.under above).toCondition) := by
  induction entries generalizing cs with
  | nil =>
    cases h
    exact ⟨[], rfl, rfl⟩
  | cons entry rest ih =>
    obtain ⟨key, v⟩ := entry
    rw [List.forall_mem_cons] at hfields
    obtain ⟨hkey, hrest⟩ := hfields
    cases key with
    | text s =>
      change isDollar s = false at hkey
      obtain ⟨-, first, hfirst, others, hothers, rfl⟩ :=
        (readEntries_field_eq_ok_iff (ofToken?_eq_none hkey)).1 h
      obtain ⟨tests, rfl, htests⟩ := readField_under above s v hfirst
      obtain ⟨tests', rfl, htests'⟩ := ih hrest hothers
      exact ⟨tests ++ tests', List.map_append.symm, readNested_cons_eq_ok_iff.2
        ⟨_, htests, _, htests', List.map_append⟩⟩
    | _ => cases h

/-- A document of fields at a path is read as fields nested under it. -/
theorem readField_of_fields {entries : Entries} (hne : entries ≠ [])
    (hfields : ∀ entry ∈ entries, isDollarKey entry.1 = false) :
    readField path (.object entries) = readNested path entries := by
  obtain ⟨⟨key, v⟩, rest, rfl⟩ := List.exists_cons_of_ne_nil hne
  -- An operator starts like one, so that no key is one.
  have hkey : keyOperator? key = none := by
    have hdollar := hfields _ List.mem_cons_self
    cases key with
    | text s =>
      refine Option.eq_none_iff_forall_ne_some.2 fun op hop => ?_
      rw [eq_token_of_find? hop] at hdollar
      cases op <;> cases hdollar
    | _ => rfl
  have hdollars : (((key, v) :: rest).any fun entry => isDollarKey entry.1) = false := by
    rw [List.any_eq_false]
    exact fun entry hentry => by rw [hfields entry hentry]; exact Bool.false_ne_true
  rw [readField, operators?, hkey, Option.bind_eq_bind, Option.bind_none, hdollars]
  rfl

/-! ## Matching below a path -/

/-- Whether a subject meets what a document is read as is whether it meets all of its conditions. -/
theorem exists_ofDocument {entries : Entries} {cs : List Condition}
    (h : readEntries entries = .ok cs) : ∃ c, ofDocument (.object entries) = .ok c ∧
      ∀ subject, meetsOption subject c = meetsAll subject cs := by
  have hall (subject : Value) : (conjunction cs).meets subject = meetsAll subject cs := by
    match cs with
    | [] | _ :: _ :: _ => rfl
    | [c] =>
      rw [conjunction, meetsAll]
      cases c.meets subject with
      | error e => rfl
      | ok b => cases b <;> rfl
  rw [ofDocument, h]
  simp only [bind, Except.bind]
  split
  · next hnone => exact ⟨none, rfl, fun subject => by rw [← hall, hnone]; rfl⟩
  · exact ⟨_, rfl, hall⟩

/-- Tests below a path are met if what the path leads to meets them. -/
theorem meetsAll_under {subject found : Value} (h : subject.resolve path = .ok found)
    (tests : List FieldTest) :
    meetsAll subject (tests.map fun t => (t.under path).toCondition) =
      meetsAll found (tests.map FieldTest.toCondition) := by
  induction tests with
  | nil => rfl
  | cons t rest ih =>
    have hfirst : (t.under path).toCondition.meets subject = t.toCondition.meets found := by
      change (t.under path).holdsOn subject = t.holdsOn found
      rw [FieldTest.holdsOn_under, h]
      rfl
    rw [List.map_cons, List.map_cons, meetsAll, meetsAll, hfirst, ih]

/-- Tests below a path that leads to an unreadable record cannot be decided. -/
theorem meetsAll_under_of_error {subject : Value} {u : Value.Unreadable}
    (h : subject.resolve path = .error u) {tests : List FieldTest} (hne : tests ≠ []) :
    meetsAll subject (tests.map fun t => (t.under path).toCondition) =
      .error (.unreadable u) := by
  obtain ⟨t, rest, rfl⟩ := List.exists_cons_of_ne_nil hne
  have hfirst : (t.under path).toCondition.meets subject = .error (.unreadable u) := by
    change (t.under path).holdsOn subject = _
    rw [FieldTest.holdsOn_under, h]
    rfl
  rw [List.map_cons, meetsAll, hfirst]
  rfl

/-- A joined path leads to where its second part leads from what its first part leads to. So a
    document of fields that stands at a path is met, or cannot be decided, just as it is by itself
    on what the path leads to. If that cannot be read, it cannot be decided, unless it asks
    nothing. -/
theorem meetsOption_nested :
    (∀ (subject : Value) (p q : String), subject.resolve (Path.join p q) =
      subject.resolve p >>= fun found => found.resolve q) ∧
    ∀ (p : String) (entries : Entries) (d : Option Condition), isDollar p = false →
      entries ≠ [] → (∀ entry ∈ entries, isDollarKey entry.1 = false) →
      ofDocument (.object entries) = .ok d →
      ∃ c, ofDocument (.record [(p, .object entries)]) = .ok c ∧ ∀ subject : Value,
        (∀ found, subject.resolve p = .ok found →
          meetsOption subject c = meetsOption found d) ∧
        ∀ u, subject.resolve p = .error u →
          meetsOption subject c = .error (.unreadable u) ∨
            d = none ∧ meetsOption subject c = .ok true := by
  refine ⟨fun subject p q => Value.resolve_join subject p q,
    fun p entries d hp hne hfields hd => ?_⟩
  obtain ⟨cs, hcs, -⟩ := exists_of_bind_eq_ok hd
  obtain ⟨tests, rfl, htests⟩ := readEntries_under p hfields hcs
  -- By itself, the document is read as tests; at the path, as these tests below it.
  obtain ⟨d', hd', hmeets⟩ := exists_ofDocument hcs
  obtain rfl := Except.ok.inj (hd'.symm.trans hd)
  have hnested : readEntries [(.text p, .object entries)] =
      .ok (tests.map fun t => (t.under p).toCondition) := by
    simp only [readEntries, ofToken?_eq_none hp, hp, Bool.false_eq_true, if_false,
      readField_of_fields hne hfields, htests]
    exact congrArg Except.ok (List.append_nil _)
  obtain ⟨c, hc, hmeets'⟩ := exists_ofDocument hnested
  refine ⟨c, hc, fun subject => ⟨fun found hfound => ?_, fun u hu => ?_⟩⟩
  · rw [hmeets, hmeets', meetsAll_under hfound]
  · rw [hmeets']
    cases tests with
    | nil =>
      refine .inr ⟨?_, rfl⟩
      rw [ofDocument, hcs] at hd'
      exact (Except.ok.inj hd').symm
    | cons t rest => exact .inl (meetsAll_under_of_error hu (List.cons_ne_nil t rest))

/-- A document of fields, one of which has a field of its own. -/
def houseFields : Entries :=
  .ofFields [("size", .record [("$gt", .int 2)]), ("door", .record [("open", .bool true)])]

/-- What it is read as. -/
def houseCondition : Condition :=
  .all [.field "size" .gt (.int 2), .field "door.open" .eq (.bool true)]

/-- What meets the document meets it at a path, what has nothing at the path does not, as nothing
    that is absent meets it, and what cannot be read there cannot be decided. -/
theorem meetsOption_nested_house :
    let house := Value.record [("size", .int 5), ("door", .model [("open", .bool true)])]
    let keeper := Value.model [(Value.readerName, .int 1)]
    isDollar "home" = false ∧ houseFields ≠ [] ∧
      (∀ entry ∈ houseFields, isDollarKey entry.1 = false) ∧
      ofDocument (.object houseFields) = .ok (some houseCondition) ∧
      ∃ c, ofDocument (.record [("home", .object houseFields)]) = .ok c ∧
        meetsOption (.record [("home", house)]) c = .ok true ∧
        meetsOption (.record []) c = .ok false ∧
        meetsOption keeper c = .error (.unreadable ⟨"int"⟩) := by
  intro house keeper
  have hfields : ∀ entry ∈ houseFields, isDollarKey entry.1 = false := by
    simp [houseFields, Entries.ofFields, isDollarKey, isDollar]
  have hread : ofDocument (.object houseFields) = .ok (some houseCondition) := rfl
  obtain ⟨c, hc, hmeets⟩ := meetsOption_nested.2 "home" houseFields _ rfl
    (List.cons_ne_nil _ _) hfields hread
  refine ⟨rfl, List.cons_ne_nil _ _, hfields, hread, c, hc, ?_, ?_, ?_⟩
  · exact ((hmeets _).1 house rfl).trans (eq_ok_of_toOption (by decide +kernel))
  · exact ((hmeets _).1 .absent rfl).trans (eq_ok_of_toOption (by decide +kernel))
  · exact ((hmeets keeper).2 ⟨"int"⟩ rfl).resolve_right fun h => Option.some_ne_none _ h.1

end Condition

end HouseholdAccess
