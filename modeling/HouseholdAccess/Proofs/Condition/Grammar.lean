import HouseholdAccess.Proofs.Condition.Written

/-!
# The grammar of condition documents

Which values are condition documents is said here without reading them: a document
(`Condition.IsDocument`) is an object all of whose entries are clauses
(`Condition.IsClause`), a combinator with what it combines or a field with what
stands at it (`Condition.IsFieldValue`). What stands at a field is anything but an
object, an object of operators with any operands, or an object of fields. Whatever
has entries counts as an object here (`Value.entries?`).

An object is an object of operators only if *all* its keys are operators. So the
empty object is one, and there may be anything in an operand, while an operator
among fields makes an object neither of the two.

The readers accept exactly what the grammar has, each in its part
(`exists_readField_iff`, `exists_readEntries_iff`), and so `Condition.ofDocument`
reads the documents and nothing, and refuses the rest (`Condition.ofDocument_iff`).
-/

namespace HouseholdAccess

/-- What a vocabulary has for a text is written as this text. -/
theorem eq_token_of_find? {α : Type} {token : α → String} {vocabulary : List α} {s : String} {a : α}
    (h : (vocabulary.find? fun a => token a == s) = some a) : s = token a := by
  have htoken := List.find?_some h
  exact (beq_iff_eq.1 htoken).symm

namespace Condition

/-- What may stand at a field. -/
inductive IsFieldValue : Value → Prop
  /-- What is no object is an operand to compare with. -/
  | operand {v : Value} : v.entries? = none → IsFieldValue v
  /-- An object of operators, whatever their operands. -/
  | operators {v : Value} {entries : Entries} : v.entries? = some entries →
    (∀ entry ∈ entries, ∃ op : Operator, entry.1 = .text op.token) → IsFieldValue v
  /-- An object of fields. -/
  | fields {v : Value} {entries : Entries} : v.entries? = some entries →
    (∀ entry ∈ entries, ∃ name, entry.1 = .text name ∧ isDollar name = false) →
    (∀ entry ∈ entries, IsFieldValue entry.2) → IsFieldValue v

mutual

/-- A condition document. -/
inductive IsDocument : Value → Prop
  /-- All entries are clauses. -/
  | object {v : Value} {entries : Entries} : v.entries? = some entries →
    (∀ entry ∈ entries, IsClause entry.1 entry.2) → IsDocument v

/-- An entry of a condition document. -/
inductive IsClause : Key → Value → Prop
  /-- All of some documents. -/
  | and {v : Value} {items : List Value} :
    v = .list items ∨ v = .tuple items →
    (∀ item ∈ items, IsDocument item) → IsClause (.text "$and") v
  /-- Some of some documents. -/
  | or {v : Value} {items : List Value} :
    v = .list items ∨ v = .tuple items →
    (∀ item ∈ items, IsDocument item) → IsClause (.text "$or") v
  /-- Not a document. -/
  | not {v : Value} : IsDocument v → IsClause (.text "$not") v
  /-- What stands at a field. -/
  | field {name : String} {v : Value} :
    isDollar name = false → IsFieldValue v → IsClause (.text name) v

end

/-! ## Fields -/

theorem keyOperator?_eq_some {key : Key} {op : Operator} :
    keyOperator? key = some op ↔ key = .text op.token := by
  cases key with
  | text s =>
    rw [keyOperator?, Key.text.injEq]
    constructor
    · exact eq_token_of_find?
    · rintro rfl
      exact Operator.ofToken?_token op
  | _ => simp [keyOperator?]

theorem exists_operators?_iff (path : String) {entries : Entries} :
    (∃ cs, operators? path entries = some cs) ↔
      ∀ entry ∈ entries, ∃ op : Operator, entry.1 = .text op.token := by
  induction entries with
  | nil => simp [operators?]
  | cons entry rest ih =>
    obtain ⟨key, operand⟩ := entry
    rw [List.forall_mem_cons, ← ih]
    simp only [operators?, Option.bind_eq_bind, Option.bind_eq_some_iff, Option.pure_def,
      Option.some.injEq, keyOperator?_eq_some]
    constructor
    · rintro ⟨_, op, hop, cs, hcs, -⟩
      exact ⟨⟨op, hop⟩, cs, hcs⟩
    · rintro ⟨⟨op, hop⟩, cs, hcs⟩
      exact ⟨_, op, hop, cs, hcs, rfl⟩

mutual

/-- What stands at a field is read if it may stand there. -/
theorem exists_readField_iff (path : String) (v : Value) :
    (∃ cs, readField path v = .ok cs) ↔ IsFieldValue v := by
  cases v with
  | object entries | mapping _ entries =>
    rw [readField]
    cases hops : operators? path entries with
    | some cs =>
      exact iff_of_true ⟨cs, rfl⟩ (.operators rfl ((exists_operators?_iff path).1 ⟨cs, hops⟩))
    | none =>
      have hops : ¬∀ entry ∈ entries, ∃ op : Operator, entry.1 = .text op.token := by
        rw [← exists_operators?_iff path, hops]
        simp
      simp only
      split
      · -- A key that starts like an operator is in no object of fields.
        next hdollar =>
        refine iff_of_false (by simp) fun h => ?_
        obtain ⟨entry, hentry, hdollar⟩ := List.any_eq_true.1 hdollar
        cases h with
        | operand h => cases h
        | operators hentries h =>
          cases hentries
          exact hops h
        | fields hentries hnames _ =>
          cases hentries
          obtain ⟨name, hname, hplain⟩ := hnames entry hentry
          rw [hname, isDollarKey, hplain] at hdollar
          cases hdollar
      · next hdollar =>
        rw [exists_readNested_iff path entries]
        constructor
        · intro h
          refine .fields rfl (fun entry hentry => ?_) fun entry hentry => (h entry hentry).2
          obtain ⟨name, hname⟩ := (h entry hentry).1
          refine ⟨name, hname, Bool.eq_false_iff.2 fun hname' => hdollar ?_⟩
          exact List.any_eq_true.2 ⟨entry, hentry, by rw [hname, isDollarKey, hname']⟩
        · intro h
          cases h with
          | operand h => cases h
          | operators hentries h =>
            cases hentries
            exact absurd h hops
          | fields hentries hnames hvalues =>
            cases hentries
            exact fun entry hentry =>
              ⟨(hnames entry hentry).imp fun _ h => h.1, hvalues entry hentry⟩
  | _ => exact iff_of_true ⟨_, rfl⟩ (.operand rfl)

/-- Fields are read if they all have names and what may stand there. -/
theorem exists_readNested_iff (path : String) (entries : Entries) :
    (∃ cs, readNested path entries = .ok cs) ↔
      ∀ entry ∈ entries, (∃ name, entry.1 = .text name) ∧ IsFieldValue entry.2 := by
  match entries with
  | [] => exact iff_of_true ⟨[], rfl⟩ (List.forall_mem_nil _)
  | (key, v) :: rest =>
    rw [List.forall_mem_cons, ← exists_readNested_iff path rest]
    cases key with
    | text s =>
      rw [← exists_readField_iff (Path.join path s) v, readNested, exists_bind_eq_ok_iff]
      simp only [exists_bind_pure_eq_ok_iff, exists_and_right, Key.text.injEq, exists_eq',
        true_and]
    | _ => exact iff_of_false (by simp [readNested]) (by simp)

end

/-! ## Documents -/

/-- Combinators start like operators, so that none is the name of a field. -/
theorem isDollar_combinator (combinator : Combinator) : isDollar combinator.token = true := by
  cases combinator <;> decide

/-- All combinators but `$not` combine a list of documents. -/
theorem isClause_listed_iff {combinator : Combinator} (hlisted : combinator ≠ .not) {v : Value} :
    IsClause (.text combinator.token) v ↔
      ∃ items, (v = .list items ∨ v = .tuple items) ∧ ∀ item ∈ items, IsDocument item := by
  constructor
  · intro h
    generalize hkey : Key.text combinator.token = key at h
    cases h with
    | and hv hitems => exact ⟨_, hv, hitems⟩
    | or hv hitems => exact ⟨_, hv, hitems⟩
    | not =>
      cases combinator with
      | not => exact absurd rfl hlisted
      | and | or => simp [Combinator.token] at hkey
    | field hplain =>
      cases hkey
      rw [isDollar_combinator] at hplain
      cases hplain
  · rintro ⟨items, hv, hitems⟩
    cases combinator with
    | not => exact absurd rfl hlisted
    | and => exact .and hv hitems
    | or => exact .or hv hitems

/-- `$not` stands before one document. -/
theorem isClause_not_iff {v : Value} : IsClause (.text Combinator.not.token) v ↔ IsDocument v := by
  refine ⟨fun h => ?_, .not⟩
  generalize hkey : Key.text Combinator.not.token = key at h
  cases h with
  | and | or => simp [Combinator.token] at hkey
  | not hdocument => exact hdocument
  | field hplain =>
    cases hkey
    rw [isDollar_combinator] at hplain
    cases hplain

/-- What is no combinator is the name of a field. -/
theorem isClause_field_iff {s : String} (hs : Combinator.ofToken? s = none) {v : Value} :
    IsClause (.text s) v ↔ isDollar s = false ∧ IsFieldValue v := by
  refine ⟨fun h => ?_, fun ⟨hplain, hvalue⟩ => .field hplain hvalue⟩
  cases h with
  | and | or | not => simp [Combinator.ofToken?, Combinator.token] at hs
  | field hplain hvalue => exact ⟨hplain, hvalue⟩

theorem isDocument_iff {v : Value} : IsDocument v ↔
    ∃ entries, v.entries? = some entries ∧ ∀ entry ∈ entries, IsClause entry.1 entry.2 := by
  constructor
  · rintro ⟨hv, hentries⟩
    exact ⟨_, hv, hentries⟩
  · rintro ⟨entries, hv, hentries⟩
    exact .object hv hentries

mutual

/-- The entries of an object are read if they are clauses. -/
theorem exists_readEntries_iff (entries : Entries) :
    (∃ cs, readEntries entries = .ok cs) ↔ ∀ entry ∈ entries, IsClause entry.1 entry.2 := by
  match entries with
  | [] => exact iff_of_true ⟨[], rfl⟩ (List.forall_mem_nil _)
  | (key, v) :: rest =>
    rw [List.forall_mem_cons, ← exists_readEntries_iff rest]
    cases key with
    | text s =>
      rw [readEntries]
      cases hs : Combinator.ofToken? s with
      | some combinator =>
        rw [eq_token_of_find? hs, ← exists_readCombinator_iff combinator v, exists_bind_eq_ok_iff]
        simp only [exists_bind_pure_eq_ok_iff, exists_and_right]
      | none =>
        rw [isClause_field_iff hs, ← exists_readField_iff s v]
        simp only
        split
        · next hdollar => exact iff_of_false (by simp) (by simp [hdollar])
        · next hdollar =>
          rw [exists_bind_eq_ok_iff]
          simp only [exists_bind_pure_eq_ok_iff, exists_and_right, hdollar, true_and]
    | _ =>
      refine iff_of_false (by simp [readEntries]) fun h => ?_
      cases h.1

/-- A combinator is read if it has what it combines. -/
theorem exists_readCombinator_iff (combinator : Combinator) (v : Value) :
    (∃ c, readCombinator combinator v = .ok c) ↔ IsClause (.text combinator.token) v := by
  cases combinator with
  | not =>
    rw [isClause_not_iff, isDocument_iff]
    cases v with
    | object entries | mapping _ entries =>
      simp only [Value.entries?, Option.some.injEq, exists_eq_left', readCombinator,
        exists_bind_pure_eq_ok_iff, exists_readEntries_iff entries]
    | _ => exact iff_of_false (by simp [readCombinator]) (by simp [Value.entries?])
  | and | or =>
    rw [isClause_listed_iff (by decide)]
    cases v with
    | list items | tuple items =>
      simp only [Value.list.injEq, Value.tuple.injEq, reduceCtorEq, or_false, false_or,
        exists_eq_left', readCombinator, exists_bind_pure_eq_ok_iff, exists_readItems_iff _ items]
    | _ => exact iff_of_false (by simp [readCombinator]) (by simp)

theorem exists_readItems_iff (combinator : Combinator) (items : List Value) :
    (∃ cs, readItems combinator items = .ok cs) ↔ ∀ item ∈ items, IsDocument item := by
  match items with
  | [] => exact iff_of_true ⟨[], rfl⟩ (List.forall_mem_nil _)
  | item :: rest =>
    rw [List.forall_mem_cons, ← exists_readItem_iff combinator item,
      ← exists_readItems_iff combinator rest, readItems, exists_bind_eq_ok_iff]
    simp only [exists_bind_pure_eq_ok_iff, exists_and_right]

theorem exists_readItem_iff (combinator : Combinator) (item : Value) :
    (∃ c, readItem combinator item = .ok c) ↔ IsDocument item := by
  rw [isDocument_iff]
  cases item with
  | object entries | mapping _ entries =>
    simp only [Value.entries?, Option.some.injEq, exists_eq_left', readItem,
      exists_bind_pure_eq_ok_iff, exists_readEntries_iff entries]
  | _ => exact iff_of_false (by simp [readItem]) (by simp [Value.entries?])

end

/-- A value is read exactly if it is null or a document, and refused as one that does not follow the
    grammar exactly if it is neither. No path in what is read starts like an operator. -/
theorem ofDocument_iff (v : Value) :
    ((∃ c, ofDocument v = .ok c) ↔ v = .null ∨ IsDocument v) ∧
      ((∃ fault : Fault, ofDocument v = .error fault) ↔ ¬(v = .null ∨ IsDocument v)) ∧
      ∀ c, ofDocument v = .ok (some c) → ∀ t ∈ c.tests, isDollar t.path = false := by
  have hread : (∃ c, ofDocument v = .ok c) ↔ v = .null ∨ IsDocument v := by
    rw [isDocument_iff]
    cases v with
    | null => exact iff_of_true ⟨none, rfl⟩ (.inl rfl)
    | object entries | mapping _ entries =>
      simp only [reduceCtorEq, false_or, Value.entries?, Option.some.injEq, exists_eq_left',
        ← exists_readEntries_iff entries, ofDocument, exists_bind_eq_ok_iff]
      refine exists_congr fun cs => and_iff_left ?_
      split <;> exact ⟨_, rfl⟩
    | _ => exact iff_of_false (by simp [ofDocument]) (by simp [Value.entries?])
  refine ⟨hread, ?_, fun c hc => (isPlain_of_ofDocument hc).1⟩
  rw [← hread]
  cases ofDocument v with
  | ok c => exact iff_of_false (by simp) (by simp)
  | error fault => exact iff_of_true ⟨fault, rfl⟩ (by simp)

end Condition

end HouseholdAccess
