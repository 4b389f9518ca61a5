import HouseholdAccess.Proofs.Value.Equality

/-!
# How records are presented

The same fields can be presented as an object, as a record that declares its fields or as
one that answers for each field name (`Value.Shape`). What a path leads to is the same in
all of them (`Value.resolve_present`), with one exception: of a record that declares its
fields, and a reader of its own among them that is not null, no field can be read.

`SameUnless` is how such a comparison with exceptions is said: two computations that give
the same answer, the same failure included, unless the second one fails in one of some
given ways. It is kept by putting computations together (`SameUnless.bind`).
-/

namespace HouseholdAccess

/-- The second answer is the first one, be it a failure, or one of the given failures. -/
inductive SameUnless {ε α : Type} (fails : ε → Prop) : Except ε α → Except ε α → Prop
  | same (p : Except ε α) : SameUnless fails p p
  | failed {p : Except ε α} {e : ε} (h : fails e) : SameUnless fails p (.error e)

namespace SameUnless

variable {ε α β : Type} {fails : ε → Prop} {p q : Except ε α}

/-- Answers that are the same unless nothing holds are the same. -/
theorem eq (h : SameUnless (fun _ => False) p q) : p = q := by
  cases h with
  | same => rfl
  | failed h => exact h.elim

theorem bind {f g : α → Except ε β} (h : SameUnless fails p q)
    (hfg : ∀ a, SameUnless fails (f a) (g a)) : SameUnless fails (p >>= f) (q >>= g) := by
  cases h with
  | failed h => exact .failed h
  | same =>
    cases p with
    | error e => exact .same _
    | ok a => exact hfg a

theorem map (h : SameUnless fails p q) (f : α → β) : SameUnless fails (p.map f) (q.map f) := by
  cases h with
  | failed h => exact .failed h
  | same => exact .same _

theorem mapError {ε' : Type} {g : ε → ε'} {fails' : ε' → Prop} (h : SameUnless fails p q)
    (hfails : ∀ e, fails e → fails' (g e)) :
    SameUnless fails' (p.mapError g) (q.mapError g) := by
  cases h with
  | failed h => exact .failed (hfails _ h)
  | same => exact .same _

end SameUnless

/-- A path has a first segment. -/
theorem Path.exists_segments_eq_cons (path : String) :
    ∃ name rest, Path.segments path = name :: rest := by
  have hfrom (current chars : List Char) :
      ∃ name rest, Path.segmentsFrom current chars = name :: rest := by
    induction chars generalizing current with
    | nil => exact ⟨_, _, rfl⟩
    | cons c chars ih =>
      rw [Path.segmentsFrom]
      split
      · exact ⟨_, _, rfl⟩
      · exact ih (c :: current)
  exact hfrom [] path.toList

namespace Value

/-- How the fields of a record are presented. -/
inductive Shape
  /-- As an object with text keys. -/
  | object
  /-- As a record that declares its fields. -/
  | model
  /-- As a record that answers for each field name. -/
  | readable

/-- The fields in this shape. -/
def Shape.present (fields : List (String × Value)) : Shape → Value
  | object => .record fields
  | model => .model fields
  | readable => .readable fields

/-- The shape keeps these fields from being read: the record has a reader of its own among them,
    which is not null and can read nothing. -/
structure Shape.Refuses (s : Shape) (fields : List (String × Value)) (u : Unreadable) : Prop where
  declares : s = .model
  reader : ∃ reader, fields.lookup readerName = some reader ∧ reader ≠ .null ∧
    u = ⟨reader.kindName⟩

variable {fields : List (String × Value)}

theorem map_find?_eq_lookup (fields : List (String × Value)) (name : String) :
    (fields.find? fun field => field.1 == name).map Prod.snd = fields.lookup name := by
  induction fields with
  | nil => rfl
  | cons field rest ih =>
    rw [List.find?_cons, List.lookup_cons, Bool.beq_comm]
    cases name == field.1 with
    | true => rfl
    | false => exact ih

theorem readField_record (name : String) :
    (record fields).readField name = .ok (fieldOf fields name) := by
  rw [record, readField, field?_ofFields, fieldOf, map_find?_eq_lookup]

/-- Every shape has the same fields, unless it keeps them from being read. -/
theorem readField_present (s : Shape) (fields : List (String × Value)) (name : String) :
    SameUnless (s.Refuses fields) ((record fields).readField name)
      ((s.present fields).readField name) := by
  cases s with
  | object => exact .same _
  | readable =>
    rw [readField_record]
    exact .same _
  | model =>
    have hlookup := map_find?_eq_lookup fields readerName
    rw [readField_record, Shape.present, readField, fieldOfModel]
    split
    · exact .same _
    · exact .same _
    · next hnull hfind =>
      rw [hfind] at hlookup
      exact .failed ⟨rfl, _, hlookup.symm, hnull, rfl⟩

/-- A path leads to the same value in every shape, unless the shape keeps it from being read. -/
theorem resolve_present (s : Shape) (fields : List (String × Value)) (path : String) :
    SameUnless (s.Refuses fields) ((record fields).resolve path)
      ((s.present fields).resolve path) := by
  -- Only the first segment is read in the record itself, and every path has one.
  obtain ⟨name, rest, hpath⟩ := Path.exists_segments_eq_cons path
  rw [resolve, resolve, hpath]
  exact (readField_present s fields name).bind fun field => .same _

end Value

end HouseholdAccess
