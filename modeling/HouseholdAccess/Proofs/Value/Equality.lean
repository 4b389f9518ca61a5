import HouseholdAccess.Proofs.Value.Order
import Mathlib.Data.List.Nodup
import Mathlib.Logic.Relation

/-!
# Equal values

A value is a scalar, or it has *parts*: the items of a list or of a tuple stand at
their numbers, the values of an object at their names (`Value.part?`). So what stands
somewhere inside a value is found along a path of places (`Value.partAt?`).

Two values are *alike* (`Value.Alike`) if they are the same scalar, where numbers go by
their place on the number line, or if they are both sequences or both objects and have
parts at the same places, which are alike in turn. Nothing is said of the order of
entries here, nor of what kind of sequence it is. Equality of data decides just that
(`Value.equals_iff_alike`), so that its laws are those of a relation between trees
(`Value.equals_lawfully`). Only the number that is none is alike to nothing.
-/

namespace HouseholdAccess.Value

/-! ## Kinds, scalars and parts -/

/-- The kinds that equality keeps apart. -/
inductive Kind
  | nothing
  | truth
  | number
  | text
  | sequence
  | object
  /-- What is no data. -/
  | other
  deriving DecidableEq

/-- The kind of a value. Tuples are of one kind with lists. -/
def kind : Value → Kind
  | .null => .nothing
  | .bool _ => .truth
  | .int _ | .float _ => .number
  | .text _ => .text
  | .list _ | .tuple _ => .sequence
  | .object _ => .object
  | _ => .other

/-- What a scalar is told from others by. -/
inductive Scalar
  | nothing
  | truth (b : Bool)
  | number (x : Extended)
  | text (s : String)

/-- The kind of a scalar. -/
def Scalar.kind : Scalar → Kind
  | .nothing => .nothing
  | .truth _ => .truth
  | .number _ => .number
  | .text _ => .text

/-- What a value is told from others by, if it is a scalar that can be. -/
def scalar? : Value → Option Scalar
  | .null => some .nothing
  | .bool b => some (.truth b)
  | .text s => some (.text s)
  | v => v.toExtended?.map .number

/-- Where a part of a value stands. -/
inductive Place
  /-- At a number, in a list or in a tuple. -/
  | item (i : Nat)
  /-- At a name, in an object. -/
  | entry (name : String)

/-- The part of a value at a place. -/
def part? : Value → Place → Option Value
  | .list items, .item i | .tuple items, .item i => items[i]?
  | .object entries, .entry name => Entries.field? entries name
  | _, _ => none

/-- What stands inside a value at the end of a path. -/
def partAt? (v : Value) : List Place → Option Value
  | [] => some v
  | place :: rest => (v.part? place).bind (·.partAt? rest)

/-- The value is a sequence or an object. -/
def IsCompound (v : Value) : Prop := v.kind = .sequence ∨ v.kind = .object

/-- Data: what is built from null, truth values, numbers and texts by lists, tuples and objects with
    names of their own for their entries. -/
inductive IsData : Value → Prop
  | null : IsData .null
  | bool (b : Bool) : IsData (.bool b)
  | int (n : Int) : IsData (.int n)
  | float (x : Binary64) : IsData (.float x)
  | text (s : String) : IsData (.text s)
  | list {items : List Value} : (∀ v ∈ items, IsData v) → IsData (.list items)
  | tuple {items : List Value} : (∀ v ∈ items, IsData v) → IsData (.tuple items)
  | object {entries : Entries} {fields : List (String × Value)} :
    entries = Entries.ofFields fields → (fields.map Prod.fst).Nodup →
      (∀ field ∈ fields, IsData field.2) → IsData (.object entries)

/-- Two values are the same scalar, or compounds of one kind with parts at the same places, which
    are alike. -/
inductive Alike : Value → Value → Prop
  | scalar {a b : Value} {x : Scalar} : a.scalar? = some x → b.scalar? = some x → Alike a b
  | compound {a b : Value} : a.IsCompound → a.kind = b.kind →
    (∀ place, (a.part? place).isSome = (b.part? place).isSome) →
    (∀ place x y, a.part? place = some x → b.part? place = some y → Alike x y) → Alike a b

variable {a b c v : Value} {x : Scalar} {fields : List (String × Value)} {path : List Place}

theorem IsCompound.of_kind_eq (h : a.IsCompound) (hkind : a.kind = b.kind) : b.IsCompound := by
  rwa [IsCompound, ← hkind]

/-- A scalar is of its kind. -/
theorem kind_of_scalar? (h : a.scalar? = some x) : a.kind = x.kind := by
  cases a with
  | null | bool | text | int =>
    cases h
    rfl
  | float y =>
    rw [scalar?] at h
    · obtain ⟨x, -, rfl⟩ := Option.map_eq_some_iff.1 h
      rfl
    all_goals nofun
  | _ => cases h

theorem scalar?_eq_none_of_isCompound (h : a.IsCompound) : a.scalar? = none := by
  cases a with
  | list | tuple | object => rfl
  | _ => rcases h with h | h <;> cases h

theorem scalar?_eq_none_iff (ha : a.IsData) :
    a.scalar? = none ↔ a.IsCompound ∨ a = .float .nan := by
  cases ha with
  | float x =>
    cases x <;> simp [scalar?, toExtended?, Binary64.toExtended?, Binary64.toRat?, IsCompound, kind]
  | _ => simp [scalar?, toExtended?, IsCompound, kind]

/-! ## Laws of likeness -/

section Rel

variable {r : Value → Value → Prop} {o o' : Option Value}

theorem isSome_eq_of_rel (h : Option.Rel r o o') : o.isSome = o'.isSome := by
  cases h <;> rfl

theorem exists_of_rel {y : Value} (h : Option.Rel r o (some y)) : ∃ x, o = some x ∧ r x y := by
  cases h with
  | some h => exact ⟨_, rfl, h⟩

theorem rel_symm (hr : ∀ x y, r x y → r y x) (h : Option.Rel r o o') : Option.Rel r o' o := by
  cases h with
  | some h => exact .some (hr _ _ h)
  | none => exact .none

theorem rel_refl (hr : ∀ x, r x x) (o : Option Value) : Option.Rel r o o := by
  cases o with
  | some x => exact .some (hr x)
  | none => exact .none

end Rel

namespace Alike

theorem kind_eq (h : Alike a b) : a.kind = b.kind := by
  cases h with
  | scalar ha hb => rw [kind_of_scalar? ha, kind_of_scalar? hb]
  | compound _ hkind _ _ => exact hkind

theorem symm (h : Alike a b) : Alike b a := by
  induction h with
  | scalar ha hb => exact .scalar hb ha
  | @compound a b hcompound hkind hplaces _ ih =>
    exact .compound (hcompound.of_kind_eq hkind) hkind.symm (fun place => (hplaces place).symm)
      fun place x y hx hy => ih place y x hy hx

theorem trans (hab : Alike a b) (hbc : Alike b c) : Alike a c := by
  induction hab generalizing c with
  | scalar ha hb =>
    cases hbc with
    | scalar hb' hc =>
      obtain rfl := Option.some.inj (hb.symm.trans hb')
      exact .scalar ha hc
    | compound hcompound _ _ _ =>
      rw [scalar?_eq_none_of_isCompound hcompound] at hb
      cases hb
  | @compound a b hcompound hkind hplaces _ ih =>
    cases hbc with
    | scalar hb _ =>
      rw [scalar?_eq_none_of_isCompound (hcompound.of_kind_eq hkind)] at hb
      cases hb
    | compound _ hkind' hplaces' hparts' =>
      refine .compound hcompound (hkind.trans hkind')
        (fun place => (hplaces place).trans (hplaces' place)) fun place x z hx hz => ?_
      -- What stands at a place in both has something between them.
      obtain ⟨y, hy⟩ := Option.isSome_iff_exists.1 ((hplaces place).symm.trans (by rw [hx]; rfl))
      exact ih place x y hx hy (hparts' place y z hy hz)

/-- Along every path, both have something that is alike, or neither has anything. -/
theorem partAt? (h : Alike a b) (path : List Place) :
    (a.partAt? path).isSome = (b.partAt? path).isSome ∧
      ∀ x y, a.partAt? path = some x → b.partAt? path = some y → Alike x y := by
  induction path generalizing a b with
  | nil =>
    refine ⟨rfl, fun x y hx hy => ?_⟩
    cases hx
    cases hy
    exact h
  | cons place rest ih =>
    have hparts : (a.part? place).isSome = (b.part? place).isSome ∧
        ∀ x y, a.part? place = some x → b.part? place = some y → Alike x y := by
      cases h with
      | scalar ha hb =>
        -- Scalars have no parts.
        have hnone {v : Value} {x : Scalar} (hv : v.scalar? = some x) : v.part? place = none := by
          cases v with
          | list | tuple | object => cases hv
          | _ => rfl
        rw [hnone ha, hnone hb]
        exact ⟨rfl, fun _ _ hx => by cases hx⟩
      | compound _ _ hplaces hparts => exact ⟨hplaces place, hparts place⟩
    obtain ⟨hplace, hparts⟩ := hparts
    simp only [Value.partAt?]
    cases hx : a.part? place with
    | none =>
      rw [hx, Option.isSome_none, eq_comm, Option.isSome_eq_false_iff, Option.isNone_iff_eq_none]
        at hplace
      rw [hplace]
      exact ⟨rfl, fun _ _ hx => by cases hx⟩
    | some x =>
      obtain ⟨y, hy⟩ := Option.isSome_iff_exists.1 (hplace.symm.trans (by rw [hx]; rfl))
      rw [hy]
      exact ih (hparts x y hx hy)

end Alike

/-! ## Objects and their names -/

theorem field?_ofFields (fields : List (String × Value)) (name : String) :
    Entries.field? (Entries.ofFields fields) name = fields.lookup name := by
  induction fields with
  | nil => rfl
  | cons field rest ih =>
    rw [Entries.field?, Entries.ofFields, List.map_cons, List.find?_cons, List.lookup_cons,
      Key.isText, Bool.beq_comm]
    cases name == field.1 with
    | true => rfl
    | false => exact ih

theorem get?_ofFields (fields : List (String × Value)) (name : String) :
    Entries.get? (Entries.ofFields fields) (.text name) = fields.lookup name := by
  induction fields with
  | nil => rfl
  | cons field rest ih =>
    rw [Entries.get?, Entries.ofFields, List.map_cons, List.find?_cons, List.lookup_cons,
      Key.same, Bool.beq_comm]
    cases name == field.1 with
    | true => rfl
    | false => exact ih

/-- At a name stands the field of this name, if names are not used twice. -/
theorem lookup_eq_some_iff (h : (fields.map Prod.fst).Nodup) {name : String} :
    fields.lookup name = some v ↔ (name, v) ∈ fields := by
  induction fields with
  | nil => simp
  | cons field rest ih =>
    rw [List.map_cons, List.nodup_cons] at h
    rw [List.lookup_cons, List.mem_cons]
    cases hname : name == field.1 with
    | true =>
      obtain rfl := beq_iff_eq.1 hname
      have hrest : (field.1, v) ∉ rest := fun hmem => h.1 (List.mem_map.2 ⟨_, hmem, rfl⟩)
      simp [hrest, Prod.ext_iff, eq_comm]
    | false =>
      have hne : (name, v) ≠ field := fun heq => (beq_eq_false_iff_ne.1 hname) (heq ▸ rfl)
      simp [hne, ih h.2]

theorem isSome_lookup_iff {name : String} :
    (fields.lookup name).isSome = true ↔ name ∈ fields.map Prod.fst := by
  rw [List.lookup_isSome_iff, List.mem_map]
  exact exists_congr fun _ => and_congr_right fun _ => beq_iff_eq.trans eq_comm

/-! ## What equality decides -/

theorem keysIn_ofFields_iff {fields fields' : List (String × Value)} :
    keysIn (Entries.ofFields fields) (Entries.ofFields fields') = true ↔
      ∀ name ∈ fields.map Prod.fst, name ∈ fields'.map Prod.fst := by
  simp [keysIn, Entries.ofFields, Key.same]

theorem equalsEach_ofFields_iff {fields fields' : List (String × Value)} :
    equalsEach (Entries.ofFields fields) (Entries.ofFields fields') = true ↔
      ∀ field ∈ fields, ∃ v, fields'.lookup field.1 = some v ∧ field.2.equals v = true := by
  induction fields with
  | nil => simp [Entries.ofFields, equalsEach]
  | cons field rest ih =>
    rw [List.forall_mem_cons, ← ih, Entries.ofFields, List.map_cons, equalsEach, get?_ofFields,
      Bool.and_eq_true]
    refine and_congr_left fun _ => ?_
    cases fields'.lookup field.1 <;> simp

/-- Objects are equal if they have the same names, and equal values at each of them. -/
theorem equals_ofFields_iff {fields fields' : List (String × Value)}
    (h : (fields.map Prod.fst).Nodup) :
    (object (Entries.ofFields fields)).equals (object (Entries.ofFields fields')) = true ↔
      (∀ name, (fields.lookup name).isSome = (fields'.lookup name).isSome) ∧
        ∀ name x y, fields.lookup name = some x → fields'.lookup name = some y →
          x.equals y = true := by
  rw [equals, sameKeys, Bool.and_eq_true, Bool.and_eq_true, keysIn_ofFields_iff,
    keysIn_ofFields_iff, equalsEach_ofFields_iff]
  simp only [← isSome_lookup_iff]
  constructor
  · rintro ⟨⟨hin, hin'⟩, heach⟩
    refine ⟨fun name => Bool.eq_iff_iff.2 ⟨hin name, hin' name⟩, fun name x y hx hy => ?_⟩
    obtain ⟨y', hy', hequals⟩ := heach _ ((lookup_eq_some_iff h).1 hx)
    rwa [Option.some.inj (hy.symm.trans hy')]
  · rintro ⟨hnames, hvalues⟩
    refine ⟨⟨fun name hname => hnames name ▸ hname, fun name hname => (hnames name).symm ▸ hname⟩,
      fun field hfield => ?_⟩
    have hx := (lookup_eq_some_iff h).2 hfield
    obtain ⟨y, hy⟩ := Option.isSome_iff_exists.1 ((hnames field.1).symm.trans (by rw [hx]; rfl))
    exact ⟨y, hy, hvalues _ _ _ hx hy⟩

/-- Sequences are equal if they have items at the same numbers, which are equal. -/
theorem equalsAll_iff {as bs : List Value} :
    equalsAll as bs = true ↔ (∀ i : Nat, (as[i]?).isSome = (bs[i]?).isSome) ∧
      ∀ (i : Nat) x y, as[i]? = some x → bs[i]? = some y → x.equals y = true := by
  induction as generalizing bs with
  | nil =>
    cases bs with
    | nil => simp [equalsAll]
    | cons b bs =>
      refine iff_of_false (by simp [equalsAll]) fun h => ?_
      cases h.1 0
  | cons a as ih =>
    cases bs with
    | nil =>
      refine iff_of_false (by simp [equalsAll]) fun h => ?_
      cases h.1 0
    | cons b bs =>
      rw [equalsAll, Bool.and_eq_true, ih]
      constructor
      · rintro ⟨hab, hplaces, hitems⟩
        refine ⟨fun i => ?_, fun i x y hx hy => ?_⟩
        · cases i with
          | zero => rfl
          | succ i => exact hplaces i
        · cases i with
          | zero =>
            cases hx
            cases hy
            exact hab
          | succ i => exact hitems i x y hx hy
      · rintro ⟨hplaces, hitems⟩
        exact ⟨hitems 0 a b rfl rfl, fun i => hplaces (i + 1), fun i => hitems (i + 1)⟩

/-! ### Sequences -/

theorem kind_eq_sequence_iff : a.kind = .sequence ↔ ∃ items, Operator.items? a = some items := by
  cases a <;> simp [kind, Operator.items?]

theorem part?_of_items? {items : List Value} (h : Operator.items? a = some items) :
    (∀ i, a.part? (.item i) = items[i]?) ∧ ∀ name, a.part? (.entry name) = none := by
  cases a with
  | list | tuple =>
    cases h
    exact ⟨fun _ => rfl, fun _ => rfl⟩
  | _ => cases h

/-- What a sequence equals is a sequence with equal items. -/
theorem equals_of_items? {items : List Value} (h : Operator.items? a = some items) :
    a.equals b = (Operator.items? b).any (equalsAll items) := by
  cases a with
  | list | tuple =>
    cases h
    cases b <;> simp [equals, Operator.items?]
  | _ => cases h

theorem IsData.of_items? {items : List Value} (ha : a.IsData)
    (h : Operator.items? a = some items) : ∀ v ∈ items, v.IsData := by
  cases ha with
  | list hitems | tuple hitems =>
    cases h
    exact hitems
  | _ => cases h

/-- A sequence of which the items are equal to what they are alike to is so itself. -/
theorem equals_iff_alike_of_items? {items : List Value} (ha : Operator.items? a = some items)
    (hitems : ∀ x ∈ items, ∀ y : Value, y.IsData → (x.equals y = true ↔ Alike x y))
    (hb : b.IsData) : a.equals b = true ↔ Alike a b := by
  have hkind : a.kind = .sequence := kind_eq_sequence_iff.2 ⟨items, ha⟩
  rw [equals_of_items? ha]
  cases hitems' : Operator.items? b with
  | none =>
    refine iff_of_false (by simp) fun h => ?_
    obtain ⟨others, hothers⟩ := kind_eq_sequence_iff.1 (h.kind_eq.symm.trans hkind)
    rw [hitems'] at hothers
    cases hothers
  | some items' =>
    have hkind' : b.kind = .sequence := kind_eq_sequence_iff.2 ⟨items', hitems'⟩
    obtain ⟨hitem, hentry⟩ := part?_of_items? ha
    obtain ⟨hitem', hentry'⟩ := part?_of_items? hitems'
    rw [Option.any_some, equalsAll_iff]
    constructor
    · rintro ⟨hplaces, hparts⟩
      refine .compound (.inl hkind) (hkind.trans hkind'.symm) (fun place => ?_)
        fun place x y hx hy => ?_
      · cases place with
        | item i => rw [hitem, hitem', hplaces]
        | entry name => rw [hentry, hentry']
      · cases place with
        | item i =>
          rw [hitem] at hx
          rw [hitem'] at hy
          exact (hitems x (List.mem_of_getElem? hx) y
            (hb.of_items? hitems' y (List.mem_of_getElem? hy))).1 (hparts i x y hx hy)
        | entry name =>
          rw [hentry] at hx
          cases hx
    · intro h
      cases h with
      | scalar hscalar _ =>
        rw [scalar?_eq_none_of_isCompound (.inl hkind)] at hscalar
        cases hscalar
      | compound _ _ hplaces hparts =>
        refine ⟨fun i => by rw [← hitem, ← hitem', hplaces], fun i x y hx hy => ?_⟩
        exact (hitems x (List.mem_of_getElem? hx) y
          (hb.of_items? hitems' y (List.mem_of_getElem? hy))).2
            (hparts (.item i) x y ((hitem i).trans hx) ((hitem' i).trans hy))

/-! ### Scalars -/

theorem scalar?_eq_number_iff {x : Extended} :
    a.scalar? = some (.number x) ↔ a.toExtended? = some x := by
  cases a <;> simp [scalar?, toExtended?]

/-- What a number equals lies at the same place on the number line. -/
theorem equals_iff_of_isNumber (ha : a.isNumber = true) :
    a.equals b = true ↔ ∃ x, a.scalar? = some x ∧ b.scalar? = some x := by
  have hscalar : a.scalar? = a.toExtended?.map .number := by
    cases a with
    | int | float => rfl
    | _ => cases ha
  rw [equals_number ha, sameNumber, hscalar]
  cases a.toExtended? with
  | none => simp
  | some x =>
    simp only [Option.map_some, Option.some.injEq, exists_eq_left', scalar?_eq_number_iff]
    cases b.toExtended? with
    | none => simp
    | some y => rw [beq_iff_eq, Option.some.injEq, eq_comm]

/-- What a scalar equals is the same scalar. -/
theorem equals_iff_scalar (ha : a.IsData) (h : ¬a.IsCompound) :
    a.equals b = true ↔ ∃ x, a.scalar? = some x ∧ b.scalar? = some x := by
  cases ha with
  | null => cases b <;> simp [equals, scalar?, toExtended?]
  | bool p =>
    cases b with
    | bool q => simpa [equals, scalar?] using eq_comm
    | _ => simp [equals, scalar?, toExtended?]
  | text s =>
    cases b with
    | text t => simpa [equals, scalar?] using eq_comm
    | _ => simp [equals, scalar?, toExtended?]
  | int | float => exact equals_iff_of_isNumber rfl
  | list | tuple => exact (h (.inl rfl)).elim
  | object => exact (h (.inr rfl)).elim

theorem alike_iff_scalar (h : ¬a.IsCompound) :
    Alike a b ↔ ∃ x, a.scalar? = some x ∧ b.scalar? = some x := by
  constructor
  · intro hab
    cases hab with
    | scalar ha hb => exact ⟨_, ha, hb⟩
    | compound hcompound _ _ _ => exact (h hcompound).elim
  · rintro ⟨x, ha, hb⟩
    exact .scalar ha hb

/-! ### All data -/

/-- Data are equal exactly if they are alike. -/
theorem equals_iff_alike (ha : a.IsData) (hb : b.IsData) : a.equals b = true ↔ Alike a b := by
  induction ha generalizing b with
  | null | bool | int | float | text =>
    rw [equals_iff_scalar (by constructor) (by simp [IsCompound, kind]),
      alike_iff_scalar (by simp [IsCompound, kind])]
  | list _ ih | tuple _ ih => exact equals_iff_alike_of_items? rfl (fun x hx y hy => ih x hx hy) hb
  | @object _ fields hfields hnames _ ih =>
    obtain rfl := hfields
    cases hb with
    | @object _ fields' hfields' hnames' hdata' =>
      obtain rfl := hfields'
      have hfield {x y : Value} {name : String} (hx : fields.lookup name = some x)
          (hy : fields'.lookup name = some y) : x.equals y = true ↔ Alike x y :=
        ih _ ((lookup_eq_some_iff hnames).1 hx) (hdata' _ ((lookup_eq_some_iff hnames').1 hy))
      rw [equals_ofFields_iff hnames]
      constructor
      · rintro ⟨hplaces, hparts⟩
        refine .compound (.inr rfl) rfl (fun place => ?_) fun place x y hx hy => ?_
        · cases place with
          | item i => rfl
          | entry name => simp only [part?, field?_ofFields, hplaces]
        · cases place with
          | item i => cases hx
          | entry name =>
            rw [part?, field?_ofFields] at hx hy
            exact (hfield hx hy).1 (hparts name x y hx hy)
      · intro h
        cases h with
        | compound _ _ hplaces hparts =>
          simp only [part?] at hplaces hparts
          refine ⟨fun name => ?_, fun name x y hx hy => (hfield hx hy).2 ?_⟩
          · have hplace := hplaces (.entry name)
            simpa only [field?_ofFields] using hplace
          · have hpart := hparts (.entry name) x y
            simp only [field?_ofFields] at hpart
            exact hpart hx hy
        | scalar hscalar _ => cases hscalar
    | _ => exact iff_of_false (by simp [equals]) fun h => by cases h.kind_eq

/-! ## Values that equal themselves -/

/-- What stands nowhere inside a value stands nowhere inside its parts. -/
theorem partAt?_ne_of_part? (h : ∀ path, a.partAt? path ≠ some v) {place : Place} {x : Value}
    (hx : a.part? place = some x) (path : List Place) : x.partAt? path ≠ some v := by
  have hpath := h (place :: path)
  rwa [partAt?, hx] at hpath

/-- Data are alike to themselves unless the number that is none stands somewhere inside. -/
theorem alike_self_iff (ha : a.IsData) :
    Alike a a ↔ ∀ path, a.partAt? path ≠ some (.float .nan) := by
  constructor
  · intro h path hpath
    cases (h.partAt? path).2 _ _ hpath hpath with
    | scalar hscalar _ => cases hscalar
    | compound hcompound _ _ _ => rcases hcompound with h | h <;> cases h
  · intro h
    induction ha with
    | null | bool | text | int => exact .scalar rfl rfl
    | float x =>
      obtain ⟨s, hs⟩ : ∃ s, (float x).scalar? = some s := by
        refine Option.ne_none_iff_exists'.1 fun hnone => ?_
        rcases (scalar?_eq_none_iff (.float x)).1 hnone with hcompound | hnan
        · rcases hcompound with h | h <;> cases h
        · exact h [] (congrArg some hnan)
      exact .scalar hs hs
    | list _ ih | tuple _ ih =>
      refine .compound (.inl rfl) rfl (fun _ => rfl) fun place x y hx hy => ?_
      obtain rfl := Option.some.inj (hx.symm.trans hy)
      cases place with
      | item i => exact ih x (List.mem_of_getElem? hx) (partAt?_ne_of_part? h hx)
      | entry name => cases hx
    | @object _ fields hfields hnames _ ih =>
      refine .compound (.inr rfl) rfl (fun _ => rfl) fun place x y hx hy => ?_
      obtain rfl := Option.some.inj (hx.symm.trans hy)
      cases place with
      | item i => cases hx
      | entry name =>
        have hparts := partAt?_ne_of_part? h hx
        rw [part?, hfields, field?_ofFields, lookup_eq_some_iff hnames] at hx
        exact ih _ hx hparts

/-! ## Rearranging -/

/-- One rearrangement, somewhere inside: a tuple becomes a list with the same items, or an object
    has its entries in another order. -/
inductive Rearranges : Value → Value → Prop
  | untupled (items : List Value) : Rearranges (.tuple items) (.list items)
  | reordered {fields fields' : List (String × Value)} :
    fields.Perm fields' → Rearranges (.record fields) (.record fields')
  | inList {before after : List Value} {v v' : Value} : Rearranges v v' →
    Rearranges (.list (before ++ v :: after)) (.list (before ++ v' :: after))
  | inTuple {before after : List Value} {v v' : Value} : Rearranges v v' →
    Rearranges (.tuple (before ++ v :: after)) (.tuple (before ++ v' :: after))
  | inObject {before after : List (String × Value)} {name : String} {v v' : Value} :
    Rearranges v v' →
      Rearranges (.record (before ++ (name, v) :: after)) (.record (before ++ (name, v') :: after))

theorem isData_list_iff {items : List Value} : (list items).IsData ↔ ∀ v ∈ items, v.IsData :=
  ⟨fun h => by cases h; assumption, .list⟩

theorem isData_tuple_iff {items : List Value} : (tuple items).IsData ↔ ∀ v ∈ items, v.IsData :=
  ⟨fun h => by cases h; assumption, .tuple⟩

theorem isData_record_iff : (record fields).IsData ↔
    (fields.map Prod.fst).Nodup ∧ ∀ field ∈ fields, field.2.IsData := by
  refine ⟨fun h => ?_, fun ⟨hnames, hdata⟩ => .object rfl hnames hdata⟩
  generalize hv : record fields = v at h
  cases h with
  | object hfields hnames hdata =>
    have hinjective :
        Function.Injective fun field : String × Value => (Key.text field.1, field.2) :=
      fun field field' heq => by
        obtain ⟨hname, hvalue⟩ := Prod.ext_iff.1 heq
        exact Prod.ext (Key.text.inj hname) hvalue
    obtain rfl := List.map_injective_iff.2 hinjective ((Value.object.inj hv).trans hfields)
    exact ⟨hnames, hdata⟩
  | _ => cases hv

/-- What is rearranged is data if it was so before. -/
theorem Rearranges.isData_iff {a' : Value} (h : Rearranges a a') : a.IsData ↔ a'.IsData := by
  induction h with
  | untupled items => rw [isData_tuple_iff, isData_list_iff]
  | reordered hperm =>
    rw [isData_record_iff, isData_record_iff, (hperm.map Prod.fst).nodup_iff]
    simp only [hperm.mem_iff]
  | inList _ ih => simp only [isData_list_iff, List.forall_mem_append, List.forall_mem_cons, ih]
  | inTuple _ ih => simp only [isData_tuple_iff, List.forall_mem_append, List.forall_mem_cons, ih]
  | inObject _ ih =>
    simp only [isData_record_iff, List.map_append, List.map_cons, List.forall_mem_append,
      List.forall_mem_cons, ih]

/-- Two values are alike to the same values. -/
def Interchangeable (a a' : Value) : Prop := ∀ b, Alike a b ↔ Alike a' b

theorem Interchangeable.symm {a' : Value} (h : Interchangeable a a') : Interchangeable a' a :=
  fun b => (h b).symm

/-- Compounds of one kind are interchangeable if their parts are. -/
theorem interchangeable_of_parts {a a' : Value} (hcompound : a.IsCompound)
    (hkind : a.kind = a'.kind)
    (hparts : ∀ place, Option.Rel Interchangeable (a.part? place) (a'.part? place)) :
    Interchangeable a a' := by
  have hgoes {a a' : Value} (hcompound : a.IsCompound) (hkind : a.kind = a'.kind)
      (hparts : ∀ place, Option.Rel Interchangeable (a.part? place) (a'.part? place)) {b : Value}
      (h : Alike a b) : Alike a' b := by
    cases h with
    | scalar hscalar _ =>
      rw [scalar?_eq_none_of_isCompound hcompound] at hscalar
      cases hscalar
    | compound _ hkind' hplaces halike =>
      refine .compound (hcompound.of_kind_eq hkind) (hkind.symm.trans hkind') (fun place => ?_)
        fun place x' y hx' hy => ?_
      · rw [← hplaces place, isSome_eq_of_rel (hparts place)]
      · obtain ⟨x, hx, hinterchangeable⟩ := exists_of_rel (hx' ▸ hparts place)
        exact (hinterchangeable y).1 (halike place x y hx hy)
  exact fun b => ⟨hgoes hcompound hkind hparts, hgoes (hcompound.of_kind_eq hkind) hkind.symm
    fun place => rel_symm (fun _ _ => Interchangeable.symm) (hparts place)⟩

/-- Replacing an item replaces it at its number, and no other one. -/
theorem rel_getElem? {r : Value → Value → Prop} (hr : ∀ v, r v v) {v v' : Value} (h : r v v')
    (before after : List Value) (i : Nat) :
    Option.Rel r (before ++ v :: after)[i]? (before ++ v' :: after)[i]? := by
  induction before generalizing i with
  | nil =>
    cases i with
    | zero => exact .some h
    | succ i => exact rel_refl hr _
  | cons w rest ih =>
    cases i with
    | zero => exact .some (hr w)
    | succ i => exact ih i

/-- Replacing the value at a name replaces it at this name, and at no other one. -/
theorem rel_lookup {r : Value → Value → Prop} (hr : ∀ v, r v v) {v v' : Value} (h : r v v')
    (before after : List (String × Value)) (name name' : String) :
    Option.Rel r ((before ++ (name, v) :: after).lookup name')
      ((before ++ (name, v') :: after).lookup name') := by
  induction before with
  | nil =>
    simp only [List.nil_append, List.lookup_cons]
    cases name' == name with
    | true => exact .some h
    | false => exact rel_refl hr _
  | cons field rest ih =>
    obtain ⟨other, w⟩ := field
    simp only [List.cons_append, List.lookup_cons]
    cases name' == other with
    | true => exact .some (hr _)
    | false => exact ih

/-- What is rearranged is interchangeable with what it was before. -/
theorem Rearranges.interchangeable {a' : Value} (h : Rearranges a a') (ha : a.IsData) :
    Interchangeable a a' := by
  have hrefl (v : Value) : Interchangeable v v := fun _ => Iff.rfl
  induction h with
  | untupled items =>
    refine interchangeable_of_parts (.inl rfl) rfl fun place => ?_
    cases place <;> exact rel_refl hrefl _
  | @reordered fields fields' hperm =>
    have hnames := (isData_record_iff.1 ha).1
    have hlookup (name : String) : fields.lookup name = fields'.lookup name :=
      Option.ext fun v => by
        rw [lookup_eq_some_iff hnames, lookup_eq_some_iff ((hperm.map Prod.fst).nodup hnames),
          hperm.mem_iff]
    refine interchangeable_of_parts (.inr rfl) rfl fun place => ?_
    cases place with
    | item i => exact .none
    | entry name =>
      simp only [record, part?, field?_ofFields, hlookup]
      exact rel_refl hrefl _
  | @inList before after v v' _ ih =>
    have hv := ih (isData_list_iff.1 ha v (List.mem_append_right _ List.mem_cons_self))
    refine interchangeable_of_parts (.inl rfl) rfl fun place => ?_
    cases place with
    | item i => exact rel_getElem? hrefl hv before after i
    | entry name => exact .none
  | @inTuple before after v v' _ ih =>
    have hv := ih (isData_tuple_iff.1 ha v (List.mem_append_right _ List.mem_cons_self))
    refine interchangeable_of_parts (.inl rfl) rfl fun place => ?_
    cases place with
    | item i => exact rel_getElem? hrefl hv before after i
    | entry name => exact .none
  | @inObject before after name v v' _ ih =>
    have hv := ih ((isData_record_iff.1 ha).2 _ (List.mem_append_right _ List.mem_cons_self))
    refine interchangeable_of_parts (.inr rfl) rfl fun place => ?_
    cases place with
    | item i => exact .none
    | entry name' =>
      simp only [record, part?, field?_ofFields]
      exact rel_lookup hrefl hv before after name name'

/-- Rearranged any number of times, forth and back. -/
abbrev Rearranged : Value → Value → Prop := Relation.EqvGen Rearranges

theorem Rearranged.interchangeable {a' : Value} (h : Rearranged a a') :
    (a.IsData ↔ a'.IsData) ∧ (a.IsData → Interchangeable a a') := by
  induction h with
  | rel a a' h => exact ⟨h.isData_iff, h.interchangeable⟩
  | refl a => exact ⟨Iff.rfl, fun _ _ => Iff.rfl⟩
  | symm a a' _ ih => exact ⟨ih.1.symm, fun ha => (ih.2 (ih.1.2 ha)).symm⟩
  | trans a a' a'' _ _ ih ih' =>
    exact ⟨ih.1.trans ih'.1, fun ha b => (ih.2 ha b).trans (ih'.2 (ih.1.1 ha) b)⟩

/-! ## The laws of equality -/

/-- Among data, equality is symmetric and transitive, and holds of data with themselves unless the
    number that is none stands somewhere inside. It does not see rearrangements. Equal data have
    something at the ends of the same paths, and what they have there is of one kind: no truth value
    faces a number, and no text anything else. -/
theorem equals_lawfully (ha : a.IsData) (hb : b.IsData) (hc : c.IsData) :
    a.equals b = b.equals a ∧
      (a.equals b = true → b.equals c = true → a.equals c = true) ∧
      (a.equals a = true ↔ ∀ path, a.partAt? path ≠ some (.float .nan)) ∧
      (∀ a' b', Rearranged a a' → Rearranged b b' → a'.equals b' = a.equals b) ∧
      (a.equals b = true → ∀ path, (a.partAt? path).isSome = (b.partAt? path).isSome ∧
        ∀ x y, a.partAt? path = some x → b.partAt? path = some y → x.kind = y.kind) := by
  refine ⟨?_, ?_, ?_, fun a' b' ha' hb' => ?_, fun h path => ?_⟩
  · rw [Bool.eq_iff_iff, equals_iff_alike ha hb, equals_iff_alike hb ha]
    exact ⟨.symm, .symm⟩
  · rw [equals_iff_alike ha hb, equals_iff_alike hb hc, equals_iff_alike ha hc]
    exact .trans
  · rw [equals_iff_alike ha ha, alike_self_iff ha]
  · obtain ⟨hdata, hinterchangeable⟩ := ha'.interchangeable
    obtain ⟨hdata', hinterchangeable'⟩ := hb'.interchangeable
    rw [Bool.eq_iff_iff, equals_iff_alike (hdata.1 ha) (hdata'.1 hb), equals_iff_alike ha hb]
    calc Alike a' b'
      _ ↔ Alike a b' := (hinterchangeable ha b').symm
      _ ↔ Alike b' a := ⟨.symm, .symm⟩
      _ ↔ Alike b a := (hinterchangeable' hb a).symm
      _ ↔ Alike a b := ⟨.symm, .symm⟩
  · obtain ⟨hplaces, hparts⟩ := ((equals_iff_alike ha hb).1 h).partAt? path
    exact ⟨hplaces, fun x y hx hy => (hparts x y hx hy).kind_eq⟩

/-- A tuple with a large integer. -/
def sizesTuple : Value :=
  .record [("sizes", .tuple [.int (2 ^ 53), .text "m"]), ("open", .bool true)]

/-- The same as a list, with the integer as a floating-point number and the names turned around. -/
def sizesList : Value :=
  .record [("open", .bool true), ("sizes", .list [.float (.finite false (2 ^ 52) 1), .text "m"])]

theorem isData_sizes : sizesTuple.IsData ∧ sizesList.IsData := by
  constructor
  · simp [sizesTuple, isData_record_iff, isData_tuple_iff, IsData.int, IsData.text, IsData.bool]
  · simp [sizesList, isData_record_iff, isData_list_iff, IsData.float, IsData.text, IsData.bool]

/-- Turning names around and making a list of a tuple does not change what the value equals, and the
    number that is none keeps a list from equalling itself. -/
theorem equals_lawfully_sizes :
    let turned := Value.record [("open", .bool true), ("sizes", .list [.int (2 ^ 53), .text "m"])]
    let nameless := Value.list [.list [.float .nan]]
    (sizesTuple.IsData ∧ sizesList.IsData ∧ nameless.IsData) ∧
      (sizesTuple.equals sizesList = true ∧ sizesList.equals sizesTuple = true ∧
        sizesTuple.equals sizesTuple = true) ∧
      (Rearranged sizesTuple turned ∧ turned.equals sizesList = true) ∧
      nameless.partAt? [.item 0, .item 0] = some (.float .nan) ∧
        nameless.equals nameless = false := by
  intro turned nameless
  obtain ⟨htuple, hlist⟩ := isData_sizes
  have hnameless : nameless.IsData := by simp [nameless, isData_list_iff, IsData.float]
  obtain ⟨hsymm, -, hself, hrearranged, -⟩ := equals_lawfully htuple hlist hnameless
  have hequals : sizesTuple.equals sizesList = true := by decide +kernel
  have hturned : Rearranged sizesTuple turned := by
    refine .trans _ _ _ (.rel _ _ (.reordered (.swap _ _ []))) (.rel _ _ ?_)
    exact @Rearranges.inObject [_] [] _ _ _ (.untupled _)
  refine ⟨⟨htuple, hlist, hnameless⟩, ⟨hequals, hsymm.symm.trans hequals, ?_⟩,
    ⟨hturned, (hrearranged turned sizesList hturned (.refl _)).trans hequals⟩, rfl, ?_⟩
  · exact (equals_lawfully htuple htuple hlist).2.1 hequals (hsymm.symm.trans hequals)
  · rw [← Bool.not_eq_true, (equals_lawfully hnameless hlist hlist).2.2.1]
    exact fun h => h [.item 0, .item 0] rfl

end HouseholdAccess.Value
