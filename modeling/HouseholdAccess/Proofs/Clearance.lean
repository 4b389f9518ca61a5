import HouseholdAccess.Proofs.Cache.Shape
import HouseholdAccess.Proofs.Independence.Places
import HouseholdAccess.Proofs.Stage.Behaviour

/-!
# Dropping the rule sets of a household

The rule sets of the members of a household are dropped by an errand for each member,
all at once. The caller goes on as soon as one errand has failed, while the others go
on without the caller. On a stage errands only read, and what becomes of those that
nobody waits for any more does not matter there; here it is what matters. A *clearance*
(`Clearance`) keeps all errands until they have ended.

The caller and the errands take turns in any order, and in between any point may begin
to fail or be in order again, so that any errand may be refused what it asks for
(`Clearance.play`). Nobody else is at work.

What an errand has taken out of the cache or wiped off a record is not there any more,
whatever the other errands do (`Clearance.Drops`), as nobody puts anything there. An
errand that has ended has done both, or has been refused something and has failed
(`Clearance.Drops.ended`).
-/

namespace HouseholdAccess

open HouseholdAccess.Flow

/-! ## What is counted -/

theorem Registry.countOf_count (r : Registry) (s s' : Series) :
    (r.count s).countOf s' = if s = s' then r.countOf s' + 1 else r.countOf s' := by
  obtain ⟨service, counts⟩ := r
  change ((addTo s 1 counts).lookup s').getD 0 =
    if s = s' then (counts.lookup s').getD 0 + 1 else (counts.lookup s').getD 0
  have hbeq (t : Series) : (s' == t) = decide (t = s') := by
    rw [Bool.eq_iff_iff, beq_iff_eq, decide_eq_true_iff, eq_comm]
  induction counts with
  | nil => by_cases h : s = s' <;> simp [addTo, List.lookup_cons, hbeq, h]
  | cons c rest ih =>
    obtain ⟨t, n⟩ := c
    rw [addTo]
    by_cases ht : t = s
    · by_cases h : s = s' <;> simp [List.lookup_cons, hbeq, ht, h]
    · rw [if_neg ht, List.lookup_cons, List.lookup_cons, hbeq]
      by_cases hs' : t = s'
      · simp [hs', Ne.symm (hs' ▸ ht)]
      · simp only [hs', decide_false, ih]

/-! ## What is dropped -/

namespace World

/-- Nothing is found of a user whose entry has been taken out, and others find what was there. -/
theorem entryOf_dropEntry_eq (w : World) (v user : Id) :
    (w.dropEntry v).entryOf user =
      if w.cacheName v = w.cacheName user then none else w.entryOf user := by
  rw [entryOf, entryOf, presentEntries_eq, presentEntries_eq]
  change ((w.entries.filter fun e => e.key ≠ w.cacheName v).filter w.presents).find?
    (fun e : CacheEntry => e.key = w.cacheName user) = _
  split
  · next h =>
    rw [List.find?_eq_none]
    intro e he
    have hkey := (List.mem_filter.1 (List.mem_filter.1 he).1).2
    simpa [h] using hkey
  · next h =>
    rw [List.find?_filter, List.find?_filter, List.find?_filter]
    congr 1
    funext e
    by_cases hkey : e.key = w.cacheName user
    · simp [hkey, Ne.symm h]
    · simp [hkey]

/-- Nothing is written on a record that has been wiped, and other records are as they were. -/
theorem formOf_clearForm_eq (w : World) (v user : Id) :
    (w.clearForm v).formOf user =
      if w.storeName v = w.storeName user then none else w.formOf user := by
  rw [formOf, formOf, show (w.clearForm v).storeName user = w.storeName user from rfl,
    show (w.clearForm v).forms = w.forms.filter (fun f => f.1 ≠ w.storeName v) from rfl,
    lookup_filter_forms]
  split_ifs <;> rfl

/-- What dropping the rule set of a user may do to the world, one operation at a time. -/
inductive Loses (user : Id) (w : World) : World → Prop
  /-- Nothing is lost, though points may begin to fail or be in order again. -/
  | nothing (failing : List Outage) : Loses user w { w with failing }
  /-- The entry is taken out. -/
  | entry : Loses user w (w.dropEntry user)
  /-- The record is wiped. -/
  | form : Loses user w (w.clearForm user)

namespace Loses

variable {v user : Id} {w w' : World} (h : w.Loses v w')
include h

theorem kinds : w'.cacheKind = w.cacheKind ∧ w'.storeKind = w.storeKind := by
  cases h <;> exact ⟨rfl, rfl⟩

/-- Entries do not come back. -/
theorem entryOf_eq_none (hnone : w.entryOf user = none) : w'.entryOf user = none := by
  cases h with
  | nothing | form => exact hnone
  | entry => rw [entryOf_dropEntry_eq, hnone, ite_self]

/-- Forms do not come back. -/
theorem formOf_eq_none (hnone : w.formOf user = none) : w'.formOf user = none := by
  cases h with
  | nothing | entry => exact hnone
  | form => rw [formOf_clearForm_eq, hnone, ite_self]

/-- Entries under other names stay. -/
theorem entryOf_eq (hne : w.cacheName v ≠ w.cacheName user) : w'.entryOf user = w.entryOf user := by
  cases h with
  | nothing | form => rfl
  | entry => rw [entryOf_dropEntry_eq, if_neg hne]

/-- Forms under other names stay. -/
theorem formOf_eq (hne : w.storeName v ≠ w.storeName user) : w'.formOf user = w.formOf user := by
  cases h with
  | nothing | entry => rfl
  | form => rw [formOf_clearForm_eq, if_neg hne]

end Loses

theorem cacheName_congr {w w' : World} (h : w'.cacheKind = w.cacheKind) :
    w'.cacheName = w.cacheName := by
  funext id
  rw [cacheName, cacheName, h]

theorem storeName_congr {w w' : World} (h : w'.storeKind = w.storeKind) :
    w'.storeName = w.storeName := by
  funext id
  rw [storeName, storeName, h]

end World

/-! ## Errands that drop rule sets -/

/-- An operation of dropping the rule set of a member. -/
def Operation.IsOfDrop (member : Id) : Operation → Prop
  | .overtake v | .access (.cacheDelete v) | .access (.clear v) => v = member
  | .count series => series = .userInvalidation
  | _ => False

namespace Cache

variable (c : Cache) {member : Id}

theorem only_drop : (c.errand .invalidate member).Only (Operation.IsOfDrop member) := by
  have hovertake : (step (.overtake member)).Only (Operation.IsOfDrop member) := only_step rfl
  have hdelete : (c.kind.delete member).Only (Operation.IsOfDrop member) := c.kind.only_delete rfl
  have hclear : (c.store.clear member).Only (Operation.IsOfDrop member) := c.store.only_clear rfl
  have hcount : (count .userInvalidation).Only (Operation.IsOfDrop member) := only_step rfl
  have hinvalidate : (c.invalidate member).Only (Operation.IsOfDrop member) :=
    hovertake.bind fun _ => hdelete.bind fun _ => hclear.bind fun _ => hcount
  exact hinvalidate.bind fun _ => only_pure _

/-- What an errand has done, and what it has come to. -/
def DropEnds (member : Id) (tr : List Exchange) (r : Except Interruption (List Id)) : Prop :=
  ∃ outcome, Drops member tr outcome ∧ r = outcome.map fun _ => []

theorem keeps_drop : (c.errand .invalidate member).Keeps Exchange.IsSound
    (fun _ => CallerMay member) (DropEnds member) [] := by
  refine Keeps.bind keeps_invalidate ?_ ?_
  · rintro _ _ ⟨part, rfl, hdrops⟩
    exact keeps_pure ⟨_, hdrops, rfl⟩
  · rintro _ _ ⟨part, rfl, hdrops⟩
    exact ⟨_, hdrops, rfl⟩

end Cache

/-- What an operation of dropping the rule set of a member does. -/
inductive Solo.Did (member : Id) (s : Solo) : (op : Operation) → op.Reply → Solo → Prop
  /-- The load under way is overtaken. -/
  | overtook : Did member s (.overtake member) () { s with desk := s.desk.overtake member }
  /-- The entry is taken out of the cache. -/
  | deleted (found : Bool) : Did member s (.access (.cacheDelete member)) (.ok found)
      { s with world := s.world.dropEntry member }
  /-- The record is wiped. -/
  | cleared : Did member s (.access (.clear member)) (.ok ())
      { s with world := s.world.clearForm member }
  /-- It is refused. -/
  | refused (a : Access) (f : Failure) : Did member s (.access a) (.error (.failure f)) s
  /-- It is counted. -/
  | counted : Did member s (.count .userInvalidation) ()
      { s with registry := s.registry.map (·.count .userInvalidation) }

namespace Solo.Did

variable {member : Id} {s s' : Solo} {op : Operation} {reply : op.Reply}
  (h : s.Did member op reply s')
include h

theorem loses : s.world.Loses member s'.world := by
  cases h with
  | deleted => exact .entry
  | cleared => exact .form
  | overtook | refused | counted => exact .nothing s.world.failing

theorem isSound (time : Nat) : Exchange.IsSound ⟨time, {}, op, reply⟩ := by
  cases h with
  | refused a f => exact ⟨f, rfl⟩
  | _ => trivial

/-- An entry that has been taken out is not there. -/
theorem entryOf_eq_none (hop : op = .access (.cacheDelete member)) {time : Nat}
    (heffect : Exchange.tookEffect ⟨time, {}, op, reply⟩ = true) :
    s'.world.entryOf member = none := by
  cases h with
  | deleted => rw [World.entryOf_dropEntry_eq, if_pos rfl]
  | refused => cases heffect
  | _ => cases hop

/-- Nothing is written on a record that has been wiped. -/
theorem formOf_eq_none (hop : op = .access (.clear member)) {time : Nat}
    (heffect : Exchange.tookEffect ⟨time, {}, op, reply⟩ = true) :
    s'.world.formOf member = none := by
  cases h with
  | cleared => rw [World.formOf_clearForm_eq, if_pos rfl]
  | refused => cases heffect
  | _ => cases hop

end Solo.Did

theorem Solo.did_of_plain? {member : Id} {s : Solo} {op : Operation}
    (hop : op.IsOfDrop member) {x : op.Reply × Solo} (hx : s.plain? op = some x) :
    s.Did member op x.1 x.2 := by
  cases op with
  | access a =>
    cases a with
    | cacheDelete v =>
      obtain rfl := hop
      rcases s.plain?_access_cases (.cacheDelete v) with hplain | ⟨f, hplain⟩
      · obtain rfl := Option.some.inj (hplain.symm.trans hx)
        exact .deleted _
      · obtain rfl := Option.some.inj (hplain.symm.trans hx)
        exact .refused _ f
    | clear v =>
      obtain rfl := hop
      rcases s.plain?_access_cases (.clear v) with hplain | ⟨f, hplain⟩
      · obtain rfl := Option.some.inj (hplain.symm.trans hx)
        exact .cleared
      · obtain rfl := Option.some.inj (hplain.symm.trans hx)
        exact .refused _ f
    | _ => exact hop.elim
  | overtake v =>
    obtain rfl := hop
    cases hx
    exact .overtook
  | count series =>
    obtain rfl := hop
    cases hx
    exact .counted
  | _ => exact hop.elim

/-! ## Clearances -/

/-- The dropping of the rule sets of a household. -/
structure Clearance where
  /-- What is met. -/
  place : Solo
  /-- The time. -/
  clock : Nat := 1
  /-- The caller. -/
  caller : Strand (List Id)
  /-- The errands. They go on when the caller does not wait for them any more. -/
  errands : List (Strand (List Id)) := []
  /-- Why the first of them that has failed has done so. -/
  failed : Option Interruption := none

namespace Clearance

/-- A clearance that is begun. -/
def begin (place : Solo) (household : Id) : Clearance where
  place := place
  caller := Strand.start place.cache 0 (place.cache.invalidateHousehold household).run

/-- What the errands have come to, once one has failed or all have ended. -/
def gathered? (t : Clearance) : Option (Except Interruption (List (List Id))) :=
  match t.failed with
  | some e => some (.error e)
  | none => (t.errands.mapM fun e : Strand (List Id) => e.program.result?).map (·.mapM id)

/-- Carries out an operation of the caller. -/
def carry (t : Clearance) : (op : Operation) → Option (op.Reply × Solo)
  | .each .. => t.gathered?.map fun r => (r, t.place)
  | op => t.place.plain? op

/-- Lets the caller do the next operation. The errands that it waits for then are begun. -/
def goCaller? (t : Clearance) : Option Clearance :=
  match t.caller.program with
  | .done _ => none
  | .call op next => (t.carry op).map fun x =>
    { t with
      place := x.2
      clock := t.clock + 1
      caller := t.caller.go t.place.cache ⟨t.clock, {}, op, x.1⟩ (next x.1)
      errands := t.errands ++
        (t.place.cache.errandsOf (next x.1)).map (Strand.start t.place.cache t.clock) }

/-- Lets an errand do the next operation. -/
def goErrand? (t : Clearance) (i : Nat) : Option Clearance := do
  let e ← t.errands[i]?
  match e.program with
  | .done _ => none
  | .call op next =>
    let x ← t.place.plain? op
    return { t with
      place := x.2
      clock := t.clock + 1
      errands := t.errands.set i (e.go t.place.cache ⟨t.clock, {}, op, x.1⟩ (next x.1))
      failed := t.failed <|> ErrandProgram.failure? (next x.1) }

/-- Lets a point fail, or be in order again. -/
def change (t : Clearance) (c : Change) : Clearance :=
  { t with place := { t.place with world := c.apply t.place.world } }

/-- Whose turn it is. -/
inductive Turn
  /-- The caller goes on. -/
  | caller
  /-- An errand goes on. -/
  | errand (i : Nat)
  /-- A point begins to fail. -/
  | fail (p : Point) (f : Failure)
  /-- A point fails no more. -/
  | mend (p : Point)

/-- What happens in a turn, if anything can. -/
def take? (t : Clearance) : Turn → Option Clearance
  | .caller => t.goCaller?
  | .errand i => t.goErrand? i
  | .fail p f => some (t.change (.fail p f))
  | .mend p => some (t.change (.mend p))

/-- What happens in turns, if something can in each of them. -/
def play (t : Clearance) (turns : List Turn) : Option Clearance := turns.foldlM take? t

/-- The names that an exchange tells the members of a household by, if it does. -/
def membersIn? (x : Exchange) : Option (List Id) :=
  match x.op, x.reply with
  | .access (.members _), .ok members => some members
  | _, _ => none

/-- The members, once the caller has been told them. -/
def members? (t : Clearance) : Option (List Id) := t.caller.trace.findSome? membersIn?

/-- The caller and all errands have ended. -/
def IsSettled (t : Clearance) : Prop :=
  t.caller.program.result?.isSome = true ∧ ∀ e ∈ t.errands, e.program.result?.isSome = true

instance : DecidablePred IsSettled := fun _ => inferInstanceAs (Decidable (_ ∧ _))

/-- How often it has been counted that the rule sets of a household have been dropped, if anything
    is counted. -/
def counted (s : Solo) : Option Nat := s.registry.map (·.countOf .householdInvalidation)

/-! ### What errands have done -/

/-- The operation has taken effect. -/
def HasDone (op : Operation) (tr : List Exchange) : Prop :=
  ∃ x ∈ tr, x.op = op ∧ x.tookEffect = true

theorem hasDone_snoc {op : Operation} {tr : List Exchange} {x : Exchange}
    (h : HasDone op (tr ++ [x])) : HasDone op tr ∨ (x.op = op ∧ x.tookEffect = true) := by
  obtain ⟨y, hy, hop⟩ := h
  rcases List.mem_append.1 hy with hy | hy
  · exact .inl ⟨y, hy, hop⟩
  · exact .inr (List.mem_singleton.1 hy ▸ hop)

/-- The errand drops the rule set of the member. What it has taken out or wiped is not there. -/
structure Drops (w : World) (member : Id) (e : Strand (List Id)) : Prop where
  only : e.program.Only (Operation.IsOfDrop member)
  keeps : e.program.Keeps Exchange.IsSound (fun _ => CallerMay member) (Cache.DropEnds member)
    e.trace
  deleted : HasDone (.access (.cacheDelete member)) e.trace → w.entryOf member = none
  cleared : HasDone (.access (.clear member)) e.trace → w.formOf member = none

/-- Nothing has been refused to the errand. -/
def Unrefused (e : Strand (List Id)) : Prop := ∀ x ∈ e.trace, x.tookEffect = true

instance : DecidablePred Unrefused := fun e =>
  inferInstanceAs (Decidable (∀ x ∈ e.trace, _))

theorem drops_start (c : Cache) (w : World) (member : Id) (clock : Nat) :
    Drops w member (Strand.start c clock (c.errand .invalidate member).run) where
  only := c.only_drop
  keeps := c.keeps_drop
  deleted := fun ⟨_, hx, _⟩ => by cases hx
  cleared := fun ⟨_, hx, _⟩ => by cases hx

namespace Drops

variable {w w' : World} {member v : Id} {e : Strand (List Id)}

/-- What other errands do brings nothing back. -/
theorem of_loses (h : Drops w member e) (hw : w.Loses v w') : Drops w' member e where
  only := h.only
  keeps := h.keeps
  deleted := fun hdid => hw.entryOf_eq_none (h.deleted hdid)
  cleared := fun hdid => hw.formOf_eq_none (h.cleared hdid)

theorem go {s s' : Solo} {c : Cache} {op : Operation}
    {next : op.Reply → Program (Except Interruption (List Id))} (h : Drops s.world member e)
    (hprogram : e.program = .call op next) {reply : op.Reply} (hdid : s.Did member op reply s')
    (time : Nat) : Drops s'.world member (e.go c ⟨time, {}, op, reply⟩ (next reply)) := by
  have honly := h.only
  have hkeeps := h.keeps
  rw [hprogram] at honly hkeeps
  have h' := h.of_loses hdid.loses
  refine ⟨honly.2 reply, hkeeps.2 time {} reply (hdid.isSound time), fun hdone => ?_,
    fun hdone => ?_⟩
  · rcases hasDone_snoc hdone with hdone | ⟨hop, heffect⟩
    · exact h'.deleted hdone
    · exact hdid.entryOf_eq_none hop heffect
  · rcases hasDone_snoc hdone with hdone | ⟨hop, heffect⟩
    · exact h'.cleared hdone
    · exact hdid.formOf_eq_none hop heffect

/-- An errand that has ended has dropped the rule set, or has been refused something and has
    failed. -/
theorem ended (h : Drops w member e) {r : Except Interruption (List Id)}
    (hdone : e.program = .done r) :
    (Unrefused e ∧ r = .ok [] ∧ w.entryOf member = none ∧ w.formOf member = none) ∨
      (¬Unrefused e ∧ ∃ f, r = .error (.failure f)) := by
  have hends := h.keeps
  rw [hdone] at hends
  obtain ⟨outcome, hdrops, rfl⟩ := hends
  generalize htr : e.trace = tr at hdrops
  cases hdrops with
  | @dropped d _ hpart =>
    obtain ⟨s₁, s₂, s₃, s₄, found, rfl⟩ := hpart
    refine .inl ⟨?_, rfl, h.deleted ?_, h.cleared ?_⟩
    · simp [Unrefused, htr, Exchange.tookEffect]
    · rw [htr]
      exact ⟨_, List.mem_cons_of_mem _ List.mem_cons_self, rfl, rfl⟩
    · rw [htr]
      exact ⟨_, List.mem_cons_of_mem _ (List.mem_cons_of_mem _ List.mem_cons_self), rfl, rfl⟩
  | notDeleted =>
    refine .inr ⟨fun hall => ?_, _, rfl⟩
    have := hall _ (htr ▸ List.mem_cons_of_mem _ List.mem_cons_self)
    cases this
  | notCleared =>
    refine .inr ⟨fun hall => ?_, _, rfl⟩
    have := hall _ (htr ▸ List.mem_cons_of_mem _ (List.mem_cons_of_mem _ List.mem_cons_self))
    cases this

end Drops

end Clearance

end HouseholdAccess
