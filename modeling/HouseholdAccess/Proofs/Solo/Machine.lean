import HouseholdAccess.Proofs.Solo
import HouseholdAccess.Schedule
import Mathlib.Logic.Relation

/-!
# Work that is done alone, by the machine

A task at work is at a *station* (`Station`), which says what becomes of its
program when it stops. If nothing is held up, and the task *sees* what its program
meets alone (`Machine.Turn.Sees`), the machine carries out the operations that do
not wait just as `Solo.plain?` does (`Machine.advance_of_plain?`).

`Machine.Leads` says that a machine becomes another one by doing jobs; that it
settles where its jobs lead is `Machine.settle_of_leads`. What a group does when it is
told how an errand has ended is `Machine.report_cases`.
-/

namespace HouseholdAccess

variable {α β : Type}

/-! ## Doing jobs -/

namespace Machine

/-- One machine becomes another by doing jobs. -/
def Leads : Machine α → Machine α → Prop := Relation.ReflTransGen fun m m' => m.next? = some m'

theorem Leads.refl (m : Machine α) : Leads m m := Relation.ReflTransGen.refl

theorem Leads.trans {m₁ m₂ m₃ : Machine α} (h : Leads m₁ m₂) (h' : Leads m₂ m₃) : Leads m₁ m₃ :=
  Relation.ReflTransGen.trans h h'

theorem next?_eq_some_iff {m m' : Machine α} : m.next? = some m' ↔
    ∃ job rest, m.ready = job :: rest ∧ m' = { m with ready := rest }.perform job := by
  rw [next?]
  cases m.ready with
  | nil => exact iff_of_false nofun nofun
  | cons job rest =>
    refine ⟨fun h => ⟨job, rest, rfl, (Option.some.inj h).symm⟩, ?_⟩
    rintro ⟨_, _, heq, rfl⟩
    cases heq
    rfl

theorem leads_perform {m : Machine α} {job : Job} {rest : List Job} (h : m.ready = job :: rest) :
    Leads m ({ m with ready := rest }.perform job) :=
  Relation.ReflTransGen.single (by simp only [next?, h])

theorem settle?_of_leads {m m' : Machine α} (h : Leads m m') : m.settle? = m'.settle? := by
  induction h with
  | refl => rfl
  | tail _ hnext ih =>
    rw [ih, settle?, hnext]

/-- A machine settles where its jobs lead, once there are none. -/
theorem settle_of_leads {m m' : Machine α} (h : Leads m m') (hready : m'.ready = []) :
    m.settle = m' := by
  have hnext : m'.next? = none := by simp only [next?, hready]
  rw [settle, settle?_of_leads h, settle?, hnext]
  rfl

/-- Where a machine settles its jobs have led, if they come to an end. -/
theorem leads_settle (m : Machine α) : m.Leads m.settle := by
  rw [settle]
  cases hsettle : m.settle? with
  | none => exact .refl m
  | some m' =>
    -- Whatever `settle?` returns has been reached job by job, however many there were.
    refine settle?.partial_correctness (fun m m' => m.Leads m') (fun settle? ih m m' hm' => ?_)
      m m' hsettle
    split at hm'
    · cases hm'
      exact .refl m
    · next m₁ hnext => exact Relation.ReflTransGen.head hnext (ih m₁ m' hm')

end Machine

/-! ## Reports -/

namespace Group

variable (group : Group) (i : Nat)

/-- What errands have brought back, after a report. -/
def noted : Except Interruption (List Id) → List (Option (List Id))
  | .ok ids => group.results.set i (some ids)
  | .error _ => group.results

/-- What the caller of a group is told after a report. -/
def news : Except Interruption (List Id) → Option (Except Interruption (List (List Id)))
  | .ok ids => ((group.results.set i (some ids)).mapM id).map .ok
  | .error e => some (.error e)

/-- A group after a report. -/
def heard (outcome : Except Interruption (List Id)) : Group :=
  { group with results := group.noted i outcome, settled := (group.news i outcome).isSome }

/-- The jobs that come of a report: the caller goes on if it is told something. -/
def calls (outcome : Except Interruption (List Id)) : List Job :=
  ((group.news i outcome).map fun x => Job.resume group.caller (.gathered x)).toList

variable {group i}

theorem exists_of_mem_calls {outcome : Except Interruption (List Id)} {job : Job}
    (h : job ∈ group.calls i outcome) : ∃ x, job = .resume group.caller (.gathered x) := by
  obtain ⟨x, -, rfl⟩ := Option.map_eq_some_iff.1 (Option.mem_toList.1 h)
  exact ⟨x, rfl⟩

end Group

namespace Machine

variable {m : Machine α} {g : Nat}

/-- A report is heard by a group that has not been settled. -/
theorem report_eq {group : Group} (hgroup : m.groups[g]? = some group)
    (hsettled : group.settled = false) (i : Nat) (outcome : Except Interruption (List Id)) :
    m.report g i outcome = { m with
      ready := m.ready ++ group.calls i outcome,
      groups := m.groups.set g (group.heard i outcome) } := by
  rw [report, hgroup]
  simp only [hsettled]
  cases outcome with
  | error e => rfl
  | ok ids =>
    rw [Group.heard, Group.calls, Group.news]
    cases (group.results.set i (some ids)).mapM id with
    | none => simp [Group.noted]
    | some xss => rfl

/-- A group that has been settled does not mind. -/
theorem report_of_settled (h : ∀ group, m.groups[g]? = some group → group.settled = true)
    (i : Nat) (outcome : Except Interruption (List Id)) : m.report g i outcome = m := by
  rw [report]
  split
  · rfl
  · next group hgroup => exact if_pos (h group hgroup)

theorem report_cases (m : Machine α) (g i : Nat) (outcome : Except Interruption (List Id)) :
    (∃ group, m.groups[g]? = some group ∧ group.settled = false ∧
      m.report g i outcome = { m with
        ready := m.ready ++ group.calls i outcome,
        groups := m.groups.set g (group.heard i outcome) }) ∨
    (∀ group, m.groups[g]? = some group → group.settled = true) ∧ m.report g i outcome = m := by
  by_cases h : ∃ group, m.groups[g]? = some group ∧ group.settled = false
  · obtain ⟨group, hgroup, hsettled⟩ := h
    exact .inl ⟨group, hgroup, hsettled, report_eq hgroup hsettled i outcome⟩
  · have hall (group : Group) (hgroup : m.groups[g]? = some group) : group.settled = true :=
      eq_true_of_ne_false fun hopen => h ⟨group, hgroup, hopen⟩
    exact .inr ⟨hall, report_of_settled hall i outcome⟩

end Machine

/-! ## Stations -/

/-- What a task at work is: a caller, a load, or one of a group of errands. -/
inductive Station (α : Type) : Type → Type
  /-- A caller. -/
  | call : Station α (Except Interruption α)
  /-- A load. -/
  | load (load : Nat) : Station α (Except Interruption RuleSet)
  /-- One of a group of errands. -/
  | errand (group index : Nat) : Station α (Except Interruption (List Id))

namespace Station

open Machine

/-- The work of a task with the given program. -/
def work : Station α β → Program β → Work α
  | .call => .call
  | .load number => .load number
  | .errand group index => .errand group index

/-- What becomes of the result of a task. -/
def finish (n : Nat) : Station α β → Machine α → β → Machine α
  | .call, m, result => { m with outcomes := m.outcomes ++ [(n, result)] }
  | .load number, m, outcome => m.endLoad number outcome
  | .errand group index, m, outcome => m.push (.report group index outcome)

/-- The machine after a task has stopped. -/
def stop (σ : Station α β) (n : Nat) (x : Stop β × Turn α) : Machine α :=
  park n σ.work (σ.finish n) x

/-- The machine after a task has worked at a program. -/
def run (σ : Station α β) (n : Nat) (p : Program β) (t : Turn α) : Machine α :=
  σ.stop n (advance n p t)

theorem resume_eq (σ : Station α β) {m : Machine α} {n : Nat} {p : Program β} {fields : Entries}
    {wait : Option Wait} (h : m.task? n = some { work := σ.work p, fields, wait }) (wake : Wake) :
    m.resume n wake = σ.stop n (continueWith n wake p { machine := m, fields }) := by
  rw [resume, h]
  cases σ <;> rfl

end Station

/-! ## What a task sees -/

namespace Machine.Turn

/-- The machine at the given place in the world. -/
def put (t : Turn α) (s : Solo) : Turn α where
  machine := { t.machine with world := s.world, desk := s.desk, registry := s.registry,
                              consuming := s.consuming }
  fields := s.fields

/-- What a task at work finds is what its program meets alone, and nothing is held up. -/
structure Sees (t : Turn α) (s : Solo) : Prop where
  cache : t.machine.cache = s.cache
  world : t.machine.world = s.world
  desk : t.machine.desk = s.desk
  registry : t.machine.registry = s.registry
  consuming : t.machine.consuming = s.consuming
  fields : t.fields = s.fields
  free : s.world.held = []

end Machine.Turn

theorem World.heldAt?_eq_none {w : World} (h : w.held = []) (a : Access) : w.heldAt? a = none := by
  rw [World.heldAt?]
  split
  · rfl
  · rw [h]
    cases w.pointOf? a <;> rfl

namespace Machine

variable {s s' : Solo} {t : Turn α} {n : Nat}

theorem Turn.Sees.put (h : t.Sees s) (hrests : s.Rests s') : (t.put s').Sees s' :=
  ⟨h.cache.trans hrests.cache.symm, rfl, rfl, rfl, rfl, rfl, hrests.held.trans h.free⟩

/-- The machine carries an operation that does not wait out at once. -/
theorem advance_of_plain? {op : Operation} {reply : op.Reply}
    (hop : s.plain? op = some (reply, s')) (h : t.Sees s) (next : op.Reply → Program β) :
    advance n (.call op next) t = advance n (next reply) (t.put s') := by
  obtain ⟨m, fields⟩ := t
  obtain ⟨hcache, hworld, hdesk, hregistry, hconsuming, hfields, hfree⟩ := h
  obtain ⟨cache, world, desk, registry, consuming, soloFields, joined⟩ := s
  obtain rfl : m.world = world := hworld
  obtain rfl : m.desk = desk := hdesk
  obtain rfl : m.registry = registry := hregistry
  obtain rfl : m.consuming = consuming := hconsuming
  obtain rfl : fields = soloFields := hfields
  cases op with
  | access a =>
    cases hop
    simp only [advance, World.heldAt?_eq_none hfree a]
    rfl
  | joinLoad | awaitLoad | each => cases hop
  | _ =>
    cases hop
    rfl

/-- What is seen is there already. -/
theorem Turn.Sees.put_self (h : t.Sees s) : t.put s = t := by
  obtain ⟨m, fields⟩ := t
  obtain ⟨-, hworld, hdesk, hregistry, hconsuming, hfields, -⟩ := h
  simp only [Turn.put, ← hworld, ← hdesk, ← hregistry, ← hconsuming, ← hfields]

end Machine

end HouseholdAccess
