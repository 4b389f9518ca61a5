import HouseholdAccess.Proofs.Solo.Caller

/-!
# A task at work

A task at work carries out one operation after the other until its program has ended
or it has to wait. What it carries out at once is `Machine.Turn.carry?`; so
`Machine.advance` is a chain of such steps, with a stop at the end
(`Machine.advance_of_carry?`). What one of them can do to the machine is listed by
`Machine.Turn.Carries`: apart from joining and starting loads, and from overtaking
them, a step leaves all work as it is (`Machine.SameWork`). Where there is no such step
is listed by `Machine.Turn.Stops`.

A task that goes on hears first what it has waited for (`Machine.Turn.hear`).

Which loads a task joins before it stops is told by `Program.joins`. The machine
does not keep that.
-/

namespace HouseholdAccess

variable {α β : Type}

/-- The load that an operation joins. -/
def Operation.joined : (op : Operation) → op.Reply → List Nat
  | .joinLoad _, load => [load]
  | _, _ => []

namespace Machine

/-- How a load has ended, if it has. -/
def ended? (m : Machine α) (load : Nat) : Option (Except Interruption RuleSet) :=
  (m.loads[load]?).bind (·.outcome)

/-- The machines have the same tasks, loads and groups, and the same jobs are to be done. -/
structure SameWork (m m' : Machine α) : Prop where
  cache : m'.cache = m.cache
  desk : m'.desk = m.desk
  tasks : m'.tasks = m.tasks
  loads : m'.loads = m.loads
  groups : m'.groups = m.groups
  ready : m'.ready = m.ready
  outcomes : m'.outcomes = m.outcomes

theorem SameWork.refl (m : Machine α) : m.SameWork m := ⟨rfl, rfl, rfl, rfl, rfl, rfl, rfl⟩

namespace Turn

/-- Carries out an operation, unless the task has to wait for the reply. -/
def carry? (t : Turn α) : (op : Operation) → Option (op.Reply × Turn α)
  | .access a =>
    let begun : Turn α :=
      { t with machine := { t.machine with world := t.machine.world.begin a } }
    if (t.machine.world.heldAt? a).isSome then none else some (begun.access a)
  | .joinLoad user =>
    match t.machine.desk.pendingOf user with
    | some load => some (load, t)
    | none =>
      let (load, machine) := t.machine.startLoad user t.fields
      some (load, { t with machine })
  | .overtake user =>
    some ((), { t with machine := { t.machine with desk := t.machine.desk.overtake user } })
  | .isOvertaken load => some (t.machine.desk.isOvertaken load, t)
  | .awaitLoad load => (t.machine.ended? load).map (·, t)
  | .each _ ids => if ids.isEmpty then some (.ok [], t) else none
  | .count series =>
    let registry := t.machine.registry.map (·.count series)
    some ((), { t with machine := { t.machine with registry } })
  | .counted => some (t.machine.registry, t)
  | .bind fields =>
    some ((), { t with fields := fields.foldl (fun es (key, v) => Entries.put es key v) t.fields })
  | .unbind => some ((), { t with fields := [] })
  | .bound => some (t.fields, t)
  | .time => some (t.machine.world.now, t)
  | .setConsuming b => some ((), { t with machine := { t.machine with consuming := b } })
  | .isConsuming => some (t.machine.consuming, t)

/-- What carrying out an operation may do. -/
inductive Carries (t : Turn α) : (op : Operation) → op.Reply → Turn α → Prop
  /-- No load is joined or asked for, and all work stays as it is. -/
  | plain {op : Operation} {reply : op.Reply} {t' : Turn α} :
    (∀ user, op ≠ .joinLoad user) → (∀ load, op ≠ .awaitLoad load) →
    t.machine.SameWork t'.machine → Carries t op reply t'
  /-- The load of a user is overtaken. -/
  | overtook {user : Id} : Carries t (.overtake user) ()
      { t with machine := { t.machine with desk := t.machine.desk.overtake user } }
  /-- The load that is under way is joined. -/
  | joined {user : Id} {load : Nat} : t.machine.desk.pendingOf user = some load →
    Carries t (.joinLoad user) load t
  /-- A load is started. -/
  | started {user : Id} : t.machine.desk.pendingOf user = none →
    Carries t (.joinLoad user) t.machine.desk.loads.length
      { t with machine := (t.machine.startLoad user t.fields).2 }
  /-- A load that has ended is asked for. -/
  | answered {load : Nat} {outcome : Except Interruption RuleSet} :
    t.machine.ended? load = some outcome → Carries t (.awaitLoad load) outcome t

variable {t t' : Turn α} {op : Operation} {reply : op.Reply}

theorem carries_of_carry? (h : t.carry? op = some (reply, t')) : t.Carries op reply t' := by
  cases op with
  | access a =>
    rw [carry?] at h
    split at h
    · cases h
    · cases h
      exact .plain (by simp) (by simp) ⟨rfl, rfl, rfl, rfl, rfl, rfl, rfl⟩
  | joinLoad user =>
    rw [carry?] at h
    split at h
    · next hpending =>
      cases h
      exact .joined hpending
    · next hpending =>
      cases h
      exact .started hpending
  | overtake user =>
    cases h
    exact .overtook
  | awaitLoad load =>
    obtain ⟨outcome, houtcome, hx⟩ := Option.map_eq_some_iff.1 h
    cases hx
    exact .answered houtcome
  | each errand ids =>
    rw [carry?] at h
    split at h
    · cases h
      exact .plain (by simp) (by simp) (.refl _)
    · cases h
  | _ =>
    cases h
    exact .plain (by simp) (by simp) ⟨rfl, rfl, rfl, rfl, rfl, rfl, rfl⟩

/-- Where a task has to wait. -/
inductive Stops (t : Turn α) : Operation → Prop
  /-- The task is held up at a point. -/
  | held {a : Access} {p : Point} : t.machine.world.heldAt? a = some p → Stops t (.access a)
  /-- It asks for a load that has not ended. -/
  | waits {load : Nat} : t.machine.ended? load = none → Stops t (.awaitLoad load)
  /-- It asks for the answers of errands, which have not begun. -/
  | errands {errand : Errand} {ids : List Id} : ids ≠ [] → Stops t (.each errand ids)

theorem stops_of_carry? (h : t.carry? op = none) : t.Stops op := by
  cases op with
  | access a =>
    cases hheld : t.machine.world.heldAt? a with
    | none => simp [carry?, hheld] at h
    | some p => exact .held hheld
  | joinLoad user =>
    rw [carry?] at h
    split at h <;> cases h
  | awaitLoad load => exact .waits (Option.map_eq_none_iff.1 h)
  | each errand ids =>
    refine .errands ?_
    rintro rfl
    cases h
  | _ => cases h

end Turn

variable {n : Nat} {t t' : Turn α}

/-- What is carried out at once does not stop the task. -/
theorem advance_of_carry? {op : Operation} {reply : op.Reply}
    (h : t.carry? op = some (reply, t')) (next : op.Reply → Program β) :
    advance n (.call op next) t = advance n (next reply) t' := by
  cases op with
  | access a =>
    rw [Turn.carry?] at h
    split at h
    · cases h
    · next hheld =>
      rw [Option.not_isSome_iff_eq_none] at hheld
      cases h
      simp only [advance, hheld]
      rfl
  | joinLoad user =>
    rw [Turn.carry?] at h
    split at h
    · next hpending =>
      cases h
      simp only [advance, hpending]
    · next hpending =>
      cases h
      simp only [advance, hpending]
      rfl
  | awaitLoad load =>
    obtain ⟨outcome, houtcome, hx⟩ := Option.map_eq_some_iff.1 h
    cases hx
    rw [ended?] at houtcome
    simp only [advance, houtcome]
  | each errand ids =>
    rw [Turn.carry?] at h
    split at h
    · next hempty =>
      cases h
      simp only [advance, hempty, if_true]
    · cases h
  | _ =>
    cases h
    rfl

end Machine

/-! ## Stopping -/

namespace Station

open Machine

variable {n : Nat} {m : Machine α} {fields : Entries} (σ : Station α β)

theorem run_of_carry? {t t' : Turn α} {op : Operation} {reply : op.Reply}
    (h : t.carry? op = some (reply, t')) (next : op.Reply → Program β) :
    σ.run n (.call op next) t = σ.run n (next reply) t' := by
  rw [run, advance_of_carry? h]
  rfl

/-- A task that is held up waits at the point. -/
theorem run_access {a : Access} {p : Point} (h : m.world.heldAt? a = some p)
    (next : Except Interruption a.Answer → Program β) :
    σ.run n (.call (.access a) next) { machine := m, fields } =
      { m with
        world := m.world.begin a,
        tasks := m.tasks.set n
          (some { work := σ.work (.call (.access a) next), fields, wait := some (.point p) }),
        queue := m.queue ++ [(p, n)] } := by
  simp only [run, advance, h]
  rfl

/-- A task that asks for a load that has not ended waits for it. -/
theorem run_awaitLoad {load : Nat} (h : m.ended? load = none)
    (next : Except Interruption RuleSet → Program β) :
    σ.run n (.call (.awaitLoad load) next) { machine := m, fields } =
      { m with
        tasks := m.tasks.set n
          (some { work := σ.work (.call (.awaitLoad load) next), fields,
                  wait := some (.load load) }),
        loads := m.loads.modify load fun r => { r with waiters := r.waiters ++ [n] } } := by
  rw [ended?] at h
  simp only [run, advance, h]
  rfl

end Station

/-! ## Going on -/

namespace Machine

variable {n : Nat} {t t' : Turn α}

/-- What a task that goes on has still to do, once it has heard why it goes on. -/
def Turn.hear (t : Turn α) : Wake → Program β → Program β × Turn α
  | .released, .call (.access a) next => (next (t.access a).1, (t.access a).2)
  | .cancelled, .call (.access _) next => (next (.error .cancelled), t)
  | .loaded outcome, .call (.awaitLoad _) next => (next outcome, t)
  | .cancelled, .call (.awaitLoad _) next => (next (.error .cancelled), t)
  | .gathered outcome, .call (.each ..) next => (next outcome, t)
  | _, p => (p, t)

theorem continueWith_eq (n : Nat) (wake : Wake) (p : Program β) (t : Turn α) :
    continueWith n wake p t = advance n (t.hear wake p).1 (t.hear wake p).2 := by
  fun_cases Turn.hear t wake p
  case case6 h₁ h₂ h₃ h₄ h₅ =>
    -- Nothing is heard, and the program goes on where it is.
    unfold continueWith
    split
    · exact (h₁ _ _ rfl rfl).elim
    · exact (h₂ _ _ rfl rfl).elim
    · exact (h₃ _ _ _ rfl rfl).elim
    · exact (h₄ _ _ rfl rfl).elim
    · exact (h₅ _ _ _ _ rfl rfl).elim
    · rfl
  all_goals rfl

end Machine

/-! ## Joining -/

open Machine in
/-- The loads that a program joins before the task stops. -/
def Program.joins : Program β → Turn α → List Nat
  | .done _, _ => []
  | .call op next, t =>
    match t.carry? op with
    | none => []
    | some (reply, t) => op.joined reply ++ (next reply).joins t

namespace Machine

/-- Who joins which loads when a job is done. -/
def joinedBy (m : Machine α) : Job → List (Nat × Nat)
  | .resume n wake =>
    let joins {β : Type} (fields : Entries) (p : Program β) : List (Nat × Nat) :=
      let x := Turn.hear { machine := m, fields } wake p
      (x.1.joins x.2).map (n, ·)
    match m.task? n with
    | some { work := .call p, fields, .. } => joins fields p
    | some { work := .load _ p, fields, .. } => joins fields p
    | some { work := .errand _ _ p, fields, .. } => joins fields p
    | none => []
  | _ => []

theorem joinedBy_resume {m : Machine α} {σ : Station α β} {p : Program β} {fields : Entries}
    {wait : Option Wait} (htask : m.task? n = some { work := σ.work p, fields, wait })
    (wake : Wake) : m.joinedBy (.resume n wake) =
      ((Turn.hear { machine := m, fields } wake p).1.joins
        (Turn.hear { machine := m, fields } wake p).2).map (n, ·) := by
  cases σ <;> rw [joinedBy, htask] <;> rfl

end Machine

end HouseholdAccess
