import HouseholdAccess.Proofs.Solo.Errands

/-!
# A caller who is alone

A caller whom an idle machine lets in ends as its program does alone
(`Machine.call_solo`): the jobs that the machine does meanwhile, for the loads and
errands of the caller, come to what the `Helper` of the caller does on the spot.

While the task of the caller is at work, the machine *shows* what its program
meets alone (`Machine.Turn.Shows`), and each operation *leads* from the point where
it is carried out to the point where the program goes on.
-/

namespace HouseholdAccess

namespace Machine

variable {α β : Type} {s s' : Solo} {t : Turn α} {n : Nat}

/-- What a machine has still to do while a task is at work: the load that it has joined. -/
def Turn.Owes (n : Nat) (t : Turn α) : Option Joined → Prop
  | none => t.machine.ready = []
  | some j => ∃ k, k ≠ n ∧ t.machine.ready = [.resume k .start] ∧
      t.machine.task? k = some
        { work := .load j.load (t.machine.cache.load j.user j.load).run, fields := j.fields } ∧
      t.machine.loads[j.load]? = some {}

/-- What a program meets alone, as a task at work finds it in a machine where nothing else is to be
    done. -/
structure Turn.Shows (n : Nat) (t : Turn α) (s : Solo) : Prop where
  sees : t.Sees s
  lives : n < t.machine.tasks.length
  loads : t.machine.loads.length = s.desk.loads.length
  owes : t.Owes n s.joined

/-- What a task at work leaves as it is: other tasks, loads, and the results of callers. -/
structure Turn.Keeps (n : Nat) (t t' : Turn α) : Prop where
  length : t.machine.tasks.length ≤ t'.machine.tasks.length
  tasks : ∀ k, k ≠ n → k < t.machine.tasks.length → t'.machine.task? k = t.machine.task? k
  loads : t'.machine.loads = t.machine.loads
  outcomes : t'.machine.outcomes = t.machine.outcomes

theorem Turn.Keeps.refl (n : Nat) (t : Turn α) : t.Keeps n t :=
  ⟨Nat.le_refl _, fun _ _ _ => rfl, rfl, rfl⟩

theorem Turn.Keeps.trans {t₁ t₂ t₃ : Turn α} (h : t₁.Keeps n t₂) (h' : t₂.Keeps n t₃) :
    t₁.Keeps n t₃ where
  length := Nat.le_trans h.length h'.length
  tasks k hk hlt := (h'.tasks k hk (Nat.lt_of_lt_of_le hlt h.length)).trans (h.tasks k hk hlt)
  loads := h'.loads.trans h.loads
  outcomes := h'.outcomes.trans h.outcomes

theorem Turn.Keeps.put (n : Nat) (t : Turn α) (s : Solo) : t.Keeps n (t.put s) :=
  ⟨Nat.le_refl _, fun _ _ _ => rfl, rfl, rfl⟩

theorem Turn.Shows.put (h : t.Shows n s) (hrests : s.Rests s') : (t.put s').Shows n s' where
  sees := h.sees.put hrests
  lives := h.lives
  loads := h.loads.trans hrests.loads.symm
  owes := by
    have howes := h.owes
    rw [hrests.joined]
    cases hjoined : s.joined with
    | none =>
      rw [hjoined] at howes
      exact howes
    | some j =>
      rw [hjoined] at howes
      exact howes

section Tasks

variable {m m' : Machine α} {k : Nat}

theorem task?_set {task : Option (Task α)} (hn : n < m.tasks.length)
    (htasks : m'.tasks = m.tasks.set n task) : m'.task? n = task := by
  rw [task?, htasks, List.getElem?_set_self hn]
  rfl

theorem task?_set_ne {task : Option (Task α)} (hk : k ≠ n)
    (htasks : m'.tasks = m.tasks.set n task) : m'.task? k = m.task? k := by
  rw [task?, htasks, List.getElem?_set_ne hk.symm]
  rfl

theorem task?_append {news : List (Option (Task α))} (htasks : m'.tasks = m.tasks ++ news)
    (hk : k < m.tasks.length) : m'.task? k = m.task? k := by
  rw [task?, htasks, List.getElem?_append_left hk]
  rfl

theorem task?_setTask (hn : n < m.tasks.length) (task : Option (Task α)) :
    (m.setTask n task).task? n = task := task?_set hn rfl

theorem task?_setTask_ne (hk : k ≠ n) (task : Option (Task α)) :
    (m.setTask n task).task? k = m.task? k := task?_set_ne hk rfl

theorem task?_eq_none (hk : m.tasks.length ≤ k) : m.task? k = none := by
  rw [task?, List.getElem?_eq_none hk]
  rfl

theorem lt_of_task? {task : Task α} (h : m.task? k = some task) : k < m.tasks.length := by
  refine Nat.lt_of_not_le fun hk => ?_
  rw [task?_eq_none hk] at h
  cases h

/-- A task stops waiting for something if it waits for that. -/
theorem stopWaiting_eq_some_iff {wait : Wait} : m.stopWaiting n wait = some m' ↔
    ∃ task, m.task? n = some task ∧ task.wait = some wait ∧
      m' = m.setTask n (some { task with wait := none }) := by
  rw [stopWaiting]
  cases m.task? n with
  | none => simp
  | some task =>
    by_cases hwait : task.wait = some wait
    · simp [hwait, eq_comm]
    · simp [hwait]

theorem stopWaiting_eq {task : Task α} (htask : m.task? n = some task) {wait : Wait}
    (hwait : task.wait = some wait) :
    m.stopWaiting n wait = some (m.setTask n (some { task with wait := none })) :=
  stopWaiting_eq_some_iff.2 ⟨task, htask, hwait, rfl⟩

end Tasks

/-- A task that asks for errands waits, and the errands are to begin. -/
theorem run_each (errand : Errand) {ids : List Id} (hids : ids ≠ []) {m : Machine α}
    (hn : n < m.tasks.length) (fields : Entries) (σ : Station α β)
    (next : Except Interruption (List (List Id)) → Program β) :
    σ.run n (.call (.each errand ids) next) { machine := m, fields } =
      { m with
        tasks := m.tasks.set n (some { work := σ.work (.call (.each errand ids) next), fields,
                                       wait := some (.group m.groups.length) }) ++
          errandTasks m.cache errand m.groups.length fields 0 ids,
        ready := m.ready ++ startJobs m.tasks.length ids.length,
        groups := m.groups ++ [{ caller := n, tasks := List.range' m.tasks.length ids.length,
                                 results := ids.map fun _ => none }] } := by
  have hempty : ids.isEmpty = false := List.isEmpty_eq_false_iff.2 hids
  simp only [Station.run, advance, hempty, startGroup, startErrands_eq, Station.stop, park, setTask]
  -- The caller waits among the tasks that were there before those of the errands.
  rw [← List.set_append_left _ _ hn]
  rfl

theorem resume_gathered {errand : Errand} {ids : List Id} {m : Machine α} {fields : Entries}
    {wait : Option Wait} {σ : Station α β}
    {next : Except Interruption (List (List Id)) → Program β}
    (htask : m.task? n = some { work := σ.work (.call (.each errand ids) next), fields, wait })
    (outcome : Except Interruption (List (List Id))) :
    m.resume n (.gathered outcome) = σ.run n (next outcome) { machine := m, fields } :=
  σ.resume_eq htask (.gathered outcome)

/-- Once the errands of a group have ended, their caller goes on with what they have come to. -/
theorem leads_gathered {errand : Errand} {ids : List Id} {group : Nat} {numbers : List Nat}
    {rs : List (Except Interruption (List Id))} (hids : ids ≠ []) (hlength : rs.length = ids.length)
    {m : Machine α} {fields : Entries} {wait : Option Wait} {σ : Station α β}
    {next : Except Interruption (List (List Id)) → Program β}
    (hgroup : m.groups[group]? =
      some { caller := n, tasks := numbers, results := ids.map fun _ => none })
    (hready : m.ready = reportJobs group 0 rs)
    (htask : m.task? n = some { work := σ.work (.call (.each errand ids) next), fields, wait }) :
    ∃ groups, Leads m
      (σ.run n (next (rs.mapM id)) { machine := { m with groups, ready := [] }, fields }) := by
  have hresults : (ids.map fun _ => (none : Option (List Id))) =
      ([] : List (List Id)).map some ++ List.replicate rs.length none := by
    rw [List.map_nil, List.nil_append, hlength, List.map_const']
  have hne : rs ≠ [] := by
    rintro rfl
    exact hids (List.length_eq_zero_iff.1 hlength.symm)
  -- The group is told about them, and lets the caller go on.
  obtain ⟨groups, hreports⟩ := leads_reports hne hgroup rfl hresults hready
  have hnothing : (rs.mapM id).map ([] ++ ·) = rs.mapM id := by cases rs.mapM id <;> rfl
  rw [hnothing] at hreports
  have htask' : Machine.task? { m with groups, ready := [] } n = _ := htask
  refine ⟨groups, hreports.trans ((leads_perform rfl).trans ?_)⟩
  rw [perform, resume_gathered htask']
  exact Leads.refl _

/-- The machine when the errands that a task waits for have ended, and are to be reported. -/
def gathering (m : Machine α) (n : Nat) (waiting : Task α) (ids : List Id) (s : Solo)
    (rs : List (Except Interruption (List Id))) : Machine α :=
  { m with world := s.world, desk := s.desk, registry := s.registry, consuming := s.consuming,
           tasks := m.tasks.set n (some waiting) ++ List.replicate ids.length none,
           groups := m.groups ++ [{ caller := n, tasks := List.range' m.tasks.length ids.length,
                                    results := ids.map fun _ => none }],
           ready := reportJobs m.groups.length 0 rs }

section Gathering

variable (m : Machine α) (n : Nat) (waiting : Task α) (ids : List Id) (s : Solo)
  (rs : List (Except Interruption (List Id)))

theorem length_tasks_gathering :
    m.tasks.length ≤ (m.gathering n waiting ids s rs).tasks.length := by
  rw [gathering, List.length_append, List.length_set]
  exact Nat.le_add_right ..

theorem task?_gathering {k : Nat} (hk : k < m.tasks.length) :
    (m.gathering n waiting ids s rs).task? k = (m.tasks.set n (some waiting))[k]?.join := by
  rw [task?, gathering, List.getElem?_append_left (by rwa [List.length_set])]

theorem Turn.Keeps.gathering (fields : Entries) (groups : List Group) :
    Turn.Keeps n { machine := m, fields }
      { machine := { m.gathering n waiting ids s rs with groups, ready := [] }, fields } := by
  refine ⟨length_tasks_gathering m n waiting ids s rs, fun k hk hlt => ?_, rfl, rfl⟩
  refine (task?_gathering m n waiting ids s rs hlt).trans ?_
  rw [List.getElem?_set_ne (Ne.symm hk)]
  rfl

variable {m n waiting ids s rs} {fields : Entries}

/-- The errands that a task asks for end one after the other. -/
theorem leads_gathering {errand : Errand} (hrs : Solo.runErrands errand ids s = some (rs, s'))
    (hids : ids ≠ []) (hjoined : s.joined = none) (h : Turn.Shows n { machine := m, fields } s)
    (σ : Station α β) (next : Except Interruption (List (List Id)) → Program β) :
    Leads (σ.run n (.call (.each errand ids) next) { machine := m, fields })
      (m.gathering n { work := σ.work (.call (.each errand ids) next), fields,
                       wait := some (.group m.groups.length) } ids s' rs) := by
  have hm := h.sees
  have hready : m.ready = [] := by
    have howes := h.owes
    rwa [hjoined] at howes
  obtain ⟨m₁, hm₁⟩ : ∃ m₁, m₁ = σ.run n (.call (.each errand ids) next)
    { machine := m, fields } := ⟨_, rfl⟩
  rw [run_each errand hids h.lives fields σ next] at hm₁
  rw [run_each errand hids h.lives fields σ next, ← hm₁]
  let before := m.tasks.set n (some { work := σ.work (.call (.each errand ids) next), fields,
                                      wait := some (.group m.groups.length) })
  have hsees : Turn.Sees { machine := m₁, fields := s.fields } s := by
    rw [hm₁]
    exact ⟨hm.cache, hm.world, hm.desk, hm.registry, hm.consuming, rfl, hm.free⟩
  have htasks : m₁.tasks = before ++
      errandTasks s.cache errand m.groups.length s.fields 0 ids := by
    rw [hm₁, ← hm.cache, ← hm.fields]
  have hstart : m₁.ready = startJobs before.length ids.length ++ [] := by
    rw [hm₁, hready]
    simp [before]
  have herrands := leads_errands hrs hsees htasks hstart
  rwa [hm₁] at herrands ⊢

/-- When its errands have been gathered, a task finds what it meets alone. -/
theorem Turn.Shows.gathering {errand : Errand} (h : Turn.Shows n { machine := m, fields } s)
    (hrs : Solo.runErrands errand ids s = some (rs, s')) (hjoined : s.joined = none)
    (groups : List Group) :
    Turn.Shows n
      { machine := { m.gathering n waiting ids s' rs with groups, ready := [] }, fields } s' := by
  obtain ⟨hrests, hfields, -⟩ := Solo.rests_of_runErrands hrs
  have hm := h.sees
  have hlength := length_tasks_gathering m n waiting ids s' rs
  refine ⟨⟨hm.cache.trans hrests.cache.symm, rfl, rfl, rfl, rfl, hm.fields.trans hfields.symm,
    hrests.held.trans hm.free⟩, Nat.lt_of_lt_of_le h.lives hlength,
    h.loads.trans hrests.loads.symm, ?_⟩
  rw [hrests.joined, hjoined]
  rfl

end Gathering

/-- Errands are done while their caller waits. -/
theorem leads_each {errand : Errand} {ids : List Id}
    {outcome : Except Interruption (List (List Id))}
    (hgather : s.gather errand ids = some (outcome, s')) (hjoined : s.joined = none)
    (h : t.Shows n s) (σ : Station α β)
    (next : Except Interruption (List (List Id)) → Program β) :
    ∃ t' : Turn α, t'.Shows n s' ∧ t.Keeps n t' ∧
      Leads (σ.run n (.call (.each errand ids) next) t) (σ.run n (next outcome) t') := by
  obtain ⟨rs, hrs, rfl⟩ := Solo.gather_eq_some_iff.1 hgather
  -- Without names nothing waits, and the results are there at once.
  rcases Decidable.em (ids = []) with rfl | hids
  · cases hrs
    exact ⟨t, h, Turn.Keeps.refl n t, Leads.refl _⟩
  obtain ⟨m, fields⟩ := t
  let waiting : Task α := { work := σ.work (.call (.each errand ids) next), fields,
                            wait := some (.group m.groups.length) }
  let m' : Machine α := m.gathering n waiting ids s' rs
  have htask : m'.task? n = some waiting := by
    rw [task?_gathering m n waiting ids s' rs h.lives, List.getElem?_set_self h.lives]
    rfl
  have hgroup : m'.groups[m.groups.length]? =
      some { caller := n, tasks := List.range' m.tasks.length ids.length,
             results := ids.map fun _ => none } := List.getElem?_concat_length
  -- The errands end, and then the caller goes on.
  have herrands := leads_gathering hrs hids hjoined h σ next
  obtain ⟨groups, hgathered⟩ :=
    leads_gathered hids (Solo.rests_of_runErrands hrs).2.2 hgroup rfl htask
  exact ⟨{ machine := { m' with groups, ready := [] }, fields }, h.gathering hrs hjoined groups,
    Turn.Keeps.gathering m n waiting ids s' rs fields groups, herrands.trans hgathered⟩

/-- An operation that does not wait is carried out at once. -/
theorem leads_plain {op : Operation} {reply : op.Reply} (hop : s.plain? op = some (reply, s'))
    (h : t.Shows n s) (σ : Station α β) (next : op.Reply → Program β) :
    ∃ t' : Turn α, t'.Shows n s' ∧ t.Keeps n t' ∧
      Leads (σ.run n (.call op next) t) (σ.run n (next reply) t') := by
  refine ⟨t.put s', h.put (Solo.rests_of_plain? hop), Turn.Keeps.put n t s', ?_⟩
  rw [Station.run, advance_of_plain? hop h.sees]
  exact Leads.refl _

/-! ## Loads -/

/-- A load, or an operation of a caller that joins no load, is done as it is alone. -/
theorem leads_carry_load {op : Operation} {reply : op.Reply}
    (hop : Helper.load.carry s op = some (reply, s')) (h : t.Shows n s) (σ : Station α β)
    (next : op.Reply → Program β) :
    ∃ t' : Turn α, t'.Shows n s' ∧ t.Keeps n t' ∧
      Leads (σ.run n (.call op next) t) (σ.run n (next reply) t') := by
  cases op with
  -- Errands are done only while no load has been joined, so that nothing else is owed.
  | each errand ids =>
    obtain ⟨hjoined, hgather⟩ := Helper.carry_load_each.1 hop
    exact leads_each hgather hjoined h σ next
  | _ => exact leads_plain (show s.plain? _ = some (reply, s') from hop) h σ next

theorem leads_load {p : Program β} {b : β} (hp : p.solo .load s = some (b, s'))
    (h : t.Shows n s) (σ : Station α β) :
    ∃ t' : Turn α, t'.Shows n s' ∧ t.Keeps n t' ∧ Leads (σ.run n p t) (σ.run n (.done b) t') := by
  induction p generalizing s t with
  | done a =>
    cases hp
    exact ⟨t, h, Turn.Keeps.refl n t, Leads.refl _⟩
  | call op next ih =>
    obtain ⟨⟨reply, u⟩, hop, hnext⟩ := Option.bind_eq_some_iff.1 hp
    obtain ⟨t₁, h₁, hkeeps₁, hleads₁⟩ := leads_carry_load hop h σ next
    obtain ⟨t₂, h₂, hkeeps₂, hleads₂⟩ := ih reply hnext h₁
    exact ⟨t₂, h₂, hkeeps₁.trans hkeeps₂, hleads₁.trans hleads₂⟩

/-! ## Callers -/

theorem startLoad_eq (m : Machine α) (user : Id) (fields : Entries) :
    m.startLoad user fields = (m.desk.loads.length, { m with
      desk := (m.desk.start user).2,
      loads := m.loads ++ [{}],
      tasks := m.tasks ++ [some
        { work := .load m.desk.loads.length (m.cache.load user m.desk.loads.length).run, fields }],
      ready := m.ready ++ [.resume m.tasks.length .start] }) := rfl

/-- The tasks that wait for a load. -/
def waitersOf (m : Machine α) (load : Nat) : List Nat :=
  ((m.loads[load]?).map (·.waiters)).getD []

theorem endLoad_eq (m : Machine α) (load : Nat) (outcome : Except Interruption RuleSet) :
    m.endLoad load outcome =
      { m with loads := m.loads.modify load ({ · with outcome := some outcome }),
               ready := m.ready ++ .forget load :: (m.waitersOf load).map (.tell load) } := by
  have hfoldl (waiters : List Nat) (m : Machine α) :
      waiters.foldl (fun m n => m.push (.tell load n)) m =
        { m with ready := m.ready ++ waiters.map (.tell load) } := by
    induction waiters generalizing m with
    | nil => simp
    | cons n rest ih =>
      rw [List.foldl_cons, ih]
      simp [push]
  rw [endLoad, hfoldl]
  simp [push, waitersOf]

/-- A caller joins a load, which is to begin. -/
theorem leads_join {user : Id} {load : Nat} (hjoin : s.join user = some (load, s'))
    (h : t.Shows n s) (σ : Station α β) (next : Nat → Program β) :
    ∃ t' : Turn α, t'.Shows n s' ∧ t'.machine.outcomes = t.machine.outcomes ∧
      Leads (σ.run n (.call (.joinLoad user) next) t) (σ.run n (next load) t') := by
  obtain ⟨m, fields⟩ := t
  obtain ⟨⟨hcache, hworld, hdesk, hregistry, hconsuming, hfields, hfree⟩, hlives, hloads,
    howes⟩ := h
  obtain ⟨hjoined, hpending, rfl, rfl⟩ := Solo.join_eq_some_iff.1 hjoin
  rw [hjoined] at howes
  have hnone : m.desk.pendingOf user = none := hdesk ▸ hpending
  have hready : m.ready = [] := howes
  have hload : s.desk.loads.length = m.loads.length := hloads.symm
  have hcount : m.desk.loads.length = s.desk.loads.length := congrArg (·.loads.length) hdesk
  -- The load that is started is owed from now on: its task begins when the caller waits.
  refine ⟨{ machine := (m.startLoad user fields).2, fields }, ?_, rfl, ?_⟩
  · refine ⟨⟨hcache, hworld, congrArg (fun d => (d.start user).2) hdesk, hregistry, hconsuming,
      hfields, hfree⟩, ?_, ?_, m.tasks.length, Nat.ne_of_gt hlives, ?_, ?_, ?_⟩
    · simp only [startLoad_eq, List.length_append]
      exact Nat.lt_add_right 1 hlives
    · simp only [startLoad_eq, List.length_append, Desk.start, hload]
      rfl
    · simp only [startLoad_eq, hready, List.nil_append]
    · simp only [startLoad_eq, task?, List.getElem?_concat_length, hcount, ← hfields]
      rfl
    · simp only [startLoad_eq, hload, List.getElem?_concat_length]
  · simp only [Station.run, advance, hnone, startLoad_eq, hcount]
    exact Leads.refl _

/-- The machine when a load has ended and is forgotten, and the task that waits for it goes on. -/
def afterLoad (m : Machine α) (load : Nat) (outcome : Except Interruption RuleSet) (n : Nat)
    (task : Task α) : Machine α :=
  { m with desk := m.desk.forget load,
           loads := m.loads.modify load ({ · with outcome := some outcome }),
           tasks := m.tasks.set n (some task),
           ready := [] }

/-- A load that has ended with one task waiting for it is forgotten, and the task goes on. -/
theorem leads_endLoad {m : Machine α} {load : Nat} {p : Program β} {fields : Entries}
    (σ : Station α β) (outcome : Except Interruption RuleSet) (hready : m.ready = [])
    (hload : m.loads[load]? = some { waiters := [n] }) (hn : n < m.tasks.length)
    (htask : m.task? n = some { work := σ.work p, fields, wait := some (.load load) }) :
    Leads (m.endLoad load outcome)
      (σ.stop n (continueWith n (.loaded outcome) p
        { machine := m.afterLoad load outcome n { work := σ.work p, fields }, fields })) := by
  let loads := m.loads.modify load ({ · with outcome := some outcome })
  have houtcome : loads[load]? = some { outcome := some outcome, waiters := [n] } := by
    simp only [loads, List.getElem?_modify_eq, hload]
    rfl
  have hend : m.endLoad load outcome =
      { m with loads, ready := [.forget load, .tell load n] } := by
    simp only [endLoad, hload, push, hready]
    rfl
  rw [hend]
  -- The load is forgotten, then the task is told, and then the task goes on.
  let m₁ : Machine α := { m with loads, ready := [], desk := m.desk.forget load }
  let m₂ : Machine α := { m₁ with tasks := m.tasks.set n (some { work := σ.work p, fields }) }
  have htask₁ : m₁.task? n = some { work := σ.work p, fields, wait := some (.load load) } := htask
  have hstopped : m₁.stopWaiting n (.load load) = some m₂ := by
    rw [stopWaiting, htask₁]
    simp only [if_true]
    rfl
  have htold : m₁.tell load n = m₂.push (.resume n (.loaded outcome)) := by
    have houtcome₁ : m₁.loads[load]? = _ := houtcome
    simp only [tell, hstopped, houtcome₁, Option.bind_some]
  have htask₂ : m₂.task? n = some { work := σ.work p, fields, wait := none } := by
    simp only [task?, m₂, List.getElem?_set_self hn]
    rfl
  refine (leads_perform rfl).trans ((leads_perform rfl).trans ?_)
  change Leads (m₁.tell load n) _
  rw [htold]
  refine (leads_perform rfl).trans ?_
  change Leads (m₂.resume n _) _
  rw [σ.resume_eq htask₂]
  exact Leads.refl _

/-- A task that is to begin begins. -/
theorem leads_begin {m : Machine α} {k : Nat} {p : Program β} {fields : Entries} (σ : Station α β)
    (hready : m.ready = [.resume k .start])
    (htask : m.task? k = some { work := σ.work p, fields }) :
    Leads m (σ.run k p { machine := { m with ready := [] }, fields }) := by
  have htask' : Machine.task? { m with ready := [] } k = some { work := σ.work p, fields } := htask
  refine (leads_perform hready).trans ?_
  rw [perform, σ.resume_eq htask' .start]
  exact Leads.refl _

/-- The machine when a task waits for a load, and nothing is to be done. -/
def waitingFor (m : Machine α) (load n : Nat) (task : Task α) : Machine α :=
  { m with loads := m.loads.modify load fun r => { r with waiters := r.waiters ++ [n] },
           tasks := m.tasks.set n (some task),
           ready := [] }

/-- Whoever waits for a load that is to begin lets it begin. -/
theorem leads_wait {m : Machine α} {load k : Nat} {p : Program (Except Interruption RuleSet)}
    {fields fields' : Entries} (hkn : k ≠ n) (hready : m.ready = [.resume k .start])
    (htask : m.task? k = some { work := .load load p, fields := fields' })
    (hrunning : m.loads[load]? = some {}) (σ : Station α β)
    (next : Except Interruption RuleSet → Program β) :
    Leads (σ.run n (.call (.awaitLoad load) next) { machine := m, fields })
      ((Station.load load).run k p
        { machine := m.waitingFor load n { work := σ.work (.call (.awaitLoad load) next), fields,
                                           wait := some (.load load) },
          fields := fields' }) := by
  let waiting : Task α :=
    { work := σ.work (.call (.awaitLoad load) next), fields, wait := some (.load load) }
  let m₁ : Machine α := { m.waitingFor load n waiting with ready := m.ready }
  have hwaits : σ.run n (.call (.awaitLoad load) next) { machine := m, fields } = m₁ := by
    simp only [Station.run, advance, hrunning]
    rfl
  have htask₁ : m₁.task? k = some { work := (Station.load load).work p, fields := fields' } :=
    (task?_setTask_ne hkn (some waiting)).trans htask
  rw [hwaits]
  exact leads_begin (Station.load load) hready htask₁

/-- While its caller waits, a load finds what it meets alone. -/
theorem Turn.Shows.waitingFor {m : Machine α} {fields : Entries}
    (h : Turn.Shows n { machine := m, fields } s) {k : Nat} (hk : k < m.tasks.length) (load : Nat)
    (task : Task α) (fields' : Entries) :
    Turn.Shows k { machine := m.waitingFor load n task, fields := fields' }
      { s with joined := none, fields := fields' } := by
  obtain ⟨⟨hcache, hworld, hdesk, hregistry, hconsuming, -, hfree⟩, -, hloads, -⟩ := h
  refine ⟨⟨hcache, hworld, hdesk, hregistry, hconsuming, rfl, hfree⟩, ?_, ?_, rfl⟩
  · simpa [Machine.waitingFor] using hk
  · simpa [Machine.waitingFor] using hloads

/-- When its load has ended, a caller finds what it meets alone. -/
theorem Turn.Shows.afterLoad {k : Nat} (h : t.Shows k s) (hjoined : s.joined = none)
    (hn : n < t.machine.tasks.length) (load : Nat) (outcome : Except Interruption RuleSet)
    (task : Task α) (fields : Entries) :
    Turn.Shows n
      { machine := (t.machine.setTask k none).afterLoad load outcome n task, fields }
      { s with desk := s.desk.forget load, fields } := by
  obtain ⟨⟨hcache, hworld, hdesk, hregistry, hconsuming, -, hfree⟩, -, hloads, -⟩ := h
  refine ⟨⟨hcache, hworld, congrArg (·.forget load) hdesk, hregistry, hconsuming, rfl, hfree⟩,
    ?_, ?_, ?_⟩
  · simpa [Machine.afterLoad, setTask] using hn
  · simpa [Machine.afterLoad, setTask, Desk.length_loads_forget] using hloads
  · rw [hjoined]
    rfl

/-- The load that a caller has joined is done while the caller waits for it. -/
theorem leads_await {load : Nat} {outcome : Except Interruption RuleSet}
    (hawait : s.await load = some (outcome, s')) (h : t.Shows n s) (σ : Station α β)
    (next : Except Interruption RuleSet → Program β) :
    ∃ t' : Turn α, t'.Shows n s' ∧ t'.machine.outcomes = t.machine.outcomes ∧
      Leads (σ.run n (.call (.awaitLoad load) next) t) (σ.run n (next outcome) t') := by
  obtain ⟨m, fields⟩ := t
  obtain rfl : fields = s.fields := h.sees.fields
  obtain ⟨j, u, hj, rfl, hload, rfl⟩ := Solo.await_eq_some_iff.1 hawait
  have howes := h.owes
  rw [hj] at howes
  obtain ⟨k, hkn, hready, htask, hrunning⟩ := howes
  have hlives : n < m.tasks.length := h.lives
  -- The caller waits, and the load begins.
  let waiting : Task α :=
    { work := σ.work (.call (.awaitLoad j.load) next), fields := s.fields,
      wait := some (.load j.load) }
  let m₂ : Machine α := m.waitingFor j.load n waiting
  have hbegins : Leads
      (σ.run n (.call (.awaitLoad j.load) next) { machine := m, fields := s.fields }) _ :=
    leads_wait hkn hready htask hrunning σ next
  have hprogram : s.cache.load j.user j.load = m.cache.load j.user j.load := by
    rw [h.sees.cache]
  rw [hprogram] at hload
  -- The load ends, and the caller is told.
  obtain ⟨t₂, hshows₂, hkeeps₂, hleads₂⟩ :=
    leads_load hload (h.waitingFor (lt_of_task? htask) j.load waiting j.fields) (.load j.load)
  let m₃ : Machine α := t₂.machine.setTask k none
  have hjoined : u.joined = none := (Solo.rests_of_solo_load hload).joined
  have hready₃ : m₃.ready = [] := by
    have howes₂ := hshows₂.owes
    rwa [hjoined] at howes₂
  have hload₃ : m₃.loads[j.load]? = some { waiters := [n] } := by
    have hsame : m₃.loads = m₂.loads := hkeeps₂.loads
    rw [hsame]
    simp only [m₂, waitingFor, List.getElem?_modify_eq]
    rw [hrunning]
    rfl
  have hlives₂ : n < t₂.machine.tasks.length :=
    Nat.lt_of_lt_of_le hlives (by simpa [m₂, waitingFor] using hkeeps₂.length)
  have htask₃ : m₃.task? n = some waiting := by
    refine (task?_setTask_ne (Ne.symm hkn) none).trans ?_
    rw [hkeeps₂.tasks n (Ne.symm hkn) (by simpa [m₂, waitingFor] using hlives)]
    exact task?_setTask hlives (some waiting)
  have hends := leads_endLoad σ outcome hready₃ hload₃
    (by simpa [m₃, setTask] using hlives₂) htask₃
  exact ⟨_, hshows₂.afterLoad hjoined hlives₂ j.load outcome
    { work := waiting.work, fields := s.fields } s.fields, hkeeps₂.outcomes,
    hbegins.trans (hleads₂.trans hends)⟩

/-- An operation of a caller is carried out as it is alone. -/
theorem leads_carry_call {op : Operation} {reply : op.Reply}
    (hop : Helper.call.carry s op = some (reply, s')) (h : t.Shows n s) (σ : Station α β)
    (next : op.Reply → Program β) :
    ∃ t' : Turn α, t'.Shows n s' ∧ t'.machine.outcomes = t.machine.outcomes ∧
      Leads (σ.run n (.call op next) t) (σ.run n (next reply) t') := by
  cases op with
  | joinLoad user => exact leads_join hop h σ next
  | awaitLoad load => exact leads_await hop h σ next
  | _ =>
    obtain ⟨t', ht', hkeeps, hleads⟩ :=
      leads_carry_load (show Helper.load.carry s _ = some (reply, s') from hop) h σ next
    exact ⟨t', ht', hkeeps.outcomes, hleads⟩

/-- The program of a caller is done as it is alone. -/
theorem leads_call {p : Program β} {b : β} (hp : p.solo .call s = some (b, s'))
    (h : t.Shows n s) (σ : Station α β) :
    ∃ t' : Turn α, t'.Shows n s' ∧ t'.machine.outcomes = t.machine.outcomes ∧
      Leads (σ.run n p t) (σ.run n (.done b) t') := by
  induction p generalizing s t with
  | done a =>
    cases hp
    exact ⟨t, h, rfl, Leads.refl _⟩
  | call op next ih =>
    obtain ⟨⟨reply, u⟩, hop, hnext⟩ := Option.bind_eq_some_iff.1 hp
    obtain ⟨t₁, h₁, houtcomes₁, hleads₁⟩ := leads_carry_call hop h σ next
    obtain ⟨t₂, h₂, houtcomes₂, hleads₂⟩ := ih reply hnext h₁
    exact ⟨t₂, h₂, houtcomes₂.trans houtcomes₁, hleads₁.trans hleads₂⟩

/-! ## Letting a caller in -/

/-- What a caller meets who is let in. -/
def solo (m : Machine α) : Solo where
  cache := m.cache
  world := m.world
  desk := m.desk
  registry := m.registry
  consuming := m.consuming
  fields := []

/-- Nothing is to be done, and nothing is held up. -/
structure Idle (m : Machine α) : Prop where
  ready : m.ready = []
  free : m.world.held = []
  loads : m.loads.length = m.desk.loads.length
  outcomes : ∀ o ∈ m.outcomes, o.1 < m.tasks.length

/-- The machine when a caller is let in whose task goes to work at once. -/
def withCaller (m : Machine α) (flow : Flow α) : Machine α :=
  { m with tasks := m.tasks ++ [some { work := .call flow.run }], ready := [] }

/-- A caller whose program comes to its end with nothing else to be done is answered its result. -/
theorem call_of_leads {m : Machine α} (hready : m.ready = [])
    (hnumbers : ∀ o ∈ m.outcomes, o.1 < m.tasks.length) {flow : Flow α} {t' : Turn α}
    {r : Except Interruption α}
    (hleads : Leads
      (Station.call.run m.tasks.length flow.run { machine := m.withCaller flow, fields := [] })
      (Station.call.run m.tasks.length (.done r) t'))
    (hready' : t'.machine.ready = []) (hlives : m.tasks.length < t'.machine.tasks.length)
    (houtcomes : t'.machine.outcomes = m.outcomes) :
    let m' := Station.call.finish m.tasks.length (t'.machine.setTask m.tasks.length none) r
    m.call flow = (m.tasks.length, m') ∧ m'.outcome? m.tasks.length = some r ∧
      ∀ o ∈ m'.outcomes, o.1 < m'.tasks.length := by
  let n := m.tasks.length
  have hsubmit : m.submit flow = (n, { m.withCaller flow with ready := [.resume n .start] }) := by
    simp only [submit, spawn, push, hready]
    rfl
  have htask : (m.withCaller flow).task? n = some { work := Station.call.work flow.run } := by
    simp only [task?, withCaller, n, List.getElem?_concat_length]
    rfl
  have hbegins : Leads { m.withCaller flow with ready := [.resume n .start] }
      (Station.call.run n flow.run { machine := m.withCaller flow, fields := [] }) :=
    leads_begin .call rfl htask
  have hsettle := settle_of_leads (hbegins.trans hleads) hready'
  have hresults : (Station.call.finish n (t'.machine.setTask n none) r).outcomes =
      m.outcomes ++ [(n, r)] := congrArg (· ++ [(n, r)]) houtcomes
  refine ⟨?_, ?_, fun o ho => ?_⟩
  · rw [call, hsubmit]
    exact congrArg (Prod.mk n) hsettle
  · -- The result is found under the number, as nobody else has had it.
    have hnew : m.outcomes.lookup n = none := by
      rw [List.lookup_eq_none_iff]
      intro o ho
      have hlt := hnumbers o ho
      simpa using Nat.ne_of_gt hlt
    rw [outcome?, hresults, List.lookup_append, hnew, List.lookup_cons_self]
    rfl
  · have hlength : n < (t'.machine.setTask n none).tasks.length := by simpa [setTask] using hlives
    rw [hresults, List.mem_append, List.mem_singleton] at ho
    rcases ho with ho | rfl
    · exact Nat.lt_trans (hnumbers o ho) hlength
    · exact hlength

/-- A caller whom an idle machine lets in ends as alone, and leaves the machine idle. -/
theorem call_solo {m : Machine α} (h : m.Idle) {flow : Flow α} {r : Except Interruption α}
    (hflow : flow.solo .call m.solo = some (r, s')) (hjoined : s'.joined = none) :
    ∃ m', m.call flow = (m.tasks.length, m') ∧ m'.Idle ∧
      m'.outcome? m.tasks.length = some r ∧ m'.solo = { s' with fields := [] } := by
  let n := m.tasks.length
  have hshows : Turn.Shows n { machine := m.withCaller flow, fields := [] } m.solo :=
    ⟨⟨rfl, rfl, rfl, rfl, rfl, rfl, h.free⟩, by simp [withCaller, n], h.loads, rfl⟩
  obtain ⟨t', hshows', houtcomes, hleads⟩ := leads_call hflow hshows .call
  have hready : t'.machine.ready = [] := by
    have howes := hshows'.owes
    rwa [hjoined] at howes
  -- When the program has come to its end, nothing is to be done any more.
  obtain ⟨hcall, houtcome, hnumbers⟩ :=
    call_of_leads h.ready h.outcomes hleads hready hshows'.lives houtcomes
  have hsees := hshows'.sees
  refine ⟨_, hcall, ⟨hready, (congrArg World.held hsees.world).trans hsees.free,
    hshows'.loads.trans (congrArg (·.loads.length) hsees.desk.symm), hnumbers⟩, houtcome, ?_⟩
  simp only [solo, ← hsees.cache, ← hsees.world, ← hsees.desk, ← hsees.registry,
    ← hsees.consuming, hjoined]
  rfl

end Machine

end HouseholdAccess
