import HouseholdAccess.Proofs.Machine.Working
import HouseholdAccess.Proofs.Stage.Acting

/-!
# Tasks that stop

A task at work goes on until its program has ended, or until it has to wait: at a point
that is held up, for a load, or for errands, which are started then. What it carries out
on the way, its strand does (`Stage.Mirrors.carryOut`). Nobody acts on the stage when a
task stops, so all that is to be shown then is that the task waits for what its strand
has to do next (`Stage.Mirrors.stop`). So whatever the scheduler makes of a task until
it stops, the stage has come equally far (`Stage.Mirrors.advance`).
-/

namespace HouseholdAccess

variable {γ : Type} {user : Id}

/-! ## Errands that are started -/

namespace Machine

variable (m : Machine Answer) (n : Nat) (errand : Errand) (ids : List Id) (fields : Entries)

/-- The group of errands that a task starts next. -/
def nextGroup : Group where
  caller := n
  tasks := List.range' m.tasks.length ids.length
  results := ids.map fun _ => none

/-- The machine when a task has started errands, and is at work still. -/
def withErrands : Machine Answer :=
  { m with tasks := m.tasks ++ errandTasks m.cache errand m.groups.length fields 0 ids,
           ready := m.ready ++ startJobs m.tasks.length ids.length,
           groups := m.groups ++ [m.nextGroup n ids] }

theorem getElem?_groups_withErrands :
    (m.withErrands n errand ids fields).groups[m.groups.length]? = some (m.nextGroup n ids) :=
  List.getElem?_concat_length

theorem length_tasks_withErrands :
    m.tasks.length ≤ (m.withErrands n errand ids fields).tasks.length :=
  List.length_append ▸ Nat.le_add_right ..

theorem noNews_withErrands (g : Nat) :
    NoNews g m.ready (m.withErrands n errand ids fields).ready := by
  refine noNews_append _ fun i outcome hmem => ?_
  obtain ⟨_, heq⟩ := mem_startJobs hmem
  cases heq

end Machine

namespace Stage

variable {s₀ s : Stage} {cast : Cast} {m m' : Machine Answer} {n : Nat} {r : Role γ}
  {t : Strand γ} {after : Option (Task Answer)}

/-- The task at work stops. -/
theorem ShowsTasks.stop (h : ShowsTasks (some n) cast s m) (htasks : m'.tasks = m.tasks.set n after)
    (hgroups : ∀ k, GroupsStay k m.groups m'.groups)
    (hwakes : ∀ k, Machine.wakes m'.ready k = Machine.wakes m.ready k) (hn : n < m.tasks.length)
    (hnew : ∀ task, after = some task → ShowsTask cast s m'.groups n [] task) :
    ShowsTasks none cast s m' := by
  have hself : m'.task? n = after := Machine.task?_set hn htasks
  have hother {k : Nat} (hk : k ≠ n) : m'.task? k = m.task? k := Machine.task?_set_ne hk htasks
  refine ⟨fun k task hk _ => ?_, fun k hk => ?_⟩
  · rw [hwakes]
    -- What the task waits for has just been shown. No job is to come that tells it to go on.
    by_cases hkn : k = n
    · subst hkn
      rw [h.idle k (.inr rfl)]
      exact hnew task (hself ▸ hk)
    · exact (h.tasks k task (hother hkn ▸ hk) fun heq => hkn (Option.some.inj heq).symm).rests
        (Stays.refl s) (Cast.Grows.refl cast) (hgroups k)
  · rw [hwakes]
    by_cases hkn : k = n
    · exact h.idle k (.inr (congrArg some hkn.symm))
    · exact h.idle k (.inl (hother hkn ▸ hk.resolve_right (Option.some_ne_none k).symm))

/-- A group waits on whose caller is not at work. -/
theorem ShowsGroups.stop (h : ShowsGroups (some n) cast s m)
    (htasks : m'.tasks = m.tasks.set n after) (hgroups : m'.groups = m.groups)
    (hnews : ∀ (g : Nat) (group : Group), m.groups[g]? = some group → group.settled = false →
      Machine.NoNews g m.ready m'.ready)
    (hknown : ∀ g i outcome, .report g i outcome ∈ m'.ready → g < m.groups.length) :
    ShowsGroups none cast s m' := by
  refine showsGroups_of_idle (fun g group hgroup hsettled => ?_) (hgroups ▸ hknown)
  rw [hgroups] at hgroup
  obtain ⟨hne, l, u, hu⟩ := h.groups g group hgroup hsettled
  have hcaller : m'.task? group.caller = m.task? group.caller :=
    Machine.task?_set_ne (fun heq => hne (congrArg some heq.symm)) htasks
  exact ⟨l, u, hu.rests (Stays.refl s) (Cast.Grows.refl cast) hcaller
    (hnews g group hgroup hsettled)⟩

/-- Jobs of which neither a task nor a group is told. -/
def AreQuiet (jobs : List Job) : Prop :=
  ∀ job ∈ jobs, (∃ l, job = .forget l) ∨ ∃ l k, job = .tell l k

theorem areQuiet_nil : AreQuiet [] := List.forall_mem_nil _

theorem AreQuiet.wakes {jobs : List Job} (h : AreQuiet jobs) (k : Nat) :
    Machine.wakes jobs k = [] := by
  rw [Machine.wakes, List.filterMap_eq_nil_iff]
  intro job hjob
  obtain ⟨l, rfl⟩ | ⟨l, i, rfl⟩ := h job hjob <;> rfl

theorem AreQuiet.not_report_mem {jobs : List Job} (h : AreQuiet jobs) (g i : Nat)
    (outcome : Except Interruption (List Id)) : .report g i outcome ∉ jobs := by
  intro hmem
  obtain ⟨l, heq⟩ | ⟨l, k, heq⟩ := h _ hmem <;> cases heq

/-- The task at work stops, and nobody else is told to go on. -/
theorem Mirrors.stop (h : Mirrors user s₀ (some n) cast s m) (hplace : SharesPlace s m')
    (hn : n < m.tasks.length) (htasks : m'.tasks = m.tasks.set n after)
    (hgroups : m'.groups = m.groups) {jobs : List Job} (hready : m'.ready = m.ready ++ jobs)
    (hjobs : AreQuiet jobs) (hrunning : m'.loads.length = m.loads.length)
    (hloads : ShowsLoads s m') (hcalls : ShowsCalls cast s m')
    (hnew : ∀ task, after = some task → ShowsTask cast s m.groups n [] task) :
    Mirrors user s₀ none cast s m' := by
  have hnews (g : Nat) : Machine.NoNews g m.ready m'.ready :=
    hready ▸ Machine.noNews_append _ (hjobs.not_report_mem g)
  exact {
    reached := h.reached
    behaves := h.behaves
    place := hplace
    isCast := h.isCast.stays rfl rfl hrunning (by rw [htasks, List.length_set])
    tasks := h.tasks.stop htasks (fun k => hgroups ▸ GroupsStay.refl k _)
      (fun k => by rw [hready, Machine.wakes_append, hjobs.wakes, List.append_nil]) hn
      (hgroups ▸ hnew)
    groups := h.groups.stop htasks hgroups (fun g _ _ _ => hnews g) fun g i outcome hmem =>
      h.groups.reports g i outcome ((hnews g).reports i outcome hmem)
    loads := hloads
    calls := hcalls }

/-- The task at work stops, and the jobs to come are the same. -/
theorem Mirrors.pause (h : Mirrors user s₀ (some n) cast s m) (hplace : SharesPlace s m')
    (hn : n < m.tasks.length) (htasks : m'.tasks = m.tasks.set n after)
    (hgroups : m'.groups = m.groups) (hready : m'.ready = m.ready)
    (hrunning : m'.loads.length = m.loads.length) (hloads : ShowsLoads s m')
    (hcalls : ShowsCalls cast s m')
    (hnew : ∀ task, after = some task → ShowsTask cast s m.groups n [] task) :
    Mirrors user s₀ none cast s m' :=
  h.stop hplace hn htasks hgroups (hready.trans (List.append_nil _).symm) areQuiet_nil hrunning
    hloads hcalls hnew

/-! ## Ends -/

/-- A load ends, and everybody is told. -/
theorem ShowsLoads.finish (h : ShowsLoads s m) {l : Nat} {t : Strand RuleSet}
    {outcome : Except Interruption RuleSet} (ht : s.loads[l]? = some t)
    (hdone : t.program = .done outcome) {waiters : List Nat}
    (hloads : m'.loads = m.loads.modify l ({ · with outcome := some outcome }))
    (hready : m'.ready = m.ready ++ .forget l :: waiters.map (.tell l)) : ShowsLoads s m' := by
  refine ⟨fun k running result hk hended => ?_, fun k hk => ?_⟩
  · rw [hloads, List.getElem?_modify] at hk
    obtain ⟨before, hbefore, rfl⟩ := Option.map_eq_some_iff.1 hk
    split at hended
    · next heq =>
      cases hended
      exact heq ▸ ⟨t, ht, hdone⟩
    · exact h.ended k before result hbefore hended
  · -- The load is to be forgotten from now on, others as before.
    rw [hready] at hk
    rcases List.mem_append.1 hk with hk | hk
    · exact h.forgets k hk
    · rcases List.mem_cons.1 hk with hk | hk
      · cases hk
        exact ⟨t, outcome, ht, hdone⟩
      · obtain ⟨_, -, hk⟩ := List.mem_map.1 hk
        cases hk

/-- The program of the task at work has come to its end. -/
theorem Mirrors.finish (h : Mirrors user s₀ (some n) cast s m) {x : Except Interruption γ}
    (hp : Performs r n (.done x) cast s) (hn : n < m.tasks.length) :
    Mirrors user s₀ none cast s (r.station.finish n (m.setTask n none) x) := by
  obtain ⟨hr, t, ht, hprogram, -⟩ := hp
  cases r with
  | caller i =>
    obtain ⟨⟨k, call⟩, hcaller, rfl⟩ := Option.map_eq_some_iff.1 hr
    refine h.pause ⟨h.place.cache, h.place.world, h.place.desk, h.place.registry⟩ hn rfl rfl rfl
      rfl ⟨h.loads.ended, h.loads.forgets⟩ ⟨h.calls.calls, fun j result hmem => ?_⟩
      fun _ hnone => (by cases hnone)
    rcases List.mem_append.1 hmem with hmem | hmem
    · exact h.calls.outcomes j result hmem
    · cases List.mem_singleton.1 hmem
      exact ⟨i, call, t, hcaller, ht, hprogram⟩
  -- Those are told who wait for the load: they go on when their jobs are done.
  | load l =>
    have hend := Machine.endLoad_eq (m.setTask n none) l x
    generalize Machine.waitersOf (m.setTask n none) l = waiters at hend
    have hquiet : AreQuiet (.forget l :: waiters.map (.tell l)) := by
      refine List.forall_mem_cons.2 ⟨.inl ⟨l, rfl⟩, fun job hjob => ?_⟩
      obtain ⟨k, -, rfl⟩ := List.mem_map.1 hjob
      exact .inr ⟨l, k, rfl⟩
    change Mirrors user s₀ none cast s ((m.setTask n none).endLoad l x)
    rw [hend]
    exact h.stop ⟨h.place.cache, h.place.world, h.place.desk, h.place.registry⟩ hn rfl rfl rfl
      hquiet (List.length_modify ..) (h.loads.finish ht hprogram rfl rfl)
      ⟨h.calls.calls, h.calls.outcomes⟩ fun _ hnone => (by cases hnone)

/-! ## Waiting -/

/-- The task at work waits at a point. -/
theorem Mirrors.waitAt (h : Mirrors user s₀ (some n) cast s m) (hn : n < m.tasks.length)
    {a : Access} {next : (Operation.access a).Reply → Program (Except Interruption γ)}
    (hp : Performs r n (.call (.access a) next) cast s) (p : Point) (fields : Entries)
    (queue : List (Point × Nat)) :
    Mirrors user s₀ none cast s { m.setTask n (some
      { work := r.station.work (.call (.access a) next), fields, wait := some (.point p) }) with
        queue } := by
  obtain ⟨hr, t, ht, hprogram, -⟩ := hp
  refine h.pause ⟨h.place.cache, h.place.world, h.place.desk, h.place.registry⟩ hn rfl rfl rfl rfl
    ⟨h.loads.ended, h.loads.forgets⟩ ⟨h.calls.calls, h.calls.outcomes⟩ fun task htask => ?_
  cases htask
  exact .strand hr ht (hprogram ▸ rfl) (.point p hprogram)

/-- The task at work waits for a load. -/
theorem Mirrors.waitFor (h : Mirrors user s₀ (some n) cast s m) (hn : n < m.tasks.length)
    {l : Nat} {next : Except Interruption RuleSet → Program (Except Interruption γ)}
    (hp : Performs r n (.call (.awaitLoad l) next) cast s) (fields : Entries) :
    Mirrors user s₀ none cast s (Machine.setTask
      { m with loads := m.loads.modify l fun x => { x with waiters := x.waiters ++ [n] } } n (some
        { work := r.station.work (.call (.awaitLoad l) next), fields,
          wait := some (.load l) })) := by
  obtain ⟨hr, t, ht, hprogram, -⟩ := hp
  refine h.pause ⟨h.place.cache, h.place.world, h.place.desk, h.place.registry⟩ hn rfl rfl rfl
    (List.length_modify ..) ⟨fun k running outcome hk hended => ?_, h.loads.forgets⟩
    ⟨h.calls.calls, h.calls.outcomes⟩ fun task htask => ?_
  · change (m.loads.modify _ _)[k]? = _ at hk
    rw [List.getElem?_modify] at hk
    obtain ⟨before, hbefore, rfl⟩ := Option.map_eq_some_iff.1 hk
    split at hended <;> exact h.loads.ended k before outcome hbefore hended
  · cases htask
    exact .strand hr ht (hprogram ▸ rfl) (.load hprogram)

/-! ## Waiting for errands -/

/-- A group is shown whose errands are to begin. -/
theorem showsGroup_of_begin {g l : Nat} {group : Group} {u : Strand RuleSet}
    (hload : cast.loads[l]? = some group.caller) (hu : s.loads[l]? = some u)
    (hwaits : ∃ task, m.task? group.caller = some task ∧ task.work = .load l u.program ∧
      task.wait = some (.group g))
    (hresults : group.results = u.parts.map fun _ => none) (hfailed : u.failed = none)
    (hquiet : ∀ i outcome, .report g i outcome ∉ m.ready) : ShowsGroup cast s m g group l u where
  load := hload
  strand := hu
  waits := hwaits
  length := hresults ▸ List.length_map _
  results := fun i found hi => by
    rw [hresults, List.getElem?_map] at hi
    obtain ⟨_, -, heq⟩ := Option.map_eq_some_iff.1 hi
    cases heq
  reports := fun i outcome hmem => absurd hmem (hquiet i outcome)
  failed := hfailed.trans (Machine.failure?_eq_none hquiet).symm

/-- The errands that the load at work has started are to begin. -/
theorem Mirrors.showsTasks_withErrands (h : Mirrors user s₀ (some n) cast s m)
    (hn : n < m.tasks.length) {errand : Errand} {ids : List Id} {l : Nat} {t : Strand RuleSet}
    (hr : cast.loads[l]? = some n) (ht : s.loads[l]? = some t)
    (hparts : t.parts = ids.map fun id => (s.service.cache.errand errand id).run)
    (fields : Entries) : ShowsTasks (some n) cast s (m.withErrands n errand ids fields) := by
  refine h.tasks.start (congrArg (m.tasks ++ ·) (Machine.errandTasks_eq ..))
    (by rw [List.length_mapIdx]; rfl) (fun k hk => Option.some.inj hk ▸ hn)
    (fun k task hk hne => (h.tasks.tasks k task hk hne).rests (Stays.refl s)
      (Cast.Grows.refl cast) (groupsStay_append k m.groups _)) fun i task hi => ?_
  rw [List.getElem?_mapIdx] at hi
  obtain ⟨id, hid, rfl⟩ := Option.map_eq_some_iff.1 hi
  have hpart : t.parts[i]? = some (m.cache.errand errand id).run := by
    rw [hparts, List.getElem?_map, hid, h.place.cache]
    rfl
  refine .errand (m.getElem?_groups_withErrands n errand ids fields) ?_
    (congrArg (Work.errand _ · _) (Nat.zero_add i))
    ((h.behaves.loads l t ht).reading _ (List.mem_of_getElem? hpart)) (by cases errand <;> rfl)
    (fun _ => ⟨l, t, hr, ht, hpart⟩) .start
  change (List.range' m.tasks.length ids.length)[i]? = _
  rw [List.getElem?_range' (List.getElem?_eq_some_iff.1 hid).1, Nat.one_mul]

/-- When the load that has started errands waits for them, all groups are shown, and theirs too. -/
theorem Mirrors.showsGroups_withErrands (h : Mirrors user s₀ (some n) cast s m)
    (hn : n < m.tasks.length) {errand : Errand} {ids : List Id} {fields : Entries} {l : Nat}
    {t : Strand RuleSet} (hr : cast.loads[l]? = some n) (ht : s.loads[l]? = some t)
    (hparts : t.parts = ids.map fun id => (s.service.cache.errand errand id).run)
    (hfailed : t.failed = none) {waiting : Task Answer} (hwork : waiting.work = .load l t.program)
    (hwait : waiting.wait = some (.group m.groups.length)) :
    ShowsGroups none cast s ((m.withErrands n errand ids fields).setTask n (some waiting)) := by
  have hnews := m.noNews_withErrands n errand ids fields
  refine showsGroups_of_idle (fun g other hg hsettled => ?_) fun g i outcome hmem => ?_
  · rcases getElem?_snoc_cases hg with hg | ⟨rfl, rfl⟩
    · -- A group that was there before waits for another load, as this one is at work.
      obtain ⟨hne, k, u, hu⟩ := h.groups.groups g other hg hsettled
      obtain ⟨caller, hcaller, -⟩ := hu.waits
      refine ⟨k, u, hu.rests (Stays.refl s) (Cast.Grows.refl cast) ?_ (hnews g)⟩
      rw [Machine.task?_setTask_ne fun heq => hne (congrArg some heq.symm)]
      exact Machine.task?_append rfl (Machine.lt_of_task? hcaller)
    · -- No errand of the new group has ended, so that it is not to be told of any.
      have hresults : (m.nextGroup n ids).results = t.parts.map fun _ => none := by
        rw [hparts, List.map_map]
        rfl
      refine ⟨l, t, showsGroup_of_begin hr ht ⟨waiting, ?_, hwork, hwait⟩ hresults hfailed
        fun i outcome hmem => ?_⟩
      · exact Machine.task?_setTask (hn.trans_le (m.length_tasks_withErrands ..)) _
      · exact absurd (h.groups.reports _ i outcome ((hnews _).reports i outcome hmem))
          (lt_irrefl _)
  · exact List.length_append ▸
      Nat.lt_add_right _ (h.groups.reports g i outcome ((hnews g).reports i outcome hmem))

/-- The load at work waits for errands, which are to begin. -/
theorem Mirrors.waitForErrands (h : Mirrors user s₀ (some n) cast s m) (hn : n < m.tasks.length)
    {errand : Errand} {ids : List Id} (hids : ids ≠ []) {l : Nat}
    {next : Except Interruption (List (List Id)) → Program (Except Interruption RuleSet)}
    (hp : Performs (.load l) n (.call (.each errand ids) next) cast s) (fields : Entries) :
    Mirrors user s₀ none cast s
      ((Station.load l).run n (.call (.each errand ids) next) { machine := m, fields }) := by
  obtain ⟨hr, t, ht, hprogram, hfresh, hfailed⟩ := hp
  have ht : s.loads[l]? = some t := ht
  have hparts : t.parts = ids.map fun id => (s.service.cache.errand errand id).run := by
    rw [hfresh, hprogram]
    rfl
  let waiting : Task Answer := { work := .load l (.call (.each errand ids) next), fields,
                                 wait := some (.group m.groups.length) }
  have hrun : (Station.load l).run n (.call (.each errand ids) next) { machine := m, fields } =
      (m.withErrands n errand ids fields).setTask n (some waiting) := by
    rw [Machine.run_each errand hids hn, Machine.setTask, ← List.set_append_left _ _ hn]
    rfl
  rw [hrun]
  exact {
    reached := h.reached
    behaves := h.behaves
    place := ⟨h.place.cache, h.place.world, h.place.desk, h.place.registry⟩
    isCast := h.isCast.stays rfl rfl rfl
      ((m.length_tasks_withErrands ..).trans_eq List.length_set.symm)
    tasks := by
      -- With the errands, everybody is shown except for the load, which stops now.
      refine (h.showsTasks_withErrands hn hr ht hparts fields).stop rfl
        (fun k => GroupsStay.refl k _) (fun _ => rfl)
        (hn.trans_le (m.length_tasks_withErrands ..)) fun task htask => ?_
      cases htask
      exact .strand (r := .load l) hr ht (hprogram ▸ rfl)
        (.errands hprogram (m.getElem?_groups_withErrands n errand ids fields) rfl rfl)
    groups := h.showsGroups_withErrands hn hr ht hparts hfailed (congrArg _ hprogram.symm) rfl
    loads := h.loads.stays (Stays.refl s) rfl fun k hk => (List.mem_append.1 hk).resolve_right
      fun hk => by
        obtain ⟨_, heq⟩ := Machine.mem_startJobs hk
        cases heq
    calls := h.calls.rests (Stays.refl s) rfl rfl }

/-! ## Going on -/

/-- The task at work joins a load that is under way. -/
theorem Mirrors.joinPending (huser : user.isText = true) (h : Mirrors user s₀ (some n) cast s m)
    {v : Id} {l : Nat} {next : Nat → Program (Except Interruption γ)}
    (hp : Performs r n (.call (.joinLoad v) next) cast s) (hpending : m.desk.pendingOf v = some l) :
    ∃ s', Mirrors user s₀ (some n) cast s' m ∧ Performs r n (next l) cast s' := by
  obtain ⟨hr, t, ht, hprogram, -⟩ := hp
  have hcarry : s.carry t.gathered? (.joinLoad v) = some (l, s.place, []) := by
    rw [h.place.desk] at hpending
    simp only [carry, hpending]
  exact h.acted huser hr ht hprogram hcarry h.place.world h.place.desk h.place.registry

/-- The task at work asks for the outcome of a load that has ended. -/
theorem Mirrors.awaitEnded (huser : user.isText = true) (h : Mirrors user s₀ (some n) cast s m)
    {l : Nat} {next : Except Interruption RuleSet → Program (Except Interruption γ)}
    (hp : Performs r n (.call (.awaitLoad l) next) cast s) {outcome : Except Interruption RuleSet}
    (houtcome : (m.loads[l]?).bind (·.outcome) = some outcome) :
    ∃ s', Mirrors user s₀ (some n) cast s' m ∧ Performs r n (next outcome) cast s' := by
  obtain ⟨hr, t, ht, hprogram, -⟩ := hp
  obtain ⟨running, hrunning, hended⟩ := Option.bind_eq_some_iff.1 houtcome
  obtain ⟨u, hu, hdone⟩ := h.loads.ended l running outcome hrunning hended
  have hcarry : s.carry t.gathered? (.awaitLoad l) = some (outcome, s.place, []) := by
    simp only [carry, hu, Option.bind_some, hdone]
    rfl
  exact h.acted huser hr ht hprogram hcarry h.place.world h.place.desk h.place.registry

/-- The task at work asks for errands without names: the result is there at once. -/
theorem Mirrors.eachNone (huser : user.isText = true) (h : Mirrors user s₀ (some n) cast s m)
    {errand : Errand}
    {next : Except Interruption (List (List Id)) → Program (Except Interruption γ)}
    (hp : Performs r n (.call (.each errand []) next) cast s) :
    ∃ s', Mirrors user s₀ (some n) cast s' m ∧ Performs r n (next (.ok [])) cast s' := by
  obtain ⟨hr, t, ht, hprogram, hparts, hfailed⟩ := hp
  have hcarry : s.carry t.gathered? (.each errand []) = some (.ok [], s.place, []) := by
    rw [Strand.gathered?, hparts, hfailed, hprogram]
    rfl
  exact h.acted huser hr ht hprogram hcarry h.place.world h.place.desk h.place.registry

/-- What the task at work carries out at once, the strand does. -/
theorem Mirrors.carryOut (huser : user.isText = true) {x x' : Machine.Turn Answer} {op : Operation}
    {next : op.Reply → Program (Except Interruption γ)} {reply : op.Reply}
    (h : Mirrors user s₀ (some n) cast s x.machine) (hp : Performs r n (.call op next) cast s)
    (hn : n < x.machine.tasks.length) (hcarry : x.carry? op = some (reply, x')) :
    ∃ cast' s', cast'.callers = cast.callers ∧ Mirrors user s₀ (some n) cast' s' x'.machine ∧
      Performs r n (next reply) cast' s' ∧ n < x'.machine.tasks.length := by
  obtain ⟨hr, t, ht, hprogram, hfresh⟩ := hp
  have habout := h.behaves.isAbout ht hprogram
  cases op with
  | access a =>
    rw [Machine.Turn.carry?] at hcarry
    split at hcarry
    · cases hcarry
    · -- The answer depends on what is seen of the world only, which is the same there.
      have hbegun := h.withWorld (World.visible_begin x.machine.world a) x.machine.queue
      obtain ⟨s', hs', hp'⟩ := hbegun.access huser hr ht hprogram
      cases hcarry
      exact ⟨cast, s', rfl, hs', hp', hn⟩
  | joinLoad v =>
    rw [Machine.Turn.carry?] at hcarry
    split at hcarry
    · next l hpending =>
      obtain ⟨s', hs', hp'⟩ := h.joinPending huser ⟨hr, t, ht, hprogram, hfresh⟩ hpending
      cases hcarry
      exact ⟨cast, s', rfl, hs', hp', hn⟩
    · next hpending =>
      -- One more load is there from now on, and one more task plays it.
      obtain ⟨s', hs', hp'⟩ := h.startLoad huser hr ht hprogram hpending hn x.fields
      cases hcarry
      exact ⟨cast.withLoad x.machine.tasks.length, s', rfl, hs', hp',
        List.length_append ▸ Nat.lt_add_right 1 hn⟩
  | awaitLoad l =>
    obtain ⟨outcome, houtcome, hx⟩ := Option.map_eq_some_iff.1 hcarry
    obtain ⟨s', hs', hp'⟩ := h.awaitEnded huser ⟨hr, t, ht, hprogram, hfresh⟩ houtcome
    cases hx
    exact ⟨cast, s', rfl, hs', hp', hn⟩
  | each errand ids =>
    rw [Machine.Turn.carry?] at hcarry
    split at hcarry
    · next hempty =>
      obtain rfl := List.isEmpty_iff.1 hempty
      obtain ⟨s', hs', hp'⟩ := h.eachNone huser ⟨hr, t, ht, hprogram, hfresh⟩
      cases hcarry
      exact ⟨cast, s', rfl, hs', hp', hn⟩
    · cases hcarry
  | overtake v =>
    obtain ⟨s', hs', hp'⟩ := h.acted huser hr ht hprogram rfl h.place.world
      (congrArg (·.overtake v) h.place.desk) h.place.registry
    cases hcarry
    exact ⟨cast, s', rfl, hs', hp', hn⟩
  | isOvertaken l =>
    obtain ⟨s', hs', hp'⟩ := h.acted huser hr ht hprogram rfl h.place.world h.place.desk
      h.place.registry
    rw [← h.place.desk] at hp'
    cases hcarry
    exact ⟨cast, s', rfl, hs', hp', hn⟩
  | count series =>
    obtain ⟨s', hs', hp'⟩ := h.acted huser hr ht hprogram rfl h.place.world h.place.desk
      (congrArg (·.map (·.count series)) h.place.registry)
    cases hcarry
    exact ⟨cast, s', rfl, hs', hp', hn⟩
  | _ => exact habout.elim

/-- Where the task at work has to wait, the strand has not gone on yet. -/
theorem Mirrors.wait {op : Operation} {next : op.Reply → Program (Except Interruption γ)}
    (h : Mirrors user s₀ (some n) cast s m) (hp : Performs r n (.call op next) cast s)
    (hn : n < m.tasks.length) {fields : Entries}
    (hstops : Machine.Turn.Stops { machine := m, fields } op) :
    Mirrors user s₀ none cast s (r.station.run n (.call op next) { machine := m, fields }) := by
  cases hstops with
  -- Only the machine knows of points that are held up: the strand has not asked yet.
  | @held a p hheld =>
    rw [r.station.run_access hheld]
    exact (h.withWorld (World.visible_begin m.world a) m.queue).waitAt hn hp p fields _
  | waits hnone =>
    rw [r.station.run_awaitLoad hnone]
    exact h.waitFor hn hp fields
  | errands hids =>
    cases r with
    | caller i =>
      -- Callers who look up or drop the rule set of one user have no errands done.
      obtain ⟨-, t, ht, hprogram, -⟩ := hp
      have hmay := (h.behaves.callers t (List.mem_of_getElem? ht)).rest
      rw [hprogram] at hmay
      exact hmay.1.elim
    | load l => exact h.waitForErrands hn hids hp fields

/-- The task at work goes on until it has to wait, and so does the strand. -/
theorem Mirrors.advance (huser : user.isText = true) {p : Program (Except Interruption γ)}
    (h : Mirrors user s₀ (some n) cast s m) (hp : Performs r n p cast s) (hn : n < m.tasks.length)
    (fields : Entries) : ∃ cast' s', cast'.callers = cast.callers ∧
      Mirrors user s₀ none cast' s' (r.station.run n p { machine := m, fields }) := by
  -- The induction is on the program: an operation that does not stop the task leaves the rest.
  induction p generalizing cast s m fields with
  | done x => exact ⟨cast, s, rfl, h.finish hp hn⟩
  | call op next ih =>
    cases hcarry : Machine.Turn.carry? { machine := m, fields } op with
    | some x =>
      obtain ⟨reply, x'⟩ := x
      rw [r.station.run_of_carry? hcarry]
      obtain ⟨cast', s', hcast, h', hp', hn'⟩ := h.carryOut huser hp hn hcarry
      obtain ⟨cast'', s'', hcast', h''⟩ := ih reply h' hp' hn' x'.fields
      exact ⟨cast'', s'', hcast'.trans hcast, h''⟩
    | none => exact ⟨cast, s, rfl, h.wait hp hn (Machine.Turn.stops_of_carry? hcarry)⟩

end Stage

end HouseholdAccess
