import HouseholdAccess.Proofs.Machine.Stops
import HouseholdAccess.Proofs.Stage.Settling

/-!
# Jobs in any order

A machine stays in order whichever of its jobs is done next (`Machine.Sound.perform`): not
only the first, but any of them, with others *before* and *after* it.

A job that lets a task go on is the only one for that task, so that the task goes to work
when the job is taken (`Machine.Sound.pop`). What the task hears then fits what its program
has asked for (`Machine.Sound.hear`), and the rest is its turn. Other jobs are just gone
when they are taken (`Machine.Sound.remove`), after they have let a task go on
(`Machine.Sound.wake`), or a group know (`Machine.Sound.note`).
-/

namespace HouseholdAccess

variable {β : Type}

/-! ## Groups -/

theorem exists_of_mapM_id_eq_none {α : Type} {xs : List (Option α)} (h : xs.mapM id = none) :
    ∃ j : Nat, xs[j]? = some none := by
  by_contra hnone
  obtain ⟨ys, hys⟩ := exists_mapM_eq_some (g := id) fun x hx =>
    Option.ne_none_iff_exists'.1 fun hx' => hnone (List.mem_iff_getElem?.1 (hx' ▸ hx))
  exact Option.some_ne_none ys (hys.symm.trans h)

namespace Group

variable {group : Group} {i : Nat}

/-- Nobody but the caller goes on after a report. -/
theorem wakes_calls (outcome : Except Interruption (List Id)) (k : Nat) :
    Machine.wakes (group.calls i outcome) k =
      if group.caller = k then ((group.news i outcome).map .gathered).toList else [] := by
  rw [calls]
  cases group.news i outcome with
  | none => exact (ite_self _).symm
  | some x => exact Machine.wakes_resume ..

/-- If the caller is told nothing, another errand has not brought back anything yet. -/
theorem exists_of_heard {outcome : Except Interruption (List Id)}
    (h : (group.heard i outcome).settled = false) :
    (∃ j : Nat, (group.noted i outcome)[j]? = some none) ∧
      ∀ j : Nat, (group.noted i outcome)[j]? = some none →
        group.results[j]? = some none ∧ j ≠ i := by
  have hnone : group.news i outcome = none :=
    Option.isNone_iff_eq_none.1 (Option.isSome_eq_false_iff.1 h)
  cases outcome with
  | error e => cases hnone
  | ok ids =>
    refine ⟨exists_of_mapM_id_eq_none (Option.map_eq_none_iff.1 hnone), fun j hj => ?_⟩
    rcases Stage.getElem?_set_cases hj with ⟨-, hj⟩ | ⟨hne, hj⟩
    · cases hj
    · exact ⟨hj, hne⟩

end Group

namespace Machine

variable {past : Past} {m m' : Machine Answer} {n : Nat} {before after : List Job}

/-! ## Taking a job -/

section Taking

variable {jobs : List Job} {job : Job}

theorem wakes_taken (hjobs : jobs = before ++ job :: after) (k : Nat) :
    wakes jobs k = wakes before k ++ (job.wake? k).toList ++ wakes after k := by
  rw [hjobs, wakes_append, wakes_cons, List.append_assoc]

theorem wakes_of_quiet (hjobs : jobs = before ++ job :: after) {k : Nat}
    (hquiet : job.wake? k = none) : wakes (before ++ after) k = wakes jobs k := by
  rw [wakes_taken hjobs, hquiet, wakes_append]
  exact congrArg (· ++ wakes after k) (List.append_nil _).symm

theorem mem_of_taken (hjobs : jobs = before ++ job :: after) {other : Job} (hne : other ≠ job) :
    other ∈ before ++ after ↔ other ∈ jobs := by
  rw [hjobs, List.mem_append, List.mem_append, List.mem_cons, or_iff_right hne]

/-- Whoever is told by another job is told still. -/
theorem Tells.of_taken (hjobs : m.ready = before ++ job :: after) {load k : Nat}
    (h : m.Tells load k) (hne : (m.ended? load).isSome → .tell load k ≠ job)
    (hloads : m'.loads = m.loads)
    (hready : ∀ other ∈ before ++ after, other ∈ m'.ready) : m'.Tells load k := by
  rw [Tells, ended?, hloads]
  refine h.imp_right fun hended => ⟨hended.1, hready _ ?_⟩
  exact (mem_of_taken hjobs (hne hended.1)).2 hended.2

/-- A job is gone that nobody waits for any more. -/
theorem Sound.remove (h : Sound past none m) (hjobs : m.ready = before ++ job :: after)
    (hquiet : ∀ k, job.wake? k = none)
    (htell : ∀ load k, job = .tell load k → (m.ended? load).isSome →
      (m.task? k).bind (·.wait) ≠ some (.load load))
    (hreport : ∀ g i outcome, job = .report g i outcome → ∀ group : Group,
      m.groups[g]? = some group → group.settled = true) {desk : Desk}
    (hregisters : Registers { m with ready := before ++ after, desk }) :
    Sound past none { m with ready := before ++ after, desk } := by
  refine h.still hregisters rfl rfl rfl rfl (fun k => wakes_of_quiet hjobs (hquiet k))
    (fun load k hwait htells => ?_) fun g group hg hsettled i outcome hmem => ?_
  · refine htells.of_taken hjobs (fun hended heq => ?_) rfl fun _ => id
    exact htell load k heq.symm hended hwait
  · refine (mem_of_taken hjobs fun heq => ?_).2 hmem
    rw [hreport g i outcome heq.symm group hg] at hsettled
    cases hsettled

end Taking

/-- The desk forgets a load. -/
theorem Sound.forget (h : Sound past none m) {load : Nat}
    (hjobs : m.ready = before ++ .forget load :: after) :
    Sound past none { m with ready := before ++ after, desk := m.desk.forget load } :=
  h.remove hjobs (fun _ => rfl) (fun _ _ heq => Job.noConfusion heq)
    (fun _ _ _ heq => Job.noConfusion heq) (h.registers.forget hjobs)

/-! ## Going on -/

/-- A task is told at most one thing. -/
theorem Awaits.length_le {p : Program β} {wait : Option Wait} {wakes : List Wake}
    (h : Awaits past m n p wait wakes) : wakes.length ≤ 1 := by
  cases h <;> simp

/-- Only who waits for errands is told anything while waiting, and only once they are settled. -/
theorem Awaits.eq_nil {p : Program β} {w : Wait} {wakes : List Wake}
    (h : Awaits past m n p (some w) wakes)
    (hw : ∀ (g : Nat) (group : Group), w = .group g → m.groups[g]? = some group →
      group.settled = false) : wakes = [] := by
  cases h with
  | held | load | errands => rfl
  | gathered hgroup hsettled =>
    rw [hw _ _ rfl hgroup] at hsettled
    cases hsettled

/-- There is no other job for a task that is to go on. -/
theorem Sound.wakes_eq (h : Sound past none m) {wake : Wake}
    (hjobs : m.ready = before ++ .resume n wake :: after) :
    wakes m.ready n = [wake] ∧ wakes (before ++ after) n = [] := by
  have hself : wakes m.ready n = wakes before n ++ [wake] ++ wakes after n := by
    rw [wakes_taken hjobs, Job.wake?, if_pos rfl]
    rfl
  have hle : (wakes m.ready n).length ≤ 1 := by
    cases h.tasks.rests n (Option.some_ne_none n).symm with
    | gone _ hquiet => simp [hquiet]
    | task _ _ hawaits => exact hawaits.length_le
  simp only [hself, List.length_append, List.length_singleton] at hle
  have hbefore : wakes before n = [] := List.length_eq_zero_iff.1 (by omega)
  have hafter : wakes after n = [] := List.length_eq_zero_iff.1 (by omega)
  rw [hself, wakes_append, hbefore, hafter]
  exact ⟨rfl, rfl⟩

/-- A task that is to go on goes to work. -/
theorem Sound.pop (h : Sound past none m) {wake : Wake}
    (hjobs : m.ready = before ++ .resume n wake :: after) :
    Sound past (some n) { m with ready := before ++ after } ∧
      ∃ (β : Type) (σ : Station Answer β) (p : Program β) (fields : Entries)
        (wait : Option Wait), m.task? n = some { work := σ.work p, fields, wait } ∧
        Fits past { m with ready := before ++ after } n σ p ∧
        Awaits past { m with ready := before ++ after } n p wait [wake] := by
  let m' : Machine Answer := { m with ready := before ++ after }
  have htells (load k : Nat) (htells : m.Tells load k) : m'.Tells load k :=
    htells.of_taken hjobs (fun _ heq => Job.noConfusion heq) rfl fun _ => id
  have hwakes {k : Nat} (hk : k ≠ n) : wakes m'.ready k = wakes m.ready k :=
    wakes_of_quiet hjobs (if_neg hk.symm)
  have hb : Beside n m m' := ⟨le_rfl, fun _ _ _ => rfl, fun k hk _ => hwakes hk, fun _ _ => id,
    fun load k _ => htells load k, fun g group hg _ => ⟨group, hg, rfl, rfl⟩⟩
  obtain ⟨hself, hquiet⟩ := h.wakes_eq hjobs
  cases h.tasks.rests n (Option.some_ne_none n).symm with
  | gone _ hnil =>
    rw [hself] at hnil
    cases hnil
  | @task β σ p fields wait htask hfits hawaits =>
    rw [hself] at hawaits
    have hcaller (g : Nat) (group : Group) (hg : m.groups[g]? = some group)
        (hsettled : group.settled = false) : group.caller ≠ n := by
      rintro rfl
      obtain ⟨-, task, htask', hwait⟩ := h.groups.waits g group hg hsettled
      obtain rfl := Option.some.inj (htask.symm.trans htask')
      obtain rfl : wait = some (.group g) := hwait
      have hnil := hawaits.eq_nil fun g' group' heq hg' => by
        cases heq
        exact Option.some.inj (hg.symm.trans hg') ▸ hsettled
      cases hnil
    refine ⟨⟨?_, h.tasks.beside hb (.inl rfl) (.inl ⟨rfl, hquiet⟩) fun k hk hge => ?_,
      h.loads.congr rfl (fun _ => rfl) fun _ _ => Iff.rfl,
      h.groups.beside hb rfl (fun _ _ _ hmem => ?_) hcaller (.inr rfl) (.inl rfl),
      h.callers.congr le_rfl le_rfl (fun _ _ => id) rfl (fun _ _ => id) fun _ => id⟩,
      β, σ, p, fields, wait, htask, hfits.mono fun _ _ => id, ?_⟩
    · exact h.registers.congr rfl rfl (fun _ => rfl) fun load =>
        mem_of_taken hjobs fun heq => Job.noConfusion heq
    · obtain ⟨hnone, hnil⟩ := (h.tasks.rests k (Option.some_ne_none k).symm).of_le hge
      exact .gone hnone ((hwakes hk).trans hnil)
    · exact (mem_of_taken hjobs fun heq => Job.noConfusion heq).2 hmem
    · exact hawaits.mono (fun _ _ => id) (fun load _ => htells load n)
        fun g group hg _ => ⟨group, hg, rfl, rfl⟩

/-- A task is to go on, after all. -/
theorem Sound.unpop (h : Sound past (some n) m) (hjobs : m.ready = before ++ after) {wake : Wake}
    {σ : Station Answer β} {p : Program β} {fields : Entries} {wait : Option Wait}
    (htask : m.task? n = some { work := σ.work p, fields, wait }) (hfits : Fits past m n σ p)
    (hawaits : Awaits past m n p wait [wake]) :
    Sound past none { m with ready := before ++ .resume n wake :: after } := by
  let m' : Machine Answer := { m with ready := before ++ .resume n wake :: after }
  have hmem (job : Job) (hjob : job ∈ m.ready) : job ∈ m'.ready := by
    rw [hjobs, List.mem_append] at hjob
    exact List.mem_append.2 (hjob.imp_right (List.mem_cons_of_mem _))
  have hwakes {k : Nat} (hk : k ≠ n) : wakes m'.ready k = wakes m.ready k := by
    have hquiet : (Job.resume n wake).wake? k = none := if_neg hk.symm
    rw [hjobs]
    exact (wakes_of_quiet rfl hquiet).symm
  have htells (load k : Nat) (htells : m.Tells load k) : m'.Tells load k :=
    htells.imp_right fun hended => ⟨hended.1, hmem _ hended.2⟩
  have hb : Beside n m m' := ⟨le_rfl, fun _ _ _ => rfl, fun k hk _ => hwakes hk, fun _ _ => id,
    fun load k _ => htells load k, fun g group hg _ => ⟨group, hg, rfl, rfl⟩⟩
  have hself : wakes m'.ready n = [wake] := by
    have hquiet := h.tasks.quiet n rfl
    rw [hjobs, wakes_append, List.append_eq_nil_iff] at hquiet
    rw [wakes_taken rfl, hquiet.1, hquiet.2, Job.wake?, if_pos rfl]
    rfl
  refine ⟨?_, h.tasks.beside hb (.inr rfl) (.inr ⟨rfl, ?_⟩) fun k hk hge => ?_,
    h.loads.congr rfl (fun _ => rfl) fun _ _ => Iff.rfl,
    h.groups.beside hb rfl (fun _ _ _ => hmem _) h.caller_ne (.inl rfl) (.inl rfl),
    h.callers.congr le_rfl le_rfl (fun _ _ => id) rfl (fun _ _ => id) fun _ => id⟩
  · refine h.registers.congr rfl rfl (fun _ => rfl) fun load => ?_
    rw [hjobs]
    exact (mem_of_taken rfl fun heq => Job.noConfusion heq).symm
  · refine .task htask (hfits.mono fun _ _ => id) (hself ▸ hawaits.mono (fun _ _ => id)
      (fun load _ => htells load n) fun g group hg _ => ⟨group, hg, rfl, rfl⟩)
  · have hne : some n ≠ some k := fun heq => hk (Option.some.inj heq).symm
    obtain ⟨hnone, hnil⟩ := (h.tasks.rests k hne).of_le hge
    exact .gone hnone ((hwakes hk).trans hnil)

/-- What a task hears fits what its program has asked for. -/
theorem Sound.hear (h : Sound past (some n) m) {σ : Station Answer β} {p : Program β}
    (hfits : Fits past m n σ p) {wait : Option Wait} {wake : Wake}
    (hawaits : Awaits past m n p wait [wake]) (fields : Entries) :
    let x := Turn.hear { machine := m, fields } wake p
    Sound past (some n) x.2.machine ∧ x.2.machine.tasks = m.tasks ∧
      x.2.machine.ready = m.ready ∧ Fits past x.2.machine n σ x.1 := by
  cases hawaits with
  | start => exact ⟨h, rfl, rfl, hfits⟩
  | released =>
    exact ⟨h.congr (h.registers.congr rfl rfl (fun _ => rfl) fun _ => Iff.rfl) rfl rfl rfl rfl rfl,
      rfl, rfl, (hfits.next trivial _).mono fun _ _ => id⟩
  | refused | gathered => exact ⟨h, rfl, rfl, hfits.next trivial _⟩
  | loaded houtcome => exact ⟨h, rfl, rfl, hfits.of_awaitLoad.2.1 _ houtcome⟩
  | left hcancelled => exact ⟨h, rfl, rfl, hfits.of_awaitLoad.2.2 hcancelled _⟩

/-- A task goes on that has waited, or that is to begin. -/
theorem Sound.resume (h : Sound past none m) {wake : Wake}
    (hjobs : m.ready = before ++ .resume n wake :: after) :
    let rest : Machine Answer := { m with ready := before ++ after }
    Sound (past.join (rest.joinedBy (.resume n wake))) none (rest.resume n wake) := by
  intro rest
  obtain ⟨hpop, β, σ, p, fields, wait, htask, hfits, hawaits⟩ := h.pop hjobs
  have htask' : rest.task? n = some { work := σ.work p, fields, wait } := htask
  obtain ⟨hhear, htasks, -, hfits'⟩ := hpop.hear hfits hawaits fields
  rw [joinedBy_resume htask', σ.resume_eq htask', continueWith_eq]
  refine hhear.run ?_ hfits'
  rw [post?, task?, htasks]
  exact (congrArg (·.map (·.work.post)) htask).trans (congrArg some (σ.post_work p))

/-! ## Waking -/

/-- A task that waits at a point or for a load is to go on. -/
theorem Sound.wake (h : Sound past none m) {task : Task Answer} (htask : m.task? n = some task)
    {w : Wait} (hwait : task.wait = some w) (hw : ∀ g, w ≠ .group g) {wake : Wake}
    (hawaits : ∀ (β : Type) (p : Program β), Awaits past m n p (some w) [] →
      Awaits past m' n p none [wake])
    (htasks : m'.tasks = m.tasks.set n (some { task with wait := none }))
    (hready : m'.ready = m.ready ++ [.resume n wake]) (hdesk : m'.desk = m.desk)
    (hlength : m'.loads.length = m.loads.length) (hended : ∀ load, m'.ended? load = m.ended? load)
    (hstay : LoadsStay n m m') (hgroups : m'.groups = m.groups)
    (houtcomes : m'.outcomes = m.outcomes) : Sound past none m' := by
  have hjobs (k : Nat) (hk : k ≠ n) : wakes [.resume n wake] k = [] := by
    rw [wakes_resume, if_neg hk.symm]
  have hb : Beside n m m' := beside_set htasks hready hjobs hstay hgroups
  have hends (load : Nat) (outcome : Except Interruption RuleSet)
      (houtcome : m.ended? load = some outcome) : m'.ended? load = some outcome :=
    (hended load).trans houtcome
  cases h.tasks.rests n (Option.some_ne_none n).symm with
  | gone hnone =>
    rw [htask] at hnone
    cases hnone
  | @task β σ p fields wait htask' hfits hself =>
    obtain rfl := Option.some.inj (htask.symm.trans htask')
    obtain rfl : wait = some w := hwait
    have hnil : wakes m.ready n = [] := hself.eq_nil fun g _ heq => absurd heq (hw g)
    have hpost : m.post? n = some σ.post := by
      rw [post?, htask]
      exact congrArg some (σ.post_work p)
    refine ⟨h.registers.congr hdesk hlength hended fun load => by simp [hready],
      h.tasks.set (.inl rfl) htasks hready hjobs hb
        (.task (task?_set (lt_of_post? hpost) htasks) (hfits.mono hends) ?_),
      h.loads.congr hlength hended fun k load => by rw [post?_set hpost htasks],
      h.groups.beside hb hgroups (fun _ _ _ hmem => hready ▸ List.mem_append_left _ hmem)
        (fun g group hg hsettled => ?_) (.inl rfl) (.inl (post?_set hpost htasks n)),
      h.callers.set hpost htasks hlength.ge hends houtcomes⟩
    · rw [hready, wakes_append, hnil, wakes_resume, if_pos rfl]
      exact hawaits β p (hnil ▸ hself)
    · rintro rfl
      obtain ⟨-, task, htask', hwait'⟩ := h.groups.waits g group hg hsettled
      obtain rfl := Option.some.inj (htask.symm.trans htask')
      exact hw g (Option.some.inj hwait')

/-- Whoever waits for a load is told that it has ended. -/
theorem Sound.tell (h : Sound past none m) {load : Nat}
    (hjobs : m.ready = before ++ .tell load n :: after) :
    Sound past none (Machine.tell { m with ready := before ++ after } load n) := by
  -- Once the task is to go on, or if it does not wait for the load, the job can go.
  have hgone {m : Machine Answer} (h : Sound past none m) {after : List Job}
      (hjobs : m.ready = before ++ .tell load n :: after)
      (hwait : (m.ended? load).isSome → (m.task? n).bind (·.wait) ≠ some (.load load)) :
      Sound past none { m with ready := before ++ after } := by
    refine h.remove hjobs (fun _ => rfl) (fun other k heq hended => ?_)
      (fun _ _ _ heq => Job.noConfusion heq) (h.registers.congr rfl rfl (fun _ => rfl) fun other =>
        mem_of_taken hjobs fun heq => Job.noConfusion heq)
    cases heq
    exact hwait hended
  rw [Machine.tell]
  split
  · next m' outcome hstop houtcome =>
    obtain ⟨task, htask, hwait, rfl⟩ := stopWaiting_eq_some_iff.1 hstop
    have htask : m.task? n = some task := htask
    have houtcome : m.ended? load = some outcome := houtcome
    let woken : Machine Answer :=
      (m.setTask n (some { task with wait := none })).push (.resume n (.loaded outcome))
    have hwoken : Sound past none woken := by
      refine h.wake htask hwait (fun _ => Wait.noConfusion) (fun β p hp => ?_) rfl rfl rfl rfl
        (fun _ => rfl) (loadsStay_of_eq n rfl) rfl rfl
      cases hp
      exact .loaded houtcome
    have hready : woken.ready =
        before ++ .tell load n :: (after ++ [.resume n (.loaded outcome)]) := by
      change m.ready ++ _ = _
      rw [hjobs, List.append_assoc]
      rfl
    have hself : woken.task? n = some { task with wait := none } :=
      task?_set (lt_of_task? htask) rfl
    have hrest := hgone hwoken hready fun _ => by
      rw [hself]
      exact (Option.some_ne_none _).symm
    rwa [← List.append_assoc] at hrest
  · next hnot =>
    refine hgone h hjobs fun hended hwait => ?_
    obtain ⟨outcome, houtcome⟩ := Option.isSome_iff_exists.1 hended
    obtain ⟨task, htask, hwait⟩ := Option.bind_eq_some_iff.1 hwait
    have htask' : Machine.task? { m with ready := before ++ after } n = some task := htask
    exact hnot _ outcome (stopWaiting_eq htask' hwait) houtcome

/-! ## Reports -/

section Noting

variable {g i : Nat} {group : Group} {outcome : Except Interruption (List Id)}

/-- Groups wait on, after one of them has heard what an errand has come to. -/
theorem GroupsWait.note (h : GroupsWait none m) (hgroup : m.groups[g]? = some group)
    (hsettled : group.settled = false) (htasks : m'.tasks = m.tasks)
    (hgroups : m'.groups = m.groups.set g (group.heard i outcome))
    (hreports : ∀ (j k : Nat) (other : Except Interruption (List Id)), ¬(j = g ∧ k = i) →
      .report j k other ∈ m.ready → .report j k other ∈ m'.ready) : GroupsWait none m' := by
  have hcases {j : Nat} {other : Group} (hj : m'.groups[j]? = some other) :
      j = g ∧ other = group.heard i outcome ∨ j ≠ g ∧ m.groups[j]? = some other :=
    Stage.getElem?_set_cases (hgroups ▸ hj)
  have hpost (n : Nat) : m'.post? n = m.post? n := by rw [post?, post?, task?, task?, htasks]
  refine ⟨fun j other hj hopen => ?_, fun j other hj hopen => ?_, fun j other hj hopen k hk => ?_⟩
  · rw [task?, htasks]
    rcases hcases hj with ⟨rfl, rfl⟩ | ⟨-, hj⟩
    · exact h.waits j group hgroup hsettled
    · exact h.waits j other hj hopen
  · rcases hcases hj with ⟨rfl, rfl⟩ | ⟨-, hj⟩
    · exact (Group.exists_of_heard hopen).1
    · exact h.missing j other hj hopen
  · simp only [hpost]
    rcases hcases hj with ⟨rfl, rfl⟩ | ⟨hne, hj⟩
    · -- The errand that has been reported is missing no more, and the others are as they were.
      obtain ⟨hk, hki⟩ := (Group.exists_of_heard hopen).2 k hk
      exact (h.errands j group hgroup hsettled k hk).imp_right (Exists.imp fun x =>
        hreports j k x fun hsame => hki hsame.2)
    · exact (h.errands j other hj hopen k hk).imp_right (Exists.imp fun x =>
        hreports j k x fun hsame => hne hsame.1)

/-- The caller of a group waits on for it, or is to hear what the errands have come to. -/
theorem Sound.restsAt_caller (h : Sound past none m) (hgroup : m.groups[g]? = some group)
    (hsettled : group.settled = false) (htasks : m'.tasks = m.tasks) (hloads : m'.loads = m.loads)
    (hgroups : m'.groups = m.groups.set g (group.heard i outcome))
    (hwakes : wakes m'.ready group.caller =
      wakes m.ready group.caller ++ wakes (group.calls i outcome) group.caller) :
    RestsAt past m' group.caller := by
  have hheard : m'.groups[g]? = some (group.heard i outcome) :=
    hgroups ▸ List.getElem?_set_self (List.getElem?_eq_some_iff.1 hgroup).1
  obtain ⟨-, task, htask, hwait⟩ := h.groups.waits g group hgroup hsettled
  cases h.tasks.rests group.caller (Option.some_ne_none _).symm with
  | gone hnone =>
    rw [htask] at hnone
    cases hnone
  | @task β σ p fields wait htask' hfits hawaits =>
    obtain rfl := Option.some.inj (htask.symm.trans htask')
    obtain rfl : wait = some (.group g) := hwait
    have htask' : m'.task? group.caller =
        some { work := σ.work p, fields, wait := some (.group g) } := by
      rw [task?, htasks]
      exact htask
    have hfits' : Fits past m' group.caller σ p :=
      hfits.mono fun load _ hended => by rwa [ended?, hloads]
    refine .task htask' hfits' ?_
    rw [hwakes, Group.wakes_calls, if_pos rfl]
    generalize wakes m.ready group.caller = old at hawaits
    cases hawaits with
    | gathered hgroup' hsettled' =>
      rw [← Option.some.inj (hgroup.symm.trans hgroup'), hsettled] at hsettled'
      cases hsettled'
    | errands =>
      cases hnews : group.news i outcome with
      | none => exact .errands hheard rfl (congrArg Option.isSome hnews)
      | some x => exact .gathered hheard (congrArg Option.isSome hnews)

/-- A group notes what an errand has come to, and its caller is told if that is enough. -/
theorem Sound.note (h : Sound past none m)
    (hjobs : m.ready = before ++ .report g i outcome :: after)
    (hgroup : m.groups[g]? = some group) (hsettled : group.settled = false) :
    Sound past none (Machine.report { m with ready := before ++ after } g i outcome) := by
  have hgroup' : (Machine.groups { m with ready := before ++ after })[g]? = some group := hgroup
  rw [report_eq hgroup' hsettled]
  let m' : Machine Answer := { m with
    ready := before ++ after ++ group.calls i outcome,
    groups := m.groups.set g (group.heard i outcome) }
  change Sound past none m'
  have hmem {job : Job} (hne : job ≠ .report g i outcome) (hjob : job ∈ m.ready) :
      job ∈ m'.ready := List.mem_append_left _ ((mem_of_taken hjobs hne).2 hjob)
  have hwakes (k : Nat) :
      wakes m'.ready k = wakes m.ready k ++ wakes (group.calls i outcome) k := by
    rw [wakes_append, wakes_of_quiet hjobs rfl]
  have hothers {k : Nat} (hk : k ≠ group.caller) : wakes m'.ready k = wakes m.ready k := by
    rw [hwakes, Group.wakes_calls, if_neg hk.symm, List.append_nil]
  have hb : Beside group.caller m m' := ⟨le_rfl, fun _ _ _ => rfl, fun k hk _ => hothers hk,
    fun _ _ => id, fun load k _ htells => htells.of_taken hjobs
      (fun _ heq => Job.noConfusion heq) rfl fun _ => List.mem_append_left _,
    fun j other hj hwaits => by
      refine ⟨other, (List.getElem?_set_ne ?_).trans hj, rfl, rfl⟩
      rintro rfl
      obtain rfl := Option.some.inj (hgroup.symm.trans hj)
      rw [hsettled] at hwaits
      exact hwaits.elim (fun hne => hne rfl) fun heq => Bool.noConfusion heq⟩
  have hcaller : RestsAt past m' group.caller :=
    h.restsAt_caller hgroup hsettled rfl rfl rfl (hwakes group.caller)
  refine ⟨h.registers.congr rfl rfl (fun _ => rfl) fun load => ?_,
    h.tasks.beside hb (.inl rfl) (.inr ⟨rfl, hcaller⟩) fun k hk hge => ?_,
    h.loads.congr rfl (fun _ => rfl) fun _ _ => Iff.rfl,
    h.groups.note hgroup hsettled rfl rfl fun j k other hne => hmem fun heq => hne ?_,
    h.callers.congr le_rfl le_rfl (fun _ _ => id) rfl (fun _ _ => id) fun _ => id⟩
  · refine (List.mem_append.trans (or_iff_left fun hjob => ?_)).trans
      (mem_of_taken hjobs fun heq => Job.noConfusion heq)
    obtain ⟨x, heq⟩ := Group.exists_of_mem_calls hjob
    cases heq
  · obtain ⟨hnone, hnil⟩ := (h.tasks.rests k (Option.some_ne_none k).symm).of_le hge
    exact .gone hnone ((hothers hk).trans hnil)
  · cases heq
    exact ⟨rfl, rfl⟩

end Noting

/-- An errand is reported to have ended. -/
theorem Sound.report (h : Sound past none m) {g i : Nat} {outcome : Except Interruption (List Id)}
    (hjobs : m.ready = before ++ .report g i outcome :: after) :
    Sound past none (Machine.report { m with ready := before ++ after } g i outcome) := by
  -- A group that has been settled does not mind.
  have hgone (hgroups : ∀ group : Group, m.groups[g]? = some group → group.settled = true) :
      Sound past none { m with ready := before ++ after } := by
    refine h.remove hjobs (fun _ => rfl) (fun _ _ heq => Job.noConfusion heq)
      (fun g' i' outcome' heq => ?_) (h.registers.congr rfl rfl (fun _ => rfl) fun load =>
        mem_of_taken hjobs fun heq => Job.noConfusion heq)
    cases heq
    exact hgroups
  rcases report_cases { m with ready := before ++ after } g i outcome with
    ⟨group, hgroup, hsettled, -⟩ | ⟨hgroups, hsame⟩
  · exact h.note hjobs hgroup hsettled
  · rw [hsame]
    exact hgone hgroups

/-! ## Any job -/

/-- Whichever job is done next, the machine stays in order. -/
theorem Sound.perform (h : Sound past none m) {job : Job}
    (hjobs : m.ready = before ++ job :: after) :
    let rest : Machine Answer := { m with ready := before ++ after }
    Sound (past.join (rest.joinedBy job)) none (rest.perform job) := by
  cases job with
  | resume n wake => exact h.resume hjobs
  | forget load =>
    change Sound (past.join []) none _
    exact past.join_nil.symm ▸ h.forget hjobs
  | tell load n =>
    change Sound (past.join []) none _
    exact past.join_nil.symm ▸ h.tell hjobs
  | report g i outcome =>
    change Sound (past.join []) none _
    exact past.join_nil.symm ▸ h.report hjobs

end Machine

end HouseholdAccess
