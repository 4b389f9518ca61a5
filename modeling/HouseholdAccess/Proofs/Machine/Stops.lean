import HouseholdAccess.Proofs.Machine.Turns

/-!
# Stops

A task at work stops where it has to wait, or when its program has come to its end. So a
machine is in order after a turn if it has been before (`Machine.Sound.run`).

The turn of a load leaves the desk as it is (`Machine.desk_run`).
-/

namespace HouseholdAccess

variable {β : Type}

namespace Machine

variable {past : Past} {busy : Option Nat} {m m' : Machine Answer} {n k : Nat}

/-- Nobody is at work any more once what has become of the task is clear. -/
theorem TasksRest.set (h : TasksRest past busy m) (hbusy : busy = none ∨ busy = some n)
    {after : Option (Task Answer)} {jobs : List Job} (htasks : m'.tasks = m.tasks.set n after)
    (hready : m'.ready = m.ready ++ jobs) (hjobs : ∀ k, k ≠ n → wakes jobs k = [])
    (hb : Beside n m m') (hself : RestsAt past m' n) : TasksRest past none m' := by
  refine h.beside hb hbusy (.inr ⟨rfl, hself⟩) fun k hk hge => .gone ?_ ?_
  · exact task?_eq_none (by rwa [htasks, List.length_set])
  · have hne : busy ≠ some k := by
      rcases hbusy with rfl | rfl
      · exact (Option.some_ne_none k).symm
      · exact fun heq => hk (Option.some.inj heq).symm
    rw [hready, wakes_append, hjobs k hk, List.append_nil, ((h.rests k hne).of_le hge).2]

/-- A task may wait with another program. -/
theorem post?_set {σ : Station Answer β} {p : Program β} {fields : Entries} {wait : Option Wait}
    (hpost : m.post? n = some σ.post)
    (htasks : m'.tasks = m.tasks.set n (some { work := σ.work p, fields, wait })) (k : Nat) :
    m'.post? k = m.post? k := by
  by_cases hk : k = n
  · subst hk
    rw [hpost, post?, task?_set (lt_of_post? hpost) htasks]
    exact congrArg some (σ.post_work p)
  · rw [post?, post?, task?_set_ne hk htasks]

/-- No caller minds that a task waits in another way. -/
theorem CallersTold.set (h : CallersTold past m) {σ : Station Answer β} {p : Program β}
    {fields : Entries} {wait : Option Wait} (hpost : m.post? n = some σ.post)
    (htasks : m'.tasks = m.tasks.set n (some { work := σ.work p, fields, wait }))
    (hloads : m.loads.length ≤ m'.loads.length)
    (hended : ∀ load outcome, m.ended? load = some outcome → m'.ended? load = some outcome)
    (houtcomes : m'.outcomes = m.outcomes) : CallersTold past m' := by
  refine h.congr (by rw [htasks, List.length_set]) hloads hended houtcomes (fun k _ hk => ?_)
    fun k hk => (post?_set hpost htasks k).trans hk
  have hnone : m'.post? k = none := by
    rw [post?_set hpost htasks, post?, hk]
    rfl
  exact Option.map_eq_none_iff.1 hnone

/-! ## Waiting -/

/-- The task at work waits, and no more is to be done. -/
theorem Sound.wait (h : Sound past (some n) m) {σ : Station Answer β} {p : Program β}
    {fields : Entries} {wait : Wait} (hpost : m.post? n = some σ.post)
    (htasks : m'.tasks = m.tasks.set n (some { work := σ.work p, fields, wait := some wait }))
    (hdesk : m'.desk = m.desk) (hlength : m'.loads.length = m.loads.length)
    (hended : ∀ load, m'.ended? load = m.ended? load) (hstay : LoadsStay n m m')
    (hgroups : m'.groups = m.groups) (hready : m'.ready = m.ready)
    (houtcomes : m'.outcomes = m.outcomes) (hfits : Fits past m n σ p)
    (hawaits : Awaits past m' n p (some wait) []) : Sound past none m' := by
  have hready' : m'.ready = m.ready ++ [] := hready.trans (List.append_nil _).symm
  have hb : Beside n m m' := beside_set htasks hready' (fun _ _ => rfl) hstay hgroups
  refine ⟨h.registers.congr hdesk hlength hended fun load => by rw [hready],
    h.tasks.set (.inr rfl) htasks hready' (fun _ _ => rfl) hb ?_,
    h.loads.congr hlength hended fun k load => by rw [post?_set hpost htasks],
    h.groups.beside hb hgroups (fun _ _ _ => hready ▸ id) h.caller_ne (.inl rfl)
      (.inl (post?_set hpost htasks n)),
    h.callers.set hpost htasks hlength.ge (fun load outcome => by rw [hended]; exact id)
      houtcomes⟩
  refine .task (task?_set (lt_of_post? hpost) htasks) (hfits.mono fun _ _ => hstay.ended) ?_
  rwa [hready, h.tasks.quiet n rfl]

/-- The task at work waits for the load that it has joined. -/
theorem Sound.waitFor (h : Sound past (some n) m) {σ : Station Answer β}
    (hpost : m.post? n = some σ.post) {load : Nat}
    {next : Except Interruption RuleSet → Program β}
    (hfits : Fits past m n σ (.call (.awaitLoad load) next)) (hnone : m.ended? load = none)
    (fields : Entries) : Sound past none { m with
      tasks := m.tasks.set n (some { work := σ.work (.call (.awaitLoad load) next), fields,
                                     wait := some (.load load) }),
      loads := m.loads.modify load fun r => { r with waiters := r.waiters ++ [n] } } := by
  have hlt : load < m.loads.length := (h.callers.joined n load hfits.of_awaitLoad.1).2.1
  obtain ⟨r, hr⟩ : ∃ r, m.loads[load]? = some r := ⟨_, List.getElem?_eq_getElem hlt⟩
  rw [ended?, hr, Option.bind_some] at hnone
  refine h.wait hpost rfl rfl (List.length_modify ..) (ended?_waiters (· ++ [n]) rfl)
    (loadsStay_waiters (· ++ [n]) rfl fun _ _ hk _ => List.mem_append_left _ hk) rfl rfl rfl hfits
    (.load (.inl ?_))
  refine ⟨{ r with waiters := r.waiters ++ [n] }, ?_, hnone,
    List.mem_append_right _ (List.mem_singleton_self n)⟩
  rw [List.getElem?_modify_eq, hr]
  rfl

/-! ## Waiting for errands -/

section Errands

variable (m : Machine Answer) (n : Nat) (errand : Errand) (ids : List Id) (fields : Entries)

/-- The tasks of errands do nothing else. -/
theorem post?_withErrands (i : Nat) :
    (m.withErrands n errand ids fields).post? (m.tasks.length + i) =
      if i < ids.length then some (.errand m.groups.length i) else none := by
  rw [post?, task?, withErrands, errandTasks_eq,
    List.getElem?_append_right (Nat.le_add_right ..), Nat.add_sub_cancel_left, List.getElem?_map,
    List.getElem?_mapIdx]
  split
  · next hi =>
    rw [List.getElem?_eq_getElem hi]
    exact congrArg (fun i => some (Post.errand _ i)) (Nat.zero_add i)
  · next hi =>
    rw [List.getElem?_eq_none (Nat.le_of_not_lt hi)]
    rfl

theorem post?_withErrands_of_lt (hk : k < m.tasks.length) :
    (m.withErrands n errand ids fields).post? k = m.post? k := post?_append rfl hk

/-- Errands that are started are no loads. -/
theorem post?_withErrands_load (k load : Nat) :
    (m.withErrands n errand ids fields).post? k = some (.load load) ↔
      m.post? k = some (.load load) := by
  rcases Nat.lt_or_ge k m.tasks.length with hlt | hge
  · rw [post?_withErrands_of_lt _ _ _ _ _ hlt]
  · obtain ⟨i, rfl⟩ := Nat.exists_eq_add_of_le hge
    rw [post?_withErrands, post?, task?_eq_none hge]
    split <;> simp

variable {m n errand ids fields}

/-- The errands that the task at work has started are to begin. -/
theorem TasksRest.withErrands (h : TasksRest past (some n) m) (hcallers : CallersTold past m)
    (hn : n < m.tasks.length) : TasksRest past (some n) (m.withErrands n errand ids fields) := by
  refine h.append hcallers (fun _ heq => Option.some.inj heq ▸ hn)
    (congrArg (m.tasks ++ ·) (errandTasks_eq ..)) (by rw [List.length_mapIdx]; rfl)
    (List.append_nil _).symm rfl fun i task hi => ?_
  rw [List.getElem?_mapIdx] at hi
  obtain ⟨id, -, rfl⟩ := Option.map_eq_some_iff.1 hi
  exact ⟨_, .errand m.groups.length (0 + i), (m.cache.errand errand id).run, fields, rfl,
    .errand (m.cache.only_errand errand id)⟩

end Errands

/-- One more group waits, whose caller does and whose errands go on. -/
theorem GroupsWait.snoc {groups : List Group} {group : Group}
    (h : GroupsWait none { m with groups }) (hgroups : m.groups = groups ++ [group])
    (hwaits : ∃ task, m.task? group.caller = some task ∧ task.wait = some (.group groups.length))
    (hmissing : ∃ i : Nat, group.results[i]? = some none)
    (herrands : ∀ i : Nat, group.results[i]? = some none →
      ∃ n, m.post? n = some (.errand groups.length i)) : GroupsWait none m := by
  have hcases {g : Nat} {other : Group} (hg : m.groups[g]? = some other) :
      groups[g]? = some other ∨ g = groups.length ∧ other = group :=
    Stage.getElem?_snoc_cases (hgroups ▸ hg)
  refine ⟨fun g other hg hsettled => ?_, fun g other hg hsettled => ?_,
    fun g other hg hsettled i hi => ?_⟩ <;> rcases hcases hg with hg | ⟨rfl, rfl⟩
  · exact h.waits g other hg hsettled
  · exact ⟨(Option.some_ne_none _).symm, hwaits⟩
  · exact h.missing g other hg hsettled
  · exact hmissing
  · exact h.errands g other hg hsettled i hi
  · exact .inl (herrands i hi)

/-- The task at work waits for errands, which are to begin. -/
theorem Sound.waitForErrands (h : Sound past (some n) m) {σ : Station Answer β}
    (hpost : m.post? n = some σ.post) {errand : Errand} {ids : List Id} (hids : ids ≠ [])
    {next : Except Interruption (List (List Id)) → Program β}
    (hfits : Fits past m n σ (.call (.each errand ids) next)) (fields : Entries) :
    Sound past none (σ.run n (.call (.each errand ids) next) { machine := m, fields }) := by
  have hn := lt_of_post? hpost
  let waiting : Task Answer := { work := σ.work (.call (.each errand ids) next), fields,
                                 wait := some (.group m.groups.length) }
  let m₁ : Machine Answer := m.withErrands n errand ids fields
  let m' : Machine Answer := m₁.setTask n (some waiting)
  have hrun : σ.run n (.call (.each errand ids) next) { machine := m, fields } = m' := by
    rw [run_each errand hids hn]
    simp only [m', m₁, setTask, withErrands, List.set_append_left _ _ hn]
    rfl
  rw [hrun]
  have hn₁ : n < m₁.tasks.length := hn.trans_le (m.length_tasks_withErrands ..)
  have hpost₁ : m₁.post? n = some σ.post :=
    (m.post?_withErrands_of_lt n errand ids fields hn).trans hpost
  have hposts (k : Nat) : m'.post? k = m₁.post? k := post?_set hpost₁ rfl k
  have hself : m'.task? n = some waiting := task?_set hn₁ rfl
  have hnew : m'.groups[m.groups.length]? = some (m.nextGroup n ids) :=
    m.getElem?_groups_withErrands n errand ids fields
  have hset : Beside n m₁ m' :=
    beside_set rfl (List.append_nil _).symm (fun _ _ => rfl) (loadsStay_of_eq n rfl) rfl
  -- The groups that were there before are not concerned.
  have hold : GroupsWait none { m' with groups := m.groups } := by
    let before : Machine Answer := { m₁ with groups := m.groups }
    have happend : Beside n m before :=
      beside_append n rfl (by rw [errandTasks_eq, List.length_map, List.length_mapIdx]; rfl)
        (List.append_nil _).symm (List.append_nil _).symm
    refine h.groups.beside (happend.trans (beside_set rfl (List.append_nil _).symm
      (fun _ _ => rfl) (loadsStay_of_eq n rfl) rfl)) rfl
      (fun _ _ _ => List.mem_append_left _) h.caller_ne (.inl rfl) (.inl ?_)
    exact (hposts n).trans (m.post?_withErrands_of_lt n errand ids fields hn)
  have hcallers : CallersTold past m₁ := h.callers.append rfl (List.append_nil _).symm rfl
  refine ⟨h.registers.congr rfl rfl (fun _ => rfl) fun load => ?_,
    (h.tasks.withErrands h.callers hn).set (.inr rfl) rfl (List.append_nil _).symm
      (fun _ _ => rfl) hset (.task hself (hfits.mono fun _ _ => id) ?_),
    h.loads.congr rfl (fun _ => rfl) fun k load => ?_,
    hold.snoc rfl ⟨waiting, hself, rfl⟩ ?_ fun i hi => ⟨m.tasks.length + i, ?_⟩,
    hcallers.set hpost₁ rfl le_rfl (fun _ _ => id) rfl⟩
  · change .forget load ∈ m.ready ++ startJobs .. ↔ _
    rw [List.mem_append, or_iff_left]
    intro hmem
    obtain ⟨_, heq⟩ := mem_startJobs hmem
    cases heq
  · have hquiet : wakes m₁.ready n = [] :=
      (h.tasks.withErrands h.callers hn).quiet n rfl
    rw [show wakes m'.ready n = [] from hquiet]
    exact .errands hnew rfl rfl
  · rw [hposts]
    exact m.post?_withErrands_load ..
  · obtain ⟨id, rest, rfl⟩ := List.exists_cons_of_ne_nil hids
    exact ⟨0, rfl⟩
  · have hlt : i < ids.length := by
      simpa [nextGroup] using (List.getElem?_eq_some_iff.1 hi).1
    rw [hposts, m.post?_withErrands, if_pos hlt]

/-! ## Ends -/

section Ends

variable {post : Post}

theorem task?_ended (hn : n < m.tasks.length) (htasks : m'.tasks = m.tasks.set n none) (k : Nat) :
    m'.task? k = if k = n then none else m.task? k := by
  split
  · next hk => exact hk ▸ task?_set hn htasks
  · next hk => exact task?_set_ne hk htasks

theorem post?_ended (hn : n < m.tasks.length) (htasks : m'.tasks = m.tasks.set n none) (k : Nat) :
    m'.post? k = if k = n then none else m.post? k := by
  rw [post?, task?_ended hn htasks]
  split <;> rfl

/-- Other tasks play the loads as before. -/
theorem LoadsPlayed.ended (h : LoadsPlayed m) (hpost : m.post? n = some post)
    (hload : ∀ load, post ≠ .load load) (htasks : m'.tasks = m.tasks.set n none)
    (hloads : m'.loads = m.loads) : LoadsPlayed m' := by
  refine h.congr (by rw [hloads]) (fun load => by rw [ended?, ended?, hloads]) fun k load => ?_
  rw [post?_ended (lt_of_post? hpost) htasks]
  split
  · next hk =>
    subst hk
    rw [hpost]
    exact iff_of_false (by simp) fun heq => hload load (Option.some.inj heq)
  · exact Iff.rfl

/-- Callers do not mind that a load or an errand has ended. -/
theorem CallersTold.ended (h : CallersTold past m) (hpost : m.post? n = some post)
    (hcall : post ≠ .call) (htasks : m'.tasks = m.tasks.set n none)
    (hloads : m.loads.length ≤ m'.loads.length)
    (hended : ∀ load outcome, m.ended? load = some outcome → m'.ended? load = some outcome)
    (houtcomes : m'.outcomes = m.outcomes) : CallersTold past m' := by
  have hn := lt_of_post? hpost
  refine h.congr (by rw [htasks, List.length_set]) hloads hended houtcomes (fun k _ hk => ?_)
    fun k hk => ?_
  · rw [task?_ended hn htasks, hk, ite_self]
  · rw [post?_ended hn htasks, if_neg, hk]
    rintro rfl
    exact hcall (Option.some.inj (hpost.symm.trans hk))

/-- Groups wait on after a task has ended; an errand reports. -/
theorem Sound.groups_ended (h : Sound past (some n) m) (hpost : m.post? n = some post)
    (hb : Beside n m m') (htasks : m'.tasks = m.tasks.set n none) (hgroups : m'.groups = m.groups)
    {jobs : List Job} (hready : m'.ready = m.ready ++ jobs)
    (hreport : ∀ g i, post = .errand g i → ∃ outcome, .report g i outcome ∈ jobs) :
    GroupsWait none m' := by
  refine h.groups.beside hb hgroups (fun _ _ _ hmem => hready ▸ List.mem_append_left _ hmem)
    h.caller_ne (.inl rfl) (.inr ⟨?_, fun g i hi => ?_⟩)
  · rw [post?_ended (lt_of_post? hpost) htasks, if_pos rfl]
  · obtain ⟨outcome, hmem⟩ := hreport g i (Option.some.inj (hpost.symm.trans hi))
    exact ⟨outcome, hready ▸ List.mem_append_right _ hmem⟩

/-- A task that is still there has not come to anything. -/
theorem CallersTold.outcome?_eq_none (h : CallersTold past m) (hpost : m.post? n = some post) :
    m.outcome? n = none := by
  rw [outcome?, List.lookup_eq_none_iff]
  intro o ho
  have hgone := (h.outcomes o ho).2
  have hne : n ≠ o.1 := by
    rintro rfl
    rw [post?, hgone] at hpost
    cases hpost
  simpa using hne

/-- A caller that has come to its end has what its load has come to, or has been cancelled. -/
theorem CallersTold.finish (h : CallersTold past m) (hpost : m.post? n = some .call)
    {r : Except Interruption Answer} (hr : ∀ load, (n, load) ∈ past.joined →
      n ∈ past.cancelled ∨ ∃ outcome, m.ended? load = some outcome ∧ r = Answer.ofLoad outcome)
    (htasks : m'.tasks = m.tasks.set n none) (hloads : m'.loads = m.loads)
    (houtcomes : m'.outcomes = m.outcomes ++ [(n, r)]) : CallersTold past m' := by
  have hn := lt_of_post? hpost
  have hlength : m'.tasks.length = m.tasks.length := by rw [htasks, List.length_set]
  have hended (load : Nat) : m'.ended? load = m.ended? load := by rw [ended?, ended?, hloads]
  have houtcome (k : Nat) : m'.outcome? k = (m.outcome? k).or ([(n, r)].lookup k) := by
    rw [outcome?, outcome?, houtcomes, List.lookup_append]
  refine ⟨fun o ho => ?_, fun k load hk => ?_⟩
  · rw [houtcomes] at ho
    rw [hlength, task?_ended hn htasks]
    rcases List.mem_append.1 ho with ho | ho
    · obtain ⟨hlt, hnone⟩ := h.outcomes o ho
      exact ⟨hlt, by rw [hnone, ite_self]⟩
    · cases List.mem_singleton.1 ho
      exact ⟨hn, if_pos rfl⟩
  · obtain ⟨hlt, hload, htold⟩ := h.joined k load hk
    refine ⟨hlt.trans_eq hlength.symm, hloads ▸ hload, ?_⟩
    simp only [hended]
    by_cases hkn : k = n
    · -- The caller has not had a result before, and now has what its load has come to.
      subst hkn
      have hnew : m'.outcome? k = some r := by
        rw [houtcome, h.outcome?_eq_none hpost, List.lookup_cons_self]
        rfl
      rcases hr load hk with hcancelled | ⟨outcome, hload, rfl⟩
      · exact .inr (.inl hcancelled)
      · exact .inr (.inr ⟨outcome, hload, hnew⟩)
    · rcases htold with hcall | hcancelled | ⟨outcome, hload, hresult⟩
      · refine .inl ?_
        rw [post?_ended hn htasks, if_neg hkn, hcall]
      · exact .inr (.inl hcancelled)
      · exact .inr (.inr ⟨outcome, hload, by rw [houtcome, hresult]; rfl⟩)

/-- The program of the caller at work has come to its end. -/
theorem Sound.finishCall (h : Sound past (some n) m) (hpost : m.post? n = some .call)
    {r : Except Interruption Answer} (hr : ∀ load, (n, load) ∈ past.joined →
      n ∈ past.cancelled ∨ ∃ outcome, m.ended? load = some outcome ∧ r = Answer.ofLoad outcome) :
    Sound past none (Station.call.finish n (m.setTask n none) r) := by
  let m' : Machine Answer := { m.setTask n none with outcomes := m.outcomes ++ [(n, r)] }
  change Sound past none m'
  have htasks : m'.tasks = m.tasks.set n none := rfl
  have hready : m'.ready = m.ready ++ [] := (List.append_nil _).symm
  have hb : Beside n m m' :=
    beside_set htasks hready (fun _ _ => rfl) (loadsStay_of_eq n rfl) rfl
  exact ⟨h.registers.congr rfl rfl (fun _ => rfl) fun _ => Iff.rfl,
    h.tasks.set (.inr rfl) htasks hready (fun _ _ => rfl) hb
      (.gone (task?_set (lt_of_post? hpost) htasks) (h.tasks.quiet n rfl)),
    h.loads.ended hpost (by simp) htasks rfl,
    h.groups_ended hpost hb htasks rfl hready (by simp),
    h.callers.finish hpost hr htasks rfl rfl⟩

/-- The program of the errand at work has come to its end, which is to be reported. -/
theorem Sound.finishErrand (h : Sound past (some n) m) {g i : Nat}
    (hpost : m.post? n = some (.errand g i)) (r : Except Interruption (List Id)) :
    Sound past none ((Station.errand g i).finish n (m.setTask n none) r) := by
  have hn := lt_of_post? hpost
  let m' : Machine Answer := (m.setTask n none).push (.report g i r)
  change Sound past none m'
  have htasks : m'.tasks = m.tasks.set n none := rfl
  have hready : m'.ready = m.ready ++ [.report g i r] := rfl
  have hb : Beside n m m' :=
    beside_set htasks hready (fun _ _ => rfl) (loadsStay_of_eq n rfl) rfl
  refine ⟨h.registers.congr rfl rfl (fun _ => rfl) (by simp [hready]),
    h.tasks.set (.inr rfl) htasks hready (fun _ _ => rfl) hb (.gone (task?_set hn htasks) ?_),
    h.loads.ended hpost (by simp) htasks rfl,
    h.groups_ended hpost hb htasks rfl hready ?_,
    h.callers.ended hpost (by simp) htasks le_rfl (fun _ _ => id) rfl⟩
  · rw [hready, wakes_append, h.tasks.quiet n rfl]
    rfl
  · rintro g' i' heq
    cases heq
    exact ⟨r, List.mem_singleton_self _⟩

/-- That a load ends lets no task go on at once. -/
theorem wakes_leave (load : Nat) (waiters : List Nat) (k : Nat) :
    wakes (.forget load :: waiters.map (.tell load)) k = [] := by
  rw [wakes, List.filterMap_eq_nil_iff]
  intro job hjob
  rcases List.mem_cons.1 hjob with rfl | hjob
  · rfl
  · obtain ⟨_, -, rfl⟩ := List.mem_map.1 hjob
    rfl

/-- A load that ends tells those who wait for it. -/
theorem beside_endLoad {load : Nat} {r : Except Interruption RuleSet}
    (hload : m.ended? load = none) (htasks : m'.tasks = m.tasks.set n none)
    (hloads : m'.loads = m.loads.modify load ({ · with outcome := some r }))
    (hready : m'.ready = m.ready ++ .forget load :: (m.waitersOf load).map (.tell load))
    (hgroups : m'.groups = m.groups) (hjobs : ∀ k, wakes m'.ready k = wakes m.ready k) :
    Beside n m m' where
  length := by rw [htasks, List.length_set]
  tasks k hk _ := task?_set_ne hk htasks
  wakes k _ _ := hjobs k
  ended other outcome houtcome := by
    have hne : load ≠ other := by
      rintro rfl
      rw [hload] at houtcome
      cases houtcome
    rwa [ended?, hloads, List.getElem?_modify_ne _ _ hne]
  tells other k _ htells := by
    have hmem (job : Job) (hjob : job ∈ m.ready) : job ∈ m'.ready :=
      hready ▸ List.mem_append_left _ hjob
    by_cases hne : load = other
    · subst hne
      rcases htells with ⟨r', hr', -, hwaits⟩ | ⟨houtcome, -⟩
      · -- Who waits is told by a job to come.
        refine .inr ⟨?_, hready ▸ List.mem_append_right _ (List.mem_cons_of_mem _ ?_)⟩
        · rw [ended?, hloads, List.getElem?_modify_eq, hr']
          rfl
        · exact List.mem_map_of_mem (by rwa [waitersOf, hr'])
      · rw [hload] at houtcome
        cases houtcome
    · have hsame : m'.loads[other]? = m.loads[other]? := by
        rw [hloads, List.getElem?_modify_ne _ _ hne]
      rcases htells with ⟨r', hr', hwaits⟩ | ⟨houtcome, hjob⟩
      · exact .inl ⟨r', hsame.trans hr', hwaits⟩
      · exact .inr ⟨by rwa [ended?, hsame], hmem _ hjob⟩
  groups g group hg _ := ⟨group, hgroups ▸ hg, rfl, rfl⟩

/-- Other tasks play the loads that go on after one has ended. -/
theorem LoadsPlayed.endLoad (h : LoadsPlayed m) {load : Nat} {r : Except Interruption RuleSet}
    (hpost : m.post? n = some (.load load)) (htasks : m'.tasks = m.tasks.set n none)
    (hloads : m'.loads = m.loads.modify load ({ · with outcome := some r })) :
    LoadsPlayed m' := by
  have hlength : m'.loads.length = m.loads.length := by rw [hloads, List.length_modify]
  have hended {other : Nat} (hne : load ≠ other) : m'.ended? other = m.ended? other := by
    rw [ended?, hloads, List.getElem?_modify_ne _ _ hne]
    rfl
  have hposts {k other : Nat} (hk : m'.post? k = some (.load other)) :
      m.post? k = some (.load other) ∧ load ≠ other := by
    rw [post?_ended (lt_of_post? hpost) htasks] at hk
    split at hk
    · cases hk
    · next hkn =>
      refine ⟨hk, ?_⟩
      rintro rfl
      exact hkn (h.alone k n load hk hpost)
  refine ⟨fun k other hk => ?_,
    fun j k other hj hk => h.alone j k other (hposts hj).1 (hposts hk).1,
    fun other hlt hother => ?_⟩
  · obtain ⟨hk, hne⟩ := hposts hk
    rw [hlength, hended hne]
    exact h.goesOn k other hk
  · rw [hlength] at hlt
    have hne : load ≠ other := by
      rintro rfl
      rw [ended?, hloads, List.getElem?_modify_eq, List.getElem?_eq_getElem hlt] at hother
      cases hother
    obtain ⟨k, hk⟩ := h.played other hlt (hended hne ▸ hother)
    refine ⟨k, ?_⟩
    rw [post?_ended (lt_of_post? hpost) htasks, if_neg, hk]
    rintro rfl
    exact hne (by cases hpost.symm.trans hk; rfl)

/-- The program of the load at work has come to its end: it is to be forgotten, and those who wait
    for it are told. -/
theorem Sound.finishLoad (h : Sound past (some n) m) {load : Nat}
    (hpost : m.post? n = some (.load load)) (r : Except Interruption RuleSet) :
    Sound past none ((Station.load load).finish n (m.setTask n none) r) := by
  have hn := lt_of_post? hpost
  obtain ⟨hlt, hnone⟩ := h.loads.goesOn n load hpost
  obtain ⟨m', hm', hdesk, htasks, hloads, hready, hgroups, houtcomes⟩ : ∃ m' : Machine Answer,
      (m.setTask n none).endLoad load r = m' ∧ m'.desk = m.desk ∧
      m'.tasks = m.tasks.set n none ∧
      m'.loads = m.loads.modify load ({ · with outcome := some r }) ∧
      m'.ready = m.ready ++ .forget load :: (m.waitersOf load).map (.tell load) ∧
      m'.groups = m.groups ∧ m'.outcomes = m.outcomes :=
    ⟨_, endLoad_eq .., rfl, rfl, rfl, rfl, rfl, rfl⟩
  change Sound past none ((m.setTask n none).endLoad load r)
  rw [hm']
  have hwakes (k : Nat) : wakes m'.ready k = wakes m.ready k := by
    rw [hready, wakes_append, wakes_leave, List.append_nil]
  have hb := beside_endLoad hnone htasks hloads hready hgroups hwakes
  exact ⟨h.registers.endLoad hdesk hloads hready hlt,
    h.tasks.set (.inr rfl) htasks hready (fun _ _ => wakes_leave ..) hb
      (.gone (task?_set hn htasks) ((hwakes n).trans (h.tasks.quiet n rfl))),
    h.loads.endLoad hpost htasks hloads,
    h.groups_ended hpost hb htasks hgroups hready (by simp),
    h.callers.ended hpost (by simp) htasks (by rw [hloads, List.length_modify]) hb.ended houtcomes⟩

/-- The program of the task at work has come to its end. -/
theorem Sound.finish (h : Sound past (some n) m) {σ : Station Answer β}
    (hpost : m.post? n = some σ.post) {b : β} (hfits : Fits past m n σ (.done b)) :
    Sound past none (σ.finish n (m.setTask n none) b) := by
  generalize hp : Program.done b = p at hfits
  cases hfits with
  | apart _ hapart => exact h.finishCall hpost fun load hload => absurd hload (hapart load)
  | joined => cases hp
  | told hn houtcome =>
    cases hp
    exact h.finishCall hpost fun load hload => .inr ⟨_, hn load hload ▸ houtcome, rfl⟩
  | sentAway hn => exact h.finishCall hpost fun _ _ => .inl hn
  | load => exact h.finishLoad hpost b
  | errand => exact h.finishErrand hpost b

end Ends

/-! ## Turns -/

/-- A turn leaves the machine in order. -/
theorem Sound.run {σ : Station Answer β} {p : Program β} {t : Turn Answer}
    (h : Sound past (some n) t.machine) (hpost : t.machine.post? n = some σ.post)
    (hfits : Fits past t.machine n σ p) :
    Sound (past.join ((p.joins t).map (n, ·))) none (σ.run n p t) := by
  -- The induction is on the program: what does not stop the task leaves the rest.
  induction p generalizing past t with
  | done b =>
    rw [Program.joins, List.map_nil, past.join_nil]
    exact h.finish hpost hfits
  | call op next ih =>
    rw [Program.joins]
    cases hcarry : t.carry? op with
    | some x =>
      obtain ⟨reply, t'⟩ := x
      obtain ⟨h', hpost', hfits'⟩ := h.carry hpost hfits (Turn.carries_of_carry? hcarry)
      rw [σ.run_of_carry? hcarry, List.map_append, ← past.join_join]
      exact ih reply h' hpost' hfits'
    | none =>
      obtain ⟨m, fields⟩ := t
      rw [List.map_nil, past.join_nil]
      cases Turn.stops_of_carry? hcarry with
      | held hheld =>
        rw [σ.run_access hheld]
        exact h.wait hpost rfl rfl rfl (fun _ => rfl) (loadsStay_of_eq n rfl) rfl rfl rfl hfits
          .held
      | waits hnone =>
        rw [σ.run_awaitLoad hnone]
        exact h.waitFor hpost hfits hnone fields
      | errands hids => exact h.waitForErrands hpost hids hfits fields

/-- The turn of a load leaves the desk as it is. -/
theorem desk_run {σ : Station Answer β} {p : Program β} (hp : p.Only Operation.IsOfLoad)
    {t : Turn Answer} (hn : n < t.machine.tasks.length) :
    (σ.run n p t).desk = t.machine.desk := by
  induction p generalizing t with
  | done b =>
    cases σ with
    | call | errand => rfl
    | load load =>
      change ((t.machine.setTask n none).endLoad load b).desk = _
      rw [endLoad_eq]
      rfl
  | call op next ih =>
    cases hcarry : t.carry? op with
    | some x =>
      obtain ⟨reply, t'⟩ := x
      rw [σ.run_of_carry? hcarry]
      -- A load neither joins loads nor overtakes any, and waits for none.
      have hcarries := Turn.carries_of_carry? hcarry
      cases hcarries with
      | plain _ _ hsame => exact (ih reply (hp.2 reply) (hsame.tasks ▸ hn)).trans hsame.desk
      | overtook | joined | started | answered => exact hp.1.elim
    | none =>
      obtain ⟨m, fields⟩ := t
      cases Turn.stops_of_carry? hcarry with
      | held hheld => rw [σ.run_access hheld]
      | waits => exact hp.1.elim
      | errands hids => rw [run_each _ hids hn]

end Machine

end HouseholdAccess
