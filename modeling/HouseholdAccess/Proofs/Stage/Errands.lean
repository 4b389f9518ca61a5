import HouseholdAccess.Proofs.Stage.Waiting

/-!
# Errands that are done

The task of an errand asks one thing of the world, unless that is held up, and is done
then: its group is to be told (`Machine.resume_errand`). On the stage it is the load
that has sent it which comes to have the errand done (`Stage.DidErrand`), as long as it
waits for that (`Stage.Mirrors.errandDone`). Once the load has been told that another
errand has failed, nothing happens on the stage (`Stage.Mirrors.errandDone_of_settled`).
-/

namespace HouseholdAccess

variable {γ : Type} {user : Id}

/-- What an errand asks for leaves the world as it is, and then the errand is done. -/
theorem ErrandReads.exists_asks {p : ErrandProgram} (h : ErrandReads p)
    (hactive : p.result? = none) :
    ∃ (a : Access) (next : (Operation.access a).Reply → ErrandProgram),
      p = .call (.access a) next ∧ (∀ w : World, w.begin a = w ∧ (w.perform a).2 = w) ∧
      ∀ reply, ∃ outcome, next reply = .done outcome := by
  -- What leaves the world as it is when it is answered does so when it is refused.
  have hperform (a : Access) (ha : ∀ w : World, (w.answer a).2 = w) (w : World) :
      (w.perform a).2 = w := by
    rcases w.perform_cases a with hw | ⟨f, hw⟩
    · rw [hw]
      exact ha w
    · rw [hw]
  cases h with
  | members household =>
    exact ⟨.members household, .done, rfl, fun w => ⟨rfl, hperform _ (fun _ => rfl) w⟩,
      fun reply => ⟨reply, rfl⟩⟩
  | aiUsers household =>
    exact ⟨.aiUsers household, .done, rfl, fun w => ⟨rfl, hperform _ (fun _ => rfl) w⟩,
      fun reply => ⟨reply, rfl⟩⟩
  | done => cases hactive
  | failed => cases hactive

/-- The task of an errand waits at a point, or is done, and the group is to be told. -/
theorem Machine.resume_errand {m : Machine Answer} {n g i : Nat} {a : Access}
    {next : (Operation.access a).Reply → ErrandProgram} {fields : Entries} {wait : Option Wait}
    (htask : m.task? n = some { work := .errand g i (.call (.access a) next), fields, wait })
    (hworld : ∀ w : World, w.begin a = w ∧ (w.perform a).2 = w)
    {outcome : Except Interruption (List Id)}
    (hdone : next ((m.world.perform a).1.mapError .failure) = .done outcome) {wake : Wake}
    (hwake : wake = .start ∨ wake = .released) :
    (∃ p, m.resume n wake =
      { m.setTask n (some { work := .errand g i (.call (.access a) next), fields,
                            wait := some (.point p) }) with queue := m.queue ++ [(p, n)] }) ∨
    m.resume n wake = (m.setTask n none).push (.report g i outcome) := by
  have hworld' := (hworld m.world).2
  rw [Station.resume_eq (.errand g i) htask]
  -- When it begins it may find the point held up, but not when that has been released.
  rcases hwake with rfl | rfl
  · cases hheld : m.world.heldAt? a with
    | some p =>
      left
      refine ⟨p, ?_⟩
      simp only [Machine.continueWith, Machine.advance, hheld, (hworld _).1]
      rfl
    | none =>
      right
      simp only [Machine.continueWith, Machine.advance, hheld, (hworld _).1, Machine.Turn.access,
        hdone, hworld']
      rfl
  · right
    simp only [Machine.continueWith, Machine.Turn.access, hdone, hworld', Machine.advance]
    rfl

namespace Stage

variable {s₀ s s' : Stage} {cast : Cast} {m : Machine Answer} {n : Nat} {t : Strand γ}

/-! ## On the stage -/

/-- What has become of a stage on which an errand of a load has been done. -/
structure DidErrand (l i : Nat) (outcome : Except Interruption (List Id)) (t : Strand RuleSet)
    (s s' : Stage) : Prop where
  go : s.goErrand? l i = some s'
  stays : Stays (some (.inr l)) s s'
  world : s'.place.world.visible = s.place.world.visible
  desk : s'.place.desk = s.place.desk
  registry : s'.place.registry = s.place.registry
  callers : s'.callers = s.callers
  loads : s'.loads.length = s.loads.length
  strand : ∃ t', s'.loads[l]? = some t' ∧ t'.program = t.program ∧
    t'.parts = t.parts.set i (.done outcome) ∧
    t'.failed = t.failed.or (ErrandProgram.failure? (.done outcome))

theorem exists_didErrand {l i : Nat} {t : Strand RuleSet} (ht : s.loads[l]? = some t)
    (hactive : t.program.result? = none) {a : Access}
    {next : (Operation.access a).Reply → ErrandProgram}
    (hpart : t.parts[i]? = some (.call (.access a) next))
    (hworld : ∀ w : World, w.begin a = w ∧ (w.perform a).2 = w)
    {outcome : Except Interruption (List Id)}
    (hdone : next ((s.place.world.perform a).1.mapError .failure) = .done outcome) :
    ∃ s', DidErrand l i outcome t s s' := by
  have hlt : l < s.loads.length := (List.getElem?_eq_some_iff.1 ht).1
  have hplain : s.place.plain? (.access a) =
      some ((s.place.world.perform a).1.mapError .failure, s.place) := by
    simp only [Solo.plain?, (hworld s.place.world).1, (hworld s.place.world).2]
  let e := s.exchange (.access a) ((s.place.world.perform a).1.mapError .failure)
  -- Only the errand and the time are new: what it has asked for has changed nothing.
  let t' := t.goErrand i s.clock (.access a) (.done outcome)
  refine ⟨{ s.after (some l) e s.place [] with loads := (s.loads ++ []).set l t' },
    ?_, ⟨rfl, fun _ _ h _ => h, fun k u hu hk => ?_⟩, rfl, rfl, rfl, rfl, by simp, t',
    List.getElem?_set_self (by simpa using hlt), rfl, rfl, ?_⟩
  · refine Option.bind_eq_some_iff.2 ⟨t, ht, Option.bind_eq_some_iff.2 ⟨_, hpart, ?_⟩⟩
    refine Option.bind_eq_some_iff.2 ⟨_, hplain, ?_⟩
    rw [hdone]
    rfl
  · have hne : l ≠ k := by
      rintro rfl
      rcases hk with hk | hk
      · exact hk rfl
      · rw [← Option.some.inj (ht.symm.trans hu), hactive] at hk
        cases hk
    exact (List.getElem?_set_ne hne).trans (by rw [List.append_nil]; exact hu)
  · change (t.failed <|> ErrandProgram.failure? (.done outcome)) = _
    cases t.failed <;> rfl

/-! ## Who waits -/

/-- Groups that wait are known by their callers. -/
theorem ShowsGroups.eq_of_load {busy : Option Nat} (h : ShowsGroups busy cast s m) {g g' l : Nat}
    {group group' : Group} (hgroup : m.groups[g]? = some group) (hsettled : group.settled = false)
    (hl : cast.loads[l]? = some group.caller) (hgroup' : m.groups[g']? = some group')
    (hsettled' : group'.settled = false) (hl' : cast.loads[l]? = some group'.caller) : g' = g := by
  obtain ⟨-, _, _, hu⟩ := h.groups g group hgroup hsettled
  obtain ⟨-, _, _, hu'⟩ := h.groups g' group' hgroup' hsettled'
  obtain ⟨task, htask, -, hwait⟩ := hu.waits
  obtain ⟨task', htask', -, hwait'⟩ := hu'.waits
  -- The task of the load waits for one group only.
  rw [← Option.some.inj (hl.symm.trans hl'), htask] at htask'
  cases htask'
  cases hwait.symm.trans hwait'
  rfl

/-- Who waits for a group that has not been settled has not been told. -/
theorem Awaits.of_group {groups : List Group} {g : Nat} {wakes : List Wake}
    (h : Awaits s groups n t (some (.group g)) wakes) {group : Group}
    (hgroup : groups[g]? = some group) (hsettled : group.settled = false) :
    (∃ errand ids next, t.program = .call (.each errand ids) next) ∧ group.caller = n ∧
      wakes = [] := by
  cases h with
  | errands hprogram hgroup' hcaller _ =>
    obtain rfl := Option.some.inj (hgroup.symm.trans hgroup')
    exact ⟨⟨_, _, _, hprogram⟩, hcaller, rfl⟩
  | told hgroup' hsettled' _ =>
    rw [Option.some.inj (hgroup'.symm.trans hgroup), hsettled] at hsettled'
    cases hsettled'

/-- The load whose errands are under way waits for them. -/
theorem ShowsGroup.exists_each {busy : Option Nat} (h : ShowsTasks busy cast s m) {g l : Nat}
    {group : Group} {u : Strand RuleSet} (hu : ShowsGroup cast s m g group l u)
    (hgroup : m.groups[g]? = some group) (hsettled : group.settled = false)
    (hbusy : busy ≠ some group.caller) :
    (∃ errand ids next, u.program = .call (.each errand ids) next) ∧
      Machine.wakes m.ready group.caller = [] := by
  obtain ⟨task, htask, hwork, hwait⟩ := hu.waits
  have hshows := h.tasks _ task htask hbusy
  -- What plays the load cannot be the task of an errand, nor that of a caller.
  cases hshows with
  | errand _ _ hwork' => rw [hwork] at hwork'; cases hwork'
  | @strand _ r t _ ht hwork' hawaits =>
    rw [hwork] at hwork'
    cases r with
    | caller => cases hwork'
    | load k =>
      injection hwork' with hload hprogram
      rw [hwait] at hawaits
      obtain ⟨⟨errand, ids, next, heach⟩, -, hwakes⟩ := hawaits.of_group hgroup hsettled
      exact ⟨⟨errand, ids, next, hprogram.trans heach⟩, hwakes⟩

/-- A task is shown as before, after an errand of a load that waits has been done. -/
theorem Mirrors.showsTask_of_didErrand {busy : Option Nat} (h : Mirrors user s₀ busy cast s m)
    {g i l : Nat} {group : Group} {u : Strand RuleSet} (hu : ShowsGroup cast s m g group l u)
    (hgroup : m.groups[g]? = some group) (hsettled : group.settled = false)
    (hn : group.tasks[i]? = some n) {outcome : Except Interruption (List Id)}
    (hs : DidErrand l i outcome u s s') {k : Nat} {task : Task Answer} (hk : m.task? k = some task)
    (hkn : k ≠ n) {wakes : List Wake} (hshows : ShowsTask cast s m.groups k wakes task) :
    ShowsTask cast s' m.groups k wakes task := by
  have hstays := hs.stays
  obtain ⟨u', hu', hprogram, hparts, -⟩ := hs.strand
  cases hshows with
  | @strand _ r t hr ht hwork hawaits =>
    -- The load itself waits on: only what its errands have come to has changed.
    by_cases hspot : r.spot = .inr l
    · cases r with
      | caller => cases hspot
      | load l' =>
        cases hspot
        obtain rfl := Option.some.inj (hu.strand.symm.trans ht)
        obtain ⟨task', htask', -, hwait⟩ := hu.waits
        rw [← Option.some.inj (hr.symm.trans hu.load), hk] at htask'
        cases htask'
        rw [hwait] at hawaits
        obtain ⟨⟨errand, ids, next, heach⟩, hcaller, rfl⟩ := hawaits.of_group hgroup hsettled
        exact .strand (r := .load l) hr hu' (hprogram ▸ hwork)
          (hwait ▸ .errands (hprogram.trans heach) hgroup hcaller hsettled)
    · exact .strand hr (hstays.strand? (fun heq => hspot (Option.some.inj heq).symm) ht) hwork
        (hawaits.stays hstays (GroupsStay.refl k _))
  | @errand g' i' group' p hgroup' hk' hwork hreads hactive hpart hawaits =>
    refine .errand hgroup' hk' hwork hreads hactive (fun hsettled' => ?_) hawaits
    obtain ⟨l', t, hl', ht, hp⟩ := hpart hsettled'
    -- Another errand of the same load belongs to the same group, and is not changed.
    by_cases hload : l' = l
    · subst hload
      obtain rfl := h.groups.eq_of_load hgroup hsettled hu.load hgroup' hsettled' hl'
      obtain rfl := Option.some.inj (hgroup.symm.trans hgroup')
      obtain rfl := Option.some.inj (hu.strand.symm.trans ht)
      have hne : i ≠ i' := by
        rintro rfl
        exact hkn (Option.some.inj (hk'.symm.trans hn))
      exact ⟨l', u', hl', hu', by rw [hparts, List.getElem?_set_ne hne]; exact hp⟩
    · exact ⟨l', t, hl', hstays.loads l' t ht
        (.inl fun heq => hload (Sum.inr.inj (Option.some.inj heq)).symm), hp⟩

/-- A group is shown that is to be told how an errand has ended. -/
theorem ShowsGroup.didErrand {g i l : Nat} {group : Group} {u : Strand RuleSet}
    (h : ShowsGroup cast s m g group l u) {outcome : Except Interruption (List Id)}
    (hs : DidErrand l i outcome u s s') {p : ErrandProgram} (hpart : u.parts[i]? = some p)
    (hactive : p.result? = none) {m' : Machine Answer}
    (hcaller : m'.task? group.caller = m.task? group.caller)
    (hready : m'.ready = m.ready ++ [.report g i outcome]) :
    ∃ u', ShowsGroup cast s' m' g group l u' := by
  obtain ⟨u', hu', hprogram, hparts, hfailed⟩ := hs.strand
  -- What has been done before is not the errand that has been done now.
  have hother {k : Nat} {x : Except Interruption (List Id)} (hk : u.parts[k]? = some (.done x)) :
      u'.parts[k]? = some (.done x) := by
    have hne : i ≠ k := by
      rintro rfl
      rw [Option.some.inj (hpart.symm.trans hk)] at hactive
      cases hactive
    rw [hparts, List.getElem?_set_ne hne]
    exact hk
  refine ⟨u', h.load, hu', ?_, ?_, fun k ids hk => hother (h.results k ids hk),
    fun k x hmem => ?_, ?_⟩
  · rw [hcaller, hprogram]
    exact h.waits
  · rw [hparts, List.length_set]
    exact h.length
  · rw [hready] at hmem
    rcases List.mem_append.1 hmem with hmem | hmem
    · exact hother (h.reports k x hmem)
    · cases List.mem_singleton.1 hmem
      rw [hparts]
      exact List.getElem?_set_self (List.getElem?_eq_some_iff.1 hpart).1
  · rw [hfailed, hready, Machine.failure?_append, Machine.failure?_report_self, h.failed]

/-! ## The end of an errand -/

theorem noNews_report {g k : Nat} (hk : g ≠ k) (jobs : List Job) (i : Nat)
    (outcome : Except Interruption (List Id)) :
    Machine.NoNews k jobs (jobs ++ [.report g i outcome]) :=
  Machine.noNews_append jobs fun j x hmem => by
    cases List.mem_singleton.1 hmem
    exact hk rfl

theorem wakes_report (jobs : List Job) (g i : Nat) (outcome : Except Interruption (List Id))
    (k : Nat) : Machine.wakes (jobs ++ [.report g i outcome]) k = Machine.wakes jobs k := by
  rw [Machine.wakes_append]
  exact List.append_nil _

theorem mem_of_mem_report {jobs : List Job} {g i : Nat} {outcome : Except Interruption (List Id)}
    {l : Nat} (h : .forget l ∈ jobs ++ [.report g i outcome]) : .forget l ∈ jobs :=
  (List.mem_append.1 h).resolve_right fun h => Job.noConfusion (List.mem_singleton.1 h)

theorem ShowsGroups.lt_of_report {busy : Option Nat} (h : ShowsGroups busy cast s m) {g : Nat}
    (hg : g < m.groups.length) (i : Nat) (outcome : Except Interruption (List Id)) :
    ∀ k j x, .report k j x ∈ m.ready ++ [.report g i outcome] → k < m.groups.length := by
  intro k j x hmem
  rcases List.mem_append.1 hmem with hmem | hmem
  · exact h.reports k j x hmem
  · cases List.mem_singleton.1 hmem
    exact hg

/-- The task of an errand has come to its end when the caller of the group has been told already. -/
theorem Mirrors.errandDone_of_settled (h : Mirrors user s₀ (some n) cast s m) {g i : Nat}
    {group : Group} (hgroup : m.groups[g]? = some group) (hsettled : group.settled = true)
    (hn : n < m.tasks.length) (outcome : Except Interruption (List Id)) :
    Mirrors user s₀ none cast s ((m.setTask n none).push (.report g i outcome)) := by
  -- A group that has not been told is another one, and gets no news.
  have hne {k : Nat} {other : Group} (hk : m.groups[k]? = some other)
      (hopen : other.settled = false) : g ≠ k := by
    rintro rfl
    rw [← Option.some.inj (hgroup.symm.trans hk), hsettled] at hopen
    cases hopen
  have hg := (List.getElem?_eq_some_iff.1 hgroup).1
  exact {
    reached := h.reached
    behaves := h.behaves
    place := ⟨h.place.cache, h.place.world, h.place.desk, h.place.registry⟩
    isCast := h.isCast.stays rfl rfl rfl List.length_set.ge
    tasks := h.tasks.stop rfl (fun k => GroupsStay.refl k _) (wakes_report m.ready g i outcome) hn
      fun _ hnone => (by cases hnone)
    groups := h.groups.stop rfl rfl (fun _ _ hk hopen => noNews_report (hne hk hopen) _ i outcome)
      (h.groups.lt_of_report hg i outcome)
    loads := h.loads.stays (Stays.refl s) rfl fun _ => mem_of_mem_report
    calls := h.calls.rests (Stays.refl s) rfl rfl }

/-- Groups are shown after an errand of one of them has been done, and is to be reported. -/
theorem Mirrors.showsGroups_of_didErrand (h : Mirrors user s₀ (some n) cast s m) {g i l : Nat}
    {group : Group} {u : Strand RuleSet} (hu : ShowsGroup cast s m g group l u)
    (hgroup : m.groups[g]? = some group) (hsettled : group.settled = false)
    {outcome : Except Interruption (List Id)} (hs : DidErrand l i outcome u s s')
    {p : ErrandProgram} (hpart : u.parts[i]? = some p) (hactive : p.result? = none) :
    ShowsGroups none cast s' ((m.setTask n none).push (.report g i outcome)) := by
  have hg := (List.getElem?_eq_some_iff.1 hgroup).1
  refine showsGroups_of_idle (fun k other hk hopen => ?_) (h.groups.lt_of_report hg i outcome)
  obtain ⟨hne, l', v, hv⟩ := h.groups.groups k other hk hopen
  have hcaller : ((m.setTask n none).push (.report g i outcome)).task? other.caller =
      m.task? other.caller :=
    Machine.task?_setTask_ne (fun heq => hne (congrArg some heq.symm)) none
  -- The group has one more report to come. Other groups wait for other loads.
  by_cases hgk : g = k
  · subst hgk
    obtain rfl := Option.some.inj (hgroup.symm.trans hk)
    obtain ⟨w, hw⟩ := hu.didErrand hs hpart hactive hcaller rfl
    exact ⟨l, w, hw⟩
  · refine ⟨l', v, hv.stays hs.stays (Cast.Grows.refl cast) ?_ hcaller
      (noNews_report hgk _ i outcome)⟩
    intro hload
    cases hload
    exact hgk (h.groups.eq_of_load hgroup hsettled hu.load hk hopen hv.load).symm

/-- The task of an errand has come to its end while the load waits that has sent it. -/
theorem Mirrors.errandDone (huser : user.isText = true) (h : Mirrors user s₀ (some n) cast s m)
    {g i : Nat} {group : Group} (hgroup : m.groups[g]? = some group)
    (hsettled : group.settled = false) (hn : group.tasks[i]? = some n) (hlt : n < m.tasks.length)
    {l : Nat} {t : Strand RuleSet} (hl : cast.loads[l]? = some group.caller)
    (ht : s.loads[l]? = some t) {a : Access} {next : (Operation.access a).Reply → ErrandProgram}
    (hpart : t.parts[i]? = some (.call (.access a) next))
    (hworld : ∀ w : World, w.begin a = w ∧ (w.perform a).2 = w)
    {outcome : Except Interruption (List Id)}
    (hdone : next ((m.world.perform a).1.mapError .failure) = .done outcome) :
    ∃ s', Mirrors user s₀ none cast s' ((m.setTask n none).push (.report g i outcome)) := by
  obtain ⟨hbusy, k, u, hu⟩ := h.groups.groups g group hgroup hsettled
  obtain rfl := h.isCast.eq_of_load hl hu.load
  obtain rfl := Option.some.inj (hu.strand.symm.trans ht)
  obtain ⟨⟨errand, ids, rest, heach⟩, -⟩ := hu.exists_each h.tasks hgroup hsettled hbusy
  -- The load waits for its errands, so that it has not ended, and stays where it is.
  have hactive : u.program.result? = none := by
    rw [heach]
    rfl
  obtain ⟨hreply, -⟩ := World.perform_of_visible_eq h.place.world a
  rw [hreply] at hdone
  obtain ⟨s', hs'⟩ := exists_didErrand ht hactive hpart hworld hdone
  have hstep : Step user s s' := .errand hs'.go
  have hservice := hs'.stays.service
  have htasks : ShowsTasks (some n) cast s' m := by
    refine ⟨fun k task hk hne => ?_, h.tasks.idle⟩
    have hkn : k ≠ n := fun heq => hne (congrArg some heq.symm)
    exact h.showsTask_of_didErrand hu hgroup hsettled hn hs' hk hkn (h.tasks.tasks k task hk hne)
  refine ⟨s', ?_⟩
  exact {
    reached := h.reached.step hstep
    behaves := h.behaves.of_moves huser (h.behaves.moves hstep)
    place := ⟨hservice ▸ h.place.cache, h.place.world.trans hs'.world.symm,
      h.place.desk.trans hs'.desk.symm, h.place.registry.trans hs'.registry.symm⟩
    isCast := h.isCast.stays (congrArg List.length hs'.callers) hs'.loads rfl List.length_set.ge
    tasks := htasks.stop rfl (fun k => GroupsStay.refl k _) (wakes_report m.ready g i outcome) hlt
      fun _ hnone => (by cases hnone)
    groups := h.showsGroups_of_didErrand hu hgroup hsettled hs' hpart rfl
    loads := h.loads.stays hs'.stays rfl fun _ => mem_of_mem_report
    calls := by
      refine ⟨fun k j call v hk hv => ?_, fun j result hj => ?_⟩
      · rw [hs'.callers] at hv
        rw [hservice]
        exact h.calls.calls k j call v hk hv
      · rw [hs'.callers]
        exact h.calls.outcomes j result hj }

end Stage

end HouseholdAccess
