import HouseholdAccess.Proofs.Stage.Jobs

/-!
# Settling

A group that is told how an errand has ended notes what that has brought back
(`Stage.Mirrors.noteResult`), and tells its caller as soon as an errand has failed or all
are done (`Stage.Mirrors.tellCaller`): that is what the load on the stage gathers from its
errands. With this every job is mirrored (`Stage.Mirrors.perform`), and so is a machine
that does jobs until there are none (`Stage.Mirrors.settle`).
-/

namespace HouseholdAccess

variable {user : Id}

namespace Stage

variable {s₀ s : Stage} {cast : Cast} {m : Machine Answer}

/-! ## Reports -/

/-- What errands have come to that have all gone well. -/
theorem ShowsGroup.gathered?_of_results {g l : Nat} {group : Group} {u : Strand RuleSet}
    (h : ShowsGroup cast s m g group l u) {results : List (Option (List Id))}
    {lists : List (List Id)} (hall : results.mapM id = some lists)
    (hlength : results.length = u.parts.length)
    (hresults : ∀ (k : Nat) (ids : List Id), results[k]? = some (some ids) →
      u.parts[k]? = some (.done (.ok ids))) : u.gathered? = some (.ok lists) := by
  have hmap : results = lists.map some :=
    (List.map_id _).symm.trans (map_eq_map_of_mapM_eq_some (fun _ _ => id) hall)
  have hparts : u.parts = lists.map fun ids => .done (.ok ids) := by
    refine List.ext_getElem? fun k => ?_
    rw [List.getElem?_map]
    cases hk : lists[k]? with
    | some ids => exact hresults k ids (by rw [hmap, List.getElem?_map, hk]; rfl)
    | none =>
      rw [Option.map_none, List.getElem?_eq_none_iff, ← hlength, hmap, List.length_map]
      exact List.getElem?_eq_none_iff.1 hk
  -- A failure would still have to be reported, but there is a result for each errand.
  have hfailed : u.failed = none := by
    rw [h.failed, Machine.failure?, List.findSome?_eq_none_iff]
    intro job hjob
    cases job with
    | report k i outcome =>
      rw [Job.failure?]
      split
      · next hk =>
        have hdone := h.reports i outcome (hk ▸ hjob)
        rw [hparts, List.getElem?_map] at hdone
        obtain ⟨ids, -, heq⟩ := Option.map_eq_some_iff.1 hdone
        cases heq
        rfl
      · rfl
    | _ => rfl
  have hdone : u.parts.mapM Program.result? = some (lists.map .ok) := by
    rw [hparts, List.mapM_map]
    exact List.mapM_pure
  have hok : (lists.map Except.ok).mapM id = (.ok lists : Except Interruption _) := by
    rw [List.mapM_map]
    exact List.mapM_pure.trans (congrArg Except.ok (List.map_id lists))
  rw [Strand.gathered?, hfailed, hdone, Option.map_some, hok]

theorem groupsStay_set {g k : Nat} {groups : List Group} {group group' : Group}
    (hgroup : groups[g]? = some group) (hcaller : group'.caller = group.caller)
    (htasks : group'.tasks = group.tasks)
    (hsettled : group.settled = true → group'.settled = true)
    (hk : group.caller = k → group'.settled = group.settled) :
    GroupsStay k groups (groups.set g group') := by
  intro j other hj
  by_cases hgj : g = j
  · subst hgj
    obtain rfl := Option.some.inj (hgroup.symm.trans hj)
    exact ⟨group', List.getElem?_set_self (List.getElem?_eq_some_iff.1 hj).1, hcaller, htasks,
      hsettled, hk⟩
  · exact ⟨other, (List.getElem?_set_ne hgj).trans hj, rfl, rfl, id, fun _ => rfl⟩

/-- What a group has noted has been brought back, also what it notes now. -/
theorem ShowsGroup.results_set {g i l : Nat} {group : Group} {u : Strand RuleSet} {ids : List Id}
    (h : ShowsGroup cast s m g group l u) (hmem : .report g i (.ok ids) ∈ m.ready) (k : Nat)
    (found : List Id) (hk : (group.results.set i (some ids))[k]? = some (some found)) :
    u.parts[k]? = some (.done (.ok found)) := by
  rcases getElem?_set_cases hk with ⟨rfl, hfound⟩ | ⟨-, hk⟩
  · cases hfound
    exact h.reports k (.ok ids) hmem
  · exact h.results k found hk

/-- The group notes what an errand has brought back, and waits for others. -/
theorem Mirrors.noteResult (h : Mirrors user s₀ none cast s m) {g i : Nat} {ids : List Id}
    {rest : List Job} (hready : m.ready = .report g i (.ok ids) :: rest) {group : Group}
    (hgroup : m.groups[g]? = some group) (hsettled : group.settled = false) :
    Mirrors user s₀ none cast s { m with
      ready := rest
      groups := m.groups.set g
        { group with results := group.results.set i (some ids), settled := false } } := by
  have hquiet (k : Nat) : (Job.report g i (.ok ids)).failure? k = none := by
    rw [Job.failure?]
    split <;> rfl
  have hnews (k : Nat) : Machine.NoNews k m.ready rest :=
    hready ▸ Machine.noNews_tail rest (hquiet k)
  have hdrop := h.dropJob hready (fun _ => rfl) fun k _ _ _ => hquiet k
  have hcast := Cast.Grows.refl cast
  have hlt := (List.getElem?_eq_some_iff.1 hgroup).1
  exact {
    reached := h.reached
    behaves := h.behaves
    place := ⟨h.place.cache, h.place.world, h.place.desk, h.place.registry⟩
    isCast := h.isCast.stays rfl rfl rfl le_rfl
    tasks := by
      refine ⟨fun k task hk hne => ?_, hdrop.tasks.idle⟩
      refine (hdrop.tasks.tasks k task hk hne).rests (Stays.refl s) hcast ?_
      refine groupsStay_set hgroup rfl rfl (fun hs => ?_) fun _ => hsettled.symm
      rw [hsettled] at hs
      cases hs
    groups := by
      refine showsGroups_of_idle (fun k other hk hopen => ?_) fun k j x hmem =>
        (List.length_set).symm ▸ hdrop.groups.reports k j x hmem
      -- The report that is gone has become a result.
      rcases getElem?_set_cases hk with ⟨rfl, rfl⟩ | ⟨-, hk⟩
      · obtain ⟨-, l, u, hu⟩ := h.groups.groups k group hgroup hsettled
        exact ⟨l, u, {
          load := hu.load
          strand := hu.strand
          waits := hu.waits
          length := (List.length_set).trans hu.length
          results := hu.results_set (hready ▸ List.mem_cons_self)
          reports := fun j x hmem => hu.reports j x ((hnews k).reports j x hmem)
          failed := hu.failed.trans (hnews k).failure.symm }⟩
      · obtain ⟨-, l, u, hu⟩ := hdrop.groups.groups k other hk hopen
        exact ⟨l, u, hu.rests (Stays.refl s) hcast rfl (Machine.NoNews.refl k _)⟩
    loads := hdrop.loads.stays (Stays.refl s) rfl fun _ => id
    calls := h.calls.rests (Stays.refl s) rfl rfl }

/-- Everybody is shown while the caller of a group is told what its errands have come to. -/
theorem ShowsTasks.tell {m' : Machine Answer} (h : ShowsTasks none cast s m) {g l : Nat}
    {group told : Group} {u : Strand RuleSet} (hu : ShowsGroup cast s m g group l u)
    (hgroup : m.groups[g]? = some group) (hsettled : group.settled = false)
    {x : Except Interruption (List (List Id))} (hx : u.gathered? = some x)
    (htasks : m'.tasks = m.tasks) (hgroups : m'.groups = m.groups.set g told)
    (hcaller : told.caller = group.caller) (hsame : told.tasks = group.tasks)
    (htold : told.settled = true)
    (hwakes : ∀ k, Machine.wakes m'.ready k =
      Machine.wakes m.ready k ++ if group.caller = k then [.gathered x] else []) :
    ShowsTasks none cast s m' := by
  obtain ⟨⟨errand, ids, next, heach⟩, hidle⟩ :=
    hu.exists_each h hgroup hsettled (Option.some_ne_none _).symm
  obtain ⟨caller, hcalls, hwork, hwait⟩ := hu.waits
  have htask (k : Nat) : m'.task? k = m.task? k := by rw [Machine.task?, htasks]; rfl
  have hset : (m.groups.set g told)[g]? = some told :=
    List.getElem?_set_self (List.getElem?_eq_some_iff.1 hgroup).1
  refine ⟨fun k task hk hne => ?_, fun k hk => ?_⟩ <;> rw [htask] at hk <;> rw [hwakes]
  · rw [hgroups]
    -- The caller was not to go on before, and is to go on now with what has been gathered.
    by_cases hkc : group.caller = k
    · subst hkc
      obtain rfl := Option.some.inj (hcalls.symm.trans hk)
      rw [hidle, if_pos rfl]
      exact .strand (r := .load l) hu.load hu.strand hwork
        (hwait ▸ .told hset htold (.gathered heach hx))
    · rw [if_neg hkc, List.append_nil]
      exact (h.tasks k task hk hne).rests (Stays.refl s) (Cast.Grows.refl cast)
        (groupsStay_set hgroup hcaller hsame (fun _ => htold) fun heq => absurd heq hkc)
  · have hk := hk.resolve_right (Option.some_ne_none k).symm
    have hkc : group.caller ≠ k := by
      rintro rfl
      rw [hcalls] at hk
      cases hk
    rw [if_neg hkc, List.append_nil]
    exact h.idle k (.inl hk)

/-- The caller of a group is told what its errands have come to. -/
theorem Mirrors.tellCaller (h : Mirrors user s₀ none cast s m) {g i : Nat}
    {outcome : Except Interruption (List Id)} {rest : List Job}
    (hready : m.ready = .report g i outcome :: rest) {group : Group}
    (hgroup : m.groups[g]? = some group) (hsettled : group.settled = false)
    (results : List (Option (List Id))) {x : Except Interruption (List (List Id))}
    (hx : ∀ l u, ShowsGroup cast s m g group l u → u.gathered? = some x) :
    Mirrors user s₀ none cast s (Machine.push { m with
      ready := rest
      groups := m.groups.set g { group with results, settled := true } }
      (.resume group.caller (.gathered x))) := by
  obtain ⟨-, l, u, hu⟩ := h.groups.groups g group hgroup hsettled
  have hnews {k : Nat} (hgk : g ≠ k) :
      Machine.NoNews k m.ready (rest ++ [.resume group.caller (.gathered x)]) := by
    have hother : (Job.report g i outcome).failure? k = none := if_neg hgk
    rw [hready]
    exact (Machine.noNews_tail rest hother).trans
      (Machine.noNews_append rest fun _ _ hmem => Job.noConfusion (List.mem_singleton.1 hmem))
  have hmem {job : Job} (hmem : job ∈ rest ++ [.resume group.caller (.gathered x)]) :
      job ∈ m.ready ∨ job = .resume group.caller (.gathered x) :=
    (List.mem_append.1 hmem).imp (fun hmem => hready ▸ List.mem_cons_of_mem _ hmem)
      List.mem_singleton.1
  exact {
    reached := h.reached
    behaves := h.behaves
    place := ⟨h.place.cache, h.place.world, h.place.desk, h.place.registry⟩
    isCast := h.isCast.stays rfl rfl rfl le_rfl
    tasks := by
      refine h.tasks.tell hu hgroup hsettled (hx l u hu) rfl rfl rfl rfl rfl fun k => ?_
      rw [hready, Machine.push, Machine.wakes_append, Machine.wakes_resume, Machine.wakes_cons]
      rfl
    groups := by
      refine showsGroups_of_idle (fun k other hk hopen => ?_) fun k j y hreport => ?_
      · rcases getElem?_set_cases hk with ⟨rfl, rfl⟩ | ⟨hgk, hk⟩
        · -- The group itself is settled now, and need not be shown any more.
          cases hopen
        · obtain ⟨-, l', u', hu'⟩ := h.groups.groups k other hk hopen
          exact ⟨l', u', hu'.rests (Stays.refl s) (Cast.Grows.refl cast) rfl (hnews hgk.symm)⟩
      · exact (List.length_set).symm ▸
          h.groups.reports k j y ((hmem hreport).resolve_right Job.noConfusion)
    loads := h.loads.stays (Stays.refl s) rfl fun _ hl => (hmem hl).resolve_right Job.noConfusion
    calls := h.calls.rests (Stays.refl s) rfl rfl }

/-- A group is told how an errand has ended. -/
theorem Mirrors.reportJob (h : Mirrors user s₀ none cast s m) {g i : Nat}
    {outcome : Except Interruption (List Id)} {rest : List Job}
    (hready : m.ready = .report g i outcome :: rest) :
    Mirrors user s₀ none cast s (Machine.report { m with ready := rest } g i outcome) := by
  -- A group that is settled, or not there, ignores the report.
  have hdrop (hg : ∀ group, m.groups[g]? = some group → group.settled = true) :
      Mirrors user s₀ none cast s { m with ready := rest } := by
    refine h.dropJob hready (fun _ => rfl) fun k other hk hopen => ?_
    have hgk : g ≠ k := by
      rintro rfl
      rw [hg other hk] at hopen
      cases hopen
    exact if_neg hgk
  rcases Machine.report_cases { m with ready := rest } g i outcome with
    ⟨group, hgroup, hsettled, hheard⟩ | ⟨hgroups, hsame⟩
  · have hgroup : m.groups[g]? = some group := hgroup
    rw [hheard]
    cases outcome with
    -- The first failure that is reported is the one the load has come to first.
    | error e =>
      refine h.tellCaller hready hgroup hsettled _ fun l u hu => ?_
      rw [Strand.gathered?, hu.failed, hready, Machine.failure?_cons, Job.failure?, if_pos rfl]
      rfl
    | ok ids =>
      rw [Group.heard, Group.calls, Group.news]
      cases hall : (group.results.set i (some ids)).mapM id with
      | none =>
        have hnoted := h.noteResult hready hgroup hsettled
        rwa [← List.append_nil rest] at hnoted
      | some lists =>
        exact h.tellCaller hready hgroup hsettled (group.results.set i (some ids))
          fun l u hu => hu.gathered?_of_results hall ((List.length_set).trans hu.length)
            (hu.results_set (hready ▸ List.mem_cons_self))
  · rw [hsame]
    exact hdrop hgroups

/-! ## Doing all jobs -/

/-- A job is done. -/
theorem Mirrors.perform (huser : user.isText = true) (h : Mirrors user s₀ none cast s m) {job : Job}
    {rest : List Job} (hready : m.ready = job :: rest) :
    ∃ cast' s', cast'.callers = cast.callers ∧
      Mirrors user s₀ none cast' s' (Machine.perform { m with ready := rest } job) := by
  cases job with
  | resume n wake => exact h.resumeJob huser hready
  | forget l =>
    obtain ⟨s', hs'⟩ := h.forgetJob huser hready
    exact ⟨cast, s', rfl, hs'⟩
  | tell l n => exact ⟨cast, s, rfl, h.tellJob hready⟩
  | report g i outcome => exact ⟨cast, s, rfl, h.reportJob hready⟩

/-- Whatever jobs are done, the stage goes along. -/
theorem Mirrors.leads (huser : user.isText = true) {m' : Machine Answer}
    (h : Mirrors user s₀ none cast s m) (hleads : m.Leads m') :
    ∃ cast' s', cast'.callers = cast.callers ∧ Mirrors user s₀ none cast' s' m' := by
  induction hleads with
  | refl => exact ⟨cast, s, rfl, h⟩
  | @tail m₁ m₂ _ hnext ih =>
    obtain ⟨cast', s', hcast, hs'⟩ := ih
    obtain ⟨job, rest, hready, rfl⟩ := Machine.next?_eq_some_iff.1 hnext
    obtain ⟨cast'', s'', hcast', hs''⟩ := hs'.perform huser hready
    exact ⟨cast'', s'', hcast'.trans hcast, hs''⟩

/-- Everybody goes on until all are waiting. -/
theorem Mirrors.settle (huser : user.isText = true) (h : Mirrors user s₀ none cast s m) :
    ∃ cast' s', cast'.callers = cast.callers ∧ Mirrors user s₀ none cast' s' m.settle :=
  h.leads huser m.leads_settle

end Stage

end HouseholdAccess
