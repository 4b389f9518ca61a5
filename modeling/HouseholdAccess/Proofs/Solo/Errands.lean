import HouseholdAccess.Proofs.Solo.Machine

/-!
# Errands, by the machine

A group of errands is one task for each name. Nothing is held up, so each of them
ends at its first turn (`Machine.leads_errands`); then the group is told how they
have ended, one after the other, and lets its caller go on
(`Machine.leads_reports`).
-/

namespace HouseholdAccess

namespace Machine

variable {α β : Type} {s s' : Solo} {t : Turn α} {n : Nat}

/-- An errand is done at once. -/
theorem advance_errand {p : Program β} {b : β} (hp : p.solo .errand s = some (b, s'))
    (h : t.Sees s) : advance n p t = (.ended b, t.put s') := by
  induction p generalizing s t with
  | done a =>
    cases hp
    rw [advance, h.put_self]
  | call op next ih =>
    obtain ⟨⟨reply, u⟩, hop, hnext⟩ := Option.bind_eq_some_iff.1 hp
    rw [advance_of_plain? hop h next, ih reply hnext (h.put (Solo.rests_of_plain? hop))]
    rfl

/-- The tasks of errands, the first of them with the given index in a group. -/
def errandTasks (c : Cache) (errand : Errand) (group : Nat) (fields : Entries) :
    Nat → List Id → List (Option (Task α))
  | _, [] => []
  | index, id :: rest =>
    some { work := .errand group index (c.errand errand id).run, fields } ::
      errandTasks c errand group fields (index + 1) rest

/-- Lets as many tasks begin, the first of them with the given number. -/
def startJobs (first count : Nat) : List Job := (List.range' first count).map (.resume · .start)

theorem errandTasks_eq (c : Cache) (errand : Errand) (group : Nat) (fields : Entries)
    (index : Nat) (ids : List Id) :
    errandTasks c errand group fields index ids =
      (ids.mapIdx fun i id =>
        ({ work := .errand group (index + i) (c.errand errand id).run, fields } : Task α)).map
          some := by
  induction ids generalizing index with
  | nil => rfl
  | cons id rest ih =>
    rw [errandTasks, ih, List.mapIdx_cons, List.map_cons]
    simp only [Nat.add_zero, Nat.add_assoc, Nat.add_comm 1]

/-- Tells a group how errands have ended, the first of them with the given index. -/
def reportJobs (group : Nat) : Nat → List (Except Interruption (List Id)) → List Job
  | _, [] => []
  | index, r :: rest => .report group index r :: reportJobs group (index + 1) rest

theorem startErrands_eq (errand : Errand) (group : Nat) (fields : Entries) (index : Nat)
    (ids : List Id) (m : Machine α) : startErrands errand group fields index ids m =
      (List.range' m.tasks.length ids.length,
        { m with tasks := m.tasks ++ errandTasks m.cache errand group fields index ids,
                 ready := m.ready ++ startJobs m.tasks.length ids.length }) := by
  induction ids generalizing index m with
  | nil => simp [startErrands, errandTasks, startJobs]
  | cons id rest ih =>
    simp only [startErrands, ih]
    simp [spawn, push, errandTasks, startJobs, List.range'_succ]

/-- The machine when errands have been done: their tasks have ended, and reports are to come. -/
def afterErrands (m : Machine α) (s : Solo) (tasks : List (Option (Task α))) (jobs : List Job) :
    Machine α :=
  { m with world := s.world, desk := s.desk, registry := s.registry, consuming := s.consuming,
           tasks, ready := jobs }

/-- An errand that is to begin is done, and reports to its group. -/
theorem leads_errand {errand : Errand} {id : Id} {group index : Nat}
    {r : Except Interruption (List Id)} (hr : s.runErrand errand id = some (r, s')) {m : Machine α}
    (h : Turn.Sees { machine := m, fields := s.fields } s) {before others : List (Option (Task α))}
    {jobs : List Job}
    (htasks : m.tasks = before ++ some { work := .errand group index (s.cache.errand errand id).run,
                                         fields := s.fields } :: others)
    (hready : m.ready = .resume before.length .start :: jobs) :
    Leads m (m.afterErrands s' (before ++ none :: others) (jobs ++ [.report group index r])) := by
  obtain ⟨u, hu, rfl⟩ := Solo.runErrand_eq_some_iff.1 hr
  let m₁ : Machine α := { m with ready := jobs }
  have hm₁ : Turn.Sees { machine := m₁, fields := s.fields } s :=
    ⟨h.cache, h.world, h.desk, h.registry, h.consuming, rfl, h.free⟩
  have htask : m₁.task? before.length =
      some { work := (Station.errand group index).work (s.cache.errand errand id).run,
             fields := s.fields, wait := none } := by
    simp only [task?, m₁, htasks]
    simp [Station.work]
  have hstart : continueWith before.length .start (s.cache.errand errand id).run
      { machine := m₁, fields := s.fields } = _ := advance_errand hu hm₁
  have hended : m.tasks.set before.length none = before ++ none :: others := by
    rw [htasks]
    simp
  refine (leads_perform hready).trans ?_
  rw [perform, Station.resume_eq _ htask .start, hstart, ← hended]
  exact Leads.refl _

/-- Errands whose tasks come last are done one after the other. -/
theorem leads_errands {errand : Errand} {group index : Nat} {ids : List Id}
    {rs : List (Except Interruption (List Id))} (hrs : Solo.runErrands errand ids s = some (rs, s'))
    {m : Machine α} (h : Turn.Sees { machine := m, fields := s.fields } s)
    {before : List (Option (Task α))} {jobs : List Job}
    (htasks : m.tasks = before ++ errandTasks s.cache errand group s.fields index ids)
    (hready : m.ready = startJobs before.length ids.length ++ jobs) :
    Leads m (m.afterErrands s' (before ++ List.replicate ids.length none)
      (jobs ++ reportJobs group index rs)) := by
  induction ids generalizing s m before jobs index rs with
  | nil =>
    cases hrs
    have hbefore : m.tasks = before := by simpa [errandTasks] using htasks
    have hjobs : m.ready = jobs := by simpa [startJobs] using hready
    have hsame : m.afterErrands s' (before ++ []) (jobs ++ []) = m := by
      rw [List.append_nil, List.append_nil, ← hbefore, ← hjobs]
      exact congrArg Turn.machine h.put_self
    rw [List.length_nil, List.replicate_zero, reportJobs, hsame]
    exact Leads.refl m
  | cons id rest ih =>
    obtain ⟨r, u, others, hr, hothers, rfl⟩ := Solo.runErrands_cons_eq_some_iff.1 hrs
    obtain ⟨hrests, hfields⟩ := Solo.rests_of_runErrand hr
    -- The first errand is done.
    have hhead : m.ready = .resume before.length .start ::
        (startJobs (before.length + 1) rest.length ++ jobs) := by
      rw [hready, startJobs, startJobs, List.length_cons, List.range'_succ]
      rfl
    have hfirst := leads_errand hr h htasks hhead
    -- The others follow.
    let m₁ : Machine α := m.afterErrands u
      (before ++ none :: errandTasks s.cache errand group s.fields (index + 1) rest)
      (startJobs (before.length + 1) rest.length ++ jobs ++ [.report group index r])
    have hsees : Turn.Sees { machine := m₁, fields := u.fields } u :=
      ⟨h.cache.trans hrests.cache.symm, rfl, rfl, rfl, rfl, rfl, hrests.held.trans h.free⟩
    have htasks₁ : m₁.tasks = (before ++ [none]) ++
        errandTasks u.cache errand group u.fields (index + 1) rest := by
      rw [hrests.cache, hfields]
      simp [m₁, afterErrands]
    have hready₁ : m₁.ready = startJobs (before ++ [none]).length rest.length ++
        (jobs ++ [.report group index r]) := by
      simp [m₁, afterErrands]
    have hafter : m₁.afterErrands s' (before ++ [none] ++ List.replicate rest.length none)
        (jobs ++ [.report group index r] ++ reportJobs group (index + 1) others) =
          m.afterErrands s' (before ++ List.replicate (id :: rest).length none)
            (jobs ++ reportJobs group index (r :: others)) := by
      simp only [List.append_assoc, List.singleton_append, List.length_cons, List.replicate_succ,
        reportJobs]
      rfl
    exact hfirst.trans (hafter ▸ ih hothers hsees htasks₁ hready₁)

/-- A group that is settled does not mind further reports. -/
theorem leads_ignored {group index : Nat} {rs : List (Except Interruption (List Id))}
    {jobs : List Job} {m : Machine α} {g : Group} (hgroup : m.groups[group]? = some g)
    (hsettled : g.settled = true) (hready : m.ready = reportJobs group index rs ++ jobs) :
    Leads m { m with ready := jobs } := by
  -- The reports are dropped one after the other.
  induction rs generalizing index m with
  | nil =>
    have hsame : { m with ready := jobs } = m := by
      rw [reportJobs, List.nil_append] at hready
      rw [← hready]
    exact hsame ▸ Leads.refl m
  | cons r rest ih =>
    let m₁ : Machine α := { m with ready := reportJobs group (index + 1) rest ++ jobs }
    have hgroup₁ (other : Group) (hother : m₁.groups[group]? = some other) :
        other.settled = true := Option.some.inj (hgroup.symm.trans hother) ▸ hsettled
    refine (leads_perform hready).trans ?_
    change Leads (m₁.report group index r) _
    rw [report_of_settled hgroup₁]
    exact ih hgroup rfl

/-- A group that is not settled hears a report. -/
theorem leads_report {group index : Nat} {r : Except Interruption (List Id)} {jobs : List Job}
    {m : Machine α} {g : Group} (hgroup : m.groups[group]? = some g) (hsettled : g.settled = false)
    (hready : m.ready = .report group index r :: jobs) :
    Leads m { m with
      ready := jobs ++ g.calls index r, groups := m.groups.set group (g.heard index r) } := by
  have hgroup' : (groups { m with ready := jobs })[group]? = some g := hgroup
  refine (leads_perform hready).trans ?_
  rw [perform, report_eq hgroup' hsettled]
  exact Leads.refl _

theorem mapM_id_map_some (xss : List (List Id)) : (xss.map some).mapM id = some xss := by
  rw [List.mapM_map]
  have hpure : (id ∘ some : List Id → Option (List Id)) = fun xs => pure (id xs) := rfl
  rw [hpure, List.mapM_pure, List.map_id]
  rfl

theorem mapM_id_none (xss : List (List Id)) (others : List (Option (List Id))) :
    (xss.map some ++ none :: others).mapM id = none := by
  rw [List.mapM_append, mapM_id_map_some]
  rfl

theorem mapM_id_ok (xs : List Id) (rs : List (Except Interruption (List Id))) :
    (Except.ok xs :: rs).mapM id = (rs.mapM id).map (xs :: ·) := by
  rw [List.mapM_cons]
  cases rs.mapM id <;> rfl

theorem map_append_cons (done : List (List Id)) (xs : List Id)
    (r : Except Interruption (List (List Id))) :
    (r.map (xs :: ·)).map (done ++ ·) = r.map (done ++ [xs] ++ ·) := by
  cases r <;> simp [Except.map]

/-- The last report of a group, or the first that is bad, lets its caller go on. -/
theorem leads_reports {group : Nat} {rs : List (Except Interruption (List Id))} (hrs : rs ≠ [])
    {done : List (List Id)} {m : Machine α} {g : Group} (hgroup : m.groups[group]? = some g)
    (hsettled : g.settled = false)
    (hresults : g.results = done.map some ++ List.replicate rs.length none)
    (hready : m.ready = reportJobs group done.length rs) :
    ∃ groups, Leads m { m with
      groups, ready := [.resume g.caller (.gathered ((rs.mapM id).map (done ++ ·)))] } := by
  -- The induction is on the reports to come, with what has been noted before as `done`.
  induction rs generalizing done m g with
  | nil => exact absurd rfl hrs
  | cons r rest ih =>
    have hreport := leads_report hgroup hsettled hready
    have hheard : (m.groups.set group (g.heard done.length r))[group]? =
        some (g.heard done.length r) :=
      List.getElem?_set_self (List.getElem?_eq_some_iff.1 hgroup).1
    cases r with
    -- The caller is told at once, and the reports after that are ignored.
    | error e => exact ⟨_, hreport.trans (leads_ignored hheard rfl rfl)⟩
    | ok xs =>
      have hnoted : g.noted done.length (.ok xs) =
          (done ++ [xs]).map some ++ List.replicate rest.length none := by
        rw [Group.noted, hresults, List.length_cons, List.replicate_succ,
          List.set_append_right _ _ (by simp)]
        simp
      have hnews : g.news done.length (.ok xs) =
          (((done ++ [xs]).map some ++ List.replicate rest.length none).mapM id).map .ok :=
        congrArg (fun results : List (Option (List Id)) => (results.mapM id).map Except.ok) hnoted
      cases rest with
      -- This is the last report, so that there is a result for each errand.
      | nil =>
        rw [List.length_nil, List.replicate_zero, List.append_nil, mapM_id_map_some] at hnews
        rw [Group.calls, hnews] at hreport
        exact ⟨_, hreport⟩
      -- Others are to report, so that the caller is not told yet.
      | cons r rest =>
        rw [List.length_cons, List.replicate_succ, mapM_id_none] at hnews
        rw [Group.calls, hnews, Option.map_none, Option.map_none, Option.toList_none,
          List.append_nil] at hreport
        let m₁ : Machine α := { m with
          ready := reportJobs group (done.length + 1) (r :: rest),
          groups := m.groups.set group (g.heard done.length (.ok xs)) }
        have hready₁ : m₁.ready = reportJobs group (done ++ [xs]).length (r :: rest) := by
          rw [List.length_append, List.length_singleton]
        have hgroup₁ : m₁.groups[group]? = _ := hheard
        obtain ⟨groups, hrest⟩ :=
          ih (List.cons_ne_nil r rest) hgroup₁ (congrArg Option.isSome hnews) hnoted hready₁
        refine ⟨groups, hreport.trans ?_⟩
        rw [mapM_id_ok, map_append_cons]
        exact hrest

end Machine

end HouseholdAccess
