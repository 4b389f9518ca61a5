import HouseholdAccess.Proofs.Stage.Errands

/-!
# Jobs

A task that is to go on finds on the stage what it is told when it goes on
(`Stage.Suits`), and comes equally far in both places (`Stage.Mirrors.resumeJob`). Other
jobs tell a task that the load it waits for has ended (`Stage.Mirrors.tellJob`), or
let the desk forget a load (`Stage.Mirrors.forgetJob`). Whoever waits at a point goes
on when that is released (`Stage.Mirrors.releaseTask`).
-/

namespace HouseholdAccess

variable {γ : Type} {user : Id}

namespace Stage

variable {s₀ s : Stage} {cast : Cast} {m : Machine Answer} {n : Nat} {r : Role γ} {t : Strand γ}

/-! ## Going on -/

theorem Awaits.of_cons {groups : List Group} {wait : Option Wait} {wake : Wake} {wakes : List Wake}
    (h : Awaits s groups n t wait (wake :: wakes)) : Suits s t wake ∧ wakes = [] := by
  cases h with
  | told _ _ hsuits => exact ⟨hsuits, rfl⟩
  | next hsuits => exact ⟨hsuits, rfl⟩

theorem AwaitsReply.of_cons {wait : Option Wait} {wake : Wake} {wakes : List Wake}
    (h : AwaitsReply wait (wake :: wakes)) : (wake = .start ∨ wake = .released) ∧ wakes = [] := by
  cases h with
  | start => exact ⟨.inl rfl, rfl⟩
  | released => exact ⟨.inr rfl, rfl⟩

/-- No more news are to come for a task that is to go on. -/
theorem ShowsTask.of_cons {groups : List Group} {wake : Wake} {wakes : List Wake}
    {task : Task Answer} (h : ShowsTask cast s groups n (wake :: wakes) task) : wakes = [] := by
  cases h with
  | strand _ _ _ hawaits => exact hawaits.of_cons.2
  | errand _ _ _ _ _ _ hawaits => exact hawaits.of_cons.2

/-- Who waits for errands has not been told until the group has been settled. -/
theorem ShowsTask.settled_of_wait {groups : List Group} {wake : Wake} {wakes : List Wake}
    {task : Task Answer} (h : ShowsTask cast s groups n (wake :: wakes) task) {g : Nat}
    {group : Group} (hwait : task.wait = some (.group g)) (hgroup : groups[g]? = some group) :
    group.settled = true := by
  cases h with
  | strand _ _ _ hawaits =>
    rw [hwait] at hawaits
    cases hawaits with
    | told hgroup' hsettled => exact Option.some.inj (hgroup'.symm.trans hgroup) ▸ hsettled
  | errand _ _ _ _ _ _ hawaits =>
    rw [hwait] at hawaits
    cases hawaits

/-- A task that is to go on goes to work. -/
theorem Mirrors.pop (h : Mirrors user s₀ none cast s m) {wake : Wake} {rest : List Job}
    (hready : m.ready = .resume n wake :: rest) :
    Mirrors user s₀ (some n) cast s { m with ready := rest } ∧
      ∃ task, m.task? n = some task ∧ ShowsTask cast s m.groups n [wake] task := by
  have hwakes (k : Nat) : Machine.wakes m.ready k =
      (if n = k then [wake] else []) ++ Machine.wakes rest k := by
    rw [hready, Machine.wakes_cons, Job.wake?]
    split <;> rfl
  have hnews (g : Nat) : Machine.NoNews g m.ready rest := hready ▸ Machine.noNews_tail rest rfl
  -- No job is to come for a task that is not there.
  obtain ⟨task, htask⟩ : ∃ task, m.task? n = some task := by
    rw [← Option.ne_none_iff_exists']
    intro hnone
    have hnil := h.tasks.idle n (.inl hnone)
    rw [hwakes, if_pos rfl] at hnil
    cases hnil
  have hshows := h.tasks.tasks n task htask (Option.some_ne_none n).symm
  rw [hwakes, if_pos rfl] at hshows
  have hrest := hshows.of_cons
  refine ⟨?_, task, htask, hrest ▸ hshows⟩
  exact {
    reached := h.reached
    behaves := h.behaves
    place := ⟨h.place.cache, h.place.world, h.place.desk, h.place.registry⟩
    isCast := h.isCast.stays rfl rfl rfl le_rfl
    tasks := by
      refine ⟨fun k other hk hne => ?_, fun k hk => ?_⟩
      · have hother := h.tasks.tasks k other hk (Option.some_ne_none k).symm
        rwa [hwakes, if_neg fun heq => hne (congrArg some heq)] at hother
      · by_cases hkn : n = k
        · exact hkn ▸ hrest
        · have hnil := h.tasks.idle k (.inl (hk.resolve_right fun heq => hkn (Option.some.inj heq)))
          rwa [hwakes, if_neg hkn] at hnil
    groups := by
      refine ⟨fun g group hgroup hsettled => ?_, fun g i outcome hmem =>
        h.groups.reports g i outcome ((hnews g).reports i outcome hmem)⟩
      obtain ⟨-, l, u, hu⟩ := h.groups.groups g group hgroup hsettled
      -- Who is told to go on does not wait for a group that has not been settled.
      refine ⟨fun heq => ?_, l, u,
        hu.rests (Stays.refl s) (Cast.Grows.refl cast) rfl (hnews g)⟩
      obtain ⟨other, hother, -, hwait⟩ := hu.waits
      obtain rfl := Option.some.inj (htask.symm.trans (Option.some.inj heq ▸ hother))
      rw [hshows.settled_of_wait hwait hgroup] at hsettled
      cases hsettled
    loads := h.loads.stays (Stays.refl s) rfl fun _ hl => hready ▸ List.mem_cons_of_mem _ hl
    calls := h.calls.rests (Stays.refl s) rfl rfl }

/-- A caller or a load goes on. -/
theorem Mirrors.resume (huser : user.isText = true) (h : Mirrors user s₀ (some n) cast s m)
    {task : Task Answer} (htask : m.task? n = some task) (hr : r.task? cast = some n)
    (ht : r.strand? s = some t) (hwork : task.work = r.station.work t.program) {wake : Wake}
    (hsuits : Suits s t wake) :
    ∃ cast' s', cast'.callers = cast.callers ∧ Mirrors user s₀ none cast' s' (m.resume n wake) := by
  have hn := Machine.lt_of_task? htask
  obtain ⟨work, fields, wait⟩ := task
  obtain rfl : work = r.station.work t.program := hwork
  rw [Station.resume_eq _ htask]
  -- In each case the strand does the operation that the task has waited for.
  cases hsuits with
  | start hfresh => exact h.advance huser ⟨hr, t, ht, rfl, hfresh⟩ hn fields
  | released hprogram =>
    obtain ⟨s', hs', hp'⟩ := h.access huser hr ht hprogram
    rw [hprogram]
    exact hs'.advance huser hp' hn fields
  | @loaded l next u outcome hprogram hu hdone =>
    have hcarry : s.carry t.gathered? (.awaitLoad l) = some (outcome, s.place, []) := by
      simp only [carry, hu, Option.bind_some, hdone]
      rfl
    obtain ⟨s', hs', hp'⟩ := h.acted huser hr ht hprogram hcarry h.place.world h.place.desk
      h.place.registry
    rw [hprogram]
    exact hs'.advance huser hp' hn fields
  | @gathered errand ids next outcome hprogram houtcome =>
    have hcarry : s.carry t.gathered? (.each errand ids) = some (outcome, s.place, []) := by
      rw [houtcome]
      rfl
    obtain ⟨s', hs', hp'⟩ := h.acted huser hr ht hprogram hcarry h.place.world h.place.desk
      h.place.registry
    rw [hprogram]
    exact hs'.advance huser hp' hn fields

/-- A job is done that lets a task go on. -/
theorem Mirrors.resumeJob (huser : user.isText = true) (h : Mirrors user s₀ none cast s m)
    {wake : Wake} {rest : List Job} (hready : m.ready = .resume n wake :: rest) :
    ∃ cast' s', cast'.callers = cast.callers ∧
      Mirrors user s₀ none cast' s' (Machine.resume { m with ready := rest } n wake) := by
  obtain ⟨hpop, task, htask, hshows⟩ := h.pop hready
  cases hshows with
  | strand hr ht hwork hawaits => exact hpop.resume huser htask hr ht hwork hawaits.of_cons.1
  -- An errand waits once more, or is done. It is the load on the stage that has it done then.
  | @errand g i group p hgroup hn hwork hreads hactive hpart hawaits =>
    obtain ⟨a, next, rfl, hworld, hnext⟩ := hreads.exists_asks hactive
    obtain ⟨work, fields, wait⟩ := task
    obtain rfl : work = .errand g i (.call (.access a) next) := hwork
    have hlt := Machine.lt_of_task? htask
    obtain ⟨outcome, hdone⟩ := hnext ((m.world.perform a).1.mapError .failure)
    have htask' : Machine.task? { m with ready := rest } n = _ := htask
    rcases Machine.resume_errand htask' hworld hdone hawaits.of_cons.1 with ⟨p, hwaits⟩ | hends
    · rw [hwaits]
      refine ⟨cast, s, rfl, hpop.pause
        ⟨hpop.place.cache, hpop.place.world, hpop.place.desk, hpop.place.registry⟩ hlt rfl rfl rfl
        rfl ⟨hpop.loads.ended, hpop.loads.forgets⟩ ⟨hpop.calls.calls, hpop.calls.outcomes⟩
        fun task htask => ?_⟩
      cases htask
      exact .errand hgroup hn rfl hreads hactive hpart (.point p)
    · rw [hends]
      cases hsettled : group.settled with
      | true => exact ⟨cast, s, rfl, hpop.errandDone_of_settled hgroup hsettled hlt outcome⟩
      | false =>
        obtain ⟨l, t, hl, ht, hasks⟩ := hpart hsettled
        obtain ⟨s', hs'⟩ :=
          hpop.errandDone huser hgroup hsettled hn hlt hl ht hasks hworld hdone
        exact ⟨cast, s', rfl, hs'⟩

/-! ## Other jobs -/

/-- A job is dropped of which neither a task nor a group is told. -/
theorem Mirrors.dropJob (h : Mirrors user s₀ none cast s m) {job : Job} {rest : List Job}
    (hready : m.ready = job :: rest) (hwake : ∀ k, job.wake? k = none)
    (hfailure : ∀ (g : Nat) (group : Group), m.groups[g]? = some group → group.settled = false →
      job.failure? g = none) :
    Mirrors user s₀ none cast s { m with ready := rest } where
  reached := h.reached
  behaves := h.behaves
  place := ⟨h.place.cache, h.place.world, h.place.desk, h.place.registry⟩
  isCast := h.isCast.stays rfl rfl rfl le_rfl
  tasks := by
    have hwakes (k : Nat) : Machine.wakes m.ready k = Machine.wakes rest k := by
      rw [hready, Machine.wakes_cons, hwake]
      rfl
    exact ⟨fun k task hk hne => hwakes k ▸ h.tasks.tasks k task hk hne,
      fun k hk => hwakes k ▸ h.tasks.idle k hk⟩
  groups := by
    refine showsGroups_of_idle (fun g group hgroup hsettled => ?_) fun g i outcome hmem =>
      h.groups.reports g i outcome (hready ▸ List.mem_cons_of_mem _ hmem)
    obtain ⟨-, l, u, hu⟩ := h.groups.groups g group hgroup hsettled
    exact ⟨l, u, hu.rests (Stays.refl s) (Cast.Grows.refl cast) rfl
      (hready ▸ Machine.noNews_tail rest (hfailure g group hgroup hsettled))⟩
  loads := h.loads.stays (Stays.refl s) rfl fun _ hl => hready ▸ List.mem_cons_of_mem _ hl
  calls := h.calls.rests (Stays.refl s) rfl rfl

/-- The desk forgets a load. -/
theorem Mirrors.forgetJob (huser : user.isText = true) (h : Mirrors user s₀ none cast s m)
    {l : Nat} {rest : List Job} (hready : m.ready = .forget l :: rest) :
    ∃ s', Mirrors user s₀ none cast s' { m with ready := rest, desk := m.desk.forget l } := by
  obtain ⟨t, outcome, ht, hdone⟩ := h.loads.forgets l (hready ▸ List.mem_cons_self)
  have hdrop := h.dropJob hready (fun _ => rfl) fun _ _ _ _ => rfl
  -- A load that is to be forgotten has ended on the stage, so that it can be forgotten there.
  let s' : Stage := { s with place := { s.place with desk := s.place.desk.forget l } }
  have hforget : s.forget? l = some s' := by
    rw [forget?, ht, Option.bind_some, hdone]
    rfl
  have hstep : Step user s s' := .forget hforget
  exact ⟨s', hdrop.rests (h.reached.step hstep) (h.behaves.of_moves huser (h.behaves.moves hstep))
    ⟨rfl, fun _ _ h _ => h, fun _ _ h _ => h⟩ rfl rfl rfl
    ⟨h.place.cache, h.place.world, congrArg (·.forget l) h.place.desk, h.place.registry⟩⟩

/-- A task that has waited is shown to be told to go on, and others as before. -/
theorem ShowsTasks.wake (h : ShowsTasks none cast s m) {task : Task Answer}
    (htask : m.task? n = some task) (hidle : Machine.wakes m.ready n = []) {wake : Wake}
    (hnew : ShowsTask cast s m.groups n [wake] { task with wait := none }) :
    ShowsTasks none cast s
      ((m.setTask n (some { task with wait := none })).push (.resume n wake)) := by
  have hn := Machine.lt_of_task? htask
  have hself : ((m.setTask n (some { task with wait := none })).push (.resume n wake)).task? n =
      some { task with wait := none } := Machine.task?_setTask hn _
  have hother {k : Nat} (hk : n ≠ k) :
      ((m.setTask n (some { task with wait := none })).push (.resume n wake)).task? k = m.task? k :=
    Machine.task?_setTask_ne (Ne.symm hk) _
  have hwakes (k : Nat) : Machine.wakes
      ((m.setTask n (some { task with wait := none })).push (.resume n wake)).ready k =
        Machine.wakes m.ready k ++ if n = k then [wake] else [] := Machine.wakes_push _ n k wake
  refine ⟨fun k other hk hne => ?_, fun k hk => ?_⟩
  · rw [hwakes]
    by_cases hkn : n = k
    · subst hkn
      cases hself.symm.trans hk
      rw [hidle, if_pos rfl]
      exact hnew
    · rw [if_neg hkn, List.append_nil]
      exact h.tasks k other (hother hkn ▸ hk) hne
  · have hk := hk.resolve_right (Option.some_ne_none k).symm
    have hkn : n ≠ k := by
      rintro rfl
      cases hself.symm.trans hk
    rw [hwakes, if_neg hkn, List.append_nil]
    exact h.idle k (.inl (hother hkn ▸ hk))

/-- A task that waits stops waiting and is to go on. -/
theorem Mirrors.wake (h : Mirrors user s₀ none cast s m) {task : Task Answer}
    (htask : m.task? n = some task) (hwait : ∀ g, task.wait ≠ some (.group g))
    (hidle : Machine.wakes m.ready n = []) {wake : Wake}
    (hnew : ShowsTask cast s m.groups n [wake] { task with wait := none }) :
    Mirrors user s₀ none cast s
      ((m.setTask n (some { task with wait := none })).push (.resume n wake)) := by
  have hnews (g : Nat) : Machine.NoNews g m.ready (m.ready ++ [.resume n wake]) :=
    Machine.noNews_append _ fun _ _ hmem => Job.noConfusion (List.mem_singleton.1 hmem)
  exact {
    reached := h.reached
    behaves := h.behaves
    place := ⟨h.place.cache, h.place.world, h.place.desk, h.place.registry⟩
    isCast := h.isCast.stays rfl rfl rfl List.length_set.ge
    tasks := h.tasks.wake htask hidle hnew
    groups := by
      refine showsGroups_of_idle (fun g group hgroup hsettled => ?_) fun g i outcome hmem =>
        h.groups.reports g i outcome ((hnews g).reports i outcome hmem)
      obtain ⟨-, l, u, hu⟩ := h.groups.groups g group hgroup hsettled
      refine ⟨l, u, hu.rests (Stays.refl s) (Cast.Grows.refl cast) ?_ (hnews g)⟩
      -- The task has not waited for a group, as the caller of this one does.
      refine Machine.task?_setTask_ne (fun heq => ?_) _
      obtain ⟨other, hother, -, hgroups⟩ := hu.waits
      rw [heq, htask] at hother
      cases hother
      exact hwait g hgroups
    loads := h.loads.stays (Stays.refl s) rfl fun _ hl =>
      (List.mem_append.1 hl).resolve_right fun hl => Job.noConfusion (List.mem_singleton.1 hl)
    calls := h.calls.rests (Stays.refl s) rfl rfl }

/-- Whoever waits for a load is told that it has ended. -/
theorem Mirrors.tellJob (h : Mirrors user s₀ none cast s m) {l : Nat} {rest : List Job}
    (hready : m.ready = .tell l n :: rest) :
    Mirrors user s₀ none cast s (Machine.tell { m with ready := rest } l n) := by
  have hdrop := h.dropJob hready (fun _ => rfl) fun _ _ _ _ => rfl
  rw [Machine.tell]
  split
  · next m' outcome hstop houtcome =>
    obtain ⟨task, htask, hwait, rfl⟩ := Machine.stopWaiting_eq_some_iff.1 hstop
    obtain ⟨running, hrunning, hended⟩ := Option.bind_eq_some_iff.1 houtcome
    obtain ⟨u, hu, hdone⟩ := hdrop.loads.ended l running outcome hrunning hended
    have hshows : ShowsTask cast s m.groups n (Machine.wakes rest n) task :=
      hdrop.tasks.tasks n task htask (Option.some_ne_none n).symm
    -- A task that waits for a load plays a strand, which waits for that load too.
    obtain ⟨hidle, hnew⟩ : Machine.wakes rest n = [] ∧
        ShowsTask cast s m.groups n [.loaded outcome] { task with wait := none } := by
      generalize Machine.wakes rest n = wakes at hshows
      cases hshows with
      | strand hr ht hwork hawaits =>
        rw [hwait] at hawaits
        cases hawaits with
        | load hprogram => exact ⟨rfl, .strand hr ht hwork (.next (.loaded hprogram hu hdone))⟩
      | errand _ _ _ _ _ _ hawaits =>
        rw [hwait] at hawaits
        cases hawaits
    exact hdrop.wake htask (fun g hg => by rw [hwait] at hg; cases hg) hidle hnew
  · exact hdrop

/-- A task that waits at the point goes on when the point is released. -/
theorem Mirrors.releaseTask (h : Mirrors user s₀ none cast s m) (n : Nat) (p : Point) :
    Mirrors user s₀ none cast s
      ((m.stopWaiting n (.point p)).elim m (·.push (.resume n .released))) := by
  cases hstop : m.stopWaiting n (.point p) with
  | none => exact h
  | some m' =>
    obtain ⟨task, htask, hwait, rfl⟩ := Machine.stopWaiting_eq_some_iff.1 hstop
    have hshows := h.tasks.tasks n task htask (Option.some_ne_none n).symm
    -- Those who wait at a point are strands and errands. Nothing else is to come for them.
    obtain ⟨hidle, hnew⟩ : Machine.wakes m.ready n = [] ∧
        ShowsTask cast s m.groups n [.released] { task with wait := none } := by
      generalize Machine.wakes m.ready n = wakes at hshows
      cases hshows with
      | strand hr ht hwork hawaits =>
        rw [hwait] at hawaits
        cases hawaits with
        | point _ hprogram => exact ⟨rfl, .strand hr ht hwork (.next (.released hprogram))⟩
      | errand hgroup hn hwork hreads hactive hpart hawaits =>
        rw [hwait] at hawaits
        cases hawaits
        exact ⟨rfl, .errand hgroup hn hwork hreads hactive hpart .released⟩
    exact h.wake htask (fun g hg => by rw [hwait] at hg; cases hg) hidle hnew

end Stage

end HouseholdAccess
