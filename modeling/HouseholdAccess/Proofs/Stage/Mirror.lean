import HouseholdAccess.Proofs.Solo.Caller
import HouseholdAccess.Proofs.Stage.Behaviour

/-!
# Stages that mirror a machine

The machine of `HouseholdAccess.Schedule` does its jobs in order, and a task goes on
until it has to wait. A stage *mirrors* the machine (`Stage.Mirrors`) when everybody
there has come as far as here.

* The service finds the same in both places (`Stage.SharesPlace`), except for points
  that are held up, which a stage does not have (`World.visible`).
* The callers and the loads of the stage are played by tasks (`Stage.IsCast`). Such a
  task has to do what its strand has to do, and it waits for the next operation of
  that, or one job is to come that lets it go on (`Stage.Awaits`).
* The tasks of errands have no strands of their own, but are shown among the errands
  of the load that has sent them (`Stage.ShowsTask`). Once the load has been told how
  they have ended they are shown nowhere: they only read, and nobody waits for them.
* What a group of errands has come to is noted with the group, or one of the jobs to
  come reports it (`Stage.ShowsGroup`).

A task at work is shown as far as what it had done before: `busy` is its number.
-/

namespace HouseholdAccess

variable {α γ : Type} {user : Id}

/-! ## What is seen of the world -/

namespace World

/-- The world, apart from what is held up and from how often it has been asked for roles. -/
def visible (w : World) : World := { w with held := [], reads := 0 }

theorem visible_begin (w : World) (a : Access) : (w.begin a).visible = w.visible := by
  cases a <;> rfl

theorem answer_visible (w : World) (a : Access) :
    w.visible.answer a = ((w.answer a).1, (w.answer a).2.visible) := by
  cases a with
  | cacheGet user =>
    have hentry : w.visible.entryOf user = w.entryOf user := rfl
    simp only [answer, lookUp, hentry]
    split
    · rfl
    · next e _ =>
      have hexpired : w.visible.expired e = w.expired e := rfl
      rw [hexpired]
      split <;> rfl
  | cacheClose => cases hkind : w.cacheKind <;> simp [answer, visible, hkind]
  | _ => rfl

theorem perform_visible (w : World) (a : Access) :
    w.visible.perform a = ((w.perform a).1, (w.perform a).2.visible) := by
  have hconnected : w.visible.notConnected? a = w.notConnected? a := rfl
  have hfailure : w.visible.failureAt? a = w.failureAt? a := by cases a <;> rfl
  simp only [perform, hconnected, hfailure, answer_visible]
  split
  · rfl
  · split <;> rfl

/-- What is answered, and what becomes of the world, depends on what is seen only. -/
theorem perform_of_visible_eq {w w' : World} (h : w.visible = w'.visible) (a : Access) :
    (w.perform a).1 = (w'.perform a).1 ∧
      (w.perform a).2.visible = (w'.perform a).2.visible := by
  have hperform := perform_visible w a
  rw [h, perform_visible] at hperform
  exact ⟨(congrArg Prod.fst hperform).symm, (congrArg Prod.snd hperform).symm⟩

end World

theorem Change.visible_apply (c : Change) (w : World) :
    (c.apply w).visible = c.apply w.visible := by
  cases c <;> rfl

/-! ## News -/

namespace Job

/-- Why the task is to go on, if that is the job. -/
def wake? (n : Nat) : Job → Option Wake
  | .resume k wake => if k = n then some wake else none
  | _ => none

/-- Of which failure the group is to be told, if that is the job. -/
def failure? (g : Nat) : Job → Option Interruption
  | .report k _ outcome => if k = g then ErrandProgram.failure? (.done outcome) else none
  | _ => none

end Job

namespace Machine

/-- Why a task is to go on, job by job. -/
def wakes (jobs : List Job) (n : Nat) : List Wake := jobs.filterMap (Job.wake? n)

/-- The first failure that a group is to be told of. -/
def failure? (jobs : List Job) (g : Nat) : Option Interruption := jobs.findSome? (Job.failure? g)

theorem wakes_append (jobs jobs' : List Job) (n : Nat) :
    wakes (jobs ++ jobs') n = wakes jobs n ++ wakes jobs' n := List.filterMap_append

theorem failure?_append (jobs jobs' : List Job) (g : Nat) :
    failure? (jobs ++ jobs') g = (failure? jobs g).or (failure? jobs' g) := List.findSome?_append

theorem wakes_cons (job : Job) (jobs : List Job) (n : Nat) :
    wakes (job :: jobs) n = (job.wake? n).toList ++ wakes jobs n := by
  rw [wakes, List.filterMap_cons]
  cases job.wake? n <;> rfl

theorem wakes_resume (n k : Nat) (wake : Wake) :
    wakes [.resume n wake] k = if n = k then [wake] else [] := by
  rw [wakes_cons, Job.wake?]
  split <;> rfl

theorem wakes_push (m : Machine Answer) (n k : Nat) (wake : Wake) :
    wakes (m.push (.resume n wake)).ready k = wakes m.ready k ++ if n = k then [wake] else [] := by
  rw [push, wakes_append, wakes_resume]

theorem failure?_cons (job : Job) (jobs : List Job) (g : Nat) :
    failure? (job :: jobs) g = (job.failure? g).or (failure? jobs g) := by
  rw [failure?, List.findSome?_cons]
  cases job.failure? g <;> rfl

theorem failure?_report_self (g i : Nat) (outcome : Except Interruption (List Id)) :
    failure? [.report g i outcome] g = ErrandProgram.failure? (.done outcome) := by
  rw [failure?_cons, Job.failure?, if_pos rfl]
  exact Option.or_none

/-- Tasks that have been started are to begin, and no others. -/
theorem wakes_startJobs (first count n : Nat) :
    wakes (startJobs first count) n = if first ≤ n ∧ n < first + count then [.start] else [] := by
  induction count generalizing first with
  | zero =>
    rw [if_neg (by omega)]
    rfl
  | succ count ih =>
    have hjobs : startJobs first (count + 1) =
        .resume first .start :: startJobs (first + 1) count := by
      rw [startJobs, List.range'_succ]
      rfl
    rw [hjobs, wakes_cons, ih, Job.wake?]
    -- The first of the tasks is told by the first job, and the others by induction.
    by_cases hn : first = n
    · rw [if_pos hn, if_neg (by omega), if_pos (by omega)]
      rfl
    · rw [if_neg hn]
      exact if_congr ⟨fun h => by omega, fun h => by omega⟩ rfl rfl

theorem mem_startJobs {first count : Nat} {job : Job} (h : job ∈ startJobs first count) :
    ∃ n, job = .resume n .start := by
  obtain ⟨k, -, rfl⟩ := List.mem_map.1 h
  exact ⟨k, rfl⟩

/-- A group has not failed that is not to be told of any errand. -/
theorem failure?_eq_none {jobs : List Job} {g : Nat}
    (h : ∀ i outcome, .report g i outcome ∉ jobs) : failure? jobs g = none := by
  rw [failure?, List.findSome?_eq_none_iff]
  intro job hjob
  cases job with
  | report k i outcome =>
    have hk : k ≠ g := fun heq => h i outcome (heq ▸ hjob)
    exact if_neg hk
  | _ => rfl

/-- Of the group the jobs to come are to report what they were to report before. -/
structure NoNews (g : Nat) (jobs jobs' : List Job) : Prop where
  reports : ∀ i outcome, .report g i outcome ∈ jobs' → .report g i outcome ∈ jobs
  failure : failure? jobs' g = failure? jobs g

theorem NoNews.refl (g : Nat) (jobs : List Job) : NoNews g jobs jobs := ⟨fun _ _ => id, rfl⟩

theorem NoNews.trans {g : Nat} {jobs jobs' jobs'' : List Job} (h : NoNews g jobs jobs')
    (h' : NoNews g jobs' jobs'') : NoNews g jobs jobs'' :=
  ⟨fun i outcome hmem => h.reports i outcome (h'.reports i outcome hmem),
    h'.failure.trans h.failure⟩

theorem noNews_append {g : Nat} (jobs : List Job) {others : List Job}
    (h : ∀ i outcome, .report g i outcome ∉ others) : NoNews g jobs (jobs ++ others) where
  reports := fun i outcome hmem => (List.mem_append.1 hmem).resolve_right (h i outcome)
  failure := by rw [failure?_append, failure?_eq_none h, Option.or_none]

theorem noNews_tail {g : Nat} {job : Job} (rest : List Job) (h : job.failure? g = none) :
    NoNews g (job :: rest) rest where
  reports := fun _ _ => List.mem_cons_of_mem job
  failure := by
    rw [failure?_cons, h]
    rfl

end Machine

/-! ## Strands and tasks -/

/-- Nothing has been done by the errands that the program waits for. -/
def Strand.IsFresh (c : Cache) (t : Strand γ) : Prop :=
  t.parts = c.errandsOf t.program ∧ t.failed = none

namespace Stage

/-- Who is who: the tasks of callers with their calls, and the tasks of loads. -/
structure Cast where
  /-- For each caller the task, and what is wanted. -/
  callers : List (Nat × Call) := []
  /-- For each load the task. -/
  loads : List Nat := []

/-- A caller or a load. -/
inductive Role : Type → Type
  | caller (i : Nat) : Role Answer
  | load (l : Nat) : Role RuleSet

namespace Role

/-- The strand on the stage. -/
def strand? (s : Stage) : Role γ → Option (Strand γ)
  | .caller i => s.callers[i]?
  | .load l => s.loads[l]?

/-- The number of the task. -/
def task? (cast : Cast) : Role γ → Option Nat
  | .caller i => cast.callers[i]?.map Prod.fst
  | .load l => cast.loads[l]?

/-- What the task is to the machine. -/
def station : Role γ → Station Answer (Except Interruption γ)
  | .caller _ => .call
  | .load l => .load l

/-- What is noted as the load that works. -/
def mark : Role γ → Option Nat
  | .caller _ => none
  | .load l => some l

/-- Lets the strand do the next operation. -/
def go? (s : Stage) : Role γ → Option Stage
  | .caller i => s.goCaller? i
  | .load l => s.goLoad? l

end Role

/-- Where a strand is: among the callers, or among the loads. -/
def Role.spot : Role γ → Nat ⊕ Nat
  | .caller i => .inl i
  | .load l => .inr l

/-- Strands stay as they are, apart from the one that acts, which has not ended. -/
structure Stays (acting : Option (Nat ⊕ Nat)) (s s' : Stage) : Prop where
  service : s'.service = s.service
  callers : ∀ (i : Nat) (t : Strand Answer), s.callers[i]? = some t →
    acting ≠ some (.inl i) ∨ t.program.result?.isSome → s'.callers[i]? = some t
  loads : ∀ (l : Nat) (t : Strand RuleSet), s.loads[l]? = some t →
    acting ≠ some (.inr l) ∨ t.program.result?.isSome → s'.loads[l]? = some t

theorem Stays.refl (s : Stage) : Stays none s s := ⟨rfl, fun _ _ h _ => h, fun _ _ h _ => h⟩

theorem Role.spot_ne {δ : Type} {cast : Cast} {r : Role γ} {r' : Role δ} {n n' : Nat}
    (h : r.task? cast = some n) (h' : r'.task? cast = some n') (hne : n ≠ n') :
    r.spot ≠ r'.spot := by
  intro hspot
  cases r <;> cases r' <;> cases hspot
  · exact hne (Option.some.inj (h.symm.trans h'))
  · exact hne (Option.some.inj (h.symm.trans h'))

theorem Stays.strand? {acting : Option (Nat ⊕ Nat)} {s s' : Stage} (h : Stays acting s s')
    {r : Role γ} {t : Strand γ} (hr : acting ≠ some r.spot) (ht : r.strand? s = some t) :
    r.strand? s' = some t := by
  cases r with
  | caller i => exact h.callers i t ht (.inl hr)
  | load l => exact h.loads l t ht (.inl hr)

/-- What has become of a stage on which a strand has acted. -/
structure Acted (r : Role γ) (s s' : Stage) (t : Strand γ) (place : Solo)
    (started : List (Strand RuleSet)) : Prop where
  go : r.go? s = some s'
  stays : Stays (some r.spot) s s'
  place : s'.place = place
  strand : r.strand? s' = some t
  callers : s'.callers.length = s.callers.length
  loads : s'.loads.length = s.loads.length + started.length
  started : ∀ (k : Nat) (u : Strand RuleSet), started[k]? = some u →
    s'.loads[s.loads.length + k]? = some u

/-- A strand does its next operation. -/
theorem Role.exists_acted {s : Stage} {r : Role γ} {t : Strand γ} {op : Operation}
    {next : op.Reply → Program (Except Interruption γ)} {reply : op.Reply} {place : Solo}
    {started : List (Strand RuleSet)} (ht : r.strand? s = some t)
    (hprogram : t.program = .call op next)
    (hcarry : s.carry t.gathered? op = some (reply, place, started)) :
    ∃ s', Acted r s s' (t.go s.service.cache (s.exchange op reply) (next reply)) place started := by
  have hactive : t.program.result?.isSome = false := by
    rw [hprogram]
    rfl
  have hact (load : Option Nat) : s.act load t =
      some (t.go s.service.cache (s.exchange op reply) (next reply),
        s.after load (s.exchange op reply) place started) := by
    obtain ⟨begun, program, parts, failed, trace, reads⟩ := t
    obtain rfl : program = .call op next := hprogram
    change Option.map _ (s.carry _ op) = _
    rw [hcarry]
    rfl
  have hothers {β : Type} {xs : List (Strand β)} {i j : Nat} {u v : Strand β} (hu : xs[j]? = some u)
      (hj : i ≠ j) : (xs.set i v)[j]? = some u := (List.getElem?_set_ne hj).trans hu
  let t' := t.go s.service.cache (s.exchange op reply) (next reply)
  cases r with
  | caller i =>
    have ht : s.callers[i]? = some t := ht
    have hlt : i < s.callers.length := (List.getElem?_eq_some_iff.1 ht).1
    refine ⟨{ s.after none (s.exchange op reply) place started with
        callers := s.callers.set i t' }, ?_,
      ⟨rfl, fun j u hu hj => hothers hu ?_, fun l u hu _ => ?_⟩, rfl,
      List.getElem?_set_self hlt, List.length_set, List.length_append, fun k u hu => ?_⟩
    · exact Option.bind_eq_some_iff.2 ⟨t, ht, Option.bind_eq_some_iff.2 ⟨_, hact none, rfl⟩⟩
    · -- A strand that has ended is not the one that acts, which goes on.
      rintro rfl
      rcases hj with hj | hj
      · exact hj rfl
      · rw [← Option.some.inj (ht.symm.trans hu), hactive] at hj
        cases hj
    · exact (List.getElem?_append_left (List.getElem?_eq_some_iff.1 hu).1).trans hu
    · exact (List.getElem?_append_right (Nat.le_add_right _ k)).trans (by simpa using hu)
  -- A load acts among those that it may have started, which come after it.
  | load l =>
    have ht : s.loads[l]? = some t := ht
    have hlt : l < s.loads.length := (List.getElem?_eq_some_iff.1 ht).1
    refine ⟨{ s.after (some l) (s.exchange op reply) place started with
      loads := (s.loads ++ started).set l t' }, ?_,
      ⟨rfl, fun j u hu _ => hu, fun j u hu hj => hothers ?_ ?_⟩, rfl, ?_, rfl,
      List.length_set.trans List.length_append, fun k u hu => hothers ?_ ?_⟩
    · exact Option.bind_eq_some_iff.2 ⟨t, ht, Option.bind_eq_some_iff.2 ⟨_, hact (some l), rfl⟩⟩
    · exact (List.getElem?_append_left (List.getElem?_eq_some_iff.1 hu).1).trans hu
    · rintro rfl
      rcases hj with hj | hj
      · exact hj rfl
      · rw [← Option.some.inj (ht.symm.trans hu), hactive] at hj
        cases hj
    · exact List.getElem?_set_self (List.length_append ▸ Nat.lt_add_right _ hlt)
    · exact (List.getElem?_append_right (Nat.le_add_right _ k)).trans (by simpa using hu)
    · exact Nat.ne_of_lt (Nat.lt_add_right k hlt)

/-- What lets the strand go on from where it is. -/
inductive Suits (s : Stage) (t : Strand γ) : Wake → Prop
  | start : t.IsFresh s.service.cache → Suits s t .start
  | released {a : Access} {next : (Operation.access a).Reply → Program (Except Interruption γ)} :
    t.program = .call (.access a) next → Suits s t .released
  | loaded {l : Nat} {next : Except Interruption RuleSet → Program (Except Interruption γ)}
      {u : Strand RuleSet} {outcome : Except Interruption RuleSet} :
    t.program = .call (.awaitLoad l) next → s.loads[l]? = some u → u.program = .done outcome →
    Suits s t (.loaded outcome)
  | gathered {errand : Errand} {ids : List Id}
      {next : Except Interruption (List (List Id)) → Program (Except Interruption γ)}
      {outcome : Except Interruption (List (List Id))} :
    t.program = .call (.each errand ids) next → t.gathered? = some outcome →
    Suits s t (.gathered outcome)

/-- The task of the strand waits for what the strand has to wait for, or is to go on. -/
inductive Awaits (s : Stage) (groups : List Group) (n : Nat) (t : Strand γ) :
    Option Wait → List Wake → Prop
  | point {a : Access} {next : (Operation.access a).Reply → Program (Except Interruption γ)}
      (p : Point) :
    t.program = .call (.access a) next → Awaits s groups n t (some (.point p)) []
  | load {l : Nat} {next : Except Interruption RuleSet → Program (Except Interruption γ)} :
    t.program = .call (.awaitLoad l) next → Awaits s groups n t (some (.load l)) []
  | errands {g : Nat} {group : Group} {errand : Errand} {ids : List Id}
      {next : Except Interruption (List (List Id)) → Program (Except Interruption γ)} :
    t.program = .call (.each errand ids) next → groups[g]? = some group → group.caller = n →
    group.settled = false → Awaits s groups n t (some (.group g)) []
  | told {g : Nat} {group : Group} {outcome : Except Interruption (List (List Id))} :
    groups[g]? = some group → group.settled = true → Suits s t (.gathered outcome) →
    Awaits s groups n t (some (.group g)) [.gathered outcome]
  | next {wake : Wake} : Suits s t wake → Awaits s groups n t none [wake]

/-- The task of an errand waits at a point, or is to go on. -/
inductive AwaitsReply : Option Wait → List Wake → Prop
  | point (p : Point) : AwaitsReply (some (.point p)) []
  | start : AwaitsReply none [.start]
  | released : AwaitsReply none [.released]

/-- The task does what the stage shows. Errands of a group whose caller has been told already are
    not shown. -/
inductive ShowsTask (cast : Cast) (s : Stage) (groups : List Group) (n : Nat) (wakes : List Wake)
    (task : Task Answer) : Prop
  | strand {γ : Type} {r : Role γ} {t : Strand γ} :
    r.task? cast = some n → r.strand? s = some t → task.work = r.station.work t.program →
    Awaits s groups n t task.wait wakes → ShowsTask cast s groups n wakes task
  | errand {g i : Nat} {group : Group} {p : ErrandProgram} :
    groups[g]? = some group → group.tasks[i]? = some n → task.work = .errand g i p →
    ErrandReads p → p.result? = none →
    (group.settled = false → ∃ (l : Nat) (t : Strand RuleSet), cast.loads[l]? = some group.caller ∧
      s.loads[l]? = some t ∧ t.parts[i]? = some p) →
    AwaitsReply task.wait wakes → ShowsTask cast s groups n wakes task

/-- The errands of a group, whose caller waits, have come to what the stage shows. -/
structure ShowsGroup (cast : Cast) (s : Stage) (m : Machine Answer) (g : Nat) (group : Group)
    (l : Nat) (t : Strand RuleSet) : Prop where
  load : cast.loads[l]? = some group.caller
  strand : s.loads[l]? = some t
  waits : ∃ task, m.task? group.caller = some task ∧ task.work = .load l t.program ∧
    task.wait = some (.group g)
  length : group.results.length = t.parts.length
  results : ∀ (i : Nat) (ids : List Id), group.results[i]? = some (some ids) →
    t.parts[i]? = some (.done (.ok ids))
  reports : ∀ (i : Nat) (outcome : Except Interruption (List Id)),
    .report g i outcome ∈ m.ready → t.parts[i]? = some (.done outcome)
  failed : t.failed = Machine.failure? m.ready g

/-! ## What stays shown -/

section Frames

variable {acting : Option (Nat ⊕ Nat)} {s s' : Stage} {cast cast' : Cast}
  {groups groups' : List Group} {n : Nat} {t : Strand γ} {wait : Option Wait} {wakes : List Wake}

/-- Whoever is cast stays cast. -/
structure Cast.Grows (cast cast' : Cast) : Prop where
  callers : ∀ (i : Nat) (x : Nat × Call), cast.callers[i]? = some x → cast'.callers[i]? = some x
  loads : ∀ l k : Nat, cast.loads[l]? = some k → cast'.loads[l]? = some k

theorem Cast.Grows.refl (cast : Cast) : cast.Grows cast := ⟨fun _ _ => id, fun _ _ => id⟩

theorem Cast.Grows.task? (h : cast.Grows cast') {r : Role γ} (hr : r.task? cast = some n) :
    r.task? cast' = some n := by
  cases r with
  | caller i =>
    obtain ⟨x, hx, rfl⟩ := Option.map_eq_some_iff.1 hr
    exact Option.map_eq_some_iff.2 ⟨x, h.callers i x hx, rfl⟩
  | load l => exact h.loads l n hr

/-- Groups stay as they are, apart from what they have come to. The task is not told meanwhile. -/
def GroupsStay (n : Nat) (groups groups' : List Group) : Prop :=
  ∀ (g : Nat) (group : Group), groups[g]? = some group → ∃ group', groups'[g]? = some group' ∧
    group'.caller = group.caller ∧ group'.tasks = group.tasks ∧
    (group.settled = true → group'.settled = true) ∧
    (group.caller = n → group'.settled = group.settled)

theorem GroupsStay.refl (n : Nat) (groups : List Group) : GroupsStay n groups groups :=
  fun _ group hg => ⟨group, hg, rfl, rfl, id, fun _ => rfl⟩

theorem groupsStay_append (n : Nat) (groups others : List Group) :
    GroupsStay n groups (groups ++ others) := fun _ group hg =>
  ⟨group, (List.getElem?_append_left (List.getElem?_eq_some_iff.1 hg).1).trans hg, rfl, rfl, id,
    fun _ => rfl⟩

theorem Suits.stays {wake : Wake} (h : Suits s t wake) (hs : Stays acting s s') :
    Suits s' t wake := by
  cases h with
  | start hfresh => exact .start (hs.service ▸ hfresh)
  | released hprogram => exact .released hprogram
  | loaded hprogram hu hdone =>
    exact .loaded hprogram (hs.loads _ _ hu (.inr (by rw [hdone]; rfl))) hdone
  | gathered hprogram houtcome => exact .gathered hprogram houtcome

theorem Awaits.stays (h : Awaits s groups n t wait wakes) (hs : Stays acting s s')
    (hgroups : GroupsStay n groups groups') : Awaits s' groups' n t wait wakes := by
  cases h with
  | point p hprogram => exact .point p hprogram
  | load hprogram => exact .load hprogram
  | errands hprogram hgroup hcaller hsettled =>
    obtain ⟨group', hgroup', hcaller', -, -, hsettled'⟩ := hgroups _ _ hgroup
    exact .errands hprogram hgroup' (hcaller'.trans hcaller) ((hsettled' hcaller).trans hsettled)
  | told hgroup hsettled hsuits =>
    obtain ⟨group', hgroup', -, -, hsettled', -⟩ := hgroups _ _ hgroup
    exact .told hgroup' (hsettled' hsettled) (hsuits.stays hs)
  | next hsuits => exact .next (hsuits.stays hs)

/-- A task that is not that of the strand that acts is shown as before. -/
theorem ShowsTask.stays {task : Task Answer} (h : ShowsTask cast s groups n wakes task)
    (hs : Stays acting s s') (hcast : cast.Grows cast') (hgroups : GroupsStay n groups groups')
    (hstrand : ∀ {γ : Type} {r : Role γ}, r.task? cast = some n → acting ≠ some r.spot)
    (hcaller : ∀ (g : Nat) (group : Group), groups[g]? = some group → group.settled = false →
      ∀ l : Nat, cast.loads[l]? = some group.caller → acting ≠ some (.inr l)) :
    ShowsTask cast' s' groups' n wakes task := by
  cases h with
  | strand hr ht hwork hawaits =>
    exact .strand (hcast.task? hr) (hs.strand? (hstrand hr) ht) hwork (hawaits.stays hs hgroups)
  | errand hgroup hn hwork hreads hactive hpart hawaits =>
    obtain ⟨group', hgroup', hsame, htasks, hsettled, -⟩ := hgroups _ _ hgroup
    refine .errand hgroup' (htasks ▸ hn) hwork hreads hactive (fun hsettled' => ?_) hawaits
    -- Who has not been told by now had not been told before.
    have hopen := Bool.eq_false_iff.2 fun h => Bool.eq_false_iff.1 hsettled' (hsettled h)
    obtain ⟨l, u, hl, hu, hpart⟩ := hpart hopen
    rw [hsame]
    exact ⟨l, u, hcast.loads l _ hl, hs.loads l u hu (.inl (hcaller _ _ hgroup hopen l hl)), hpart⟩

/-- While nobody acts, tasks are shown as before. -/
theorem ShowsTask.rests {task : Task Answer} (h : ShowsTask cast s groups n wakes task)
    (hs : Stays none s s') (hcast : cast.Grows cast') (hgroups : GroupsStay n groups groups') :
    ShowsTask cast' s' groups' n wakes task :=
  h.stays hs hcast hgroups (fun _ => (Option.some_ne_none _).symm)
    fun _ _ _ _ _ _ => (Option.some_ne_none _).symm

/-- A group whose caller is not the strand that acts is shown as before. -/
theorem ShowsGroup.stays {m m' : Machine Answer} {g l : Nat} {group : Group}
    {u : Strand RuleSet} (h : ShowsGroup cast s m g group l u) (hs : Stays acting s s')
    (hcast : cast.Grows cast') (hacting : acting ≠ some (.inr l))
    (hcaller : m'.task? group.caller = m.task? group.caller)
    (hnews : Machine.NoNews g m.ready m'.ready) : ShowsGroup cast' s' m' g group l u where
  load := hcast.loads l _ h.load
  strand := hs.loads l u h.strand (.inl hacting)
  waits := hcaller ▸ h.waits
  length := h.length
  results := h.results
  reports := fun i outcome hmem => h.reports i outcome (hnews.reports i outcome hmem)
  failed := h.failed.trans hnews.failure.symm

/-- While nobody acts, groups are shown as before. -/
theorem ShowsGroup.rests {m m' : Machine Answer} {g l : Nat} {group : Group}
    {u : Strand RuleSet} (h : ShowsGroup cast s m g group l u) (hs : Stays none s s')
    (hcast : cast.Grows cast') (hcaller : m'.task? group.caller = m.task? group.caller)
    (hnews : Machine.NoNews g m.ready m'.ready) : ShowsGroup cast' s' m' g group l u :=
  h.stays hs hcast (Option.some_ne_none _).symm hcaller hnews

end Frames

/-- The service finds the same on the stage as in the machine. -/
structure SharesPlace (s : Stage) (m : Machine Answer) : Prop where
  cache : m.cache = s.service.cache
  world : m.world.visible = s.place.world.visible
  desk : m.desk = s.place.desk
  registry : m.registry = s.place.registry

/-- The tasks of callers and of loads. -/
def Cast.tasks (cast : Cast) : List Nat := cast.callers.map Prod.fst ++ cast.loads

/-- Everybody on the stage is cast, and nobody twice. -/
structure IsCast (cast : Cast) (s : Stage) (m : Machine Answer) : Prop where
  callers : cast.callers.length = s.callers.length
  loads : cast.loads.length = s.loads.length
  running : m.loads.length = s.loads.length
  distinct : cast.tasks.Nodup
  given : ∀ n ∈ cast.tasks, n < m.tasks.length

namespace IsCast

variable {cast cast' : Cast} {s s' : Stage} {m m' : Machine Answer}

theorem stays (h : IsCast cast s m) (hcallers : s'.callers.length = s.callers.length)
    (hloads : s'.loads.length = s.loads.length) (hrunning : m'.loads.length = m.loads.length)
    (htasks : m.tasks.length ≤ m'.tasks.length) : IsCast cast s' m' where
  callers := h.callers.trans hcallers.symm
  loads := h.loads.trans hloads.symm
  running := hrunning.trans (h.running.trans hloads.symm)
  distinct := h.distinct
  given := fun n hn => Nat.lt_of_lt_of_le (h.given n hn) htasks

/-- The next task is that of somebody who was not there before. -/
theorem join (h : IsCast cast s m) (hcast : cast'.tasks.Perm (cast.tasks ++ [m.tasks.length]))
    (hcallers : cast'.callers.length = s'.callers.length)
    (hloads : cast'.loads.length = s'.loads.length) (hrunning : m'.loads.length = s'.loads.length)
    (htasks : m'.tasks.length = m.tasks.length + 1) : IsCast cast' s' m' where
  callers := hcallers
  loads := hloads
  running := hrunning
  distinct := by
    refine hcast.nodup_iff.2 (List.nodup_append.2 ⟨h.distinct, List.pairwise_singleton _ _, ?_⟩)
    intro n hn k hk
    rw [List.mem_singleton.1 hk]
    exact Nat.ne_of_lt (h.given n hn)
  given := fun n hn => by
    rw [htasks]
    rcases List.mem_append.1 (hcast.mem_iff.1 hn) with hn | hn
    · exact Nat.lt_succ_of_lt (h.given n hn)
    · exact List.mem_singleton.1 hn ▸ Nat.lt_succ_self _

theorem eq_of_load {l l' n : Nat} (h : IsCast cast s m) (hl : cast.loads[l]? = some n)
    (hl' : cast.loads[l']? = some n) : l = l' :=
  (List.getElem?_inj (List.getElem?_eq_some_iff.1 hl).1 (List.nodup_append.1 h.distinct).2.1).1
    (hl.trans hl'.symm)

theorem eq_of_caller {i i' n : Nat} {call call' : Call} (h : IsCast cast s m)
    (hi : cast.callers[i]? = some (n, call)) (hi' : cast.callers[i']? = some (n, call')) :
    i = i' := by
  refine (List.getElem?_inj (l := cast.callers.map Prod.fst) ?_
    (List.nodup_append.1 h.distinct).1).1 ?_
  · rw [List.length_map]
    exact (List.getElem?_eq_some_iff.1 hi).1
  · rw [List.getElem?_map, List.getElem?_map, hi, hi']
    rfl

end IsCast

/-- The tasks do what the stage shows, apart from the one at work. -/
structure ShowsTasks (busy : Option Nat) (cast : Cast) (s : Stage) (m : Machine Answer) : Prop where
  tasks : ∀ (n : Nat) (task : Task Answer), m.task? n = some task → busy ≠ some n →
    ShowsTask cast s m.groups n (Machine.wakes m.ready n) task
  idle : ∀ n, m.task? n = none ∨ busy = some n → Machine.wakes m.ready n = []

/-- The groups of errands have come to what the stage shows. -/
structure ShowsGroups (busy : Option Nat) (cast : Cast) (s : Stage) (m : Machine Answer) :
    Prop where
  groups : ∀ (g : Nat) (group : Group), m.groups[g]? = some group → group.settled = false →
    busy ≠ some group.caller ∧ ∃ l t, ShowsGroup cast s m g group l t
  reports : ∀ g i outcome, .report g i outcome ∈ m.ready → g < m.groups.length

/-- Nobody is at work: all groups are to be shown whose callers have not been told. -/
theorem showsGroups_of_idle {cast : Cast} {s : Stage} {m : Machine Answer}
    (hgroups : ∀ (g : Nat) (group : Group), m.groups[g]? = some group → group.settled = false →
      ∃ l t, ShowsGroup cast s m g group l t)
    (hreports : ∀ g i outcome, .report g i outcome ∈ m.ready → g < m.groups.length) :
    ShowsGroups none cast s m where
  groups := fun g group hgroup hsettled =>
    ⟨(Option.some_ne_none _).symm, hgroups g group hgroup hsettled⟩
  reports := hreports

/-- Loads that have ended have ended on the stage. -/
structure ShowsLoads (s : Stage) (m : Machine Answer) : Prop where
  ended : ∀ (l : Nat) (running : Running) (outcome : Except Interruption RuleSet),
    m.loads[l]? = some running → running.outcome = some outcome →
    ∃ t : Strand RuleSet, s.loads[l]? = some t ∧ t.program = .done outcome
  forgets : ∀ l, .forget l ∈ m.ready → ∃ (t : Strand RuleSet) (outcome : _),
    s.loads[l]? = some t ∧ t.program = .done outcome

/-- Callers do on the stage what they want, and have ended there as they have ended. -/
structure ShowsCalls (cast : Cast) (s : Stage) (m : Machine Answer) : Prop where
  calls : ∀ (i n : Nat) (call : Call) (t : Strand Answer),
    cast.callers[i]? = some (n, call) → s.callers[i]? = some t →
    ∀ rest result, t.program.Follows rest result →
      (call.flow s.service).run.Follows (t.trace ++ rest) result
  outcomes : ∀ n result, (n, result) ∈ m.outcomes → ∃ (i : Nat) (call : Call) (t : Strand Answer),
    cast.callers[i]? = some (n, call) ∧ s.callers[i]? = some t ∧ t.program = .done result

/-- The stage mirrors the machine, apart from the task that is at work. -/
structure Mirrors (user : Id) (start : Stage) (busy : Option Nat) (cast : Cast) (s : Stage)
    (m : Machine Answer) : Prop where
  reached : Reached user start s
  behaves : s.Behaves user
  place : SharesPlace s m
  isCast : IsCast cast s m
  tasks : ShowsTasks busy cast s m
  groups : ShowsGroups busy cast s m
  loads : ShowsLoads s m
  calls : ShowsCalls cast s m

end Stage

end HouseholdAccess
