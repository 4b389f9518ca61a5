import HouseholdAccess.Proofs.Machine.Ending

/-!
# Callers who share loads

Whatever the course of events is, callers share the loads of a user, and loads leave nothing
behind (`Course.SharesLoads`, `Course.Reached.sharesLoads`): new callers join the only load
of the user that is under way, whoever has joined a load comes to what that comes to, and
when the last load of the user has ended and has been forgotten, no load is registered.

Nobody is left waiting (`Machine.IsQuiet.exists_answer`): when there is nothing to be done, and
no task waits at a point, then all loads have ended and all callers have been answered. This
comes to pass when nobody new comes (`Course.Reached.acc`).
-/

namespace HouseholdAccess

open Machine

variable {past : Past} {busy : Option Nat} {m : Machine Answer} {user : Id} {n k : Nat}

namespace Machine

/-! ## Loads under way -/

/-- A load of a user that has not ended, and has not been overtaken. -/
structure IsUnderWay (m : Machine Answer) (user : Id) (n : Nat) : Prop where
  load : m.desk.loads[n]? = some { user, overtaken := false }
  goesOn : m.ended? n = none

/-- A load of a user that has ended, and is still to be forgotten. -/
structure IsLeaving (m : Machine Answer) (user : Id) (n : Nat) : Prop where
  load : m.desk.loads[n]? = some { user, overtaken := false }
  ended : (m.ended? n).isSome
  leaves : .forget n ∈ m.ready

theorem Registers.pendingOf_eq (h : m.Registers) (hn : m.IsUnderWay user n) :
    m.desk.pendingOf user = some n :=
  h.active n _ hn.load rfl hn.goesOn

theorem Registers.isUnderWay_or_isLeaving (h : m.Registers)
    (hn : m.desk.pendingOf user = some n) : m.IsUnderWay user n ∨ m.IsLeaving user n := by
  obtain ⟨⟨owner, overtaken⟩, hload, rfl, rfl⟩ := h.pending user n hn
  cases hended : m.ended? n with
  | none => exact .inl ⟨hload, hended⟩
  | some outcome =>
    have hsome : (m.ended? n).isSome := by rw [hended]; rfl
    exact .inr ⟨hload, hsome, h.forgotten _ n hn hsome⟩

/-- Once the loads of a user have ended and have been forgotten, none is registered. -/
theorem Registers.pendingOf_eq_none (h : m.Registers)
    (hall : ∀ (n : Nat) (load : Load), m.desk.loads[n]? = some load → load.user = user →
      (m.ended? n).isSome ∧ .forget n ∉ m.ready) : m.desk.pendingOf user = none := by
  cases hpending : m.desk.pendingOf user with
  | none => rfl
  | some n =>
    obtain ⟨load, hload, huser, -⟩ := h.pending user n hpending
    obtain ⟨hended, hleft⟩ := hall n load hload huser
    exact absurd (h.forgotten user n hpending hended) hleft

/-- A job by which a load goes on or ends, or by which it is forgotten. -/
def IsJobOf (m : Machine Answer) (load : Nat) : Job → Prop
  | .resume n _ => m.post? n = some (.load load)
  | .forget n => n = load
  | _ => False

/-- The turn of a load leaves the desk as it is. -/
theorem Sound.desk_resume (h : Sound past none m) {before after : List Job} {wake : Wake}
    (hjobs : m.ready = before ++ .resume n wake :: after) {load : Nat}
    (hpost : m.post? n = some (.load load)) :
    (Machine.resume { m with ready := before ++ after } n wake).desk = m.desk := by
  obtain ⟨-, β, σ, p, fields, wait, htask, hfits, hawaits⟩ := h.pop hjobs
  have htask' : Machine.task? { m with ready := before ++ after } n =
      some { work := σ.work p, fields, wait } := htask
  have hn : n < m.tasks.length := lt_of_task? htask
  rw [post?, htask] at hpost
  rw [σ.resume_eq htask', continueWith_eq]
  cases hfits with
  | apart | joined | told | sentAway | errand => cases hpost
  | @load number p hp =>
    cases hawaits with
    | start => exact desk_run hp hn
    | released => exact desk_run (hp.2 _) hn
    | refused | loaded | left | gathered => exact desk_run (hp.2 _) hn

/-- A load that ends does not strike off another one, nor does the desk that forgets it. -/
theorem Sound.pendingOf_perform (h : Sound past none m) {before after : List Job} {job : Job}
    (hjobs : m.ready = before ++ job :: after) (hjob : m.IsJobOf n job) (hk : k ≠ n)
    (hpending : m.desk.pendingOf user = some k) :
    (Machine.perform { m with ready := before ++ after } job).desk.pendingOf user = some k := by
  cases job with
  | resume j wake =>
    change (Machine.resume { m with ready := before ++ after } j wake).desk.pendingOf user = _
    rw [h.desk_resume hjobs hjob, hpending]
  | forget load =>
    obtain rfl : load = n := hjob
    change (m.desk.forget load).pendingOf user = some k
    rw [Desk.pendingOf_forget_eq, hpending, if_neg fun heq => hk (Option.some.inj heq)]
    intro hload
    rw [hpending] at hload
    exact absurd (Option.some.inj hload) hk
  | tell | report => exact hjob.elim

/-! ## Callers -/

theorem mem_of_mem_wakes {jobs : List Job} {wake : Wake} (h : wake ∈ wakes jobs n) :
    .resume n wake ∈ jobs := by
  obtain ⟨job, hjob, hwake⟩ := List.mem_filterMap.1 h
  cases job with
  | resume k other =>
    rw [Job.wake?] at hwake
    split at hwake
    · next hk =>
      cases hwake
      exact hk ▸ hjob
    · cases hwake
  | _ => cases hwake

/-- Whoever has joined a load and has not been cancelled waits for it, is to hear what it has come
    to, or has come to that. -/
theorem Sound.told (h : Sound past none m) (hjoined : (k, n) ∈ past.joined)
    (hkept : k ∉ past.cancelled) :
    (m.task? k).bind (·.wait) = some (.load n) ∧ m.Tells n k ∨
      ∃ outcome, m.ended? n = some outcome ∧
        (.resume k (.loaded outcome) ∈ m.ready ∨ m.outcome? k = some (Answer.ofLoad outcome)) := by
  obtain ⟨-, -, htold⟩ := h.callers.joined k n hjoined
  rcases htold with hpost | hcancelled | ⟨outcome, houtcome, hk⟩
  · -- The program of a caller who goes on waits for the load, and nothing else.
    cases h.tasks.rests k (Option.some_ne_none k).symm with
    | gone hnone =>
      rw [post?, hnone] at hpost
      cases hpost
    | @task _ σ p fields wait htask hfits hawaits =>
      rw [htask]
      have hwakes (wake : Wake) (hwake : wakes m.ready k = [wake]) :
          .resume k wake ∈ m.ready :=
        mem_of_mem_wakes (hwake ▸ List.mem_singleton_self wake)
      rw [post?, htask] at hpost
      generalize wakes m.ready k = news at hawaits hwakes
      cases hfits with
      | load | errand => cases hpost
      | apart _ hapart => exact absurd hjoined (hapart n)
      | sentAway hcancelled => exact absurd hcancelled hkept
      | told =>
        cases hawaits with
        | start hapart => exact absurd hjoined (hapart n)
      | joined _ hn =>
        obtain rfl := hn n hjoined
        cases hawaits with
        | start hapart => exact absurd hjoined (hapart n)
        | left hcancelled => exact absurd hcancelled hkept
        | load htells => exact .inl ⟨rfl, htells⟩
        | @loaded _ _ outcome houtcome => exact .inr ⟨outcome, houtcome, .inl (hwakes _ rfl)⟩
  · exact absurd hcancelled hkept
  · exact .inr ⟨outcome, houtcome, .inr hk⟩

/-- What a caller comes to who has joined a load is what that has come to. -/
theorem Sound.exists_of_outcome (h : Sound past none m) (hjoined : (k, n) ∈ past.joined)
    (hkept : k ∉ past.cancelled) {r : Except Interruption Answer} (hr : m.outcome? k = some r) :
    ∃ outcome, m.ended? n = some outcome ∧ r = Answer.ofLoad outcome := by
  -- A caller who has come to something does not go on.
  have hnone : m.task? k = none := by
    obtain ⟨before, after, hsplit, -⟩ := List.lookup_eq_some_iff.1 hr
    exact (h.callers.outcomes (k, r) (by rw [hsplit]; simp)).2
  obtain ⟨-, -, htold⟩ := h.callers.joined k n hjoined
  rcases htold with hpost | hcancelled | ⟨outcome, houtcome, hk⟩
  · rw [post?, hnone] at hpost
    cases hpost
  · exact absurd hcancelled hkept
  · exact ⟨outcome, houtcome, Option.some.inj (hr.symm.trans hk)⟩

/-! ## Nobody is left waiting -/

namespace IsQuiet

variable (hm : m.IsQuiet) (h : Sound past none m)

include hm h

/-- A task that is left in a quiet machine waits for a load, or for errands. -/
theorem exists_awaits {post : Post} (hpost : m.post? n = some post) :
    ∃ (β : Type) (σ : Station Answer β) (p : Program β) (wait : Option Wait),
      post = σ.post ∧ Fits past m n σ p ∧ Awaits past m n p wait [] ∧
        ∀ q, wait ≠ some (.point q) := by
  cases h.tasks.rests n (Option.some_ne_none n).symm with
  | gone hnone =>
    rw [post?, hnone] at hpost
    cases hpost
  | @task β σ p fields wait htask hfits hawaits =>
    rw [post?, htask] at hpost
    rw [hm.ready] at hawaits
    refine ⟨β, σ, p, wait, ?_, hfits, hawaits, fun q hq => hm.points n q ?_⟩
    · rw [← Option.some.inj hpost]
      exact σ.post_work p
    · rw [htask]
      exact hq

/-- Errands wait only at points. -/
theorem post?_ne_errand (n g i : Nat) : m.post? n ≠ some (.errand g i) := by
  intro hpost
  obtain ⟨β, σ, p, wait, hσ, hfits, hawaits, hpoint⟩ := hm.exists_awaits h hpost
  cases hfits with
  | apart | joined | told | sentAway | load => cases hσ
  | errand hp =>
    cases hawaits with
    | held => exact hpoint _ rfl
    | load | errands => exact hp.1

/-- So no group is waited for, as one of its errands would have to be left. -/
theorem settled_of_getElem? {g : Nat} {group : Group} (hgroup : m.groups[g]? = some group) :
    group.settled = true := by
  rw [← Bool.not_eq_false]
  intro hsettled
  obtain ⟨i, hi⟩ := h.groups.missing g group hgroup hsettled
  rcases h.groups.errands g group hgroup hsettled i hi with ⟨k, hk⟩ | ⟨outcome, hmem⟩
  · exact hm.post?_ne_errand h k g i hk
  · rw [hm.ready] at hmem
    cases hmem

/-- So no load is left, as it would have to wait for a group. -/
theorem post?_ne_load (n load : Nat) : m.post? n ≠ some (.load load) := by
  intro hpost
  obtain ⟨β, σ, p, wait, hσ, hfits, hawaits, hpoint⟩ := hm.exists_awaits h hpost
  cases hfits with
  | apart | joined | told | sentAway | errand => cases hσ
  | load hp =>
    cases hawaits with
    | held => exact hpoint _ rfl
    | load => exact hp.1
    | errands hgroup _ hsettled =>
      rw [hm.settled_of_getElem? h hgroup] at hsettled
      cases hsettled

theorem isSome_ended? {load : Nat} (hload : load < m.loads.length) : (m.ended? load).isSome := by
  rw [← Option.ne_none_iff_isSome]
  intro hnone
  obtain ⟨k, hk⟩ := h.loads.played load hload hnone
  exact hm.post?_ne_load h k load hk

/-- So no caller is left, as it would have to wait for a load or for a group. -/
theorem post?_ne_call (n : Nat) : m.post? n ≠ some .call := by
  intro hpost
  obtain ⟨β, σ, p, wait, hσ, hfits, hawaits, hpoint⟩ := hm.exists_awaits h hpost
  cases hawaits with
  | held => exact hpoint _ rfl
  | load htells =>
    rcases htells with ⟨r, hr, hnone, -⟩ | ⟨-, hmem⟩
    · have hended := hm.isSome_ended? h (List.getElem?_eq_some_iff.1 hr).1
      rw [ended?, hr, Option.bind_some, hnone] at hended
      cases hended
    · rw [hm.ready] at hmem
      cases hmem
  | errands hgroup _ hsettled =>
    rw [hm.settled_of_getElem? h hgroup] at hsettled
    cases hsettled

/-- When there is nothing to be done, and no task waits at a point, then no task is left. -/
theorem task?_eq_none (n : Nat) : m.task? n = none := by
  cases htask : m.task? n with
  | none => rfl
  | some task =>
    have hpost : m.post? n = some task.work.post := by rw [post?, htask]; rfl
    cases hwork : task.work.post with
    | call => exact absurd (hwork ▸ hpost) (hm.post?_ne_call h n)
    | load load => exact absurd (hwork ▸ hpost) (hm.post?_ne_load h n load)
    | errand g i => exact absurd (hwork ▸ hpost) (hm.post?_ne_errand h n g i)

/-- Then no load is registered, either. -/
theorem pendingOf_eq_none (user : Id) : m.desk.pendingOf user = none := by
  refine h.registers.pendingOf_eq_none fun n load hload _ => ⟨hm.isSome_ended? h ?_, ?_⟩
  · exact h.registers.numbered ▸ (List.getElem?_eq_some_iff.1 hload).1
  · rw [hm.ready]
    exact List.not_mem_nil

/-- Whoever has joined a load has been answered, then. -/
theorem exists_answer (hjoined : (k, n) ∈ past.joined) (hkept : k ∉ past.cancelled) :
    ∃ outcome, m.ended? n = some outcome ∧ m.outcome? k = some (Answer.ofLoad outcome) := by
  rcases h.told hjoined hkept with ⟨hwait, -⟩ | ⟨outcome, houtcome, hmem | hk⟩
  · rw [hm.task?_eq_none h] at hwait
    cases hwait
  · rw [hm.ready] at hmem
    cases hmem
  · exact ⟨outcome, houtcome, hk⟩

end IsQuiet

end Machine

/-! ## Courses -/

namespace Course

variable {service : Service} {world : World} {counts : Bool} {c : Course}

/-- Callers share the loads of a user, and loads leave nothing behind. -/
structure SharesLoads (c : Course) : Prop where
  /-- At most one load of a user is under way. -/
  single : ∀ user n k, c.machine.IsUnderWay user n → c.machine.IsUnderWay user k → n = k
  /-- It is the one that new callers join. -/
  registered : ∀ user n, c.machine.IsUnderWay user n → c.machine.desk.pendingOf user = some n
  /-- They join no other one, unless that has ended and is to be forgotten at once. -/
  joinable : ∀ user n, c.machine.desk.pendingOf user = some n →
    c.machine.IsUnderWay user n ∨ c.machine.IsLeaving user n
  /-- A load that goes on, ends or is forgotten leaves another one registered. -/
  kept : ∀ before job after n, c.machine.ready = before ++ job :: after → c.machine.IsJobOf n job →
    ∀ user k, k ≠ n → c.machine.desk.pendingOf user = some k →
      (c.perform job (before ++ after)).machine.desk.pendingOf user = some k
  /-- Whoever has joined a load and has not been cancelled waits until it has ended and is told, is
      to hear what it has come to, or has come to that. -/
  told : ∀ k n, (k, n) ∈ c.past.joined → k ∉ c.past.cancelled →
    (c.machine.task? k).bind (·.wait) = some (.load n) ∧ c.machine.Tells n k ∨
      ∃ outcome, c.machine.ended? n = some outcome ∧
        (.resume k (.loaded outcome) ∈ c.machine.ready ∨
          c.machine.outcome? k = some (Answer.ofLoad outcome))
  /-- It comes to nothing else. -/
  same : ∀ k n, (k, n) ∈ c.past.joined → k ∉ c.past.cancelled →
    ∀ r, c.machine.outcome? k = some r →
      ∃ outcome, c.machine.ended? n = some outcome ∧ r = Answer.ofLoad outcome
  /-- In whatever order jobs are done and tasks go on that wait at points, this ends when nobody new
      comes. -/
  ends : Acc (fun later earlier : Course => earlier.Works later) c
  /-- When nothing is to be done and no task waits at a point, all loads have ended, and whoever has
      joined one and has not been cancelled has come to what that has come to. -/
  answered : c.machine.IsQuiet →
    (∀ n < c.machine.loads.length, (c.machine.ended? n).isSome) ∧
      ∀ k n, (k, n) ∈ c.past.joined → k ∉ c.past.cancelled → ∃ outcome,
        c.machine.ended? n = some outcome ∧ c.machine.outcome? k = some (Answer.ofLoad outcome)
  /-- When all loads of a user have ended and have been forgotten, none is registered. -/
  forgotten : ∀ user, (∀ (n : Nat) (load : Load), c.machine.desk.loads[n]? = some load →
    load.user = user → (c.machine.ended? n).isSome ∧ .forget n ∉ c.machine.ready) →
      c.machine.desk.pendingOf user = none

/-- Whatever the course of events is, callers share loads. -/
theorem Reached.sharesLoads (h : Reached service world counts c) : c.SharesLoads where
  single user n k hn hk := by
    have hpending := h.sound.registers.pendingOf_eq hn
    rw [h.sound.registers.pendingOf_eq hk] at hpending
    exact (Option.some.inj hpending).symm
  registered _ _ := h.sound.registers.pendingOf_eq
  joinable _ _ := h.sound.registers.isUnderWay_or_isLeaving
  kept _ _ _ _ hjobs hjob _ _ := h.sound.pendingOf_perform hjobs hjob
  told _ _ := h.sound.told
  same _ _ hjoined hkept _ := h.sound.exists_of_outcome hjoined hkept
  ends := h.acc
  answered hm := ⟨fun _ => hm.isSome_ended? h.sound, fun _ _ => hm.exists_answer h.sound⟩
  forgotten _ := h.sound.registers.pendingOf_eq_none

/-- Two callers have joined a load that is held up, and the second is cancelled. Then the rule set
    is dropped, and another caller joins another load. The first load goes on when that is held up,
    and the caller who waits for it is told and goes on before the desk forgets it. -/
def lateCourse (user : Id) : Course :=
  let start : Course := { machine := (Session.begin {} { held := [.load] } false).machine }
  let joined := (((start.enter {} (.get user)).enter {} (.get user)).work 0).work 0
  let dropped := ((((joined.work 0).cancel 1).work 0).enter {} (.invalidate user)).work 0
  let again := ((dropped.enter {} (.get user)).work 0).work 0
  (((((again.change {} []).release 2 .load).work 0).work 1).work 1).work 0

theorem reached_lateCourse (user : Id) : Reached {} { held := [.load] } false (lateCourse user) :=
  have hget : (Call.get user).IsAboutRules := trivial
  have hdrop : (Call.invalidate user).IsAboutRules := trivial
  have start : Reached {} { held := [.load] } false _ := .begin
  have joined := (((start.step (.enter hget)).step (.enter hget)).work 0).work 0
  have dropped := ((((joined.work 0).step (.cancel 1)).work 0).step (.enter hdrop)).work 0
  have again := ((dropped.step (.enter hget)).work 0).work 0
  (((((again.step (.change {} [])).step (.release 2 .load)).work 0).work 1).work 1).work 0

/-- The first load leaves the second registered, and its caller has been answered. -/
theorem sharesLoads_lateCourse :
    Reached {} { held := [.load] } false (lateCourse (.text "reader")) ∧
      (lateCourse (.text "reader")).SharesLoads ∧
      (lateCourse (.text "reader")).past.joined = [(0, 0), (1, 0), (4, 1)] ∧
      (lateCourse (.text "reader")).past.cancelled = [1] ∧
      (lateCourse (.text "reader")).machine.desk.pendingOf (.text "reader") = some 1 ∧
      ((lateCourse (.text "reader")).machine.outcome? 0).isSome := by
  refine ⟨reached_lateCourse _, (reached_lateCourse _).sharesLoads, ?_⟩
  decide +kernel

end Course

end HouseholdAccess
