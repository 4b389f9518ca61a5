import HouseholdAccess.Proofs.Machine.Course
import Mathlib.Algebra.BigOperators.Intervals
import Mathlib.Data.Multiset.DershowitzManna
import Mathlib.Data.Prod.Lex
import Mathlib.SetTheory.Ordinal.Family
import Mathlib.Tactic.Abel

/-!
# Coming to an end

Jobs run out, in whatever order they are done, as long as no new callers come
(`Course.Reached.acc`). What is still to be done is measured by an *effort* for each task
and for each job. A task at work has less of its program left afterwards; what it has
started meanwhile is of a lower *kind*: callers start loads and errands, loads start
errands, and errands start nothing. So with each job that is done the multiset of efforts
gets smaller.

In particular `Machine.settle` comes to an end (`Course.Reached.ready_settle`).
-/

namespace HouseholdAccess

variable {α β : Type}

/-! ## Efforts -/

/-- How long a program may go on. -/
noncomputable def Program.rank : Program α → Ordinal.{0}
  | .done _ => 0
  | .call _ next => ⨆ reply, Order.succ (next reply).rank

theorem Program.rank_lt {op : Operation} (next : op.Reply → Program α) (reply : op.Reply) :
    (next reply).rank < (Program.call op next).rank :=
  (Order.lt_succ _).trans_le (Ordinal.le_iSup (fun reply => Order.succ (next reply).rank) reply)

/-- How long the program of a task may go on. -/
noncomputable def Work.rank : Work α → Ordinal.{0}
  | .call p => p.rank
  | .load _ p => p.rank
  | .errand _ _ p => p.rank

theorem Station.rank_work (σ : Station α β) (p : Program β) : (σ.work p).rank = p.rank := by
  cases σ <;> rfl

/-- The kind of a task. -/
def Post.kind : Post → ℕ
  | .errand .. => 1
  | .load _ => 2
  | .call => 3

theorem Post.kind_pos (post : Post) : 0 < post.kind := by
  cases post <;> simp [kind]

/-- The kind of the tasks that an operation starts, if it starts any. -/
def Operation.starts : Operation → ℕ
  | .joinLoad _ => 2
  | .each .. => 1
  | _ => 0

theorem Operation.starts_lt (op : Operation) : op.starts < 3 := by
  cases op <;> simp [starts]

theorem Operation.IsOfLoad.starts_lt {op : Operation} (h : op.IsOfLoad) : op.starts < 2 := by
  cases op with
  | joinLoad => exact h.elim
  | _ => simp [starts]

theorem Operation.IsOfErrand.starts_lt {op : Operation} (h : op.IsOfErrand) : op.starts < 1 := by
  cases op with
  | joinLoad | each => exact h.elim
  | _ => simp [starts]

/-- What is still to be done: of which kind it is, for how long it may go on, and how far it is from
    going on. -/
abbrev Effort := ℕ ×ₗ Ordinal.{0} ×ₗ ℕ

namespace Machine

variable {past : Past} {m m' : Machine Answer} {n k : ℕ} {before after : List Job}

/-- The effort of something. -/
def effort (kind : ℕ) (rank : Ordinal.{0}) (phase : ℕ) : Effort :=
  toLex (kind, toLex (rank, phase))

theorem effort_lt_of_kind {kind kind' : ℕ} (h : kind < kind') (rank rank' : Ordinal.{0})
    (phase phase' : ℕ) : effort kind rank phase < effort kind' rank' phase' :=
  Prod.Lex.toLex_lt_toLex.2 (.inl h)

theorem effort_lt_of_rank {rank rank' : Ordinal.{0}} (h : rank < rank') (kind phase phase' : ℕ) :
    effort kind rank phase < effort kind rank' phase' :=
  Prod.Lex.toLex_lt_toLex.2 (.inr ⟨rfl, Prod.Lex.toLex_lt_toLex.2 (.inl h)⟩)

theorem effort_lt_of_phase {rank rank' : Ordinal.{0}} (h : rank ≤ rank') (kind : ℕ)
    {phase phase' : ℕ} (hphase : phase < phase') :
    effort kind rank phase < effort kind rank' phase' := by
  rcases h.lt_or_eq with hlt | rfl
  · exact effort_lt_of_rank hlt ..
  · exact Prod.Lex.toLex_lt_toLex.2 (.inr ⟨rfl, Prod.Lex.toLex_lt_toLex.2 (.inr ⟨rfl, hphase⟩)⟩)

/-- A task is farther from going on while it waits at a point, and before it has begun. -/
def phase : Option Wait → List Wake → ℕ
  | _, .start :: _ => 2
  | some (.point _), _ => 1
  | _, _ => 0

/-- The effort of the task of a number, if it is there. -/
noncomputable def effortOf (m : Machine Answer) (n : ℕ) : Multiset Effort :=
  match m.task? n with
  | none => 0
  | some task => {effort task.work.post.kind task.work.rank (phase task.wait (wakes m.ready n))}

/-- The effort of a job: telling somebody takes more than going on. -/
def jobEffort : Job → Effort
  | .tell .. | .report .. => effort 0 0 2
  | _ => effort 0 0 1

/-- What is still to be done. -/
noncomputable def efforts (m : Machine Answer) : Multiset Effort :=
  ∑ n ∈ Finset.range m.tasks.length, m.effortOf n + (m.ready.map jobEffort : Multiset Effort)

theorem effortOf_eq {task : Task Answer} (htask : m.task? n = some task) : m.effortOf n =
    {effort task.work.post.kind task.work.rank (phase task.wait (wakes m.ready n))} := by
  rw [effortOf, htask]

theorem jobEffort_lt {kind : ℕ} (h : 0 < kind) (job : Job) (rank : Ordinal.{0}) (phase : ℕ) :
    jobEffort job < effort kind rank phase := by
  cases job <;> exact effort_lt_of_kind h ..

/-- There is less to be done after a job if the tasks have as much to do as before. -/
theorem efforts_lt_of_job {job : Job} {jobs : List Job} (hjobs : m.ready = before ++ job :: after)
    (hready : m'.ready = before ++ after ++ jobs)
    (hlength : m'.tasks.length = m.tasks.length) (hsame : ∀ k, m'.effortOf k = m.effortOf k)
    (hlt : ∀ new ∈ jobs, jobEffort new < jobEffort job) :
    Multiset.IsDershowitzMannaLT m'.efforts m.efforts := by
  refine ⟨∑ k ∈ Finset.range m.tasks.length, m.effortOf k +
    ((before ++ after).map jobEffort : Multiset Effort), jobs.map jobEffort, {jobEffort job},
    Multiset.singleton_ne_zero _, ?_, ?_, fun y hy => ?_⟩
  · rw [efforts, hlength, hready, List.map_append, ← Multiset.coe_add, add_assoc]
    simp only [hsame]
  · rw [efforts, hjobs, add_assoc, ← Multiset.coe_singleton, Multiset.coe_add]
    refine congrArg _ (Multiset.coe_eq_coe.2 ?_)
    rw [← List.map_singleton, ← List.map_append]
    exact (List.perm_middle.trans (List.perm_append_singleton ..).symm).map _
  · obtain ⟨new, hnew, rfl⟩ := List.mem_map.1 (Multiset.mem_coe.1 hy)
    exact ⟨_, Multiset.mem_singleton_self _, hlt new hnew⟩

/-- There is less to be done after a task has done something if it has less to do itself, and if
    what is new takes less, too. Some jobs have gone meanwhile. -/
theorem efforts_lt_of_task {y : Effort} {gone jobs : List Job} (hn : n < m.tasks.length)
    (hself : m.effortOf n = {y}) (hjob : ∀ job, jobEffort job < y)
    (hjobs : m.ready = before ++ gone ++ after) (hready : m'.ready = before ++ after ++ jobs)
    (hlength : m.tasks.length ≤ m'.tasks.length)
    (hsame : ∀ k, k ≠ n → k < m.tasks.length → m'.effortOf k = m.effortOf k)
    (hlt : ∀ k, k = n ∨ m.tasks.length ≤ k → ∀ x ∈ m'.effortOf k, x < y) :
    Multiset.IsDershowitzMannaLT m'.efforts m.efforts := by
  have hmem : n ∈ Finset.range m.tasks.length := Finset.mem_range.2 hn
  let others := ∑ k ∈ (Finset.range m.tasks.length).erase n, m.effortOf k
  let kept : Multiset Effort := (before ++ after).map jobEffort
  let started := ∑ k ∈ Finset.Ico m.tasks.length m'.tasks.length, m'.effortOf k
  have htasks : ∑ k ∈ Finset.range m.tasks.length, m.effortOf k = {y} + others := by
    rw [← Finset.add_sum_erase _ _ hmem, hself]
  have htasks' : ∑ k ∈ Finset.range m'.tasks.length, m'.effortOf k =
      m'.effortOf n + others + started := by
    rw [← Finset.sum_range_add_sum_Ico _ hlength, ← Finset.add_sum_erase _ _ hmem]
    refine congrArg (· + started) (congrArg _ (Finset.sum_congr rfl fun k hk => ?_))
    obtain ⟨hkn, hk⟩ := Finset.mem_erase.1 hk
    exact hsame k hkn (Finset.mem_range.1 hk)
  refine ⟨others + kept, m'.effortOf n + started + (jobs.map jobEffort : Multiset Effort),
    {y} + (gone.map jobEffort : Multiset Effort), ?_, ?_, ?_, fun x hx => ⟨y, by simp, ?_⟩⟩
  · simp
  · rw [efforts, htasks', hready, List.map_append, ← Multiset.coe_add]
    abel
  · rw [efforts, htasks, hjobs]
    simp only [kept, List.map_append, ← Multiset.coe_add]
    abel
  · rcases Multiset.mem_add.1 hx with hx | hx
    · rcases Multiset.mem_add.1 hx with hx | hx
      · exact hlt n (.inl rfl) x hx
      · obtain ⟨k, hk, hx⟩ := Multiset.mem_sum.1 hx
        exact hlt k (.inr (Finset.mem_Ico.1 hk).1) x hx
    · obtain ⟨job, -, rfl⟩ := List.mem_map.1 (Multiset.mem_coe.1 hx)
      exact hjob job

/-! ## Turns -/

/-- A program of a task starts only tasks of lower kinds. -/
theorem Fits.only_starts {σ : Station Answer β} {p : Program β} (h : Fits past m n σ p) :
    p.Only fun op => op.starts < σ.post.kind := by
  have hcall (p : Program (Except Interruption Answer)) :
      p.Only fun op => op.starts < Post.call.kind := by
    induction p with
    | done r => trivial
    | call op next ih => exact ⟨op.starts_lt, ih⟩
  cases h with
  | apart | joined | told | sentAway => exact hcall _
  | load hp => exact hp.mono fun _ hop => hop.starts_lt
  | errand hp => exact hp.mono fun _ hop => hop.starts_lt

/-- What a task at work leaves as it is: other tasks, and what is to be done for those that are
    there. What it starts is of a lower kind. -/
structure Spends (n kind : ℕ) (m m' : Machine Answer) : Prop where
  length : m.tasks.length ≤ m'.tasks.length
  tasks : ∀ k, k ≠ n → k < m.tasks.length → m'.task? k = m.task? k
  wakes : ∀ k, k < m.tasks.length → wakes m'.ready k = wakes m.ready k
  started : ∀ k task, m.tasks.length ≤ k → m'.task? k = some task → task.work.post.kind < kind
  ready : ∃ jobs, m'.ready = m.ready ++ jobs

section Spends

variable {kind : ℕ}

theorem Spends.trans {m'' : Machine Answer} (h : Spends n kind m m') (h' : Spends n kind m' m'')
    (hn : n < m.tasks.length) : Spends n kind m m'' where
  length := h.length.trans h'.length
  tasks k hk hlt := (h'.tasks k hk (hlt.trans_le h.length)).trans (h.tasks k hk hlt)
  wakes k hlt := (h'.wakes k (hlt.trans_le h.length)).trans (h.wakes k hlt)
  started k task hk htask := by
    rcases Nat.lt_or_ge k m'.tasks.length with hlt | hge
    · exact h.started k task hk (h'.tasks k (hn.trans_le hk).ne' hlt ▸ htask)
    · exact h'.started k task hge htask
  ready := by
    obtain ⟨jobs, hjobs⟩ := h.ready
    obtain ⟨jobs', hjobs'⟩ := h'.ready
    exact ⟨jobs ++ jobs', by rw [hjobs', hjobs, List.append_assoc]⟩

theorem spends_of_eq (htasks : m'.tasks = m.tasks) (hready : m'.ready = m.ready) :
    Spends n kind m m' where
  length := by rw [htasks]
  tasks k _ _ := by rw [task?, task?, htasks]
  wakes k _ := by rw [hready]
  started k task hk htask := by
    rw [task?_eq_none (htasks ▸ hk)] at htask
    cases htask
  ready := ⟨[], by rw [hready, List.append_nil]⟩

/-- Tasks of a lower kind are started. -/
theorem spends_append {tasks : List (Option (Task Answer))} (htasks : m'.tasks = m.tasks ++ tasks)
    (hready : m'.ready = m.ready ++ startJobs m.tasks.length tasks.length)
    (hkind : ∀ task, some task ∈ tasks → task.work.post.kind < kind) : Spends n kind m m' where
  length := by rw [htasks, List.length_append]; exact Nat.le_add_right ..
  tasks k _ hlt := task?_append htasks hlt
  wakes k hlt := by
    rw [hready, wakes_append, wakes_startJobs, if_neg fun h => Nat.not_le_of_lt hlt h.1,
      List.append_nil]
  started k task hk htask := by
    rw [task?, htasks, List.getElem?_append_right hk, Option.join_eq_some_iff] at htask
    exact hkind task (List.mem_of_getElem? htask)
  ready := ⟨_, hready⟩

/-- The task itself has come to something. -/
theorem spends_set {after : Option (Task Answer)} {jobs : List Job}
    (htasks : m'.tasks = m.tasks.set n after) (hready : m'.ready = m.ready ++ jobs)
    (hjobs : ∀ k, wakes jobs k = []) : Spends n kind m m' where
  length := by rw [htasks, List.length_set]
  tasks k hk _ := task?_set_ne hk htasks
  wakes k _ := by rw [hready, wakes_append, hjobs, List.append_nil]
  started k task hk htask := by
    rw [task?_eq_none (by rwa [htasks, List.length_set])] at htask
    cases htask
  ready := ⟨jobs, hready⟩

/-- What a task carries out at once starts only tasks of a lower kind. -/
theorem Turn.Carries.spends {t t' : Turn Answer} {op : Operation} {reply : op.Reply}
    (h : t.Carries op reply t') (hop : op.starts < kind) :
    Spends n kind t.machine t'.machine := by
  cases h with
  | plain _ _ hsame => exact spends_of_eq hsame.tasks hsame.ready
  | overtook | joined | answered => exact spends_of_eq rfl rfl
  | started =>
    refine spends_append rfl rfl fun task htask => ?_
    cases List.mem_singleton.1 htask
    exact hop

/-- The task of a number, if it is still there, has no more to do than a program. -/
def HasLeft (n : ℕ) (σ : Station Answer β) (p : Program β) (m : Machine Answer) : Prop :=
  ∀ task, m.task? n = some task → task.work.post = σ.post ∧ task.work.rank ≤ p.rank

variable {σ : Station Answer β} {p p' : Program β}

theorem hasLeft_of_none (h : m.task? n = none) : HasLeft n σ p m := fun task htask => by
  rw [h] at htask
  cases htask

theorem hasLeft_of_task {fields : Entries} {wait : Option Wait}
    (h : m.task? n = some { work := σ.work p, fields, wait }) : HasLeft n σ p m :=
  fun task htask => by
    obtain rfl := Option.some.inj (h.symm.trans htask)
    exact ⟨σ.post_work p, (σ.rank_work p).le⟩

theorem HasLeft.mono (h : HasLeft n σ p m) (hle : p.rank ≤ p'.rank) : HasLeft n σ p' m :=
  fun task htask => (h task htask).imp_right hle.trans'

/-- A task at the end of its program is gone. -/
theorem spends_done (b : β) {t : Turn Answer} (hn : n < t.machine.tasks.length) :
    Spends n σ.post.kind t.machine (σ.run n (.done b) t) ∧
      HasLeft n σ (.done b) (σ.run n (.done b) t) := by
  have hgone {m' : Machine Answer} (htasks : m'.tasks = t.machine.tasks.set n none) :
      m'.task? n = none := task?_set hn htasks
  cases σ with
  | call =>
    exact ⟨spends_set rfl (List.append_nil _).symm fun _ => rfl, hasLeft_of_none (hgone rfl)⟩
  | errand g i => exact ⟨spends_set rfl rfl fun _ => rfl, hasLeft_of_none (hgone rfl)⟩
  | load load =>
    change Spends _ _ _ ((t.machine.setTask n none).endLoad load b) ∧
      HasLeft _ _ _ ((t.machine.setTask n none).endLoad load b)
    rw [endLoad_eq]
    exact ⟨spends_set rfl rfl fun _ => wakes_leave .., hasLeft_of_none (hgone rfl)⟩

/-- A task that comes to ask for the answers of errands starts them, and waits. -/
theorem spends_each (errand : Errand) {ids : List Id} (hids : ids ≠ [])
    {next : Except Interruption (List (List Id)) → Program β} (hkind : 1 < σ.post.kind)
    {fields : Entries} (hn : n < m.tasks.length) :
    Spends n σ.post.kind m (σ.run n (.call (.each errand ids) next) { machine := m, fields }) ∧
      HasLeft n σ (.call (.each errand ids) next)
        (σ.run n (.call (.each errand ids) next) { machine := m, fields }) := by
  rw [run_each errand hids hn]
  let waiting : Task Answer := { work := σ.work (.call (.each errand ids) next), fields,
                                 wait := some (.group m.groups.length) }
  let m₁ : Machine Answer := m.setTask n (some waiting)
  have hset : Spends n σ.post.kind m m₁ := spends_set rfl (List.append_nil _).symm fun _ => rfl
  have hself : (m₁.tasks ++ errandTasks m.cache errand m.groups.length fields 0 ids)[n]?.join =
      some waiting := by
    rw [List.getElem?_append_left (hn.trans_le hset.length)]
    exact congrArg Option.join (List.getElem?_set_self hn)
  refine ⟨hset.trans (spends_append rfl ?_ fun task htask => ?_) hn, hasLeft_of_task hself⟩
  · rw [errandTasks_eq, List.length_map, List.length_mapIdx]
    exact congrArg (fun first => m.ready ++ startJobs first ids.length) List.length_set.symm
  · rw [errandTasks_eq, List.mem_map] at htask
    obtain ⟨task', htask', heq⟩ := htask
    obtain rfl := Option.some.inj heq
    obtain ⟨i, id, -, rfl⟩ := List.mem_mapIdx.1 htask'
    exact hkind

/-- A task that works at a program has no more to do afterwards than that. -/
theorem spends_run {t : Turn Answer} (hp : p.Only fun op => op.starts < σ.post.kind)
    (hn : n < t.machine.tasks.length) :
    Spends n σ.post.kind t.machine (σ.run n p t) ∧ HasLeft n σ p (σ.run n p t) := by
  induction p generalizing t with
  | done b => exact spends_done b hn
  | call op next ih =>
    cases hcarry : t.carry? op with
    | some x =>
      obtain ⟨reply, t'⟩ := x
      rw [σ.run_of_carry? hcarry]
      have hspends := (Turn.carries_of_carry? hcarry).spends (n := n) hp.1
      obtain ⟨hrest, hleft⟩ := ih reply (hp.2 reply) (hn.trans_le hspends.length)
      exact ⟨hspends.trans hrest hn, hleft.mono (Program.rank_lt next reply).le⟩
    | none =>
      obtain ⟨m, fields⟩ := t
      cases Turn.stops_of_carry? hcarry with
      | held hheld =>
        rw [σ.run_access hheld]
        exact ⟨spends_set rfl (List.append_nil _).symm fun _ => rfl,
          hasLeft_of_task (task?_set hn rfl)⟩
      | waits hnone =>
        rw [σ.run_awaitLoad hnone]
        exact ⟨spends_set rfl (List.append_nil _).symm fun _ => rfl,
          hasLeft_of_task (task?_set hn rfl)⟩
      | errands hids => exact spends_each _ hids hp.1 hn

end Spends

/-! ## Jobs -/

theorem phase_nil_le (wait : Option Wait) : phase wait [] ≤ 1 := by
  cases wait with
  | none => exact Nat.zero_le 1
  | some w => cases w <;> simp [phase]

/-- Only that it is to begin makes a difference to a task. -/
theorem phase_snoc {wake : Wake} (hwake : wake ≠ .start) (wait : Option Wait)
    (wakes : List Wake) : phase wait (wakes ++ [wake]) = phase wait wakes := by
  cases wakes with
  | nil =>
    cases wake with
    | start => exact absurd rfl hwake
    | _ => rcases wait with - | - | - | - <;> rfl
  | cons first rest => cases first <;> rcases wait with - | - | - | - <;> rfl

theorem phase_load (load : ℕ) (wakes : List Wake) :
    phase (some (.load load)) wakes = phase none wakes := by
  rcases wakes with - | ⟨- | - | - | - | -, rest⟩ <;> rfl

theorem effortOf_congr_of_phase (htask : m'.task? k = m.task? k)
    (hphase : ∀ wait, phase wait (wakes m'.ready k) = phase wait (wakes m.ready k)) :
    m'.effortOf k = m.effortOf k := by
  rw [effortOf, effortOf, htask]
  cases m.task? k with
  | none => rfl
  | some task => simp only [hphase]

theorem effortOf_congr (htask : m'.task? k = m.task? k)
    (hwakes : wakes m'.ready k = wakes m.ready k) : m'.effortOf k = m.effortOf k :=
  effortOf_congr_of_phase htask fun _ => by rw [hwakes]

theorem lt_of_mem_effortOf {x y : Effort} (hx : x ∈ m.effortOf k)
    (h : ∀ task, m.task? k = some task →
      effort task.work.post.kind task.work.rank (phase task.wait (wakes m.ready k)) < y) :
    x < y := by
  cases htask : m.task? k with
  | none =>
    rw [effortOf, htask] at hx
    cases hx
  | some task =>
    rw [effortOf_eq htask] at hx
    exact Multiset.mem_singleton.1 hx ▸ h task htask

/-- A task that has heard why it goes on has less of its program left, or has not begun before. -/
theorem Awaits.rank_hear {p : Program β} {wait : Option Wait} {wake : Wake}
    (h : Awaits past m n p wait [wake]) (t : Turn Answer) :
    (t.hear wake p).1.rank < p.rank ∨ wake = .start ∧ (t.hear wake p).1 = p := by
  cases h with
  | start => exact .inr ⟨rfl, rfl⟩
  | released | refused | loaded | left | gathered => exact .inl (Program.rank_lt _ _)

/-- There is less to be done after the turn of a task. -/
theorem Sound.efforts_resume (h : Sound past none m) {wake : Wake}
    (hjobs : m.ready = before ++ .resume n wake :: after) : Multiset.IsDershowitzMannaLT
      (Machine.resume { m with ready := before ++ after } n wake).efforts m.efforts := by
  obtain ⟨hpop, β, σ, p, fields, wait, htask, hfits, hawaits⟩ := h.pop hjobs
  obtain ⟨hself, hquiet⟩ := h.wakes_eq hjobs
  obtain ⟨-, htasks, hready, hfits'⟩ := hpop.hear hfits hawaits fields
  have hrank := hawaits.rank_hear { machine := { m with ready := before ++ after }, fields }
  have hrun : Machine.resume { m with ready := before ++ after } n wake = σ.run n
      (Turn.hear { machine := { m with ready := before ++ after }, fields } wake p).1
      (Turn.hear { machine := { m with ready := before ++ after }, fields } wake p).2 := by
    have htask' : Machine.task? { m with ready := before ++ after } n =
        some { work := σ.work p, fields, wait } := htask
    rw [σ.resume_eq htask', continueWith_eq]
    rfl
  rw [hrun]
  generalize Turn.hear { machine := { m with ready := before ++ after }, fields } wake p = x
    at htasks hready hfits' hrank
  have hn : n < m.tasks.length := lt_of_task? htask
  obtain ⟨hspends, hleft⟩ := spends_run hfits'.only_starts (htasks ▸ hn)
  obtain ⟨jobs, hnew⟩ := hspends.ready
  have hlength : x.2.machine.tasks.length = m.tasks.length := by rw [htasks]
  have hwakes (k : ℕ) (hk : k < m.tasks.length) :
      wakes (σ.run n x.1 x.2).ready k = wakes (before ++ after) k := by
    rw [hspends.wakes k (hlength ▸ hk), hready]
  have hjobs' : m.ready = before ++ [.resume n wake] ++ after := by
    rw [hjobs, List.append_assoc]
    rfl
  refine efforts_lt_of_task hn ?_
    (fun job => jobEffort_lt σ.post.kind_pos job p.rank (phase wait [wake])) hjobs'
    (hnew.trans (congrArg (· ++ jobs) hready)) (hlength ▸ hspends.length)
    (fun k hk hlt => effortOf_congr ?_ ?_) fun k hk x hx => lt_of_mem_effortOf hx fun task hk' => ?_
  · rw [effortOf_eq htask, hself]
    exact congrArg₂ (fun post rank => {effort (Post.kind post) rank (phase wait [wake])})
      (σ.post_work p) (σ.rank_work p)
  · rw [hspends.tasks k hk (hlength ▸ hlt), task?, htasks]
    rfl
  · have hother : (Job.resume n wake).wake? k = none := if_neg hk.symm
    rw [hwakes k hlt, wakes_of_quiet hjobs hother]
  · rcases hk with rfl | hk
    · obtain ⟨hpost, hle⟩ := hleft task hk'
      rw [hpost, hwakes k hn, hquiet]
      rcases hrank with hlt | ⟨rfl, heq⟩
      · exact effort_lt_of_rank (hle.trans_lt hlt) ..
      · exact effort_lt_of_phase (heq ▸ hle) _ (Nat.lt_succ_of_le (phase_nil_le _))
    · exact effort_lt_of_kind (hspends.started k task (hlength ▸ hk) hk') ..

/-- There is less to be done after a task has stopped waiting at a point. -/
theorem Sound.efforts_release (h : Sound past none m) {p : Point}
    (hstop : m.stopWaiting n (.point p) = some m') :
    Multiset.IsDershowitzMannaLT (m'.push (.resume n .released)).efforts m.efforts := by
  obtain ⟨task, htask, hwait, rfl⟩ := stopWaiting_eq_some_iff.1 hstop
  have hn := lt_of_task? htask
  have hnil : wakes m.ready n = [] := by
    cases h.tasks.rests n (Option.some_ne_none n).symm with
    | gone _ hnil => exact hnil
    | @task _ _ _ _ wait htask' _ hawaits =>
      obtain rfl := Option.some.inj (htask.symm.trans htask')
      obtain rfl : wait = some (.point p) := hwait
      exact hawaits.eq_nil fun _ _ heq => Wait.noConfusion heq
  let released : Machine Answer :=
    (m.setTask n (some { task with wait := none })).push (.resume n .released)
  have hself : released.task? n = some { task with wait := none } := task?_set hn rfl
  have hwakes (k : ℕ) : wakes released.ready k =
      wakes m.ready k ++ if n = k then [.released] else [] := wakes_push _ n k _
  have hjobs : m.ready = m.ready ++ [] ++ [] := by simp
  have hready : released.ready = m.ready ++ [] ++ [.resume n .released] := by
    rw [List.append_nil]
    rfl
  refine efforts_lt_of_task hn ?_ (fun job => jobEffort_lt task.work.post.kind_pos job
    task.work.rank 1) hjobs hready ?_ ?_ ?_
  · rw [effortOf_eq htask, hwait, hnil]
    rfl
  · exact List.length_set.ge
  · refine fun k hk _ => effortOf_congr (task?_setTask_ne hk _) ?_
    rw [hwakes, if_neg hk.symm, List.append_nil]
  · rintro k (rfl | hk) x hx
    · refine lt_of_mem_effortOf hx fun other hother => ?_
      obtain rfl := Option.some.inj (hself.symm.trans hother)
      rw [hwakes, hnil, if_pos rfl]
      exact effort_lt_of_phase le_rfl _ Nat.zero_lt_one
    · refine lt_of_mem_effortOf hx fun other hother => ?_
      rw [task?_eq_none (List.length_set.trans_le hk)] at hother
      cases hother

/-- There is less to be done without a job of which no task is told. -/
theorem efforts_lt_of_gone {job : Job} (hjobs : m.ready = before ++ job :: after)
    (hquiet : ∀ k, job.wake? k = none) (desk : Desk) : Multiset.IsDershowitzMannaLT
      (efforts { m with ready := before ++ after, desk }) m.efforts :=
  efforts_lt_of_job hjobs (List.append_nil _).symm rfl
    (fun k => effortOf_congr rfl (wakes_of_quiet hjobs (hquiet k)))
    fun _ h => absurd h List.not_mem_nil

theorem efforts_tell {load : ℕ} (hjobs : m.ready = before ++ .tell load n :: after) :
    Multiset.IsDershowitzMannaLT
      (Machine.tell { m with ready := before ++ after } load n).efforts m.efforts := by
  rw [Machine.tell]
  split
  · next m' outcome hstop _ =>
    obtain ⟨task, htask, hwait, rfl⟩ := stopWaiting_eq_some_iff.1 hstop
    have htask : m.task? n = some task := htask
    let rest : Machine Answer := { m with ready := before ++ after }
    let woken : Machine Answer :=
      (rest.setTask n (some { task with wait := none })).push (.resume n (.loaded outcome))
    have hself : woken.task? n = some { task with wait := none } :=
      task?_set (lt_of_task? htask) rfl
    have hquiet : (Job.tell load n).wake? n = none := rfl
    have hwakes (k : ℕ) : wakes woken.ready k =
        wakes m.ready k ++ if n = k then [.loaded outcome] else [] := by
      have hrest : wakes rest.ready k = wakes m.ready k := wakes_of_quiet hjobs hquiet
      exact hrest ▸ wakes_push _ n k _
    change Multiset.IsDershowitzMannaLT woken.efforts m.efforts
    refine efforts_lt_of_job hjobs rfl List.length_set (fun k => ?_) fun new hnew => ?_
    · by_cases hk : n = k
      · subst hk
        rw [effortOf_eq htask, effortOf_eq hself, hwait, phase_load, hwakes, if_pos rfl,
          phase_snoc Wake.noConfusion]
      · refine effortOf_congr (task?_setTask_ne (Ne.symm hk) _) ?_
        rw [hwakes, if_neg hk, List.append_nil]
    · rw [List.mem_singleton.1 hnew]
      exact effort_lt_of_phase le_rfl 0 (Nat.lt_succ_self 1)
  · exact efforts_lt_of_gone hjobs (fun _ => rfl) m.desk

theorem efforts_report {g i : ℕ} {outcome : Except Interruption (List Id)}
    (hjobs : m.ready = before ++ .report g i outcome :: after) : Multiset.IsDershowitzMannaLT
      (Machine.report { m with ready := before ++ after } g i outcome).efforts m.efforts := by
  rcases report_cases { m with ready := before ++ after } g i outcome with
    ⟨group, -, -, hheard⟩ | ⟨-, hsame⟩
  · rw [hheard]
    refine efforts_lt_of_job hjobs rfl rfl (fun k => ?_) fun new hnew => ?_
    · refine effortOf_congr_of_phase rfl fun wait => ?_
      have hquiet : (Job.report g i outcome).wake? k = none := rfl
      rw [wakes_append, wakes_of_quiet hjobs hquiet, Group.wakes_calls]
      split
      · cases group.news i outcome with
        | none => exact congrArg _ (List.append_nil _)
        | some x => exact phase_snoc Wake.noConfusion ..
      · rw [List.append_nil]
    · obtain ⟨x, rfl⟩ := Group.exists_of_mem_calls hnew
      exact effort_lt_of_phase le_rfl 0 (Nat.lt_succ_self 1)
  · rw [hsame]
    exact efforts_lt_of_gone hjobs (fun _ => rfl) m.desk

/-- There is less to be done after any job. -/
theorem Sound.efforts_perform (h : Sound past none m) {job : Job}
    (hjobs : m.ready = before ++ job :: after) : Multiset.IsDershowitzMannaLT
      (Machine.perform { m with ready := before ++ after } job).efforts m.efforts := by
  cases job with
  | resume n wake => exact h.efforts_resume hjobs
  | forget load => exact efforts_lt_of_gone hjobs (fun _ => rfl) _
  | tell load n => exact efforts_tell hjobs
  | report g i outcome => exact efforts_report hjobs

/-- Nothing is to be done, and no task waits at a point. -/
structure IsQuiet (m : Machine Answer) : Prop where
  ready : m.ready = []
  points : ∀ n p, (m.task? n).bind (·.wait) ≠ some (.point p)

end Machine

/-! ## Courses -/

namespace Course

open Machine

variable {service : Service} {world : World} {counts : Bool} {c c' : Course}

/-- What can be done when nobody comes and nobody is cancelled. -/
inductive Works (c : Course) : Course → Prop
  /-- A job is done, whichever it is. -/
  | perform {before after : List Job} {job : Job} :
    c.machine.ready = before ++ job :: after → Works c (c.perform job (before ++ after))
  /-- A task that waits at a point is to go on. -/
  | release {n : ℕ} {p : Point} : (c.machine.task? n).bind (·.wait) = some (.point p) →
    Works c (c.release n p)

theorem Works.moves (h : c.Works c') (s : Service) : Moves s c c' := by
  cases h with
  | perform hjobs => exact .perform hjobs
  | release => exact .release _ _

theorem Works.efforts_lt (h : c.Works c') (hc : Sound c.past none c.machine) :
    Multiset.IsDershowitzMannaLT c'.machine.efforts c.machine.efforts := by
  cases h with
  | perform hjobs => exact hc.efforts_perform hjobs
  | @release n p hwait =>
    obtain ⟨task, htask, hwait⟩ := Option.bind_eq_some_iff.1 hwait
    have hstop := stopWaiting_eq htask hwait
    rw [Course.release, hstop]
    exact hc.efforts_release hstop

/-- A course has come to its end, for the time being, when its machine is quiet. -/
theorem isQuiet_iff : c.machine.IsQuiet ↔ ∀ c', ¬c.Works c' := by
  refine ⟨fun hm c' hworks => ?_, fun hnone => ⟨?_, fun n p hwait => ?_⟩⟩
  · cases hworks with
    | perform hjobs => simp [hm.ready] at hjobs
    | release hwait => exact hm.points _ _ hwait
  · cases hready : c.machine.ready with
    | nil => rfl
    | cons job rest =>
      exact absurd (.perform (show c.machine.ready = [] ++ job :: rest from hready)) (hnone _)
  · exact hnone _ (.release hwait)

/-- In whatever order jobs are done and tasks go on that wait at points, this comes to an end. -/
theorem Reached.acc (h : Reached service world counts c) :
    Acc (fun later earlier : Course => earlier.Works later) c := by
  have hwf : WellFounded
      (Multiset.IsDershowitzMannaLT : Multiset Effort → Multiset Effort → Prop) :=
    Multiset.wellFounded_isDershowitzMannaLT
  -- The induction is on what is still to be done.
  obtain ⟨todo, htodo⟩ : ∃ todo, todo = c.machine.efforts := ⟨_, rfl⟩
  induction todo using hwf.induction generalizing c with
  | h todo ih =>
    exact ⟨c, fun c' hworks => ih _ (htodo ▸ hworks.efforts_lt h.sound)
      (h.step (hworks.moves service)) rfl⟩

/-- Where a machine has settled, there is nothing to be done. -/
theorem Reached.ready_settle (h : Reached service world counts c) :
    c.machine.settle.ready = [] := by
  obtain ⟨m, hleads, hready⟩ : ∃ m, c.machine.Leads m ∧ m.ready = [] := by
    induction h.acc with
    | intro c _ ih =>
      cases hready : c.machine.ready with
      | nil => exact ⟨c.machine, .refl _, hready⟩
      | cons job rest =>
        have hworks : c.Works (c.perform job rest) :=
          .perform (show c.machine.ready = [] ++ job :: rest from hready)
        obtain ⟨m, hleads, hm⟩ := ih _ hworks (h.step (hworks.moves service))
        exact ⟨m, (leads_perform hready).trans hleads, hm⟩
  rw [settle_of_leads hleads hready, hready]

end Course

end HouseholdAccess
