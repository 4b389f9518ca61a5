import HouseholdAccess.Proofs.Machine.Jobs

/-!
# Courses of events

While callers ask for rule sets and drop some, a machine may take many *courses*. What can
happen next is listed by `Course.Moves`:

* a caller comes;
* any job is done that is to be done, not only the first;
* a task that waits at a point is to go on;
* a task is cancelled while it waits, or when it is already to go on;
* the world changes in any way.

A machine that has begun with nothing under way is in order after any course
(`Course.Reached.sound`). The moves of sessions are such courses, one after the other
(`Course.Reached.call`, `Course.Reached.release`, `Course.Reached.cancelCaller`).
-/

namespace HouseholdAccess

/-- What a task is to go on with that is cancelled before it does. One that has not begun yet
    begins all the same. -/
def Wake.revoked : Wake → Wake
  | .start => .start
  | .released | .loaded _ | .cancelled => .cancelled
  | .gathered _ => .gathered (.error .cancelled)

namespace Machine

variable {β : Type} {past : Past} {busy : Option Nat} {m m' : Machine Answer} {n : Nat}

/-! ## Cancelling -/

/-- Someone else is cancelled. -/
def Past.cancel (past : Past) (n : Nat) : Past :=
  { past with cancelled := past.cancelled ++ [n] }

theorem Past.mem_cancel (past : Past) (n : Nat) : n ∈ (past.cancel n).cancelled :=
  List.mem_append_right _ (List.mem_singleton_self n)

/-- That somebody is cancelled does not disturb anybody yet. -/
theorem Sound.cancel (h : Sound past busy m) (n : Nat) : Sound (past.cancel n) busy m where
  registers := h.registers
  tasks := ⟨fun k hk => (h.tasks.rests k hk).mono (fun _ => Iff.rfl) (List.mem_append_left _),
    h.tasks.quiet⟩
  loads := h.loads
  groups := h.groups
  callers := by
    refine ⟨h.callers.outcomes, fun k load hk => ?_⟩
    obtain ⟨hlt, hload, htold⟩ := h.callers.joined k load hk
    exact ⟨hlt, hload, htold.imp_right (Or.imp_left (List.mem_append_left _))⟩

/-- A task that waits at a point is to go on. -/
theorem Sound.release (h : Sound past none m) (n : Nat) (p : Point) :
    Sound past none ((m.stopWaiting n (.point p)).elim m (·.push (.resume n .released))) := by
  cases hstop : m.stopWaiting n (.point p) with
  | none => exact h
  | some m' =>
    obtain ⟨task, htask, hwait, rfl⟩ := stopWaiting_eq_some_iff.1 hstop
    refine h.wake htask hwait (fun _ => Wait.noConfusion) (fun β p hp => ?_) rfl rfl rfl rfl
      (fun _ => rfl) (loadsStay_of_eq n rfl) rfl rfl
    cases hp
    exact .released

/-- A task that waits is cancelled. -/
theorem Sound.cancelWaiting (h : Sound past none m) (hn : n ∈ past.cancelled) :
    Sound past none (m.cancelWaiting n) := by
  rw [Machine.cancelWaiting]
  split
  · next p hwait =>
    obtain ⟨task, htask, hwait⟩ := Option.bind_eq_some_iff.1 hwait
    have htask' : Machine.task? { m with queue := m.queue.filter fun w => w.2 ≠ n } n =
        some task := htask
    simp only [stopWaiting_eq htask' hwait, Option.elim_some]
    refine h.wake htask hwait (fun _ => Wait.noConfusion) (fun β p hp => ?_) rfl rfl rfl rfl
      (fun _ => rfl) (loadsStay_of_eq n rfl) rfl rfl
    cases hp
    exact .refused
  · next load hwait =>
    obtain ⟨task, htask, hwait⟩ := Option.bind_eq_some_iff.1 hwait
    -- The load does not count on the task any more, and goes on.
    let loads := m.loads.modify load fun r => { r with waiters := r.waiters.filter (· ≠ n) }
    have htask' : Machine.task? { m with loads } n = some task := htask
    change Sound past none ((Machine.stopWaiting { m with loads } n (.load load)).elim
      { m with loads } (·.push (.resume n .cancelled)))
    rw [stopWaiting_eq htask' hwait]
    refine h.wake htask hwait (fun _ => Wait.noConfusion) (fun β p hp => ?_) rfl rfl rfl
      (List.length_modify ..) (ended?_waiters _ rfl) (loadsStay_waiters _ rfl fun _ k hk hkn => ?_)
      rfl rfl
    · cases hp
      exact .left hn
    · exact List.mem_filter.2 ⟨hk, decide_eq_true hkn⟩
  · exact h

/-- A task is cancelled that is to go on. -/
theorem Sound.revoke (h : Sound past none m) (hn : n ∈ past.cancelled) {before after : List Job}
    {wake : Wake} (hjobs : m.ready = before ++ .resume n wake :: after) :
    Sound past none { m with ready := before ++ .resume n wake.revoked :: after } := by
  obtain ⟨hpop, β, σ, p, fields, wait, htask, hfits, hawaits⟩ := h.pop hjobs
  refine hpop.unpop rfl htask hfits ?_
  cases hawaits with
  | start hapart => exact .start hapart
  | released | refused => exact .refused
  | loaded | left => exact .left hn
  | gathered hgroup hsettled => exact .gathered hgroup hsettled

/-! ## Coming -/

/-- A caller comes. -/
theorem Sound.enter (h : Sound past none m) {flow : Flow Answer}
    (hflow : flow.Shares Answer.ofLoad) : Sound past none (m.submit flow).2 := by
  let task : Task Answer := { work := .call flow.run }
  have htasks : (m.submit flow).2.tasks = m.tasks ++ [task].map some := rfl
  have hb : Beside m.tasks.length m (m.submit flow).2 :=
    beside_append _ htasks rfl (List.append_nil _).symm (List.append_nil _).symm
  have hpost (k : Nat) : (m.submit flow).2.post? k =
      if k = m.tasks.length then some .call else m.post? k := by
    split
    · next hk =>
      subst hk
      rw [post?, task?, htasks, List.map_singleton, List.getElem?_concat_length]
      rfl
    · next hk =>
      rcases Nat.lt_or_gt_of_ne hk with hlt | hgt
      · exact post?_append htasks hlt
      · rw [post?, post?, task?_eq_none hgt.le, task?_eq_none]
        rw [htasks, List.length_append]
        exact hgt
  have hnone : m.post? m.tasks.length = none := by
    rw [post?, task?_eq_none le_rfl]
    rfl
  refine ⟨h.registers.congr rfl rfl (fun _ => rfl) fun load => by simp [submit, spawn, push],
    h.tasks.append h.callers (by simp) htasks rfl
      (List.append_nil _).symm (List.append_nil _).symm fun i other hi => ?_,
    h.loads.congr rfl (fun _ => rfl) fun k load => ?_, ⟨?_, h.groups.missing, ?_⟩,
    h.callers.append htasks (List.append_nil _).symm rfl⟩
  · obtain rfl := List.mem_singleton.1 (List.mem_of_getElem? hi)
    exact ⟨_, .call, flow.run, [], rfl, .apart hflow (h.callers.isApart (Nat.le_add_right ..))⟩
  · rw [hpost]
    split
    · next hk =>
      subst hk
      rw [hnone]
      exact iff_of_false (by simp) (by simp)
    · exact Iff.rfl
  · intro g group hg hsettled
    obtain ⟨hbusy, task, htask, hwait⟩ := h.groups.waits g group hg hsettled
    have hlt := lt_of_task? htask
    exact ⟨hbusy, task, (hb.tasks _ hlt.ne hlt).trans htask, hwait⟩
  · intro g group hg hsettled i hi
    rcases h.groups.errands g group hg hsettled i hi with ⟨k, hk⟩ | ⟨outcome, hmem⟩
    · have hlt := lt_of_post? hk
      exact .inl ⟨k, (hb.post? hlt.ne hlt).trans hk⟩
    · exact .inr ⟨outcome, List.mem_append_left _ hmem⟩

/-- A machine begins in order. -/
theorem sound_begin (service : Service) (world : World) (counts : Bool) :
    Sound {} none (Session.begin service world counts).machine where
  registers := ⟨rfl, by rintro _ _ ⟨⟩, by rintro _ _ ⟨⟩, by rintro _ ⟨⟩, by rintro _ _ ⟨⟩⟩
  tasks := ⟨fun _ _ => .gone rfl rfl, by rintro _ ⟨⟩⟩
  loads := ⟨by rintro _ _ ⟨⟩, by rintro _ _ _ ⟨⟩, by rintro _ ⟨⟩⟩
  groups := ⟨by rintro _ _ ⟨⟩, by rintro _ _ ⟨⟩, by rintro _ _ ⟨⟩⟩
  callers := ⟨by rintro _ ⟨⟩, by rintro _ _ ⟨⟩⟩

end Machine

/-! ## Courses -/

/-- A machine, and what has happened before that it does not keep. -/
structure Course where
  /-- The machine. -/
  machine : Machine Answer
  /-- What has happened. -/
  past : Machine.Past := {}

namespace Course

variable {service : Service} {world : World} {counts : Bool} {c c' : Course}

/-- A caller comes. -/
def enter (c : Course) (s : Service) (call : Call) : Course :=
  { c with machine := (c.machine.submit (call.flow s)).2 }

/-- A job is done, and others are left to be done. -/
def perform (c : Course) (job : Job) (others : List Job) : Course :=
  let rest : Machine Answer := { c.machine with ready := others }
  { machine := rest.perform job, past := c.past.join (rest.joinedBy job) }

/-- A task is to go on if it waits at a point. -/
def release (c : Course) (n : Nat) (p : Point) : Course :=
  { c with machine :=
      (c.machine.stopWaiting n (.point p)).elim c.machine (·.push (.resume n .released)) }

/-- A task is cancelled while it waits. -/
def cancel (c : Course) (n : Nat) : Course :=
  { machine := c.machine.cancelWaiting n, past := c.past.cancel n }

/-- The world changes, and those who are noted to wait at points. -/
def change (c : Course) (world : World) (queue : List (Point × Nat)) : Course :=
  { c with machine := { c.machine with world, queue } }

/-- What can happen next. -/
inductive Moves (s : Service) (c : Course) : Course → Prop
  /-- A caller comes who asks for a rule set, or who drops some. -/
  | enter {call : Call} : call.IsAboutRules → Moves s c (c.enter s call)
  /-- A job is done, whichever it is. -/
  | perform {before after : List Job} {job : Job} :
    c.machine.ready = before ++ job :: after → Moves s c (c.perform job (before ++ after))
  /-- A task that waits at a point is to go on. -/
  | release (n : Nat) (p : Point) : Moves s c (c.release n p)
  /-- A task is cancelled while it waits. -/
  | cancel (n : Nat) : Moves s c (c.cancel n)
  /-- A task is cancelled that is already to go on. -/
  | revoke {before after : List Job} {n : Nat} {wake : Wake} :
    c.machine.ready = before ++ .resume n wake :: after →
    Moves s c { machine := { c.machine with ready := before ++ .resume n wake.revoked :: after },
                past := c.past.cancel n }
  /-- The world changes, and those who are noted to wait at points. -/
  | change (world : World) (queue : List (Point × Nat)) : Moves s c (c.change world queue)

/-- The courses of a machine that begins with nothing under way. -/
inductive Reached (service : Service) (world : World) (counts : Bool) : Course → Prop
  | begin : Reached service world counts { machine := (Session.begin service world counts).machine }
  | step {c c' : Course} : Reached service world counts c → Moves service c c' →
    Reached service world counts c'

open Machine

theorem Moves.sound {s : Service} (h : Moves s c c') (hc : Sound c.past none c.machine) :
    Sound c'.past none c'.machine := by
  cases h with
  | enter hcall => exact hc.enter (Call.shares_flow s hcall)
  | perform hjobs => exact hc.perform hjobs
  | release n p => exact hc.release n p
  | cancel n => exact (hc.cancel n).cancelWaiting (c.past.mem_cancel n)
  | @revoke _ _ n _ hjobs => exact (hc.cancel n).revoke (c.past.mem_cancel n) hjobs
  | change world queue =>
    exact hc.congr (hc.registers.congr rfl rfl (fun _ => rfl) fun _ => Iff.rfl) rfl rfl rfl rfl rfl

/-- Whatever happens, the machine stays in order. -/
theorem Reached.sound (h : Reached service world counts c) : Sound c.past none c.machine := by
  induction h with
  | begin => exact sound_begin service world counts
  | step _ hmoves ih => exact hmoves.sound ih

/-- The job at a place in the queue is done, if there is one. -/
def work (c : Course) (i : Nat) : Course :=
  (c.machine.ready[i]?).elim c fun job => c.perform job (c.machine.ready.eraseIdx i)

theorem Reached.work (h : Reached service world counts c) (i : Nat) :
    Reached service world counts (c.work i) := by
  rw [Course.work]
  cases hjob : c.machine.ready[i]? with
  | none => exact h
  | some job =>
    obtain ⟨hi, hjob⟩ := List.getElem?_eq_some_iff.1 hjob
    rw [Option.elim_some, List.eraseIdx_eq_take_drop_succ]
    refine h.step (.perform ?_)
    rw [← hjob, List.getElem_cons_drop, List.take_append_drop]

/-! ## Sessions -/

/-- Jobs that are done one after the other, the first first, are a course of events. -/
theorem Reached.leads (h : Reached service world counts c) {m : Machine Answer}
    (hleads : c.machine.Leads m) :
    ∃ joins, Reached service world counts { machine := m, past := c.past.join joins } := by
  induction hleads with
  | refl => exact ⟨[], c.past.join_nil.symm ▸ h⟩
  | @tail m m' _ hnext ih =>
    obtain ⟨joins, hm⟩ := ih
    obtain ⟨job, rest, hready, rfl⟩ := next?_eq_some_iff.1 hnext
    have hstep := hm.step (.perform (show m.ready = [] ++ job :: rest from hready))
    rw [perform, Past.join_join] at hstep
    exact ⟨_, hstep⟩

/-- A caller comes, and everyone goes on. -/
theorem Reached.call (h : Reached service world counts c) {call : Call}
    (hcall : call.IsAboutRules) : ∃ joins, Reached service world counts
      { machine := (c.machine.call (call.flow service)).2, past := c.past.join joins } :=
  (h.step (.enter hcall)).leads (leads_settle _)

/-- A point is released. -/
theorem Reached.release (h : Reached service world counts c) (p : Point) :
    Reached service world counts { c with machine := c.machine.release p } := by
  let wake (m : Machine Answer) (n : Nat) : Machine Answer :=
    (m.stopWaiting n (.point p)).elim m (·.push (.resume n .released))
  have hfoldl (waiting : List Nat) {c : Course} (h : Reached service world counts c) :
      Reached service world counts { c with machine := waiting.foldl wake c.machine } := by
    induction waiting generalizing c with
    | nil => exact h
    | cons n rest ih => exact ih (h.step (.release n p))
  exact hfoldl _ (h.step (.change _ _))

/-- A caller is cancelled, or the errands that it waits for. -/
theorem Reached.cancelCaller (h : Reached service world counts c) (n : Nat) :
    ∃ past, past.joined = c.past.joined ∧
      Reached service world counts { machine := c.machine.cancel n, past } := by
  have hfoldl (tasks : List Nat) {c : Course} (h : Reached service world counts c) :
      ∃ past, past.joined = c.past.joined ∧ Reached service world counts
        { machine := tasks.foldl (fun m n => m.cancelWaiting n) c.machine, past } := by
    induction tasks generalizing c with
    | nil => exact ⟨c.past, rfl, h⟩
    | cons n rest ih => exact ih (h.step (.cancel n))
  rw [Machine.cancel]
  split
  · exact hfoldl _ h
  · exact ⟨c.past.cancel n, rfl, h.step (.cancel n)⟩

end Course

namespace Session

variable {service : Service} {world : World} {counts : Bool} {s : Session}

/-- A session in which callers ask for rule sets or drop some. -/
inductive IsAboutRules (service : Service) (world : World) (counts : Bool) : Session → Prop
  | begin : IsAboutRules service world counts (begin service world counts)
  | call {s : Session} (name : Option String) {c : Call} : IsAboutRules service world counts s →
    c.IsAboutRules → IsAboutRules service world counts (s.call name c).2
  | change {s : Session} (c : Change) : IsAboutRules service world counts s →
    IsAboutRules service world counts (s.change c)
  | hold {s : Session} (p : Point) : IsAboutRules service world counts s →
    IsAboutRules service world counts (s.hold p)
  | release {s : Session} (p : Point) : IsAboutRules service world counts s →
    IsAboutRules service world counts (s.release p)
  | cancel {s : Session} (name : String) : IsAboutRules service world counts s →
    IsAboutRules service world counts (s.cancel name)

/-- Such a session is a course of events. -/
theorem IsAboutRules.exists_reached (h : IsAboutRules service world counts s) :
    s.service = service ∧
      ∃ past, Course.Reached service world counts { machine := s.machine, past } := by
  induction h with
  | begin => exact ⟨rfl, _, .begin⟩
  | @call s name call _ hcall ih =>
    obtain ⟨hservice, past, hs⟩ := ih
    obtain ⟨joins, hs'⟩ := hs.call hcall
    refine ⟨hservice, past.join joins, ?_⟩
    rw [Session.call, hservice]
    exact hs'
  | change c _ ih =>
    obtain ⟨hservice, past, hs⟩ := ih
    exact ⟨hservice, past, hs.step (.change _ _)⟩
  | hold p _ ih =>
    obtain ⟨hservice, past, hs⟩ := ih
    exact ⟨hservice, past, hs.step (.change _ _)⟩
  | release p _ ih =>
    obtain ⟨hservice, past, hs⟩ := ih
    obtain ⟨joins, hs'⟩ := (hs.release p).leads (Machine.leads_settle _)
    exact ⟨hservice, _, hs'⟩
  | @cancel s name _ ih =>
    obtain ⟨hservice, past, hs⟩ := ih
    rw [Session.cancel]
    split
    · next n _ =>
      obtain ⟨past', -, hs'⟩ := hs.cancelCaller n
      obtain ⟨joins, hs''⟩ := hs'.leads (Machine.leads_settle _)
      exact ⟨hservice, _, hs''⟩
    · exact ⟨hservice, past, hs⟩

end Session

end HouseholdAccess
