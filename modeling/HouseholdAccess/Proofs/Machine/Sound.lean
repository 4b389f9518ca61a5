import HouseholdAccess.Proofs.Cache.Shape
import HouseholdAccess.Proofs.Machine.Registers
import HouseholdAccess.Proofs.Stage.Jobs

/-!
# A machine in order

While callers ask for rule sets and drop some, a machine is in order (`Machine.Sound`).

* Loads are registered (`Machine.Registers`).
* A task that is not at work waits for the next operation of its program, or exactly one
  job is to come that lets it go on (`Machine.RestsAt`). Nobody is told to go on who
  has ended.
* A load that goes on is played by one task, and no other load is
  (`Machine.LoadsPlayed`).
* A group that has not been settled has a caller who waits for it, and an errand that has
  brought back nothing yet goes on, or its report is to come (`Machine.GroupsWait`).
* Whoever has joined a load waits for it, or has got what it has come to, or has been
  cancelled (`Machine.CallersTold`). Who has joined which load, and who has been
  cancelled, is not kept by the machine but is its *past* (`Machine.Past`).

The task at work is left out: `busy` is its number. What it does leaves the other tasks as
they are (`Machine.Beside`), so that most of this is kept by what follows from there.
-/

namespace HouseholdAccess

/-- What a task does. -/
inductive Post
  /-- It is a caller. -/
  | call
  /-- It is a load. -/
  | load (load : Nat)
  /-- It is one of a group of errands. -/
  | errand (group index : Nat)

variable {α β : Type}

def Work.post : Work α → Post
  | .call _ => .call
  | .load l _ => .load l
  | .errand group index _ => .errand group index

def Station.post : Station α β → Post
  | .call => .call
  | .load l => .load l
  | .errand group index => .errand group index

@[simp]
theorem Station.post_work (σ : Station α β) (p : Program β) : (σ.work p).post = σ.post := by
  cases σ <;> rfl

namespace Machine

/-- What the task of a number does. -/
def post? (m : Machine α) (n : Nat) : Option Post := (m.task? n).map (·.work.post)

/-- A load is to tell a task how it has ended: at its end, or by a job to come. -/
def Tells (m : Machine α) (load n : Nat) : Prop :=
  (∃ r, m.loads[load]? = some r ∧ r.outcome = none ∧ n ∈ r.waiters) ∨
    (m.ended? load).isSome ∧ .tell load n ∈ m.ready

/-- What has happened that a machine does not keep. -/
structure Past where
  /-- Who has joined which load. -/
  joined : List (Nat × Nat) := []
  /-- Who has been cancelled. -/
  cancelled : List Nat := []

/-- Further loads are joined. -/
def Past.join (past : Past) (joins : List (Nat × Nat)) : Past :=
  { past with joined := past.joined ++ joins }

/-- The caller has joined the load, and no other. -/
def Past.JoinsOnly (past : Past) (n load : Nat) : Prop :=
  ∀ other, (n, other) ∈ past.joined → other = load

/-- The caller has joined no load. -/
def Past.IsApart (past : Past) (n : Nat) : Prop := ∀ load, (n, load) ∉ past.joined

variable {past : Past} {busy : Option Nat} {m m' : Machine Answer} {n k : Nat}

/-! ## Tasks -/

/-- What a program has still to do, if that is what a task does. -/
inductive Fits (past : Past) (m : Machine Answer) (n : Nat) :
    {β : Type} → Station Answer β → Program β → Prop
  /-- A caller has not joined a load yet. -/
  | apart {p : Program (Except Interruption Answer)} :
    p.Shares Answer.ofLoad → past.IsApart n → Fits past m n .call p
  /-- A caller has joined a load. -/
  | joined {load : Nat} : (n, load) ∈ past.joined → past.JoinsOnly n load →
    Fits past m n .call (.awaiting load Answer.ofLoad)
  /-- A caller has been told what its load has come to. -/
  | told {load : Nat} {outcome : Except Interruption RuleSet} :
    past.JoinsOnly n load → m.ended? load = some outcome →
    Fits past m n .call (.done (Answer.ofLoad outcome))
  /-- A caller has been cancelled. -/
  | sentAway {r : Except Interruption Answer} : n ∈ past.cancelled → Fits past m n .call (.done r)
  /-- A load. -/
  | load {load : Nat} {p : Program (Except Interruption RuleSet)} :
    p.Only Operation.IsOfLoad → Fits past m n (.load load) p
  /-- An errand. -/
  | errand {g i : Nat} {p : Program (Except Interruption (List Id))} :
    p.Only Operation.IsOfErrand → Fits past m n (.errand g i) p

/-- What a task waits for, or is to hear. -/
inductive Awaits (past : Past) (m : Machine Answer) (n : Nat) :
    Program β → Option Wait → List Wake → Prop
  /-- It is to begin. -/
  | start {p : Program β} : past.IsApart n → Awaits past m n p none [.start]
  /-- It waits at a point. -/
  | held {a : Access} {next : Except Interruption a.Answer → Program β} {p : Point} :
    Awaits past m n (.call (.access a) next) (some (.point p)) []
  /-- It is to go on after it has waited at a point. -/
  | released {a : Access} {next : Except Interruption a.Answer → Program β} :
    Awaits past m n (.call (.access a) next) none [.released]
  /-- It has been cancelled while it waited at a point. -/
  | refused {a : Access} {next : Except Interruption a.Answer → Program β} :
    Awaits past m n (.call (.access a) next) none [.cancelled]
  /-- It waits for a load. -/
  | load {load : Nat} {next : Except Interruption RuleSet → Program β} :
    m.Tells load n → Awaits past m n (.call (.awaitLoad load) next) (some (.load load)) []
  /-- It is to hear how a load has ended. -/
  | loaded {load : Nat} {next : Except Interruption RuleSet → Program β}
      {outcome : Except Interruption RuleSet} :
    m.ended? load = some outcome →
    Awaits past m n (.call (.awaitLoad load) next) none [.loaded outcome]
  /-- It has been cancelled while it waited for a load. -/
  | left {load : Nat} {next : Except Interruption RuleSet → Program β} : n ∈ past.cancelled →
    Awaits past m n (.call (.awaitLoad load) next) none [.cancelled]
  /-- It waits for errands. -/
  | errands {errand : Errand} {ids : List Id}
      {next : Except Interruption (List (List Id)) → Program β} {g : Nat} {group : Group} :
    m.groups[g]? = some group → group.caller = n → group.settled = false →
    Awaits past m n (.call (.each errand ids) next) (some (.group g)) []
  /-- It is to hear what errands have come to. -/
  | gathered {errand : Errand} {ids : List Id}
      {next : Except Interruption (List (List Id)) → Program β} {g : Nat} {group : Group}
      {outcome : Except Interruption (List (List Id))} :
    m.groups[g]? = some group → group.settled = true →
    Awaits past m n (.call (.each errand ids) next) (some (.group g)) [.gathered outcome]

/-- Nobody is at work under the number. -/
inductive RestsAt (past : Past) (m : Machine Answer) (n : Nat) : Prop
  /-- There is no task, and no job for it. -/
  | gone : m.task? n = none → wakes m.ready n = [] → RestsAt past m n
  /-- There is a task, which waits. -/
  | task {β : Type} {σ : Station Answer β} {p : Program β} {fields : Entries}
      {wait : Option Wait} : m.task? n = some { work := σ.work p, fields, wait } →
    Fits past m n σ p → Awaits past m n p wait (wakes m.ready n) → RestsAt past m n

/-- All tasks wait except for the one at work, which is told nothing. -/
structure TasksRest (past : Past) (busy : Option Nat) (m : Machine Answer) : Prop where
  rests : ∀ n, busy ≠ some n → RestsAt past m n
  quiet : ∀ n, busy = some n → wakes m.ready n = []

/-! ## Loads, groups and callers -/

/-- The loads that go on are played by one task each. -/
structure LoadsPlayed (m : Machine Answer) : Prop where
  goesOn : ∀ n load, m.post? n = some (.load load) →
    load < m.loads.length ∧ m.ended? load = none
  alone : ∀ n k load, m.post? n = some (.load load) → m.post? k = some (.load load) → n = k
  played : ∀ load, load < m.loads.length → m.ended? load = none →
    ∃ n, m.post? n = some (.load load)

/-- The groups that have not been settled. -/
structure GroupsWait (busy : Option Nat) (m : Machine Answer) : Prop where
  waits : ∀ (g : Nat) (group : Group), m.groups[g]? = some group → group.settled = false →
    busy ≠ some group.caller ∧
      ∃ task, m.task? group.caller = some task ∧ task.wait = some (.group g)
  missing : ∀ (g : Nat) (group : Group), m.groups[g]? = some group → group.settled = false →
    ∃ i : Nat, group.results[i]? = some none
  errands : ∀ (g : Nat) (group : Group), m.groups[g]? = some group → group.settled = false →
    ∀ i : Nat, group.results[i]? = some none → (∃ n, m.post? n = some (.errand g i)) ∨
      ∃ outcome, .report g i outcome ∈ m.ready

/-- What callers have come to. -/
structure CallersTold (past : Past) (m : Machine Answer) : Prop where
  outcomes : ∀ o ∈ m.outcomes, o.1 < m.tasks.length ∧ m.task? o.1 = none
  joined : ∀ n load, (n, load) ∈ past.joined → n < m.tasks.length ∧ load < m.loads.length ∧
    (m.post? n = some .call ∨ n ∈ past.cancelled ∨
      ∃ outcome, m.ended? load = some outcome ∧ m.outcome? n = some (Answer.ofLoad outcome))

/-- A machine in order, with a task at work. -/
structure Sound (past : Past) (busy : Option Nat) (m : Machine Answer) : Prop where
  registers : m.Registers
  tasks : TasksRest past busy m
  loads : LoadsPlayed m
  groups : GroupsWait busy m
  callers : CallersTold past m

/-! ## What others do -/

/-- What is done leaves the tasks as they are that had been there before, apart from one. -/
structure Beside (n : Nat) (m m' : Machine Answer) : Prop where
  length : m.tasks.length ≤ m'.tasks.length
  tasks : ∀ k, k ≠ n → k < m.tasks.length → m'.task? k = m.task? k
  wakes : ∀ k, k ≠ n → k < m.tasks.length → Machine.wakes m'.ready k = Machine.wakes m.ready k
  ended : ∀ load outcome, m.ended? load = some outcome → m'.ended? load = some outcome
  tells : ∀ load k, k ≠ n → m.Tells load k → m'.Tells load k
  groups : ∀ (g : Nat) (group : Group), m.groups[g]? = some group →
    group.caller ≠ n ∨ group.settled = true → ∃ group', m'.groups[g]? = some group' ∧
      group'.caller = group.caller ∧ group'.settled = group.settled

theorem Fits.mono {σ : Station Answer β} {p : Program β} (h : Fits past m n σ p)
    (hended : ∀ load outcome, m.ended? load = some outcome → m'.ended? load = some outcome) :
    Fits past m' n σ p := by
  cases h with
  | apart hp hn => exact .apart hp hn
  | joined hload hn => exact .joined hload hn
  | told hn houtcome => exact .told hn (hended _ _ houtcome)
  | sentAway hn => exact .sentAway hn
  | load hp => exact .load hp
  | errand hp => exact .errand hp

/-- What a task waits for is still to come. -/
theorem Awaits.mono {p : Program β} {wait : Option Wait} {wakes : List Wake}
    (h : Awaits past m k p wait wakes)
    (hended : ∀ load outcome, m.ended? load = some outcome → m'.ended? load = some outcome)
    (htells : ∀ load, wait = some (.load load) → m.Tells load k → m'.Tells load k)
    (hgroups : ∀ (g : Nat) (group : Group), m.groups[g]? = some group →
      group.caller = k ∨ group.settled = true → ∃ group', m'.groups[g]? = some group' ∧
        group'.caller = group.caller ∧ group'.settled = group.settled) :
    Awaits past m' k p wait wakes := by
  cases h with
  | start hapart => exact .start hapart
  | held => exact .held
  | released => exact .released
  | refused => exact .refused
  | load h => exact .load (htells _ rfl h)
  | loaded houtcome => exact .loaded (hended _ _ houtcome)
  | left hcancelled => exact .left hcancelled
  | errands hgroup hcaller hsettled =>
    obtain ⟨group', hgroup', hcaller', hsettled'⟩ := hgroups _ _ hgroup (.inl hcaller)
    exact .errands hgroup' (hcaller'.trans hcaller) (hsettled'.trans hsettled)
  | gathered hgroup hsettled =>
    obtain ⟨group', hgroup', -, hsettled'⟩ := hgroups _ _ hgroup (.inr hsettled)
    exact .gathered hgroup' (hsettled'.trans hsettled)

theorem Awaits.beside {p : Program β} {wait : Option Wait} {wakes : List Wake}
    (h : Awaits past m k p wait wakes) (hb : Beside n m m') (hk : k ≠ n) :
    Awaits past m' k p wait wakes :=
  h.mono hb.ended (fun load _ => hb.tells load k hk) fun g group hg hwaits =>
    hb.groups g group hg (hwaits.imp_left (·.trans_ne hk))

theorem RestsAt.beside (h : RestsAt past m k) (hb : Beside n m m') (hk : k ≠ n)
    (hlt : k < m.tasks.length) : RestsAt past m' k := by
  have htask := hb.tasks k hk hlt
  have hwakes := hb.wakes k hk hlt
  cases h with
  | gone hnone hquiet => exact .gone (htask.trans hnone) (hwakes.trans hquiet)
  | task hsome hfits hawaits =>
    exact .task (htask.trans hsome) (hfits.mono hb.ended) (hwakes ▸ hawaits.beside hb hk)

/-- All tasks wait again after what one of them has done. -/
theorem TasksRest.beside {busy' : Option Nat} (h : TasksRest past busy m) (hb : Beside n m m')
    (hbusy : busy = none ∨ busy = some n)
    (hself : busy' = some n ∧ wakes m'.ready n = [] ∨ busy' = none ∧ RestsAt past m' n)
    (hnew : ∀ k, k ≠ n → m.tasks.length ≤ k → RestsAt past m' k) : TasksRest past busy' m' := by
  refine ⟨fun k hk => ?_, fun k hk => ?_⟩
  · by_cases hkn : k = n
    · subst hkn
      exact (hself.resolve_left fun h => hk h.1).2
    · rcases Nat.lt_or_ge k m.tasks.length with hlt | hge
      · refine (h.rests k ?_).beside hb hkn hlt
        rcases hbusy with rfl | rfl
        · exact (Option.some_ne_none k).symm
        · exact fun heq => hkn (Option.some.inj heq).symm
      · exact hnew k hkn hge
  · rcases hself with ⟨rfl, hquiet⟩ | ⟨rfl, -⟩
    · exact Option.some.inj hk ▸ hquiet
    · cases hk

theorem lt_of_post? {post : Post} (h : m.post? n = some post) : n < m.tasks.length := by
  obtain ⟨task, htask, -⟩ := Option.map_eq_some_iff.1 h
  exact lt_of_task? htask

theorem Beside.post? (hb : Beside n m m') (hk : k ≠ n) (hlt : k < m.tasks.length) :
    m'.post? k = m.post? k := by
  rw [Machine.post?, Machine.post?, hb.tasks k hk hlt]

theorem LoadsPlayed.congr (h : LoadsPlayed m) (hlength : m'.loads.length = m.loads.length)
    (hended : ∀ load, m'.ended? load = m.ended? load)
    (hpost : ∀ n load, m'.post? n = some (.load load) ↔ m.post? n = some (.load load)) :
    LoadsPlayed m' where
  goesOn n load hn := by
    rw [hlength, hended]
    exact h.goesOn n load ((hpost n load).1 hn)
  alone n k load hn hk := h.alone n k load ((hpost n load).1 hn) ((hpost k load).1 hk)
  played load hlt hload := by
    rw [hlength] at hlt
    rw [hended] at hload
    obtain ⟨n, hn⟩ := h.played load hlt hload
    exact ⟨n, (hpost n load).2 hn⟩

/-- Groups wait on whose caller is another task. -/
theorem GroupsWait.beside {busy' : Option Nat} (h : GroupsWait busy m) (hb : Beside n m m')
    (hgroups : m'.groups = m.groups)
    (hreports : ∀ g i outcome, .report g i outcome ∈ m.ready → .report g i outcome ∈ m'.ready)
    (hcaller : ∀ (g : Nat) (group : Group), m.groups[g]? = some group → group.settled = false →
      group.caller ≠ n)
    (hbusy : busy' = none ∨ busy' = some n)
    (hpost : m'.post? n = m.post? n ∨ m'.post? n = none ∧
      ∀ g i, m.post? n = some (.errand g i) → ∃ outcome, .report g i outcome ∈ m'.ready) :
    GroupsWait busy' m' where
  waits g group hg hsettled := by
    rw [hgroups] at hg
    have hne := hcaller g group hg hsettled
    obtain ⟨-, task, htask, hwait⟩ := h.waits g group hg hsettled
    refine ⟨?_, task, (hb.tasks _ hne (lt_of_task? htask)).trans htask, hwait⟩
    rcases hbusy with rfl | rfl
    · exact (Option.some_ne_none _).symm
    · exact fun heq => hne (Option.some.inj heq).symm
  missing := hgroups ▸ h.missing
  errands g group hg hsettled i hi := by
    rw [hgroups] at hg
    rcases h.errands g group hg hsettled i hi with ⟨k, hk⟩ | ⟨outcome, hmem⟩
    · by_cases hkn : k = n
      · subst hkn
        rcases hpost with hpost | ⟨-, hreport⟩
        · exact .inl ⟨k, hpost.trans hk⟩
        · exact .inr (hreport g i hk)
      · exact .inl ⟨k, (hb.post? hkn (lt_of_post? hk)).trans hk⟩
    · exact .inr ⟨outcome, hreports g i outcome hmem⟩

theorem CallersTold.congr (h : CallersTold past m) (hlength : m.tasks.length ≤ m'.tasks.length)
    (hloads : m.loads.length ≤ m'.loads.length)
    (hended : ∀ load outcome, m.ended? load = some outcome → m'.ended? load = some outcome)
    (houtcomes : m'.outcomes = m.outcomes)
    (hgone : ∀ n, n < m.tasks.length → m.task? n = none → m'.task? n = none)
    (hpost : ∀ n, m.post? n = some .call → m'.post? n = some .call) : CallersTold past m' where
  outcomes o ho := by
    rw [houtcomes] at ho
    obtain ⟨hlt, hnone⟩ := h.outcomes o ho
    exact ⟨hlt.trans_le hlength, hgone _ hlt hnone⟩
  joined n load hn := by
    obtain ⟨hlt, hload, htold⟩ := h.joined n load hn
    refine ⟨hlt.trans_le hlength, hload.trans_le hloads, ?_⟩
    rcases htold with hcall | hcancelled | ⟨outcome, houtcome, hn⟩
    · exact .inl (hpost n hcall)
    · exact .inr (.inl hcancelled)
    · refine .inr (.inr ⟨outcome, hended _ _ houtcome, ?_⟩)
      rwa [outcome?, houtcomes]

end Machine

end HouseholdAccess
