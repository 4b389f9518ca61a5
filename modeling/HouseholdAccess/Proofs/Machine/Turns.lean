import HouseholdAccess.Proofs.Machine.Sound

/-!
# Turns

A task at work keeps the machine in order while it carries out operations at once
(`Machine.Sound.carry`). What it does leaves others as they are: tasks that are started
come after those that are there (`Machine.beside_append`), and what becomes of the task
itself does not matter to others (`Machine.beside_set`).
-/

namespace HouseholdAccess

variable {α β : Type}

namespace Machine

variable {past : Past} {busy : Option Nat} {m m' : Machine Answer} {n k : Nat}

/-! ## What is left as it is -/

theorem Beside.trans {m'' : Machine Answer} (h : Beside n m m') (h' : Beside n m' m'') :
    Beside n m m'' where
  length := h.length.trans h'.length
  tasks k hk hlt := (h'.tasks k hk (hlt.trans_le h.length)).trans (h.tasks k hk hlt)
  wakes k hk hlt := (h'.wakes k hk (hlt.trans_le h.length)).trans (h.wakes k hk hlt)
  ended load outcome hload := h'.ended load outcome (h.ended load outcome hload)
  tells load k hk hload := h'.tells load k hk (h.tells load k hk hload)
  groups g group hg hwaits := by
    obtain ⟨group', hg', hcaller, hsettled⟩ := h.groups g group hg hwaits
    obtain ⟨group'', hg'', hcaller', hsettled'⟩ :=
      h'.groups g group' hg' (by rwa [hcaller, hsettled])
    exact ⟨group'', hg'', hcaller'.trans hcaller, hsettled'.trans hsettled⟩

/-- Loads go on as before, and those who wait for them wait on, apart from one. -/
def LoadsStay (n : Nat) (m m' : Machine Answer) : Prop :=
  ∀ (load : Nat) (r : Running), m.loads[load]? = some r → ∃ r' : Running,
    m'.loads[load]? = some r' ∧ r'.outcome = r.outcome ∧ ∀ k ∈ r.waiters, k ≠ n → k ∈ r'.waiters

theorem LoadsStay.ended (h : LoadsStay n m m') {load : Nat}
    {outcome : Except Interruption RuleSet} (houtcome : m.ended? load = some outcome) :
    m'.ended? load = some outcome := by
  obtain ⟨r, hr, houtcome⟩ := Option.bind_eq_some_iff.1 houtcome
  obtain ⟨r', hr', hsame, -⟩ := h load r hr
  exact Option.bind_eq_some_iff.2 ⟨r', hr', hsame.trans houtcome⟩

theorem LoadsStay.tells (h : LoadsStay n m m') (hk : k ≠ n) {load : Nat}
    (hjob : .tell load k ∈ m.ready → .tell load k ∈ m'.ready) (htells : m.Tells load k) :
    m'.Tells load k := by
  rcases htells with ⟨r, hr, hnone, hwaits⟩ | ⟨houtcome, hmem⟩
  · obtain ⟨r', hr', hsame, hwaiters⟩ := h load r hr
    exact .inl ⟨r', hr', hsame.trans hnone, hwaiters k hwaits hk⟩
  · obtain ⟨outcome, houtcome⟩ := Option.isSome_iff_exists.1 houtcome
    exact .inr ⟨Option.isSome_iff_exists.2 ⟨outcome, h.ended houtcome⟩, hjob hmem⟩

theorem loadsStay_of_eq (n : Nat) (h : m'.loads = m.loads) : LoadsStay n m m' :=
  fun _ r hr => ⟨r, h ▸ hr, rfl, fun _ hk _ => hk⟩

section Waiters

variable {load : Nat} (f : List Nat → List Nat)

/-- What loads have come to has nothing to do with who waits for them. -/
theorem ended?_waiters
    (hloads : m'.loads = m.loads.modify load fun r => { r with waiters := f r.waiters })
    (other : Nat) : m'.ended? other = m.ended? other := by
  rw [ended?, ended?, hloads, List.getElem?_modify]
  cases m.loads[other]? with
  | none => rfl
  | some r =>
    simp only [Option.bind_some]
    split <;> rfl

/-- One task may come to wait for a load, or cease to, while the others wait on. -/
theorem loadsStay_waiters
    (hloads : m'.loads = m.loads.modify load fun r => { r with waiters := f r.waiters })
    (hf : ∀ waiters, ∀ k ∈ waiters, k ≠ n → k ∈ f waiters) : LoadsStay n m m' :=
  fun other r hr => by
    refine ⟨_, by rw [hloads, List.getElem?_modify, hr]; rfl, ?_, fun k hk hkn => ?_⟩
    · split <;> rfl
    · split
      · exact hf _ k hk hkn
      · exact hk

end Waiters

/-- Tasks, loads and groups that come after those that are there leave them as they are. -/
theorem beside_append (n : Nat) {tasks : List (Option (Task Answer))} {loads : List Running}
    {groups : List Group} (htasks : m'.tasks = m.tasks ++ tasks)
    (hready : m'.ready = m.ready ++ startJobs m.tasks.length tasks.length)
    (hloads : m'.loads = m.loads ++ loads) (hgroups : m'.groups = m.groups ++ groups) :
    Beside n m m' := by
  have hstay : LoadsStay n m m' := fun load r hr => by
    rw [hloads, List.getElem?_append_left (List.getElem?_eq_some_iff.1 hr).1]
    exact ⟨r, hr, rfl, fun _ hk _ => hk⟩
  refine ⟨?_, fun k _ hlt => ?_, fun k _ hlt => ?_, fun _ _ => hstay.ended,
    fun load k hk => hstay.tells hk fun hmem => hready ▸ List.mem_append_left _ hmem,
    fun g group hg _ => ⟨group, ?_, rfl, rfl⟩⟩
  · rw [htasks, List.length_append]
    exact Nat.le_add_right ..
  · exact task?_append htasks hlt
  · rw [hready, wakes_append, wakes_startJobs, if_neg fun h => Nat.not_le_of_lt hlt h.1,
      List.append_nil]
  · rw [hgroups, List.getElem?_append_left (List.getElem?_eq_some_iff.1 hg).1, hg]

/-- What becomes of a task leaves the others as they are, and so does what is to be done for it. -/
theorem beside_set {after : Option (Task Answer)} {jobs : List Job}
    (htasks : m'.tasks = m.tasks.set n after) (hready : m'.ready = m.ready ++ jobs)
    (hjobs : ∀ k, k ≠ n → wakes jobs k = []) (hstay : LoadsStay n m m')
    (hgroups : m'.groups = m.groups) : Beside n m m' := by
  refine ⟨by rw [htasks, List.length_set], fun k hk _ => ?_, fun k hk _ => ?_,
    fun _ _ => hstay.ended,
    fun load k hk => hstay.tells hk fun hmem => hready ▸ List.mem_append_left _ hmem,
    fun g group hg _ => ⟨group, hgroups ▸ hg, rfl, rfl⟩⟩
  · exact task?_set_ne hk htasks
  · rw [hready, wakes_append, hjobs k hk, List.append_nil]

theorem RestsAt.of_le (h : RestsAt past m k) (hk : m.tasks.length ≤ k) :
    m.task? k = none ∧ wakes m.ready k = [] := by
  cases h with
  | gone hnone hquiet => exact ⟨hnone, hquiet⟩
  | task hsome => exact absurd (lt_of_task? hsome) (Nat.not_lt_of_le hk)

/-- If tasks, loads and groups stay as they are, all that matters is the desk, and that no job is
    gone that somebody waits for. -/
theorem Sound.still (h : Sound past busy m) (hregisters : m'.Registers)
    (htasks : m'.tasks = m.tasks) (hloads : m'.loads = m.loads) (hgroups : m'.groups = m.groups)
    (houtcomes : m'.outcomes = m.outcomes) (hwakes : ∀ k, wakes m'.ready k = wakes m.ready k)
    (htells : ∀ load k, (m.task? k).bind (·.wait) = some (.load load) → m.Tells load k →
      m'.Tells load k)
    (hreports : ∀ (g : Nat) (group : Group), m.groups[g]? = some group → group.settled = false →
      ∀ i outcome, .report g i outcome ∈ m.ready → .report g i outcome ∈ m'.ready) :
    Sound past busy m' := by
  have htask (n : Nat) : m'.task? n = m.task? n := by rw [task?, task?, htasks]
  have hended (load : Nat) : m'.ended? load = m.ended? load := by rw [ended?, ended?, hloads]
  have hpost (n : Nat) : m'.post? n = m.post? n := by rw [post?, post?, htask]
  have hends (load : Nat) (outcome : Except Interruption RuleSet)
      (houtcome : m.ended? load = some outcome) : m'.ended? load = some outcome :=
    (hended load).trans houtcome
  refine ⟨hregisters, ⟨fun n hn => ?_, fun n hn => (hwakes n).trans (h.tasks.quiet n hn)⟩,
    h.loads.congr (by rw [hloads]) hended fun n load => by rw [hpost],
    ⟨?_, hgroups ▸ h.groups.missing, ?_⟩,
    h.callers.congr (by rw [htasks]) (by rw [hloads]) hends
      houtcomes (fun n _ => by rw [htask]; exact id) fun n => by rw [hpost]; exact id⟩
  · cases h.tasks.rests n hn with
    | gone hnone hquiet => exact .gone ((htask n).trans hnone) ((hwakes n).trans hquiet)
    | task hsome hfits hawaits =>
      refine .task ((htask n).trans hsome) (hfits.mono hends) (hwakes n ▸ hawaits.mono hends
        (fun load hload => htells load n ?_) fun g group hg _ => ⟨group, hgroups ▸ hg, rfl, rfl⟩)
      rw [hsome]
      exact hload
  · simp only [hgroups, htask]
    exact h.groups.waits
  · simp only [hgroups, hpost]
    intro g group hg hsettled i hi
    refine (h.groups.errands g group hg hsettled i hi).imp_right ?_
    exact Exists.imp (hreports g group hg hsettled i)

/-- If tasks, loads, groups and jobs stay as they are, all that matters is the desk. -/
theorem Sound.congr (h : Sound past busy m) (hregisters : m'.Registers)
    (htasks : m'.tasks = m.tasks) (hloads : m'.loads = m.loads) (hgroups : m'.groups = m.groups)
    (hready : m'.ready = m.ready) (houtcomes : m'.outcomes = m.outcomes) : Sound past busy m' := by
  refine h.still hregisters htasks hloads hgroups houtcomes (fun k => by rw [hready])
    (fun load k _ => ?_) fun _ _ _ _ _ _ => hready ▸ id
  rw [Tells, Tells, ended?, ended?, hloads, hready]
  exact id

/-! ## Tasks that are started -/

/-- Callers who have joined a load are there already. -/
theorem CallersTold.isApart (h : CallersTold past m) (hk : m.tasks.length ≤ k) :
    past.IsApart k := fun load hload => Nat.not_le_of_lt (h.joined k load hload).1 hk

/-- Tasks that are started are to begin. -/
theorem TasksRest.append (h : TasksRest past busy m) (hcallers : CallersTold past m)
    (hbusy : ∀ n, busy = some n → n < m.tasks.length) {tasks : List (Task Answer)}
    {loads : List Running} {groups : List Group} (htasks : m'.tasks = m.tasks ++ tasks.map some)
    (hready : m'.ready = m.ready ++ startJobs m.tasks.length tasks.length)
    (hloads : m'.loads = m.loads ++ loads) (hgroups : m'.groups = m.groups ++ groups)
    (hnew : ∀ i task, tasks[i]? = some task → ∃ (β : Type) (σ : Station Answer β) (p : Program β)
      (fields : Entries), task = { work := σ.work p, fields } ∧
        Fits past m' (m.tasks.length + i) σ p) : TasksRest past busy m' := by
  have hb (n : Nat) : Beside n m m' :=
    beside_append n htasks (by rw [hready, List.length_map]) hloads hgroups
  have hwakes (k : Nat) : wakes m'.ready k = wakes m.ready k ++
      if m.tasks.length ≤ k ∧ k < m.tasks.length + tasks.length then [.start] else [] := by
    rw [hready, wakes_append, wakes_startJobs]
  refine ⟨fun k hk => ?_, fun k hk => ?_⟩
  · rcases Nat.lt_or_ge k m.tasks.length with hlt | hge
    · exact (h.rests k hk).beside (hb (k + 1)) (Nat.ne_of_lt (Nat.lt_succ_self k)) hlt
    · have hquiet := ((h.rests k hk).of_le hge).2
      obtain ⟨i, rfl⟩ := Nat.exists_eq_add_of_le hge
      have htask : m'.task? (m.tasks.length + i) = tasks[i]? := by
        rw [task?, htasks, List.getElem?_append_right hge, Nat.add_sub_cancel_left,
          List.getElem?_map]
        cases tasks[i]? <;> rfl
      cases hi : tasks[i]? with
      | none =>
        refine .gone (htask.trans hi) ?_
        have hle := List.getElem?_eq_none_iff.1 hi
        rw [hwakes, hquiet, if_neg (by omega)]
        rfl
      | some task =>
        obtain ⟨β, σ, p, fields, rfl, hfits⟩ := hnew i task hi
        have hlt := (List.getElem?_eq_some_iff.1 hi).1
        refine .task (htask.trans hi) hfits ?_
        rw [hwakes, hquiet, if_pos (by omega)]
        exact .start (hcallers.isApart hge)
  · rw [hwakes, h.quiet k hk, if_neg fun hle => Nat.not_le_of_lt (hbusy k hk) hle.1]
    rfl

theorem post?_append {tasks : List (Option (Task Answer))} (htasks : m'.tasks = m.tasks ++ tasks)
    (hk : k < m.tasks.length) : m'.post? k = m.post? k := by
  rw [post?, post?, task?, task?, htasks, List.getElem?_append_left hk]

/-- Callers do not mind that tasks and loads are started. -/
theorem CallersTold.append (h : CallersTold past m) {tasks : List (Option (Task Answer))}
    {loads : List Running} (htasks : m'.tasks = m.tasks ++ tasks)
    (hloads : m'.loads = m.loads ++ loads) (houtcomes : m'.outcomes = m.outcomes) :
    CallersTold past m' := by
  refine h.congr (by rw [htasks, List.length_append]; exact Nat.le_add_right ..)
    (by rw [hloads, List.length_append]; exact Nat.le_add_right ..) (fun load outcome => ?_)
    houtcomes (fun k hlt => ?_) fun k hk => (post?_append htasks (lt_of_post? hk)).trans hk
  · intro houtcome
    obtain ⟨r, hr, houtcome⟩ := Option.bind_eq_some_iff.1 houtcome
    refine Option.bind_eq_some_iff.2 ⟨r, ?_, houtcome⟩
    rw [hloads, List.getElem?_append_left (List.getElem?_eq_some_iff.1 hr).1, hr]
  · rw [task?, task?, htasks, List.getElem?_append_left hlt]
    exact id

theorem post?_startLoad (m : Machine Answer) (user : Id) (fields : Entries) (k : Nat) :
    (m.startLoad user fields).2.post? k =
      if k = m.tasks.length then some (.load m.desk.loads.length) else m.post? k := by
  split
  · next hk =>
    subst hk
    rw [startLoad_eq, post?, task?, List.getElem?_concat_length]
    rfl
  · next hk =>
    rcases Nat.lt_or_gt_of_ne hk with hlt | hgt
    · exact post?_append rfl hlt
    · rw [post?, post?, task?_eq_none hgt.le, task?_eq_none]
      simpa [startLoad_eq] using Nat.succ_le_of_lt hgt

/-- A load that is started is played by its task. -/
theorem LoadsPlayed.startLoad (h : LoadsPlayed m)
    (hnumbered : m.loads.length = m.desk.loads.length) (user : Id) (fields : Entries) :
    LoadsPlayed (m.startLoad user fields).2 := by
  have hlength : (m.startLoad user fields).2.loads.length = m.loads.length + 1 :=
    List.length_append
  -- The tasks that were there play other loads.
  have hpost {k load : Nat} (hk : (m.startLoad user fields).2.post? k = some (.load load)) :
      k = m.tasks.length ∧ load = m.loads.length ∨
        m.post? k = some (.load load) ∧ load < m.loads.length := by
    rw [post?_startLoad] at hk
    split at hk
    · next heq =>
      cases hk
      exact .inl ⟨heq, hnumbered.symm⟩
    · exact .inr ⟨hk, (h.goesOn k load hk).1⟩
  refine ⟨fun k load hk => ?_, fun n k load hn hk => ?_, fun load hlt hload => ?_⟩
  · rw [hlength, ended?_startLoad]
    rcases hpost hk with ⟨-, rfl⟩ | ⟨hk, hlt⟩
    · refine ⟨Nat.lt_succ_self _, ?_⟩
      rw [ended?, List.getElem?_eq_none le_rfl]
      rfl
    · exact ⟨hlt.trans (Nat.lt_succ_self _), (h.goesOn k load hk).2⟩
  · rcases hpost hn with ⟨rfl, rfl⟩ | ⟨hn, hlt⟩
    · rcases hpost hk with ⟨rfl, -⟩ | ⟨-, hlt⟩
      · rfl
      · exact absurd hlt (Nat.lt_irrefl _)
    · rcases hpost hk with ⟨-, rfl⟩ | ⟨hk, -⟩
      · exact absurd hlt (Nat.lt_irrefl _)
      · exact h.alone n k load hn hk
  · rw [hlength] at hlt
    rw [ended?_startLoad] at hload
    rcases Nat.lt_succ_iff_lt_or_eq.1 hlt with hlt | rfl
    · obtain ⟨k, hk⟩ := h.played load hlt hload
      exact ⟨k, by rw [post?_startLoad, if_neg (lt_of_post? hk).ne, hk]⟩
    · exact ⟨m.tasks.length, by rw [post?_startLoad, if_pos rfl, hnumbered]⟩

/-! ## Operations that do not stop a task -/

theorem Sound.caller_ne (h : Sound past (some n) m) (g : Nat) (group : Group)
    (hg : m.groups[g]? = some group) (hsettled : group.settled = false) : group.caller ≠ n :=
  fun heq => (h.groups.waits g group hg hsettled).1 (congrArg some heq.symm)

/-- The task at work starts a load. -/
theorem Sound.startLoad (h : Sound past (some n) m) (hn : n < m.tasks.length) {user : Id}
    (hnone : m.desk.pendingOf user = none) (fields : Entries) :
    Sound past (some n) (m.startLoad user fields).2 where
  registers := h.registers.startLoad hnone fields
  tasks := by
    let task : Task Answer :=
      { work := .load m.desk.loads.length (m.cache.load user m.desk.loads.length).run, fields }
    have htasks : (m.startLoad user fields).2.tasks = m.tasks ++ [task].map some := rfl
    refine h.tasks.append h.callers (fun _ heq => Option.some.inj heq ▸ hn) htasks rfl rfl
      (List.append_nil _).symm fun i task hi => ?_
    obtain rfl := List.mem_singleton.1 (List.mem_of_getElem? hi)
    exact ⟨_, .load m.desk.loads.length, (m.cache.load user m.desk.loads.length).run, fields, rfl,
      .load (m.cache.only_load ..)⟩
  loads := h.loads.startLoad h.registers.numbered user fields
  groups := h.groups.beside (beside_append n rfl rfl rfl (List.append_nil _).symm) rfl
    (fun _ _ _ => List.mem_append_left _) h.caller_ne (.inr rfl) (.inl (post?_append rfl hn))
  callers := h.callers.append rfl rfl rfl

/-! ## Joining -/

theorem Past.join_nil (past : Past) : past.join [] = past := by
  rw [join, List.append_nil]

theorem Past.join_join (past : Past) (joins joins' : List (Nat × Nat)) :
    (past.join joins).join joins' = past.join (joins ++ joins') := by
  rw [join, join, join, List.append_assoc]

/-- What is new about others does not matter. -/
theorem RestsAt.mono {past' : Past} (h : RestsAt past m k)
    (hjoined : ∀ load, (k, load) ∈ past'.joined ↔ (k, load) ∈ past.joined)
    (hcancelled : k ∈ past.cancelled → k ∈ past'.cancelled) : RestsAt past' m k := by
  cases h with
  | gone hnone hquiet => exact .gone hnone hquiet
  | task hsome hfits hawaits =>
    refine .task hsome ?_ ?_
    · cases hfits with
      | apart hp hapart => exact .apart hp fun load hload => hapart load ((hjoined load).1 hload)
      | joined hload hn =>
        exact .joined ((hjoined _).2 hload) fun load hload => hn load ((hjoined load).1 hload)
      | told hn houtcome =>
        exact .told (fun load hload => hn load ((hjoined load).1 hload)) houtcome
      | sentAway hn => exact .sentAway (hcancelled hn)
      | load hp => exact .load hp
      | errand hp => exact .errand hp
    · generalize wakes m.ready k = wakes at hawaits
      cases hawaits with
      | start hapart => exact .start fun load hload => hapart load ((hjoined load).1 hload)
      | held => exact .held
      | released => exact .released
      | refused => exact .refused
      | load htells => exact .load htells
      | loaded houtcome => exact .loaded houtcome
      | left hn => exact .left (hcancelled hn)
      | errands hgroup hcaller hsettled => exact .errands hgroup hcaller hsettled
      | gathered hgroup hsettled => exact .gathered hgroup hsettled

/-- The caller at work joins a load. -/
theorem Sound.join (h : Sound past (some n) m) (hcall : m.post? n = some .call) {load : Nat}
    (hload : load < m.loads.length) : Sound (past.join [(n, load)]) (some n) m where
  registers := h.registers
  tasks := by
    refine ⟨fun k hk => (h.tasks.rests k hk).mono (fun other => ?_) id, h.tasks.quiet⟩
    refine List.mem_append.trans (or_iff_left fun hother => ?_)
    cases List.mem_singleton.1 hother
    exact hk rfl
  loads := h.loads
  groups := h.groups
  callers := by
    refine ⟨h.callers.outcomes, fun k other hother => ?_⟩
    rcases List.mem_append.1 hother with hother | hother
    · exact h.callers.joined k other hother
    · cases List.mem_singleton.1 hother
      exact ⟨lt_of_post? hcall, hload, .inl hcall⟩

theorem Past.IsApart.joinsOnly (h : past.IsApart n) (load : Nat) :
    (past.join [(n, load)]).JoinsOnly n load := by
  intro other hother
  rcases List.mem_append.1 hother with hother | hother
  · exact absurd hother (h other)
  · cases List.mem_singleton.1 hother
    rfl

/-- What has nothing to do with waiting for loads may be done by anybody. -/
theorem Fits.next {σ : Station Answer β} {op : Operation} {next : op.Reply → Program β}
    (h : Fits past m n σ (.call op next)) (hop : op.IsApart) (reply : op.Reply) :
    Fits past m n σ (next reply) := by
  generalize hp : Program.call op next = p at h
  cases h with
  | apart hshares hapart =>
    subst hp
    exact .apart ((Program.shares_call hop).1 hshares reply) hapart
  | joined =>
    cases hp
    exact hop.elim
  | told | sentAway => cases hp
  | load honly =>
    subst hp
    exact .load (honly.2 reply)
  | errand honly =>
    subst hp
    exact .errand (honly.2 reply)

/-- A load is waited for by a caller who has joined it, and gets what it comes to. -/
theorem Fits.of_awaitLoad {σ : Station Answer β} {load : Nat}
    {next : Except Interruption RuleSet → Program β}
    (h : Fits past m n σ (.call (.awaitLoad load) next)) :
    (n, load) ∈ past.joined ∧
      (∀ outcome, m.ended? load = some outcome → Fits past m n σ (next outcome)) ∧
      (n ∈ past.cancelled → ∀ outcome, Fits past m n σ (next outcome)) := by
  generalize hp : Program.call (.awaitLoad load) next = p at h
  cases h with
  | apart hshares =>
    subst hp
    exact hshares.elim
  | joined hload hn =>
    cases hp
    exact ⟨hload, fun _ => .told hn, fun hcancelled _ => .sentAway hcancelled⟩
  | told | sentAway => cases hp
  | load honly =>
    subst hp
    exact honly.1.elim
  | errand honly =>
    subst hp
    exact honly.1.elim

/-- What the task at work carries out at once keeps the machine in order. -/
theorem Sound.carry {σ : Station Answer β} {t t' : Turn Answer}
    (h : Sound past (some n) t.machine) (hpost : t.machine.post? n = some σ.post)
    {op : Operation} {next : op.Reply → Program β} {reply : op.Reply}
    (hfits : Fits past t.machine n σ (.call op next)) (hc : t.Carries op reply t') :
    Sound (past.join ((op.joined reply).map (n, ·))) (some n) t'.machine ∧
      t'.machine.post? n = some σ.post ∧
      Fits (past.join ((op.joined reply).map (n, ·))) t'.machine n σ (next reply) := by
  cases hc with
  | plain hjoin hawait hsame =>
    have hop : op.IsApart ∧ op.joined reply = [] := by
      cases op with
      | joinLoad user => exact absurd rfl (hjoin user)
      | awaitLoad load => exact absurd rfl (hawait load)
      | _ => exact ⟨trivial, rfl⟩
    rw [hop.2, List.map_nil, past.join_nil]
    have hended (load : Nat) : t'.machine.ended? load = t.machine.ended? load := by
      rw [ended?, ended?, hsame.loads]
    refine ⟨h.congr (h.registers.congr hsame.desk (by rw [hsame.loads]) hended
      fun load => by rw [hsame.ready]) hsame.tasks hsame.loads hsame.groups hsame.ready
      hsame.outcomes, ?_, (hfits.next hop.1 reply).mono fun load outcome => ?_⟩
    · rwa [post?, task?, hsame.tasks]
    · rw [hended]
      exact id
  | @overtook user =>
    rw [show (Operation.overtake user).joined () = [] from rfl, List.map_nil, past.join_nil]
    exact ⟨h.congr (h.registers.overtake user) rfl rfl rfl rfl rfl, hpost,
      (hfits.next trivial ()).mono fun _ _ => id⟩
  | @joined user load hpending =>
    cases hfits with
    | apart hshares hapart =>
      refine ⟨h.join hpost (h.registers.lt_length hpending), hpost, ?_⟩
      rw [hshares load]
      exact .joined (List.mem_append_right _ (List.mem_singleton_self _)) (hapart.joinsOnly load)
    | load honly => exact honly.1.elim
    | errand honly => exact honly.1.elim
  | @started user hnone =>
    cases hfits with
    | apart hshares hapart =>
      have hn := lt_of_post? hpost
      have hs := h.startLoad hn hnone t.fields
      have hlength : t.machine.desk.loads.length <
          (t.machine.startLoad user t.fields).2.loads.length := by
        simp [startLoad_eq, h.registers.numbered]
      refine ⟨hs.join ((post?_append rfl hn).trans hpost) hlength,
        (post?_append rfl hn).trans hpost, ?_⟩
      rw [hshares]
      exact .joined (List.mem_append_right _ (List.mem_singleton_self _)) (hapart.joinsOnly _)
    | load honly => exact honly.1.elim
    | errand honly => exact honly.1.elim
  | @answered load outcome houtcome =>
    rw [show (Operation.awaitLoad load).joined outcome = [] from rfl, List.map_nil, past.join_nil]
    exact ⟨h, hpost, hfits.of_awaitLoad.2.1 outcome houtcome⟩

end Machine

end HouseholdAccess
