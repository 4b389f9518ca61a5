import HouseholdAccess.Proofs.Stage.Mirror

/-!
# Tasks at work, strands that act

While a task is at work, it carries out one operation after the other, and so does the
strand that it plays. Nobody else is touched by that: tasks, groups, loads and callers
are shown as before (`Stage.Mirrors.acted`), also when the operation is to join a load that
has to be started first (`Stage.Mirrors.startLoad`).
-/

namespace HouseholdAccess

variable {γ : Type} {user : Id}

theorem Strand.isFresh_go (t : Strand γ) (c : Cache) (e : Exchange)
    (rest : Program (Except Interruption γ)) : (t.go c e rest).IsFresh c := ⟨rfl, rfl⟩

namespace Stage

variable {s₀ s s' : Stage} {cast cast' : Cast} {m : Machine Answer} {n : Nat} {r : Role γ}
  {t : Strand γ} {place : Solo} {started : List (Strand RuleSet)}

/-- The caller of a group that has not been told does not act. -/
theorem ShowsGroups.ne_spot (h : ShowsGroups (some n) cast s m) (hr : r.task? cast = some n)
    {g : Nat} {group : Group} (hgroup : m.groups[g]? = some group)
    (hsettled : group.settled = false) {l : Nat} (hl : cast.loads[l]? = some group.caller) :
    some r.spot ≠ some (.inr l) := by
  intro hspot
  have hne : n ≠ group.caller := fun heq => (h.groups g group hgroup hsettled).1 (heq ▸ rfl)
  have hload : (Role.load l).task? cast = some group.caller := hl
  exact Role.spot_ne hr hload hne (Option.some.inj hspot)

/-- While a strand acts, the tasks of others are shown as before. -/
theorem Mirrors.showsTask (h : Mirrors user s₀ (some n) cast s m) (hr : r.task? cast = some n)
    (hs : Stays (some r.spot) s s') (hcast : cast.Grows cast') {k : Nat} {task : Task Answer}
    (hk : m.task? k = some task) (hne : some n ≠ some k) {groups : List Group}
    (hgroups : GroupsStay k m.groups groups) :
    ShowsTask cast' s' groups k (Machine.wakes m.ready k) task :=
  (h.tasks.tasks k task hk hne).stays hs hcast hgroups
    (fun hr' hspot =>
      Role.spot_ne hr hr' (fun heq => hne (congrArg some heq)) (Option.some.inj hspot))
    fun _ _ hgroup hsettled _ hl => h.groups.ne_spot hr hgroup hsettled hl

/-- Loads that have ended do not act. -/
theorem ShowsLoads.stays {acting : Option (Nat ⊕ Nat)} {m' : Machine Answer} (h : ShowsLoads s m)
    (hs : Stays acting s s') (hloads : m'.loads = m.loads)
    (hready : ∀ l, .forget l ∈ m'.ready → .forget l ∈ m.ready) : ShowsLoads s' m' := by
  have hdone {l : Nat} {v : Strand RuleSet} {outcome : Except Interruption RuleSet}
      (hv : s.loads[l]? = some v) (houtcome : v.program = .done outcome) : s'.loads[l]? = some v :=
    hs.loads l v hv (.inr (by rw [houtcome]; rfl))
  refine ⟨fun l running outcome hl hended => ?_, fun l hl => ?_⟩
  · obtain ⟨v, hv, houtcome⟩ := h.ended l running outcome (hloads ▸ hl) hended
    exact ⟨v, hdone hv houtcome, houtcome⟩
  · obtain ⟨v, outcome, hv, houtcome⟩ := h.forgets l (hready l hl)
    exact ⟨v, outcome, hdone hv houtcome, houtcome⟩

/-- A caller that acts goes on with the call. -/
theorem ShowsCalls.acted {m' : Machine Answer} (h : ShowsCalls cast s m) {op : Operation}
    {next : op.Reply → Program (Except Interruption γ)} {reply : op.Reply}
    (ht : r.strand? s = some t) (hprogram : t.program = .call op next)
    (hs : Acted r s s' (t.go s.service.cache (s.exchange op reply) (next reply)) place started)
    (hcast : cast'.callers = cast.callers) (houtcomes : m'.outcomes = m.outcomes) :
    ShowsCalls cast' s' m' := by
  refine ⟨fun i k call v hi hv rest result hfollows => ?_, fun k result hk => ?_⟩
  · rw [hcast] at hi
    rw [hs.stays.service]
    have hlt : i < s.callers.length := hs.callers ▸ (List.getElem?_eq_some_iff.1 hv).1
    have hu := List.getElem?_eq_getElem hlt
    -- The one who acts has done one operation more, which it still had to do before.
    by_cases hi' : r.spot = .inl i
    · cases r with
      | load l => cases hi'
      | caller j =>
        cases hi'
        obtain rfl := Option.some.inj (hv.symm.trans hs.strand)
        have hbefore : t.program.Follows (s.exchange op reply :: rest) result := by
          rw [hprogram]
          exact ⟨s.clock, s.source op, reply, rest, rfl, hfollows⟩
        have hall := h.calls i k call t hi ht _ result hbefore
        rwa [List.append_cons] at hall
    · obtain rfl := Option.some.inj
        (hv.symm.trans (hs.stays.callers i _ hu (.inl fun h => hi' (Option.some.inj h))))
      exact h.calls i k call _ hi hu rest result hfollows
  · obtain ⟨i, call, v, hi, hv, hdone⟩ := h.outcomes k result (houtcomes ▸ hk)
    exact ⟨i, call, v, hcast ▸ hi, hs.stays.callers i v hv (.inr (by rw [hdone]; rfl)), hdone⟩

theorem Acted.step (h : Acted r s s' t place started) : Step user s s' := by
  cases r with
  | caller i => exact .caller h.go
  | load l => exact .load h.go

/-- The task with the number does what the role is to do, and has come to the program. -/
structure Performs (r : Role γ) (n : Nat) (p : Program (Except Interruption γ)) (cast : Cast)
    (s : Stage) : Prop where
  task : r.task? cast = some n
  strand : ∃ t, r.strand? s = some t ∧ t.program = p ∧ t.IsFresh s.service.cache

/-- The task at work does an operation that starts nothing. -/
theorem Mirrors.acted (huser : user.isText = true) (h : Mirrors user s₀ (some n) cast s m)
    (hr : r.task? cast = some n) (ht : r.strand? s = some t) {op : Operation}
    {next : op.Reply → Program (Except Interruption γ)} {reply : op.Reply}
    (hprogram : t.program = .call op next)
    (hcarry : s.carry t.gathered? op = some (reply, place, [])) {world : World} {desk : Desk}
    {registry : Option Registry} (hworld : world.visible = place.world.visible)
    (hdesk : desk = place.desk) (hregistry : registry = place.registry) :
    ∃ s', Mirrors user s₀ (some n) cast s' { m with world, desk, registry } ∧
      Performs r n (next reply) cast s' := by
  obtain ⟨s', hs'⟩ := Role.exists_acted ht hprogram hcarry
  have hstep : Step user s s' := hs'.step
  have hservice := hs'.stays.service
  have hcast := Cast.Grows.refl cast
  -- The task at work is not shown, and the strand that acts is nobody else's.
  refine ⟨s', ?_, hr, _, hs'.strand, rfl, hservice ▸ Strand.isFresh_go t _ _ _⟩
  exact {
    reached := h.reached.step hstep
    behaves := h.behaves.of_moves huser (h.behaves.moves hstep)
    place := by
      refine ⟨hservice ▸ h.place.cache, ?_, ?_, ?_⟩ <;> rw [hs'.place] <;> assumption
    isCast := h.isCast.stays hs'.callers hs'.loads rfl le_rfl
    tasks := ⟨fun k task hk hne => h.showsTask hr hs'.stays hcast hk hne (GroupsStay.refl k _),
      h.tasks.idle⟩
    groups := by
      refine ⟨fun g group hgroup hsettled => ?_, h.groups.reports⟩
      obtain ⟨hne, l, u, hu⟩ := h.groups.groups g group hgroup hsettled
      exact ⟨hne, l, u, hu.stays hs'.stays hcast (h.groups.ne_spot hr hgroup hsettled hu.load) rfl
        (Machine.NoNews.refl g _)⟩
    loads := h.loads.stays hs'.stays rfl fun _ => id
    calls := h.calls.acted ht hprogram hs' rfl rfl }

/-! ## What is started -/

/-- Tasks that are started are to begin. -/
theorem ShowsTasks.start {busy : Option Nat} {m' : Machine Answer} (h : ShowsTasks busy cast s m)
    {news : List (Task Answer)} (htasks : m'.tasks = m.tasks ++ news.map some)
    (hready : m'.ready = m.ready ++ Machine.startJobs m.tasks.length news.length)
    (hbusy : ∀ n, busy = some n → n < m.tasks.length)
    (hold : ∀ k task, m.task? k = some task → busy ≠ some k →
      ShowsTask cast' s' m'.groups k (Machine.wakes m.ready k) task)
    (hnew : ∀ i task, news[i]? = some task →
      ShowsTask cast' s' m'.groups (m.tasks.length + i) [.start] task) :
    ShowsTasks busy cast' s' m' := by
  have hwakes (k : Nat) : Machine.wakes m'.ready k = Machine.wakes m.ready k ++
      if m.tasks.length ≤ k ∧ k < m.tasks.length + news.length then [.start] else [] := by
    rw [hready, Machine.wakes_append, Machine.wakes_startJobs]
  have hbefore {k : Nat} (hk : k < m.tasks.length) :
      Machine.wakes m'.ready k = Machine.wakes m.ready k := by
    rw [hwakes, if_neg fun hle => absurd hk (Nat.not_lt.2 hle.1), List.append_nil]
  have hafter {k : Nat} (hk : m.tasks.length ≤ k) : Machine.wakes m.ready k = [] :=
    h.idle k (.inl (by rw [Machine.task?, List.getElem?_eq_none hk]; rfl))
  have htask {k : Nat} (hk : m.tasks.length ≤ k) : m'.task? k = news[k - m.tasks.length]? := by
    rw [Machine.task?, htasks, List.getElem?_append_right hk, List.getElem?_map]
    cases news[k - m.tasks.length]? <;> rfl
  -- Tasks up to now are told what they were told, and those after them are to begin.
  refine ⟨fun k task hk hne => ?_, fun k hk => ?_⟩
  · rcases Nat.lt_or_ge k m.tasks.length with hlt | hge
    · rw [hbefore hlt]
      exact hold k task (Machine.task?_append htasks hlt ▸ hk) hne
    · rw [htask hge] at hk
      have hlt := (List.getElem?_eq_some_iff.1 hk).1
      rw [hwakes, hafter hge, if_pos (by omega), List.nil_append]
      have hshows := hnew _ task hk
      rwa [Nat.add_sub_cancel' hge] at hshows
  · rcases Nat.lt_or_ge k m.tasks.length with hlt | hge
    · rw [hbefore hlt]
      exact h.idle k (hk.imp_left fun hnone => Machine.task?_append htasks hlt ▸ hnone)
    · have hnone := hk.resolve_right fun hk => absurd (hbusy k hk) (Nat.not_lt.2 hge)
      rw [htask hge] at hnone
      have hle := List.getElem?_eq_none_iff.1 hnone
      rw [hwakes, hafter hge, if_neg (by omega), List.nil_append]

/-- A task that is started is to begin. -/
theorem ShowsTasks.startOne {busy : Option Nat} {m' : Machine Answer} (h : ShowsTasks busy cast s m)
    {task : Task Answer} (htasks : m'.tasks = m.tasks ++ [some task])
    (hready : m'.ready = m.ready ++ [.resume m.tasks.length .start])
    (hbusy : ∀ n, busy = some n → n < m.tasks.length)
    (hold : ∀ k task, m.task? k = some task → busy ≠ some k →
      ShowsTask cast' s' m'.groups k (Machine.wakes m.ready k) task)
    (hnew : ShowsTask cast' s' m'.groups m.tasks.length [.start] task) :
    ShowsTasks busy cast' s' m' := by
  have hnews : m'.tasks = m.tasks ++ [task].map some := htasks
  refine h.start hnews hready hbusy hold fun i other hi => ?_
  cases i with
  | zero => exact Option.some.inj hi ▸ hnew
  | succ i => cases hi

/-- Groups wait on while a task is started. -/
theorem ShowsGroups.startOne {busy : Option Nat} {acting : Option (Nat ⊕ Nat)}
    {m' : Machine Answer} (h : ShowsGroups busy cast s m) (hs : Stays acting s s')
    (hcast : cast.Grows cast') {task : Task Answer} (htasks : m'.tasks = m.tasks ++ [some task])
    (hready : m'.ready = m.ready ++ [.resume m.tasks.length .start])
    (hgroups : m'.groups = m.groups)
    (hacting : ∀ (g : Nat) (group : Group), m.groups[g]? = some group → group.settled = false →
      ∀ l : Nat, cast.loads[l]? = some group.caller → acting ≠ some (.inr l)) :
    ShowsGroups busy cast' s' m' := by
  have hnews (g : Nat) : Machine.NoNews g m.ready m'.ready :=
    hready ▸ Machine.noNews_append _ fun _ _ hmem => Job.noConfusion (List.mem_singleton.1 hmem)
  refine ⟨fun g group hgroup hsettled => ?_, fun g i outcome hmem =>
    hgroups ▸ h.reports g i outcome ((hnews g).reports i outcome hmem)⟩
  rw [hgroups] at hgroup
  obtain ⟨hne, l, u, hu⟩ := h.groups g group hgroup hsettled
  obtain ⟨caller, hcaller, -⟩ := hu.waits
  exact ⟨hne, l, u, hu.stays hs hcast (hacting g group hgroup hsettled l hu.load)
    (Machine.task?_append htasks (Machine.lt_of_task? hcaller)) (hnews g)⟩

/-- A load that has been started has not ended. -/
theorem ShowsLoads.start {m' : Machine Answer} (h : ShowsLoads s m)
    (hloads : m'.loads = m.loads ++ [({} : Running)])
    (hready : m'.ready = m.ready ++ [.resume m.tasks.length .start]) : ShowsLoads s m' := by
  refine ⟨fun l running outcome hl hended => ?_, fun l hl => h.forgets l ?_⟩
  · rw [hloads] at hl
    rcases Nat.lt_or_ge l m.loads.length with hlt | hge
    · rw [List.getElem?_append_left hlt] at hl
      exact h.ended l running outcome hl hended
    · rw [List.getElem?_append_right hge] at hl
      rw [List.mem_singleton.1 (List.mem_of_getElem? hl)] at hended
      cases hended
  · rw [hready] at hl
    exact (List.mem_append.1 hl).resolve_right fun hl => Job.noConfusion (List.mem_singleton.1 hl)

/-- One more load is played, by the task with the number. -/
def Cast.withLoad (cast : Cast) (n : Nat) : Cast := { cast with loads := cast.loads ++ [n] }

theorem Cast.grows_withLoad (cast : Cast) (n : Nat) : cast.Grows (cast.withLoad n) :=
  ⟨fun _ _ => id, fun _ _ hl =>
    (List.getElem?_append_left (List.getElem?_eq_some_iff.1 hl).1).trans hl⟩

/-- The task at work joins a load, which is started for it. -/
theorem Mirrors.startLoad (huser : user.isText = true) (h : Mirrors user s₀ (some n) cast s m)
    (hr : r.task? cast = some n) (ht : r.strand? s = some t) {v : Id}
    {next : Nat → Program (Except Interruption γ)}
    (hprogram : t.program = .call (.joinLoad v) next) (hpending : m.desk.pendingOf v = none)
    (hn : n < m.tasks.length) (fields : Entries) :
    ∃ s', Mirrors user s₀ (some n) (cast.withLoad m.tasks.length) s' (m.startLoad v fields).2 ∧
      Performs r n (next m.desk.loads.length) (cast.withLoad m.tasks.length) s' := by
  have hdesk := h.place.desk
  have hcarry : s.carry t.gathered? (.joinLoad v) = some (m.desk.loads.length,
      { s.place with desk := (m.desk.start v).2 },
      [Strand.start s.service.cache s.clock
        (s.service.cache.load v m.desk.loads.length).run]) := by
    rw [hdesk] at hpending ⊢
    simp only [carry, hpending]
    rfl
  obtain ⟨s', hs'⟩ := Role.exists_acted ht hprogram hcarry
  have hstep : Step user s s' := hs'.step
  have hservice := hs'.stays.service
  have hcast := cast.grows_withLoad m.tasks.length
  -- The desk numbers loads as the stage does.
  have hlength : m.desk.loads.length = s.loads.length := hdesk ▸ h.behaves.numbered
  have hnew := hs'.started 0 _ rfl
  have hload : (Role.load m.desk.loads.length).strand? s' = some (Strand.start s.service.cache
      s.clock (s.service.cache.load v m.desk.loads.length).run) := hlength ▸ hnew
  refine ⟨s', ?_, hcast.task? hr, _, hs'.strand, rfl, hservice ▸ Strand.isFresh_go t _ _ _⟩
  exact {
    reached := h.reached.step hstep
    behaves := h.behaves.of_moves huser (h.behaves.moves hstep)
    place := ⟨hservice ▸ h.place.cache, hs'.place ▸ h.place.world, hs'.place ▸ rfl,
      hs'.place ▸ h.place.registry⟩
    isCast := by
      refine h.isCast.join (.of_eq (List.append_assoc ..).symm)
        (h.isCast.callers.trans hs'.callers.symm) ?_ ?_ List.length_append
      · rw [Cast.withLoad, List.length_append, hs'.loads, h.isCast.loads]
        rfl
      · rw [Machine.startLoad_eq, List.length_append, hs'.loads, h.isCast.running]
        rfl
    tasks := by
      refine h.tasks.startOne rfl rfl (fun k hk => Option.some.inj hk ▸ hn)
        (fun k task hk hne => h.showsTask hr hs'.stays hcast hk hne (GroupsStay.refl k _)) ?_
      refine .strand (r := .load m.desk.loads.length) ?_ hload ?_ (.next (.start ?_))
      · change (cast.loads ++ [m.tasks.length])[m.desk.loads.length]? = some m.tasks.length
        -- The new load is the last one, and so is its task.
        rw [hlength, ← h.isCast.loads, List.getElem?_concat_length]
      · rw [h.place.cache]
        rfl
      · exact hservice ▸ ⟨rfl, rfl⟩
    groups := h.groups.startOne hs'.stays hcast rfl rfl rfl
      fun _ _ hgroup hsettled _ hl => h.groups.ne_spot hr hgroup hsettled hl
    loads := (h.loads.start rfl rfl).stays hs'.stays rfl fun _ => id
    calls := h.calls.acted ht hprogram hs' rfl rfl }

/-! ## What the service finds -/

/-- While nobody acts, callers are shown as before. -/
theorem ShowsCalls.rests {m' : Machine Answer} (h : ShowsCalls cast s m) (hs : Stays none s s')
    (hcallers : s'.callers = s.callers) (houtcomes : m'.outcomes = m.outcomes) :
    ShowsCalls cast s' m' where
  calls := fun i k call v hi hv => by
    rw [hs.service]
    exact h.calls i k call v hi (hcallers ▸ hv)
  outcomes := fun k result hk => by
    rw [hcallers]
    exact h.outcomes k result (houtcomes ▸ hk)

/-- Nobody acts, but what the service finds may change. -/
theorem Mirrors.rests {busy : Option Nat} (h : Mirrors user s₀ busy cast s m)
    (hreached : Reached user s₀ s') (hbehaves : s'.Behaves user) (hs : Stays none s s')
    (hcallers : s'.callers = s.callers) (hloads : s'.loads = s.loads) {m' : Machine Answer}
    (hm' : m' = { m with world := m'.world, desk := m'.desk, registry := m'.registry,
                         queue := m'.queue })
    (hplace : SharesPlace s' m') : Mirrors user s₀ busy cast s' m' := by
  have hcast := Cast.Grows.refl cast
  have htasks : m'.tasks = m.tasks := hm' ▸ rfl
  have hgroups : m'.groups = m.groups := hm' ▸ rfl
  have hready : m'.ready = m.ready := hm' ▸ rfl
  have hrunning : m'.loads = m.loads := hm' ▸ rfl
  have htask (k : Nat) : m'.task? k = m.task? k := by rw [Machine.task?, htasks]; rfl
  exact {
    reached := hreached
    behaves := hbehaves
    place := hplace
    isCast := h.isCast.stays (congrArg _ hcallers) (congrArg _ hloads) (congrArg _ hrunning)
      (htasks ▸ le_rfl)
    tasks := by
      refine ⟨fun k task hk hne => ?_, fun k hk => ?_⟩ <;> rw [htask] at hk
      · rw [hgroups, hready]
        exact (h.tasks.tasks k task hk hne).rests hs hcast (GroupsStay.refl k _)
      · exact hready ▸ h.tasks.idle k hk
    groups := by
      refine ⟨fun g group hgroup hsettled => ?_, hgroups ▸ hready ▸ h.groups.reports⟩
      obtain ⟨hne, l, u, hu⟩ := h.groups.groups g group (hgroups ▸ hgroup) hsettled
      exact ⟨hne, l, u, hu.rests hs hcast (htask _) (hready ▸ Machine.NoNews.refl g _)⟩
    loads := h.loads.stays hs hrunning (hready ▸ fun _ => id)
    calls := h.calls.rests hs hcallers (hm' ▸ rfl) }

/-- What is not seen of the world does not matter, nor who waits where. -/
theorem Mirrors.withWorld {busy : Option Nat} (h : Mirrors user s₀ busy cast s m) {world : World}
    (hworld : world.visible = m.world.visible) (queue : List (Point × Nat)) :
    Mirrors user s₀ busy cast s { m with world, queue } :=
  h.rests h.reached h.behaves (Stays.refl s) rfl rfl rfl
    ⟨h.place.cache, hworld.trans h.place.world, h.place.desk, h.place.registry⟩

/-- The task at work accesses a system, which is not held up. -/
theorem Mirrors.access (huser : user.isText = true) (h : Mirrors user s₀ (some n) cast s m)
    (hr : r.task? cast = some n) (ht : r.strand? s = some t) {a : Access}
    {next : (Operation.access a).Reply → Program (Except Interruption γ)}
    (hprogram : t.program = .call (.access a) next) :
    ∃ s', Mirrors user s₀ (some n) cast s' { m with world := (m.world.perform a).2 } ∧
      Performs r n (next ((m.world.perform a).1.mapError .failure)) cast s' := by
  have hsame : m.world.visible = (s.place.world.begin a).visible :=
    h.place.world.trans (World.visible_begin _ a).symm
  obtain ⟨hreply, hworld⟩ := World.perform_of_visible_eq hsame a
  have hcarry : s.carry t.gathered? (.access a) = some ((m.world.perform a).1.mapError .failure,
      { s.place with world := ((s.place.world.begin a).perform a).2 }, []) := by
    rw [hreply]
    rfl
  exact h.acted huser hr ht hprogram hcarry hworld h.place.desk h.place.registry

theorem Behaves.isAbout (h : s.Behaves user) (ht : r.strand? s = some t) {op : Operation}
    {next : op.Reply → Program (Except Interruption γ)} (hprogram : t.program = .call op next) :
    op.IsAbout user := by
  cases r with
  | caller i =>
    have hmay := (h.callers t (List.mem_of_getElem? ht)).rest
    rw [hprogram] at hmay
    exact hmay.1.isAbout
  | load l =>
    have hmay := (h.loads l t ht).rest
    rw [hprogram] at hmay
    exact hmay.1.isAbout

end Stage

end HouseholdAccess
