import HouseholdAccess.Proofs.Solo.Desk
import HouseholdAccess.Proofs.Stage.Times

/-!
# Loads and those who overtake them

A load that has not ended has been overtaken, or is the one that callers join; and
that one was begun after everybody who has overtaken loads so far. So whoever
overtakes loads finds that those begun before have ended, or will not be told any
more that they have not been overtaken (`Stage.Ordered`).
-/

namespace HouseholdAccess

/-! ## The desk -/

namespace Desk

variable {d : Desk} {user : Id} {n : Nat}

theorem pendingOf_release (d : Desk) (user : Id) : (d.release user).pendingOf user = none := by
  rw [pendingOf, release, List.lookup_eq_none_iff]
  intro p hp
  have hne := (List.mem_filter.1 hp).2
  rw [decide_eq_true_iff] at hne
  exact bne_iff_ne.2 (Ne.symm hne)

theorem pendingOf_overtake (d : Desk) (user : Id) : (d.overtake user).pendingOf user = none := by
  rw [overtake]
  split
  · next h => exact h
  · exact d.pendingOf_release user

theorem isOvertaken_of_lt (hn : n < d.loads.length) : d.isOvertaken n = d.loads[n].overtaken := by
  rw [isOvertaken, List.getElem?_eq_getElem hn]

theorem lt_of_isOvertaken (h : d.isOvertaken n = true) : n < d.loads.length := by
  by_contra hle
  rw [isOvertaken, List.getElem?_eq_none (Nat.le_of_not_lt hle)] at h
  cases h

/-- The load under way is overtaken, and those that have been overtaken before stay so. -/
theorem isOvertaken_overtake (hn : n < d.loads.length)
    (h : d.isOvertaken n = true ∨ d.pendingOf user = some n) :
    (d.overtake user).isOvertaken n = true := by
  rw [overtake]
  split
  · next hnone =>
    rcases h with h | h
    · exact h
    · rw [hnone] at h
      cases h
  · next load hload =>
    have hlength : n < (d.loads.modify load ({ · with overtaken := true })).length := by
      simpa using hn
    rw [isOvertaken_of_lt hlength, List.getElem_modify]
    split
    · rfl
    · next hne =>
      rcases h with h | h
      · rwa [isOvertaken_of_lt hn] at h
      · rw [hload] at h
        exact absurd (Option.some.inj h) hne

/-- What is overtaken then is the load under way, or has been overtaken before. -/
theorem isOvertaken_or_pendingOf_of_overtake (h : (d.overtake user).isOvertaken n = true) :
    d.isOvertaken n = true ∨ d.pendingOf user = some n := by
  have hn : n < d.loads.length := d.length_loads_overtake user ▸ lt_of_isOvertaken h
  rw [overtake] at h
  split at h
  · exact .inl h
  · next load hload =>
    have hlength : n < (d.loads.modify load ({ · with overtaken := true })).length := by
      simpa using hn
    rw [isOvertaken_of_lt hlength, List.getElem_modify] at h
    split at h
    · next heq => exact .inr (heq ▸ hload)
    · exact .inl ((isOvertaken_of_lt hn).trans h)

theorem pendingOf_start (h : d.pendingOf user = none) :
    (d.start user).2.pendingOf user = some d.loads.length := by
  rw [pendingOf] at h
  rw [start, pendingOf, List.lookup_append, h]
  simp

theorem isOvertaken_start (hn : n < d.loads.length) :
    (d.start user).2.isOvertaken n = d.isOvertaken n := by
  rw [isOvertaken, isOvertaken, start, List.getElem?_append_left hn]

/-- A load that is started has not been overtaken. -/
theorem isOvertaken_of_start (h : (d.start user).2.isOvertaken n = true) :
    d.isOvertaken n = true := by
  have hn : n < d.loads.length + 1 := by
    simpa [start] using lt_of_isOvertaken h
  rcases Nat.lt_succ_iff_lt_or_eq.1 hn with hn | rfl
  · rwa [isOvertaken_start hn] at h
  · simp [isOvertaken, start] at h

theorem isOvertaken_forget (d : Desk) (load n : Nat) :
    (d.forget load).isOvertaken n = d.isOvertaken n := by
  rw [forget]
  split
  · rfl
  · split <;> rfl

theorem loads_forget (d : Desk) (n : Nat) : (d.forget n).loads = d.loads := by
  rw [forget]
  split
  · rfl
  · split <;> rfl

/-- Only the load that has ended is forgotten. -/
theorem pendingOf_forget (hn : n < d.loads.length) (husers : ∀ l ∈ d.loads, l.user = user) :
    (d.forget n).pendingOf user = none ∧ d.pendingOf user = some n ∨
      (d.forget n).pendingOf user = d.pendingOf user := by
  rw [forget]
  split
  · next hnone =>
    rw [List.getElem?_eq_none_iff] at hnone
    omega
  · next l hl =>
    obtain rfl := husers l (List.mem_of_getElem? hl)
    split
    · next hpending => exact .inl ⟨d.pendingOf_release _, hpending⟩
    · exact .inr rfl

theorem user_of_mem_overtake (husers : ∀ l ∈ d.loads, l.user = user) :
    ∀ l ∈ (d.overtake user).loads, l.user = user := by
  intro l hl
  obtain ⟨n, hn⟩ := List.mem_iff_getElem?.1 hl
  have hsame := (d.shrinks_overtake user).users n
  rw [hn] at hsame
  obtain ⟨l', hl', huser⟩ := Option.map_eq_some_iff.1 hsame.symm
  exact huser ▸ husers l' (List.mem_of_getElem? hl')

end Desk

/-- Loads read role data only before they are told that they have not been overtaken. -/
theorem LoadMay.not_passed {kind : StoreKind} {user : Id} {load : Nat} {tr : List Exchange}
    {op : Operation} (h : LoadMay kind user load tr op) (hreads : op.readsRoles = true) :
    ¬Passed load tr := by
  unfold LoadMay at h
  split at h <;> first | exact h.2 | cases hreads | exact h.elim

namespace Stage

variable {user : Id} {s s' : Stage}
  {gathered : Option (Except Interruption (List (List Id)))}

/-- What overtaking means to loads. -/
structure Ordered (user : Id) (s : Stage) : Prop where
  users : ∀ l ∈ s.place.desk.loads, l.user = user
  pending : ∀ n, s.place.desk.pendingOf user = some n → n < s.loads.length
  active : ∀ (n : Nat) (t : Strand RuleSet), s.loads[n]? = some t → t.program.result? = none →
    s.place.desk.isOvertaken n = true ∨ s.place.desk.pendingOf user = some n
  fresh : ∀ (n : Nat) (t : Strand RuleSet), s.loads[n]? = some t →
    s.place.desk.pendingOf user = some n → ∀ time, (time, .overtake user) ∈ s.log → time < t.begun
  passed : ∀ (n : Nat) (t : Strand RuleSet), s.loads[n]? = some t →
    ∀ time, (time, .overtake user) ∈ s.log → time < t.begun ∨
      ∀ passed source, ⟨passed, source, .isOvertaken n, false⟩ ∈ t.trace → passed < time
  reads : ∀ (n : Nat) (t : Strand RuleSet), s.loads[n]? = some t → ∀ read ∈ t.reads,
    ∀ passed source, ⟨passed, source, .isOvertaken n, false⟩ ∈ t.trace → read < passed

/-- What is no business of loads leaves them in order. -/
theorem Ordered.congr (hs : s.Ordered user) (hdesk : s'.place.desk = s.place.desk)
    (hloads : s'.loads = s.loads)
    (hlog : ∀ time, (time, .overtake user) ∈ s'.log → (time, .overtake user) ∈ s.log) :
    s'.Ordered user where
  users := hdesk ▸ hs.users
  pending := hdesk ▸ hloads ▸ hs.pending
  active := hdesk ▸ hloads ▸ hs.active
  fresh := hdesk ▸ hloads ▸ fun n t hn hpending time htime =>
    hs.fresh n t hn hpending time (hlog time htime)
  passed := hloads ▸ fun n t hn time htime => hs.passed n t hn time (hlog time htime)
  reads := hloads ▸ hs.reads

/-- What has overtaken loads after an operation has done so before, unless the operation does. -/
theorem mem_log_of_after {load : Option Nat} {e : Exchange} {place : Solo}
    {started : List (Strand RuleSet)} (he : e.op ≠ .overtake user) {time : Nat}
    (htime : (time, .overtake user) ∈ (s.after load e place started).log) :
    (time, .overtake user) ∈ s.log := by
  rcases mem_noted htime with htime | ⟨heq, -⟩
  · exact htime
  · exact absurd (Prod.mk.inj heq).2.symm he

/-- Overtaking the load under way. -/
theorem Ordered.overtake (hb : s.Behaves user) (ht : s.Timed) (hs : s.Ordered user)
    (load : Option Nat) (e : Exchange) :
    (s.after load e { s.place with desk := s.place.desk.overtake user } []).Ordered user := by
  have hloads : (s.after load e
      { s.place with desk := s.place.desk.overtake user } []).loads = s.loads :=
    List.append_nil s.loads
  have hpending := s.place.desk.pendingOf_overtake user
  -- No load is under way now. All that have not ended are overtaken, this time or before.
  refine ⟨?_, fun n hn => ?_, fun n t hn hresult => ?_, fun n t hn hpending' => ?_,
    fun n t hn time htime => ?_, hloads ▸ hs.reads⟩
  · exact Desk.user_of_mem_overtake hs.users
  · exact absurd (hpending.symm.trans hn) (by simp)
  · rw [hloads] at hn
    have hlength : n < s.place.desk.loads.length := by
      rw [hb.numbered]
      exact (List.getElem?_eq_some_iff.1 hn).1
    exact .inl (Desk.isOvertaken_overtake hlength (hs.active n t hn hresult))
  · exact absurd (hpending.symm.trans hpending') (by simp)
  · rw [hloads] at hn
    rcases mem_noted htime with htime | ⟨heq, -⟩
    · exact hs.passed n t hn time htime
    · obtain ⟨rfl, -⟩ := Prod.mk.inj heq
      -- What a load has been told so far it was told before now.
      exact .inr fun passed source hmem =>
        ((ht.loads t (List.mem_of_getElem? hn)).1.times _ hmem).2

/-- Starting a load, as there is none under way. -/
theorem Ordered.start (hb : s.Behaves user) (ht : s.Timed) (hs : s.Ordered user)
    (hpending : s.place.desk.pendingOf user = none) (load : Option Nat) {e : Exchange}
    (he : e.op ≠ .overtake user) {t : Strand RuleSet} (htrace : t.trace = [])
    (hreads : t.reads = [])
    (hbegun : t.begun = s.clock) :
    (s.after load e { s.place with desk := (s.place.desk.start user).2 } [t]).Ordered user := by
  have hlog (time : Nat) (htime : (time, .overtake user) ∈ (s.after load e
      { s.place with desk := (s.place.desk.start user).2 } [t]).log) :
      (time, .overtake user) ∈ s.log := mem_log_of_after he htime
  have hstart : (s.place.desk.start user).2.pendingOf user = some s.loads.length := by
    rw [Desk.pendingOf_start hpending, hb.numbered]
  refine ⟨fun l hl => ?_, fun n hn => ?_, fun n t' hn hresult => ?_,
    fun n t' hn hn' time htime => ?_, fun n t' hn time htime => ?_, fun n t' hn => ?_⟩
  · rcases List.mem_append.1 hl with hl | hl
    · exact hs.users l hl
    · obtain rfl := List.mem_singleton.1 hl
      rfl
  · obtain rfl := Option.some.inj (hstart.symm.trans hn)
    simp [Stage.after]
  · rcases getElem?_snoc_cases hn with hn | ⟨rfl, rfl⟩
    · have hlength : n < s.place.desk.loads.length := by
        rw [hb.numbered]
        exact (List.getElem?_eq_some_iff.1 hn).1
      rcases hs.active n t' hn hresult with hovertaken | hn'
      · exact .inl ((Desk.isOvertaken_start hlength).trans hovertaken)
      · rw [hpending] at hn'
        cases hn'
    · -- The load that has been started is the one under way.
      exact .inr hstart
  · -- It is begun now, after everybody who has overtaken loads.
    obtain rfl := Option.some.inj (hstart.symm.trans hn')
    rcases getElem?_snoc_cases hn with hn | ⟨-, rfl⟩
    · rw [List.getElem?_eq_none_iff.2 (Nat.le_refl _)] at hn
      cases hn
    · rw [hbegun]
      exact ht.log _ (hlog time htime)
  · rcases getElem?_snoc_cases hn with hn | ⟨-, rfl⟩
    · exact hs.passed n t' hn time (hlog time htime)
    · rw [hbegun]
      exact .inl (ht.log _ (hlog time htime))
  · rcases getElem?_snoc_cases hn with hn | ⟨-, rfl⟩
    · exact hs.reads n t' hn
    · rw [hreads]
      exact List.forall_mem_nil _

/-- What an operation does to the desk keeps the loads in order. -/
theorem Ordered.after (hb : s.Behaves user) (ht : s.Timed) (hs : s.Ordered user) {op : Operation}
    (hop : op.IsAbout user) {place : Solo} {reply : op.Reply} {started : List (Strand RuleSet)}
    (hc : s.Carried gathered op reply place started) (load : Option Nat) :
    (s.after load (s.exchange op reply) place started).Ordered user := by
  cases hc with
  | overtook v =>
    obtain rfl := hop
    exact hs.overtake hb ht load _
  | started hpending =>
    obtain rfl := hop
    exact hs.start hb ht hpending load (by simp [exchange]) rfl rfl rfl
  | _ =>
    refine hs.congr rfl (List.append_nil s.loads) fun time htime => mem_log_of_after ?_ htime
    simp [exchange]

/-- A load that goes on keeps the loads in order. -/
theorem Ordered.set (hs : s.Ordered user) {n : Nat} {t : Strand RuleSet} (t' : Strand RuleSet)
    (hn : s.loads[n]? = some t) (hbegun : t'.begun = t.begun) (hactive : t.program.result? = none)
    (hpassed : ∀ time, (time, .overtake user) ∈ s.log → time < t.begun ∨
      ∀ passed source, ⟨passed, source, .isOvertaken n, false⟩ ∈ t'.trace → passed < time)
    (hreads : ∀ read ∈ t'.reads, ∀ passed source,
      ⟨passed, source, .isOvertaken n, false⟩ ∈ t'.trace → read < passed) :
    { s with loads := s.loads.set n t' }.Ordered user where
  users := hs.users
  pending := fun m hm => by
    rw [List.length_set]
    exact hs.pending m hm
  active := fun m t'' ht'' hresult => by
    rcases getElem?_set_cases ht'' with ⟨rfl, rfl⟩ | ⟨-, ht''⟩
    · exact hs.active m t hn hactive
    · exact hs.active m t'' ht'' hresult
  fresh := fun m t'' ht'' => by
    rcases getElem?_set_cases ht'' with ⟨rfl, rfl⟩ | ⟨-, ht''⟩
    · rw [hbegun]
      exact hs.fresh m t hn
    · exact hs.fresh m t'' ht''
  passed := fun m t'' ht'' => by
    rcases getElem?_set_cases ht'' with ⟨rfl, rfl⟩ | ⟨-, ht''⟩
    · rw [hbegun]
      exact hpassed
    · exact hs.passed m t'' ht''
  reads := fun m t'' ht'' => by
    rcases getElem?_set_cases ht'' with ⟨rfl, rfl⟩ | ⟨-, ht''⟩
    · exact hreads
    · exact hs.reads m t'' ht''

/-- A load that is told that it has not been overtaken was begun after everybody who has overtaken
    loads. -/
theorem Ordered.lt_begun (hs : s.Ordered user) {n : Nat} {t : Strand RuleSet}
    (hn : s.loads[n]? = some t) (hactive : t.program.result? = none)
    (hovertaken : s.place.desk.isOvertaken n = false) {time : Nat}
    (htime : (time, .overtake user) ∈ s.log) : time < t.begun := by
  rcases hs.active n t hn hactive with h | h
  · rw [hovertaken] at h
    cases h
  · exact hs.fresh n t hn h time htime

/-- What a load is told when it asks is what the desk knows. -/
theorem Carried.told {op : Operation} {reply : op.Reply} {place : Solo}
    {started : List (Strand RuleSet)} (hc : s.Carried gathered op reply place started)
    {n passed time : Nat} {source source' : Mark}
    (h : (⟨passed, source, .isOvertaken n, false⟩ : Exchange) = ⟨time, source', op, reply⟩) :
    passed = time ∧ op = .isOvertaken n ∧ s.place.desk.isOvertaken n = false := by
  cases hc with
  | asked m =>
    rw [Exchange.mk.injEq] at h
    obtain ⟨rfl, -, hop, hreply⟩ := h
    cases hop
    exact ⟨rfl, rfl, (eq_of_heq hreply).symm⟩
  | _ => cases h

theorem Ordered.load (hb : s.Behaves user) (ht : s.Timed) (hs : s.Ordered user) {n : Nat}
    {t : Strand RuleSet} {op : Operation} {next : op.Reply → Program (Except Interruption RuleSet)}
    {reply : op.Reply} {place : Solo} (hn : s.loads[n]? = some t)
    (hprogram : t.program = .call op next)
    (hmay : LoadMay s.service.cache.store user n t.trace op)
    (hc : s.Carried t.gathered? op reply place []) :
    { s.after (some n) (s.exchange op reply) place [] with
      loads := s.loads.set n
        (t.go s.service.cache (s.exchange op reply) (next reply)) }.Ordered user := by
  have hactive : t.program.result? = none := by
    rw [hprogram]
    rfl
  have htimed := (ht.loads t (List.mem_of_getElem? hn)).1
  have hlog {time : Nat} (htime : (time, .overtake user) ∈
      (s.after (some n) (s.exchange op reply) place []).log) : (time, .overtake user) ∈ s.log := by
    refine mem_log_of_after ?_ htime
    rintro rfl
    exact hmay.elim
  -- What is new in the trace is told now, and by the desk as it is.
  have hnew {passed : Nat} {source : Mark}
      (hmem : ⟨passed, source, .isOvertaken n, false⟩ ∈ t.trace ++ [s.exchange op reply]) :
      ⟨passed, source, .isOvertaken n, false⟩ ∈ t.trace ∨
        passed = s.clock ∧ op = .isOvertaken n ∧ s.place.desk.isOvertaken n = false := by
    rcases List.mem_append.1 hmem with hmem | hmem
    · exact .inl hmem
    · exact .inr (hc.told (List.mem_singleton.1 hmem))
  have hset := (hs.after hb ht hmay.isAbout hc (some n)).set
    (t.go s.service.cache (s.exchange op reply) (next reply))
    ((congrArg (fun l => l[n]?) (List.append_nil s.loads)).trans hn) rfl hactive
    (fun time htime => ?_) fun read hread passed source hmem => ?_
  · simp only [Stage.after, List.append_nil] at hset ⊢
    exact hset
  · rcases hs.passed n t hn time (hlog htime) with hbefore | hpassed
    · exact .inl hbefore
    · -- Either the desk has nothing against the load, which is fresh then, or it tells it so now.
      by_cases hovertaken : s.place.desk.isOvertaken n = false
      · exact .inl (hs.lt_begun hn hactive hovertaken (hlog htime))
      · refine .inr fun passed source hmem => ?_
        rcases hnew hmem with hmem | ⟨-, -, hfalse⟩
        · exact hpassed passed source hmem
        · exact absurd hfalse hovertaken
  · rcases Strand.mem_readsAfter.1 hread with hread | ⟨hreads, rfl⟩
    · rcases hnew hmem with hmem | ⟨rfl, -⟩
      · exact hs.reads n t hn read hread passed source hmem
      · exact (htimed.reads read hread).2
    · -- Role data is read only by a load that has not been told yet.
      rcases hnew hmem with hmem | ⟨-, rfl, -⟩
      · exact absurd ⟨passed, source, hmem⟩ (hmay.not_passed hreads)
      · cases hreads

theorem Ordered.errand (hb : s.Behaves user) (ht : s.Timed) (hs : s.Ordered user) {n i : Nat}
    {t : Strand RuleSet} {a : Access} {reply : (Operation.access a).Reply} {place : Solo}
    {p : ErrandProgram} (hn : s.loads[n]? = some t) (hpassed : ¬Passed n t.trace)
    (hactive : t.program.result? = none) (ha : (Operation.access a).IsAbout user)
    (hc : s.Carried none (.access a) reply place []) :
    { s.after (some n) (s.exchange (.access a) reply) place [] with
      loads := s.loads.set n (t.goErrand i s.clock (.access a) p) }.Ordered user := by
  have hset := (hs.after hb ht ha hc (some n)).set (t.goErrand i s.clock (.access a) p)
    ((congrArg (fun l => l[n]?) (List.append_nil s.loads)).trans hn) rfl hactive
    (fun time htime => hs.passed n t hn time (mem_log_of_after (by simp [exchange]) htime))
    fun read _ passed source hmem => absurd ⟨passed, source, hmem⟩ hpassed
  simp only [Stage.after, List.append_nil] at hset ⊢
  exact hset

/-- Errands ask for nothing but names. -/
theorem isAbout_of_readsRoles {a : Access} (hreads : (Operation.access a).readsRoles = true)
    (hroles : ∀ v, a ≠ .roles v) : (Operation.access a).IsAbout user := by
  cases a <;> first | exact absurd rfl (hroles _) | trivial

theorem Ordered.of_moves (hb : s.Behaves user) (ht : s.Timed) (hs : s.Ordered user)
    (h : s.Moves user s') : s'.Ordered user := by
  cases h with
  | entered => exact hs.congr rfl rfl fun _ => id
  | caller hn hprogram hmay hc =>
    exact (hs.after hb ht hmay.isAbout hc none).congr rfl rfl fun _ => id
  | load hn hprogram hmay hc => exact hs.load hb ht hn hprogram hmay hc
  | errand hn hpassed hactive hreads hroles hp hc =>
    exact hs.errand hb ht hn hpassed hactive (isAbout_of_readsRoles hreads hroles) hc
  -- A load that is forgotten has ended, so that those that go on keep their places.
  | @forgot n t _ hn hprogram =>
    have hlength : n < s.place.desk.loads.length := by
      rw [hb.numbered]
      exact (List.getElem?_eq_some_iff.1 hn).1
    have hforget := Desk.pendingOf_forget hlength hs.users
    have hpending {m : Nat} (hm : (s.place.desk.forget n).pendingOf user = some m) :
        s.place.desk.pendingOf user = some m := by
      rcases hforget with ⟨hnone, -⟩ | hsame
      · rw [hnone] at hm
        cases hm
      · exact hsame.symm.trans hm
    refine ⟨?_, fun m hm => hs.pending m (hpending hm), fun m t' ht' hresult => ?_,
      fun m t' ht' hm => hs.fresh m t' ht' (hpending hm), hs.passed, hs.reads⟩
    · exact Desk.loads_forget s.place.desk n ▸ hs.users
    · rcases hs.active m t' ht' hresult with hovertaken | hm
      · exact .inl ((Desk.isOvertaken_forget ..).trans hovertaken)
      · rcases hforget with ⟨-, hn'⟩ | hsame
        · obtain rfl := Option.some.inj (hm.symm.trans hn')
          obtain rfl := Option.some.inj (hn.symm.trans ht')
          rw [hprogram] at hresult
          cases hresult
        · exact .inr (hsame.trans hm)
  | changed => exact hs.congr rfl rfl fun _ => id

theorem ordered_begin {service : Service} {world : World} {registry : Option Registry} :
    (begin service world registry).Ordered user where
  users := List.forall_mem_nil _
  pending := fun _ hn => by cases hn
  active := fun _ _ hn => by cases hn
  fresh := fun _ _ hn => by cases hn
  passed := fun _ _ hn => by cases hn
  reads := fun _ _ hn => by cases hn

end Stage

end HouseholdAccess
