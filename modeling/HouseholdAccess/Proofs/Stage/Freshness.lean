import HouseholdAccess.Proofs.Stage.Leftovers

/-!
# What lookups find after a rule set has been dropped

Dropping the rule set of a user overtakes the load under way, takes the entry out of
the cache and wipes the record, one after the other. Who looks the rule set up after
that should get what has been compiled since (`Stage.CompiledSince`), and does,
except for what has slipped through in the meantime (`Stage.Slipped`):

* a load that had been told before that it was not overtaken may put its rule set
  into the cache, or write it on the record, when that has been emptied already
  (`Stage.OnItsWay`);
* a load that was begun in the meantime may find on the record what is about to be
  wiped.

There is no other way (`Stage.compiledSince_or_slipped`).
-/

namespace HouseholdAccess

theorem RuleSet.IsLasting.loads_of_dumps {rules : RuleSet} (h : rules.IsLasting) {text : String}
    (htext : Packed.dumps rules = .ok text) : Packed.loads (.text text) = .ok rules :=
  (Packed.loads_write h.faithful htext).trans (h.unpackWithin (by decide))

namespace Stage

variable {user : Id} {s : Stage}

/-- A load has compiled the rule set, and has asked for role data only after the time. -/
def CompiledSince (s : Stage) (user : Id) (time : Nat) (rules : RuleSet) : Prop :=
  ∃ (n : Nat) (t : Strand RuleSet), s.loads[n]? = some t ∧ Compiled user t.trace rules ∧
    ∀ read ∈ t.reads, time < read

/-- How a rule set may be found though it has been dropped. -/
inductive Slipped (s : Stage) (user : Id) (d : Cache.Invalidation) (rules : RuleSet) : Prop
  /-- It was on its way, and has been put into the cache after the entry had been taken out. -/
  | put {n : Nat} {e : Exchange} {text : String} :
    s.OnItsWay n d.began e → d.deleted < e.time → Puts user text e.op →
    Packed.loads (.text text) = .ok rules → Slipped s user d rules
  /-- It was on its way, and has been written on the record after that had been wiped. -/
  | written {n : Nat} {e : Exchange} {form : Value} :
    s.OnItsWay n d.began e → d.cleared < e.time → Writes user form e.op →
    s.service.cache.store.Says form rules → Slipped s user d rules
  /-- A load that was begun in the meantime has read it on the record before that was wiped. -/
  | read {n : Nat} {t : Strand RuleSet} {time : Nat} {source : Mark} {form : Value} :
    s.loads[n]? = some t → d.began < t.begun →
    ⟨time, source, .access (.load user), .ok (some form)⟩ ∈ t.trace → time < d.cleared →
    (∀ r : RuleSet, r.IsLasting → s.service.cache.store.Says form r → r = rules) →
    Slipped s user d rules

variable {d : Cache.Invalidation} {rules : RuleSet}

/-- What a load knows that was begun since has been compiled since, or has slipped. -/
theorem IsSound.compiledSince_or_slipped_of_known (hs : s.IsSound user) (hd : s.HasDropped user d)
    {n : Nat} {t : Strand RuleSet} (hn : s.loads[n]? = some t) (hbegun : d.began < t.begun)
    {before : List Exchange} (hbefore : before ⊆ t.trace)
    (hcompiled : ∀ r, Compiled user before r → Compiled user t.trace r) {P : RuleSet → Prop}
    (hknown : Known s.service.cache.store user before P)
    (hP : ∀ r : RuleSet, r.IsLasting → P r → r = rules) :
    s.CompiledSince user d.began rules ∨ s.Slipped user d rules := by
  have hreads {m : Nat} {u : Strand RuleSet} (hm : s.loads[m]? = some u)
      (hbegun : d.began < u.begun) : ∀ read ∈ u.reads, d.began < read := fun read hread =>
    hbegun.trans ((hs.timed.loads u (List.mem_of_getElem? hm)).1.reads read hread).1
  rcases hknown with ⟨r, hr, hlasting, hPr⟩ | ⟨-, time, source, form, hmem, hform⟩
  · obtain rfl := hP r hlasting hPr
    exact .inl ⟨n, t, hn, hcompiled r hr, hreads hn hbegun⟩
  · -- The load has read a form, which a load has written, or which has been there from the start.
    obtain ⟨hstems, -, hclears⟩ :=
      hs.explained.loads t (List.mem_of_getElem? hn) _ (hbefore hmem)
    have hrules (r : RuleSet) (hlasting : r.IsLasting)
        (hsaid : s.service.cache.store.Says form r) : r = rules :=
      hP r hlasting (hform r hlasting hsaid)
    rcases hclears d.cleared hd.cleared with hwritten | hearly
    · obtain ⟨m, u, before', e, after, r, -, hm, htrace, htime, hwrites, hpassed, hr, hlasting,
        hsaid⟩ := hs.of_writes hstems (Nat.zero_lt_of_lt hwritten)
      obtain rfl := hrules r hlasting hsaid
      rcases hs.lt_begun_or_onItsWay hm htrace hpassed hd.began with hbegun' | hway
      · exact .inl ⟨m, u, hm, htrace ▸ hr.append, hreads hm hbegun'⟩
      · exact .inr (.written hway (htime ▸ hwritten) hwrites hsaid)
    · exact .inr (.read hn hbegun (hbefore hmem) hearly hrules)

/-- What a lookup answers that was begun after a rule set had been dropped. -/
theorem IsSound.compiledSince_or_slipped_of_isLookUp (hs : s.IsSound user)
    (hd : s.HasDropped user d) {q : List Exchange} (hq : ∀ e ∈ q, s.Explains user e)
    (hlookUp : Cache.IsLookUp user rules q)
    (horder : ∀ e ∈ q, d.began < e.time ∧ d.deleted < e.time) :
    s.CompiledSince user d.began rules ∨ s.Slipped user d rules := by
  cases hlookUp with
  | @hit time _ source _ text hloads =>
    -- The entry that is found was put there after the one before was taken out, by a load.
    obtain ⟨hstems, -, hdeletes⟩ := hq _ List.mem_cons_self
    have hlate := (horder _ List.mem_cons_self).2
    have hput : d.deleted < source.time :=
      (hdeletes d.deleted hd.deleted).resolve_right fun h => absurd (hlate.trans h) (lt_irrefl _)
    obtain ⟨n, t, before, e, after, -, hn, htrace, htime, hputs, hpassed, hknown⟩ :=
      hs.of_puts hstems (Nat.zero_lt_of_lt hput)
    rcases hs.lt_begun_or_onItsWay hn htrace hpassed hd.began with hbegun | hway
    · refine hs.compiledSince_or_slipped_of_known hd hn hbegun
        (htrace ▸ List.subset_append_left _ _) (fun r hr => htrace ▸ hr.append) hknown
        fun r hlasting hdumps => ?_
      rw [hlasting.loads_of_dumps hdumps] at hloads
      cases hloads
      rfl
    · exact .inr (.put hway (htime ▸ hput) hputs hloads)
  | @joined before time _ source _ n =>
    obtain ⟨t, hn, hovertakes⟩ := hq ⟨time, source, .joinLoad user, n⟩
      (List.mem_append_right _ List.mem_cons_self)
    obtain ⟨t', hn', hdone⟩ := hq _
      (List.mem_append_right _ (List.mem_cons_of_mem _ (List.mem_singleton.2 rfl)))
    obtain rfl := Option.some.inj (hn.symm.trans hn')
    have hlate := (horder _ (List.mem_append_right before List.mem_cons_self)).1
    -- The load that is joined is not one that had been overtaken, so that it was begun later.
    have hbegun : d.began < t.begun :=
      (hovertakes d.began hd.began).resolve_right fun h => absurd (hlate.trans h) (lt_irrefl _)
    have hends : LoadEnds s.service.cache.store user n t.trace (.ok rules) := by
      have hrest := (hs.behaves.loads n t hn).rest
      rw [hdone] at hrest
      exact hrest
    exact hs.compiledSince_or_slipped_of_known hd hn hbegun (List.Subset.refl _) (fun _ => id)
      (hends.answers rules rfl) fun r _ hr => hr.symm

/-- What a lookup answers that begins after the rule set of the user has been dropped has been
    compiled from role data that was read since that began, unless it has slipped through. -/
theorem compiledSince_or_slipped {service : Service} {world : World} {registry : Option Registry}
    (huser : user.isText = true) (hworld : world.IsProper)
    (hs : Reached user (begin service world registry) s) {w v : Strand Answer}
    (hw : w ∈ s.callers) (hv : v ∈ s.callers) {part q : List Exchange} (hpart : part <:+: w.trace)
    (hdrops : (s.service.cache.invalidate user).run.Follows part (.ok ())) (hq : q <:+: v.trace)
    (hlookUp : (s.service.cache.lookUp user).run.Follows q (.ok rules))
    (horder : ∀ e ∈ part, ∀ e' ∈ q, e.time < e'.time) :
    ∃ d, Cache.IsInvalidation user d part ∧
      (s.CompiledSince user d.began rules ∨ s.Slipped user d rules) := by
  have hsound := hs.isSound huser hworld
  cases Cache.drops_of_follows hdrops fun e he =>
    (hsound.behaves.callers w hw).sound e (hpart.subset he) with
  | @dropped d _ hd =>
    refine ⟨d, hd, hsound.compiledSince_or_slipped_of_isLookUp (hsound.hasDropped hw hpart hd)
      (fun e he => hsound.explained.callers v hv e (hq.subset he))
      (Cache.isLookUp_of_follows hlookUp fun e he =>
        (hsound.behaves.callers v hv).sound e (hq.subset he)) fun e he => ?_⟩
    obtain ⟨⟨_, hbegan⟩, ⟨_, _, hdeleted⟩, -⟩ := hd.mem
    exact ⟨horder _ hbegan e he, horder _ hdeleted e he⟩

/-! ### After dropping -/

/-- The rule set is dropped, and looked up after that. -/
def freshTurns : List Turn :=
  Turn.drop someone 0 ++ Turn.miss someone 1 ++ Turn.finish 1 0 13

/-- The rule set that is looked up has been compiled since, or has slipped through. -/
theorem compiledSince_or_slipped_someone : someone.isText = true ∧ World.IsProper {} ∧
    ∃ s rules, Reached someone (begin {} {} none) s ∧ ∃ w ∈ s.callers, ∃ v ∈ s.callers,
      (s.service.cache.invalidate someone).run.Follows w.trace (.ok ()) ∧
      (s.service.cache.lookUp someone).run.Follows v.trace (.ok rules) ∧
      (∀ e ∈ w.trace, ∀ e' ∈ v.trace, e.time < e'.time) ∧
      ∃ d, Cache.IsInvalidation someone d w.trace ∧
        (s.CompiledSince someone d.began rules ∨ s.Slipped someone d rules) := by
  have hplays : (begin {} {} none).Plays freshTurns fun s =>
      ∃ w ∈ s.callers, ∃ v ∈ s.callers, (Cache.invalidation? someone w.trace).isSome ∧
        (Cache.answer? someone v.trace).isSome ∧
        ∀ e ∈ w.trace, ∀ e' ∈ v.trace, e.time < e'.time := by decide +kernel
  obtain ⟨s, hs, w, hw, v, hv, hd, hrules, horder⟩ :=
    hplays.exists_reached someone (by simp [freshTurns])
  obtain ⟨d, hd⟩ := Option.isSome_iff_exists.1 hd
  obtain ⟨rules, hrules⟩ := Option.isSome_iff_exists.1 hrules
  have hdrops := (Cache.isInvalidation_of_invalidation? hd).follows (c := s.service.cache)
  have hlookUp := Cache.follows_of_answer? (c := s.service.cache) hrules
  exact ⟨rfl, isProper_emptyWorld, s, rules, hs, w, hw, v, hv, hdrops, hlookUp, horder,
    compiledSince_or_slipped rfl isProper_emptyWorld hs hw hv List.infix_rfl hdrops List.infix_rfl
      hlookUp horder⟩

/-- A record that says that the user may do everything. -/
def grantedWorld : World := { forms := [(someone, .list [.list [.text "manage", .text "all"]])] }

/-- Between taking the entry out of the cache and wiping the record, a load reads the record. -/
def betweenTurns : List Turn :=
  [.enter (.invalidate someone), .caller 0, .caller 0] ++ Turn.miss someone 1 ++
    Turn.finish 1 0 4 ++ [.caller 0, .caller 0, .enter (.get someone), .caller 2, .caller 2]

/-- What is looked up after the rule set has been dropped need not have been compiled since, though
    nothing fails. -/
theorem not_forall_compiledSince : ¬∀ (s : Stage) (w v : Strand Answer) (d : Cache.Invalidation)
    (rules : RuleSet), Reached someone (begin {} grantedWorld none) s → s.Succeeds →
    w ∈ s.callers → v ∈ s.callers → Cache.IsInvalidation someone d w.trace →
    (s.service.cache.lookUp someone).run.Follows v.trace (.ok rules) →
    (∀ e ∈ w.trace, ∀ e' ∈ v.trace, e.time < e'.time) →
    s.CompiledSince someone d.began rules := by
  have hplays : (begin {} grantedWorld none).Plays betweenTurns fun s =>
      s.Succeeds ∧ (∀ t ∈ s.loads, t.reads = []) ∧ ∃ w ∈ s.callers, ∃ v ∈ s.callers,
        (Cache.invalidation? someone w.trace).isSome ∧ (Cache.answer? someone v.trace).isSome ∧
        ∀ e ∈ w.trace, ∀ e' ∈ v.trace, e.time < e'.time := by decide +kernel
  obtain ⟨s, hs, hsucceeds, hreads, w, hw, v, hv, hd, hrules, horder⟩ :=
    hplays.exists_reached someone (by simp [betweenTurns, Turn.IsAbout, Call.IsAbout])
  obtain ⟨d, hd⟩ := Option.isSome_iff_exists.1 hd
  obtain ⟨rules, hrules⟩ := Option.isSome_iff_exists.1 hrules
  intro hall
  obtain ⟨n, t, hn, hcompiled, -⟩ := hall s w v d rules hs hsucceeds hw hv
    (Cache.isInvalidation_of_invalidation? hd) (Cache.follows_of_answer? hrules) horder
  -- Nobody has asked for role data, so that nothing has been compiled.
  have hmem := List.mem_of_getElem? hn
  have hproper : grantedWorld.IsProper :=
    ⟨⟨List.forall_mem_nil _, List.forall_mem_nil _⟩, List.Pairwise.nil⟩
  obtain ⟨e, he, hop⟩ := hcompiled.asked
  have hnoted := ((hs.isSound rfl hproper).timed.loads t hmem).1.noted e he (by rw [hop]; rfl)
  rw [hreads t hmem] at hnoted
  cases hnoted

end Stage

end HouseholdAccess
