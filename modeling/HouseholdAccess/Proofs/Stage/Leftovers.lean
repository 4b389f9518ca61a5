import HouseholdAccess.Proofs.Stage.Playing
import HouseholdAccess.Proofs.Stage.Provenance

/-!
# What overtaken loads leave behind

Whoever drops the rule set of a user overtakes the load under way, which should leave
nothing behind then: it does so neither in the cache nor on the record once it is told
that it has been overtaken. But it asks before it puts something somewhere, and that
may take a while (`Stage.OnItsWay`).

* On the record this does no harm in the end. The load asks again after it has written,
  and wipes the record then: at rest, what is written on the record has been compiled by
  a load that was begun after everybody who has overtaken loads, unless somebody could
  not take the entry out of the cache and has left the record alone
  (`Stage.exists_compiled_of_atRest`).
* In the cache it stays: an entry of an overtaken load is one that was on its way when
  the load was overtaken, and that has got there after the entry was taken out
  (`Stage.onItsWay_of_entryOf`).
-/

namespace HouseholdAccess

/-- Whether the operation writes on a record, or wipes it. -/
def Operation.changesRecord : Operation → Bool
  | .access (.save ..) | .access (.clear _) => true
  | _ => false

namespace Stage

variable {user : Id} {s : Stage} {d : Cache.Invalidation}

/-! ## What is on its way -/

/-- Before the given time the load has been told that it had not been overtaken, and the next thing
    that it has done, at the time of the exchange, is the exchange. -/
def OnItsWay (s : Stage) (n : Nat) (began : Nat) (e : Exchange) : Prop :=
  ∃ t before told source after, s.loads[n]? = some t ∧
    t.trace = before ++ ⟨told, source, .isOvertaken n, false⟩ :: e :: after ∧ told < began

/-- A load that writes on the record or into the cache was begun after everybody who has overtaken
    loads, except for those who have done so while that was on its way. -/
theorem IsSound.lt_begun_or_onItsWay (hs : s.IsSound user) {n : Nat} {t : Strand RuleSet}
    (hn : s.loads[n]? = some t) {before after : List Exchange} {e : Exchange}
    (htrace : t.trace = before ++ e :: after) (hpassed : JustPassed n before) {began : Nat}
    (hbegan : (began, .overtake user) ∈ s.log) : began < t.begun ∨ s.OnItsWay n began e := by
  obtain ⟨before, told, source, rfl⟩ := hpassed
  rw [List.append_assoc] at htrace
  refine (hs.ordered.passed n t hn began hbegan).imp_right fun hpassed => ?_
  -- It has been told so just before the exchange, and was overtaken after that.
  refine ⟨t, before, told, source, after, hn, htrace, hpassed told source ?_⟩
  rw [htrace]
  exact List.mem_append_right _ List.mem_cons_self

/-- What has been put into the cache since the start has been put there by a load. -/
theorem IsSound.of_puts (hs : s.IsSound user) {mark : Mark} {text : String}
    (hstems : s.Stems mark (Puts user text)) (hmark : 0 < mark.time) :
    ∃ n t before e after, mark.load = some n ∧ s.loads[n]? = some t ∧
      t.trace = before ++ e :: after ∧ e.time = mark.time ∧ Puts user text e.op ∧
      JustPassed n before ∧
      Known s.service.cache.store user before fun rules => Packed.dumps rules = .ok text := by
  rcases hstems with ⟨-, htime⟩ | ⟨n, t, e, hload, hn, he, htime, hputs⟩
  · omega
  obtain ⟨before, after, htrace⟩ := List.append_of_mem he
  have hmay := (hs.behaves.loads n t hn).done before e after htrace
  obtain ⟨seconds, hop⟩ := hputs
  rw [hop] at hmay
  exact ⟨n, t, before, e, after, hload, hn, htrace, htime, ⟨seconds, hop⟩, hmay.2.1, hmay.2.2⟩

/-- What has been written on the record since the start has been written there by a load. -/
theorem IsSound.of_writes (hs : s.IsSound user) {mark : Mark} {form : Value}
    (hstems : s.Stems mark (Writes user form)) (hmark : 0 < mark.time) :
    ∃ n t before e after rules, mark.load = some n ∧ s.loads[n]? = some t ∧
      t.trace = before ++ e :: after ∧ e.time = mark.time ∧ Writes user form e.op ∧
      JustPassed n before ∧ Compiled user before rules ∧ rules.IsLasting ∧
      s.service.cache.store.Says form rules := by
  rcases hstems with ⟨-, htime⟩ | ⟨n, t, e, hload, hn, he, htime, hwrites⟩
  · omega
  obtain ⟨before, after, htrace⟩ := List.append_of_mem he
  have hmay := (hs.behaves.loads n t hn).done before e after htrace
  rw [show e.op = _ from hwrites] at hmay
  obtain ⟨-, hpassed, rules, hcompiled, hlasting, hsaid⟩ := hmay
  exact ⟨n, t, before, e, after, rules, hload, hn, htrace, htime, hwrites, hpassed, hcompiled,
    hlasting, hsaid⟩

/-! ## What has been dropped -/

/-- The operations of dropping the rule set have taken effect when it says. -/
structure HasDropped (s : Stage) (user : Id) (d : Cache.Invalidation) : Prop where
  began : (d.began, .overtake user) ∈ s.log
  deleted : (d.deleted, .access (.cacheDelete user)) ∈ s.log
  cleared : (d.cleared, .access (.clear user)) ∈ s.log

/-- Who has dropped a rule set has carried out the operations that this consists of. -/
theorem IsSound.hasDropped (hs : s.IsSound user) {w : Strand Answer} (hw : w ∈ s.callers)
    {part : List Exchange} (hpart : part <:+: w.trace) (hd : Cache.IsInvalidation user d part) :
    s.HasDropped user d := by
  obtain ⟨⟨_, hbegan⟩, ⟨_, _, hdeleted⟩, ⟨_, hcleared⟩⟩ := hd.mem
  have hlogged := (hs.timed.callers w hw).2
  exact ⟨hlogged _ (hpart.subset hbegan) rfl, hlogged _ (hpart.subset hdeleted) rfl,
    hlogged _ (hpart.subset hcleared) rfl⟩

/-! ## In the cache -/

/-- If the entry in the cache comes from a load that was begun before the rule set was dropped, it
    was on its way then, and has got there after the entry before it had been taken out. -/
theorem onItsWay_of_entryOf {service : Service} {world : World} {registry : Option Registry}
    (huser : user.isText = true) (hworld : world.IsProper)
    (hs : Reached user (begin service world registry) s) {w : Strand Answer} (hw : w ∈ s.callers)
    {part : List Exchange} (hpart : part <:+: w.trace)
    (hdrops : (s.service.cache.invalidate user).run.Follows part (.ok ())) :
    ∃ d, Cache.IsInvalidation user d part ∧ ∀ (n : Nat) (t : Strand RuleSet) (x : CacheEntry),
      s.loads[n]? = some t → t.begun < d.began → s.place.world.entryOf user = some x →
      s.entry.load = some n → ∃ e, s.OnItsWay n d.began e ∧ Puts user x.text e.op ∧
        e.time = s.entry.time ∧ d.deleted < e.time := by
  have hsound := hs.isSound huser hworld
  cases Cache.drops_of_follows hdrops fun e he =>
    (hsound.behaves.callers w hw).sound e (hpart.subset he) with
  | @dropped d _ hd =>
    refine ⟨d, hd, fun n t x hn hbegun hx hload => ?_⟩
    have hdropped := hsound.hasDropped hw hpart hd
    obtain ⟨hmem, hkey⟩ := World.exists_mem_of_entryOf huser hx
    obtain ⟨hstems, hdeletes⟩ := hsound.marked.entry x hmem hkey
    -- The entry is there, so that it was put there after the one before was taken out.
    have hput := hdeletes d.deleted hdropped.deleted
    obtain ⟨m, t', before, e, after, hload', hm, htrace, htime, hputs, hpassed, -⟩ :=
      hsound.of_puts hstems (Nat.zero_lt_of_lt hput)
    obtain rfl := Option.some.inj (hload.symm.trans hload')
    obtain rfl := Option.some.inj (hn.symm.trans hm)
    -- A load that was begun before is not one that was begun after.
    rcases hsound.lt_begun_or_onItsWay hm htrace hpassed hdropped.began with hlate | hway
    · exact absurd (hbegun.trans hlate) (lt_irrefl _)
    · exact ⟨e, hway, hputs, htime, htime ▸ hput⟩

/-- A user. -/
def someone : Id := .text "u1"

/-- A service with a shared cache. -/
def sharedService : Service := { cache := { kind := .shared } }

/-- A shared cache without entries, and a record that says that the user has no rules. -/
def writtenWorld : World := { cacheKind := .shared, forms := [(someone, .list [])] }

/-- The rule set of the user is dropped while the load is about to put it into the cache. -/
def lateTurns : List Turn :=
  Turn.miss someone 0 ++ List.replicate 3 (.load 0) ++ Turn.drop someone 1 ++ Turn.finish 0 0 1

theorem isProper_writtenWorld : writtenWorld.IsProper :=
  ⟨⟨List.forall_mem_nil _, List.forall_mem_nil _⟩, List.Pairwise.nil⟩

/-- The entry comes from a load that was under way when somebody dropped the rule set. -/
structure IsLate (s : Stage) (w : Strand Answer) (d : Cache.Invalidation) (t : Strand RuleSet)
    (x : CacheEntry) : Prop where
  succeeds : s.Succeeds
  caller : w ∈ s.callers
  drops : Cache.IsInvalidation someone d w.trace
  load : s.loads[0]? = some t
  begun : t.begun < d.began
  goesOn : ∃ e ∈ t.trace, d.began < e.time
  ended : t.program.result?.isSome
  entry : s.place.world.entryOf someone = some x
  mark : s.entry.load = some 0

theorem exists_isLate :
    ∃ s, Reached someone (begin sharedService writtenWorld none) s ∧
      ∃ w d t x, s.IsLate w d t x := by
  have hplays : (begin sharedService writtenWorld none).Plays lateTurns fun s =>
      s.Succeeds ∧ s.entry.load = some 0 ∧ (s.place.world.entryOf someone).isSome ∧
        ∃ w ∈ s.callers, (Cache.invalidation? someone w.trace).any fun d =>
          (s.loads[0]?).any fun t => t.begun < d.began ∧ t.program.result?.isSome ∧
            ∃ e ∈ t.trace, d.began < e.time := by decide +kernel
  obtain ⟨s, hs, hsucceeds, hmark, hentry, w, hw, hd⟩ :=
    hplays.exists_reached someone (by simp [lateTurns, Turn.IsAbout])
  obtain ⟨d, hd, ht⟩ := (Option.any_eq_true ..).1 hd
  obtain ⟨t, ht, hlate⟩ := (Option.any_eq_true ..).1 ht
  obtain ⟨hbegun, hended, hgoesOn⟩ := of_decide_eq_true hlate
  obtain ⟨x, hx⟩ := Option.isSome_iff_exists.1 hentry
  exact ⟨s, hs, w, d, t, x, hsucceeds, hw, Cache.isInvalidation_of_invalidation? hd, ht, hbegun,
    hgoesOn, hended, hx, hmark⟩

/-- An overtaken load may leave an entry in the cache, though nothing fails. -/
theorem not_forall_entryOf_not_overtaken : ¬∀ (s : Stage) (w : Strand Answer)
    (d : Cache.Invalidation) (n : Nat) (t : Strand RuleSet) (x : CacheEntry),
    Reached someone (begin sharedService writtenWorld none) s → s.Succeeds → w ∈ s.callers →
    Cache.IsInvalidation someone d w.trace → s.loads[n]? = some t → t.begun < d.began →
    (∃ e ∈ t.trace, d.began < e.time) → t.program.result?.isSome →
    s.place.world.entryOf someone = some x → s.entry.load ≠ some n := by
  obtain ⟨s, hs, w, d, t, x, h⟩ := exists_isLate
  exact fun hall => hall s w d 0 t x hs h.succeeds h.caller h.drops h.load h.begun h.goesOn h.ended
    h.entry h.mark

/-- That entry was on its way. -/
theorem onItsWay_of_entryOf_someone : someone.isText = true ∧ writtenWorld.IsProper ∧
    ∃ s, Reached someone (begin sharedService writtenWorld none) s ∧ ∃ w ∈ s.callers,
      (s.service.cache.invalidate someone).run.Follows w.trace (.ok ()) ∧
      ∃ d t x, Cache.IsInvalidation someone d w.trace ∧ s.loads[0]? = some t ∧ t.begun < d.began ∧
        s.place.world.entryOf someone = some x ∧ s.entry.load = some 0 ∧
        ∃ e, s.OnItsWay 0 d.began e ∧ Puts someone x.text e.op ∧ e.time = s.entry.time ∧
          d.deleted < e.time := by
  obtain ⟨s, hs, w, d, t, x, h⟩ := exists_isLate
  have hfollows := h.drops.follows (c := s.service.cache)
  obtain ⟨d', hd', hway⟩ := onItsWay_of_entryOf rfl isProper_writtenWorld hs h.caller
    List.infix_rfl hfollows
  obtain rfl := hd'.unique h.drops
  exact ⟨rfl, isProper_writtenWorld, s, hs, w, h.caller, hfollows, d', t, x, h.drops, h.load,
    h.begun, h.entry, h.mark, hway 0 t x h.load h.begun h.entry h.mark⟩

/-! ## On the record -/

/-- No load and nobody who drops the rule set of the user is under way. -/
structure AtRest (user : Id) (s : Stage) : Prop where
  loads : ∀ t ∈ s.loads, t.program.result?.isSome
  callers : ∀ w ∈ s.callers, ∀ e ∈ w.trace, e.op = .overtake user → ∃ part r,
    e ∈ part ∧ part <:+: w.trace ∧ (s.service.cache.invalidate user).run.Follows part r

/-- Nothing that has been done to the record has been refused. -/
structure KeepsRecord (s : Stage) : Prop where
  loads : ∀ t ∈ s.loads, ∀ e ∈ t.trace, e.op.changesRecord = true → e.tookEffect = true
  callers : ∀ w ∈ s.callers, ∀ e ∈ w.trace, e.op.changesRecord = true → e.tookEffect = true

/-- Whoever has overtaken loads with the exchange could not take the entry out of the cache. -/
def NotDeleted (user : Id) (tr : List Exchange) (e : Exchange) : Prop :=
  ∃ time source f,
    [e, ⟨time, source, .access (.cacheDelete user), .error (.failure f)⟩] <:+: tr

/-- A load that has ended has not left anything on the record that it has written before somebody
    wiped it who had overtaken the load. -/
theorem IsSound.lt_begun_of_writes (hs : s.IsSound user) (hrecord : s.KeepsRecord) {n : Nat}
    {t : Strand RuleSet} (hn : s.loads[n]? = some t) (hended : t.program.result?.isSome)
    {before after : List Exchange} {e : Exchange} {form : Value}
    (htrace : t.trace = before ++ e :: after) (hwrites : Writes user form e.op)
    (hlast : ∀ time, (time, .access (.clear user)) ∈ s.log → time < e.time) {began : Nat}
    (hbegan : (began, .overtake user) ∈ s.log) (hlate : began < e.time) : began < t.begun := by
  have hmem := List.mem_of_getElem? hn
  obtain ⟨htimed, hlogged⟩ := hs.timed.loads t hmem
  refine (hs.ordered.passed n t hn began hbegan).resolve_right fun hpassed => ?_
  -- What the load has done after it has written, it has done later.
  have hafter : ∀ e' ∈ after, e.time < e'.time := by
    have hincreasing := htimed.increasing
    rw [htrace, List.pairwise_append, List.pairwise_cons] at hincreasing
    exact hincreasing.2.1.1
  have hin : e :: after ⊆ t.trace := htrace ▸ List.subset_append_right _ _
  obtain ⟨r, hr⟩ := Option.isSome_iff_exists.1 hended
  have hends := (hs.behaves.loads n t hn).rest
  rw [Program.result?_eq_some hr] at hends
  have heffect : e.tookEffect = true :=
    hrecord.loads t hmem e (hin List.mem_cons_self) (by rw [show e.op = _ from hwrites]; rfl)
  obtain ⟨time, source, op, reply⟩ := e
  obtain rfl : op = .access (.save user form) := hwrites
  cases reply with
  | error => cases heffect
  | ok answer =>
    rcases hends.checked before time source form after htrace with
      ⟨told, source', htold⟩ | ⟨e', he', hop⟩
    · -- It was told again after it had written, but was overtaken before it wrote.
      have hearly := hpassed told source' (hin (List.mem_cons_of_mem _ htold))
      exact absurd (hearly.trans (hlate.trans (hafter _ htold))) (lt_irrefl _)
    · -- It has wiped the record after it had written, but the last wiping was before that.
      have hin' := hin (List.mem_cons_of_mem _ he')
      have hcleared := hrecord.loads t hmem e' hin' (by rw [hop]; rfl)
      have hlog := hlogged e' hin' hcleared
      rw [hop] at hlog
      exact absurd ((hlast _ hlog).trans (hafter _ he')) (lt_irrefl _)

/-- At rest, what a load has written on the record has been compiled by it, and the load was begun
    after everybody who has overtaken loads, except for those who could not take the entry out of
    the cache. -/
theorem exists_compiled_of_atRest {service : Service} {world : World} {registry : Option Registry}
    (huser : user.isText = true) (hworld : world.IsProper)
    (hs : Reached user (begin service world registry) s) (hrest : s.AtRest user)
    (hrecord : s.KeepsRecord) {form : Value} (hform : s.place.world.formOf user = some form)
    {n : Nat} (hload : s.form.load = some n) :
    ∃ t rules, s.loads[n]? = some t ∧ Compiled user t.trace rules ∧
      s.service.cache.store.Says form rules ∧
      ∀ w ∈ s.callers, ∀ e ∈ w.trace, e.op = .overtake user →
        e.time < t.begun ∨ NotDeleted user w.trace e := by
  have hsound := hs.isSound huser hworld
  obtain ⟨hstems, hclears⟩ := hsound.marked.form form (lookup_of_formOf huser hform)
  have hwritten : 0 < s.form.time := by
    rcases hstems with ⟨hnone, -⟩ | ⟨_, t, e, _, hm, he, htime, -⟩
    · rw [hnone] at hload
      cases hload
    · exact htime ▸ Nat.zero_lt_of_lt
        ((hsound.timed.loads t (List.mem_of_getElem? hm)).1.times e he).1
  obtain ⟨m, t, before, e, after, rules, hload', hm, htrace, htime, hwrites, -, hcompiled, -,
    hsaid⟩ := hsound.of_writes hstems hwritten
  obtain rfl := Option.some.inj (hload.symm.trans hload')
  refine ⟨t, rules, hm, htrace ▸ hcompiled.append, hsaid, fun w hw e' he' hop => ?_⟩
  obtain ⟨part, r, hpart', hpart, hfollows⟩ := hrest.callers w hw e' he' hop
  cases Cache.drops_of_follows hfollows fun e he =>
    (hsound.behaves.callers w hw).sound e (hpart.subset he) with
  | @dropped d _ hd =>
    have hdropped := hsound.hasDropped hw hpart hd
    have htimes := hd.began_lt_cleared
      ((hsound.timed.callers w hw).1.increasing.sublist hpart.sublist)
    -- The record was wiped in the end, and the form is there, so that it was written after that.
    rw [hd.time_eq hpart' hop]
    exact .inl (hsound.lt_begun_of_writes hrecord hm (hrest.loads t (List.mem_of_getElem? hm))
      htrace hwrites (htime ▸ hclears) hdropped.began
      (htimes.trans (htime ▸ hclears d.cleared hdropped.cleared)))
  | @notDeleted time time' source source' f f' =>
    refine .inr ⟨time', source', f, ?_⟩
    rcases List.mem_cons.1 hpart' with rfl | hpart'
    · exact hpart
    · obtain rfl := List.mem_singleton.1 hpart'
      cases hop
  | notCleared =>
    have heffect := hrecord.callers w hw _
      (hpart.subset (List.mem_cons_of_mem _ (List.mem_cons_of_mem _ List.mem_cons_self))) rfl
    cases heffect

/-- Callers and loads that have ended are at rest. -/
theorem atRest_of_isOver (hloads : ∀ t ∈ s.loads, t.program.result?.isSome)
    (hcallers : ∀ w ∈ s.callers, Cache.isOver user w.trace = true) : s.AtRest user where
  loads := hloads
  callers := fun w hw e he hop => by
    obtain ⟨r, hr⟩ := Cache.exists_follows_of_isOver (c := s.service.cache) (hcallers w hw) he hop
    exact ⟨w.trace, r, he, List.infix_rfl, hr⟩

theorem Succeeds.keepsRecord (h : s.Succeeds) : s.KeepsRecord :=
  ⟨fun t ht e he _ => h.2 t ht e he, fun w hw e he _ => h.1 w hw e he⟩

/-- The rule set is compiled and kept, dropped, and compiled and kept again. -/
def againTurns : List Turn :=
  Turn.miss someone 0 ++ Turn.finish 0 0 13 ++ Turn.drop someone 1 ++ Turn.miss someone 2 ++
    Turn.finish 2 1 13

theorem isProper_emptyWorld : World.IsProper {} :=
  ⟨⟨List.forall_mem_nil _, List.forall_mem_nil _⟩, List.Pairwise.nil⟩

/-- What is kept again has been compiled again. -/
theorem exists_compiled_of_atRest_someone : someone.isText = true ∧ World.IsProper {} ∧
    ∃ s, Reached someone (begin {} {} none) s ∧ s.AtRest someone ∧ s.KeepsRecord ∧
      ∃ form, s.place.world.formOf someone = some form ∧ s.form.load = some 1 ∧
        ∃ t rules, s.loads[1]? = some t ∧ Compiled someone t.trace rules ∧
          s.service.cache.store.Says form rules ∧
          ∀ w ∈ s.callers, ∀ e ∈ w.trace, e.op = .overtake someone →
            e.time < t.begun ∨ NotDeleted someone w.trace e := by
  have hplays : (begin {} {} none).Plays againTurns fun s =>
      s.Succeeds ∧ s.form.load = some 1 ∧ (s.place.world.formOf someone).isSome ∧
        (∀ t ∈ s.loads, t.program.result?.isSome) ∧
        ∀ w ∈ s.callers, Cache.isOver someone w.trace = true := by decide +kernel
  obtain ⟨s, hs, hsucceeds, hload, hform, hloads, hcallers⟩ :=
    hplays.exists_reached someone (by simp [againTurns])
  obtain ⟨form, hform⟩ := Option.isSome_iff_exists.1 hform
  have hrest := atRest_of_isOver hloads hcallers
  exact ⟨rfl, isProper_emptyWorld, s, hs, hrest, hsucceeds.keepsRecord, form, hform, hload,
    exists_compiled_of_atRest rfl isProper_emptyWorld hs hrest hsucceeds.keepsRecord hform hload⟩

/-- The rule set is compiled and kept, and cannot be taken out of the cache when it is to be
    dropped. -/
def refusedTurns : List Turn :=
  Turn.miss someone 0 ++ Turn.finish 0 0 13 ++
    [.change (.fail .cacheDelete (.outside .connection "connection lost")),
      .enter (.invalidate someone), .caller 1, .caller 1]

/-- At rest, what is written on the record may have been compiled by a load that was begun before
    somebody has overtaken loads, though nothing that was done to the record has been refused. -/
theorem not_forall_lt_begun : ¬∀ (s : Stage) (w : Strand Answer) (e : Exchange) (n : Nat)
    (t : Strand RuleSet) (form : Value),
    Reached someone (begin sharedService { cacheKind := .shared } none) s → s.AtRest someone →
    s.KeepsRecord → s.place.world.formOf someone = some form → s.form.load = some n →
    s.loads[n]? = some t → w ∈ s.callers → e ∈ w.trace → e.op = .overtake someone →
    e.time < t.begun := by
  have hplays : (begin sharedService { cacheKind := .shared } none).Plays refusedTurns fun s =>
      s.form.load = some 0 ∧ (s.place.world.formOf someone).isSome ∧
        (∀ t ∈ s.loads, t.program.result?.isSome) ∧
        (∀ w ∈ s.callers, Cache.isOver someone w.trace = true) ∧
        (∀ t ∈ s.loads, ∀ e ∈ t.trace, e.tookEffect = true) ∧
        (∀ w ∈ s.callers, ∀ e ∈ w.trace, e.op.changesRecord = false) ∧
        ∃ w ∈ s.callers, (Cache.refusal? someone w.trace).any fun e =>
          (s.loads[0]?).any fun t => t.begun < e.time := by decide +kernel
  obtain ⟨s, hs, hload, hform, hloads, hcallers, hkept, hleft, w, hw, he⟩ :=
    hplays.exists_reached someone
      (by simp [refusedTurns, Turn.IsAbout, Call.IsAbout, Change.IsUsual])
  obtain ⟨e, hrefusal, ht⟩ := (Option.any_eq_true ..).1 he
  obtain ⟨t, ht, hbegun⟩ := (Option.any_eq_true ..).1 ht
  obtain ⟨form, hform⟩ := Option.isSome_iff_exists.1 hform
  obtain ⟨hmem, hop, -⟩ := Cache.of_refusal? (c := s.service.cache) hrefusal
  have hrecord : s.KeepsRecord := by
    refine ⟨fun t ht e he _ => hkept t ht e he, fun w hw e he hchanges => ?_⟩
    rw [hleft w hw e he] at hchanges
    cases hchanges
  intro hall
  have hlate := hall s w e 0 t form hs (atRest_of_isOver hloads hcallers) hrecord hform hload ht hw
    hmem hop
  exact absurd (hlate.trans (of_decide_eq_true hbegun)) (lt_irrefl _)

end Stage

end HouseholdAccess
