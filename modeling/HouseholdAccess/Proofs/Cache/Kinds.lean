import HouseholdAccess.Proofs.Cache.Expiry
import HouseholdAccess.Proofs.Cache.Fallback
import HouseholdAccess.Proofs.Cache.Twins
import HouseholdAccess.Proofs.Session.Routine
import HouseholdAccess.Proofs.Solo.Ending

/-!
# Caches of either kind

A local cache and a shared one *match* (`World.Matches`) when the same entries last in them,
whatever else a local cache still holds. As long as the systems are in order, what a caller
does alone comes to the same with both, and they match afterwards (`Program.Twins.solo`):
only what taking an entry out says may differ, which nobody looks at.
-/

namespace HouseholdAccess

open HouseholdAccess.Flow

/-! ## Worlds that match -/

/-- The access is to role data, to a record, or to the entry for a user whose name is a text; what
    is put into the cache stays for a span of time. -/
def Access.IsServed : Access → Prop
  | .roles _ | .managed _ | .members _ | .aiUsers _ | .load _ | .save .. | .clear _ => True
  | .cacheGet v | .cacheDelete v => v.isText = true
  | .cacheSet v _ seconds => v.isText = true ∧ seconds.IsSpan
  | _ => False

namespace World

variable {w v : World} {user : Id}

/-- Nothing but reads of role data may fail, names are texts, and times are times. -/
structure IsInOrder (w : World) : Prop extends w.IsTimely where
  serves : w.Serves
  names : w.HasTextNames
  times : w.HasTimes

theorem hasTimes_setEntry (h : w.IsInOrder) (user : Id) (text : String) {seconds : Binary64}
    (hseconds : seconds.IsSpan) : (w.setEntry user text seconds).HasTimes := by
  intro e he
  rcases mem_putEntry he with rfl | he
  · exact (h.now.add hseconds).1
  · exact h.times e (mem_presentEntries he)

theorem IsInOrder.answer (h : w.IsInOrder) {a : Access} (ha : a.IsServed) :
    ((w.begin a).answer a).2.IsInOrder := by
  have hdrop (user : Id) : (w.dropEntry user).HasTimes := fun e he =>
    h.times e (List.mem_filter.1 he).1
  have hagrees : w.Agrees ((w.begin a).answer a).2 ∧ ((w.begin a).answer a).2.HasTimes := by
    cases a with
    | cacheGet user =>
      change w.Agrees (w.lookUp user).2 ∧ (w.lookUp user).2.HasTimes
      rw [lookUp_snd]
      split
      · exact ⟨w.agrees_dropEntry user, hdrop user⟩
      · exact ⟨Agrees.refl w, h.times⟩
    | cacheDelete user => exact ⟨w.agrees_dropEntry user, hdrop user⟩
    | cacheSet user text seconds =>
      exact ⟨w.agrees_setEntry user text seconds, w.hasTimes_setEntry h user text ha.2⟩
    | roles | managed | members | aiUsers | load | save | clear =>
      exact ⟨⟨_, _, _, rfl⟩, h.times⟩
    | _ => exact ha.elim
  exact ⟨h.toIsTimely.answer a, hagrees.1.serves h.serves, hagrees.1.hasTextNames h.names,
    hagrees.2⟩

theorem IsInOrder.perform (h : w.IsInOrder) {a : Access} (ha : a.IsServed) :
    ((w.begin a).perform a).2.IsInOrder := by
  rcases (w.begin a).perform_cases a with hperform | ⟨f, hperform⟩ <;> rw [hperform]
  · exact h.answer ha
  · cases a <;> exact ⟨⟨h.now, h.keys⟩, ⟨⟨h.serves.store, h.serves.cache⟩, h.serves.sound⟩,
      ⟨h.names.rows, h.names.managers⟩, h.times⟩

/-- The worlds are the same but for the kind of the cache, and the same lasts in them. -/
structure Matches (w v : World) : Prop where
  same : ∃ entries, v = { w with cacheKind := .shared, entries }
  kind : w.cacheKind = .local
  order : w.IsInOrder
  order' : v.IsInOrder
  lasting : ∀ user, user.isText = true → v.lasting user = w.lasting user

/-- An access that is not to the cache does not look at it. -/
theorem exists_perform_beside (hw : w.IsConnected) (entries : List CacheEntry) {a : Access}
    (ha : a.IsServed) (hcache : a.cacheCommand? = none) :
    ∃ r forms reads, (w.begin a).perform a = (r, { w with forms, reads }) ∧
      (({ w with cacheKind := .shared, entries } : World).begin a).perform a =
        (r, { w with cacheKind := .shared, entries, forms, reads }) := by
  obtain ⟨v, hv⟩ : ∃ v : World, v = { w with cacheKind := .shared, entries } := ⟨_, rfl⟩
  rw [← hv]
  have hconnected : (w.begin a).IsConnected ∧ (v.begin a).IsConnected := by
    subst hv
    cases a <;> exact ⟨⟨hw.store, hw.cache⟩, hw.store, hw.cache⟩
  have hfailure : (v.begin a).failureAt? a = (w.begin a).failureAt? a := by
    subst hv
    cases a <;> rfl
  rw [perform, perform, hconnected.1.notConnected?_eq_none, hconnected.2.notConnected?_eq_none,
    hfailure]
  subst hv
  cases (w.begin a).failureAt? a with
  | some f => cases a <;> exact ⟨_, _, _, rfl, rfl⟩
  | none =>
    cases a with
    | cacheGet | cacheSet | cacheDelete => cases hcache
    | roles | managed | members | aiUsers | load | save | clear => exact ⟨_, _, _, rfl, rfl⟩
    | _ => exact ha.elim

theorem Matches.perform_beside (h : w.Matches v) {a : Access} (ha : a.IsServed)
    (hcache : a.cacheCommand? = none) :
    ((w.begin a).perform a).1 = ((v.begin a).perform a).1 ∧
      ((w.begin a).perform a).2.Matches ((v.begin a).perform a).2 := by
  have horder := h.order.perform ha
  have horder' := h.order'.perform ha
  obtain ⟨entries, rfl⟩ := h.same
  obtain ⟨r, forms, reads, hw, hv⟩ :=
    exists_perform_beside h.order.serves.toIsConnected entries ha hcache
  rw [hw] at horder ⊢
  rw [hv] at horder' ⊢
  exact ⟨rfl, ⟨entries, rfl⟩, h.kind, horder, horder', h.lasting⟩

namespace Matches

variable (h : w.Matches v) (huser : user.isText = true)
include h huser

/-- The same is found in both caches. -/
theorem lookUp : (w.lookUp user).1 = (v.lookUp user).1 ∧
    (w.lookUp user).2.Matches (v.lookUp user).2 := by
  have horder : (w.lookUp user).2.IsInOrder := h.order.answer (a := .cacheGet user) huser
  have horder' : (v.lookUp user).2.IsInOrder := h.order'.answer (a := .cacheGet user) huser
  refine ⟨by rw [lookUp_fst, lookUp_fst, h.lasting user huser], ?_, ?_, horder, horder', ?_⟩
  · obtain ⟨entries, rfl⟩ := h.same
    rw [lookUp_snd, lookUp_snd]
    split <;> split <;> exact ⟨_, rfl⟩
  · rw [lookUp_snd]
    split <;> exact h.kind
  · intro other hother
    rw [lasting_lookUp h.order.toIsTimely hother huser,
      lasting_lookUp h.order'.toIsTimely hother huser]
    exact h.lasting other hother

theorem dropEntry : (w.dropEntry user).Matches (v.dropEntry user) := by
  have horder : (w.dropEntry user).IsInOrder := h.order.answer (a := .cacheDelete user) huser
  have horder' : (v.dropEntry user).IsInOrder := h.order'.answer (a := .cacheDelete user) huser
  refine ⟨?_, h.kind, horder, horder', fun other hother => ?_⟩
  · obtain ⟨entries, rfl⟩ := h.same
    exact ⟨_, rfl⟩
  · rw [lasting_dropEntry h.order.toIsTimely hother huser,
      lasting_dropEntry h.order'.toIsTimely hother huser, h.lasting other hother]

theorem setEntry (text : String) {seconds : Binary64} (hseconds : seconds.IsSpan) :
    (w.setEntry user text seconds).Matches (v.setEntry user text seconds) := by
  have hserved : (Access.cacheSet user text seconds).IsServed := ⟨huser, hseconds⟩
  have horder : (w.setEntry user text seconds).IsInOrder := h.order.answer hserved
  have horder' : (v.setEntry user text seconds).IsInOrder := h.order'.answer hserved
  have hnow : v.now = w.now := by
    obtain ⟨entries, rfl⟩ := h.same
    rfl
  refine ⟨?_, h.kind, horder, horder', fun other hother => ?_⟩
  · obtain ⟨entries, rfl⟩ := h.same
    exact ⟨_, rfl⟩
  · -- What is put into the caches expires in both at the same time.
    let e : CacheEntry := { key := user, text, expires := w.now.add seconds }
    have htime : e.expires.IsTime := (h.order.now.add hseconds).1
    have hexpired : v.expired e = w.expired e := by
      rw [expired_eq h.order.now htime, expired_eq h.order'.now htime, hnow]
    rw [lasting_setEntry h.order.toIsTimely hother huser,
      lasting_setEntry h.order'.toIsTimely hother huser, h.lasting other hother, hnow]
    simp only [Option.filter_some]
    rw [hexpired]

omit huser in
theorem kept : v.forms = w.forms ∧ v.reads = w.reads := by
  obtain ⟨entries, rfl⟩ := h.same
  exact ⟨rfl, rfl⟩

omit huser in
/-- Worlds that match change alike. -/
theorem apply {c : Change} (hc : c.IsRoutine) (hpasses : c.Passes) :
    (c.apply w).Matches (c.apply v) := by
  have horder {w : World} (h : w.IsInOrder) : (c.apply w).IsInOrder :=
    ⟨h.toIsTimely.apply hpasses, hc.serves h.serves, hc.hasTextNames h.names,
      fun e he => h.times e (w.entries_apply c ▸ he)⟩
  have hnow : (c.apply v).now = (c.apply w).now := by
    obtain ⟨entries, rfl⟩ := h.same
    cases c <;> rfl
  refine ⟨?_, ?_, horder h.order, horder h.order', fun user huser => ?_⟩
  · obtain ⟨entries, rfl⟩ := h.same
    refine ⟨entries, ?_⟩
    cases c <;> rfl
  · cases c <;> exact h.kind
  · rw [lasting_apply h.order.toIsTimely h.order.times huser hpasses,
      lasting_apply h.order'.toIsTimely h.order'.times huser hpasses, h.lasting user huser]
    cases hlasting : w.lasting user with
    | none => rfl
    | some e =>
      have he : e.expires.IsTime := by
        rw [h.order.lasting_eq huser] at hlasting
        exact h.order.times e (List.mem_of_find?_eq_some (Option.filter_eq_some_iff.1 hlasting).1)
      simp only [Option.filter_some, expired_eq (horder h.order).now he,
        expired_eq (horder h.order').now he, hnow]

end Matches

end World

/-- What is replied with caches that match is the same, but for what taking an entry out says. A use
    of the cache does not fail, and the members of a household have texts for names. -/
def Terms.alike : Terms where
  allows
    | .access a => a.IsServed
    | .joinLoad v | .overtake v => v.isText = true
    | .each errand ids => errand = .invalidate → ∀ id ∈ ids, id.isText = true
    | .isOvertaken _ | .awaitLoad _ | .count _ => True
    | _ => False
  replies
    | .access (.cacheDelete _), r, r' => (∃ b, r = .ok b) ∧ ∃ b, r' = .ok b
    | .access (.cacheGet _), r, r' | .access (.cacheSet ..), r, r' => ∃ x, r = .ok x ∧ r' = .ok x
    | .access (.members _), r, r' => r = r' ∧ ∀ ids, r = .ok ids → ∀ id ∈ ids, id.isText = true
    | _, r, r' => r = r'
  asks := Eq
  waits := Eq

theorem World.HasTextNames.isText_of_perform {w : World} (hw : w.HasTextNames) {household : Id}
    {ids : List Id}
    (h : (w.perform (.members household)).1.mapError Interruption.failure = .ok ids) :
    ∀ id ∈ ids, id.isText = true := by
  rcases w.perform_cases (.members household) with hperform | ⟨f, hperform⟩ <;>
    rw [hperform] at h <;> cases h
  exact hw.isText_membersOf

/-- What is asked of worlds that match is answered alike, and they match then. -/
theorem World.Matches.perform {w v : World} (h : w.Matches v) {a : Access} (ha : a.IsServed) :
    Terms.alike.replies (.access a) (((w.begin a).perform a).1.mapError .failure)
        (((v.begin a).perform a).1.mapError .failure) ∧
      ((w.begin a).perform a).2.Matches ((v.begin a).perform a).2 := by
  have hanswer {w : World} (hw : w.IsInOrder) {p : Point} (hpoint : w.pointOf? a = some p)
      (hp : p.isRead = false) : w.perform a = (.ok (w.answer a).1, (w.answer a).2) :=
    hw.serves.perform_eq hpoint (hw.serves.failureOf_eq_none hp _)
  cases a with
  | cacheGet user =>
    obtain ⟨hfound, hmatches⟩ := h.lookUp ha
    simp only [World.begin, hanswer h.order rfl rfl, hanswer h.order' rfl rfl]
    exact ⟨⟨_, rfl, congrArg Except.ok hfound.symm⟩, hmatches⟩
  | cacheSet user text seconds =>
    simp only [World.begin, hanswer h.order rfl rfl, hanswer h.order' rfl rfl]
    exact ⟨⟨(), rfl, rfl⟩, h.setEntry ha.1 text ha.2⟩
  | cacheDelete user =>
    simp only [World.begin, hanswer h.order rfl rfl, hanswer h.order' rfl rfl]
    exact ⟨⟨⟨_, rfl⟩, _, rfl⟩, h.dropEntry ha⟩
  | members household =>
    obtain ⟨hreply, hmatches⟩ := h.perform_beside ha rfl
    rw [← hreply]
    exact ⟨⟨rfl, fun _ => h.order.names.isText_of_perform⟩, hmatches⟩
  | roles | managed | aiUsers | load | save | clear =>
    obtain ⟨hreply, hmatches⟩ := h.perform_beside ha rfl
    rw [← hreply]
    exact ⟨rfl, hmatches⟩
  | _ => exact ha.elim

/-! ## Caches that are used alike -/

theorem Terms.alike_passes {user : Id} (huser : user.isText = true) {op : Operation}
    (hop : op.IsBesideCache user) : Terms.alike.Passes op := by
  cases op with
  | access a =>
    cases a with
    | members => exact ⟨trivial, And.left⟩
    | roles | managed | aiUsers | load | save | clear => exact ⟨trivial, id⟩
    | _ => exact hop.elim
  | overtake v =>
    obtain rfl : v = user := hop
    exact ⟨huser, id⟩
  | each errand ids => exact ⟨fun h => absurd h hop, id⟩
  | count => exact ⟨trivial, id⟩
  | _ => exact hop.elim

namespace Cache

variable {c d : Cache} {user : Id}

/-- How a local cache is used, and a shared one. -/
theorem twins_shared (hkind : c.kind = .local) (hlasts : 0 ≤ c.timeToLive)
    (huser : user.isText = true) : c.Twins .alike user { c with kind := .shared } where
  store := rfl
  timeToLive := rfl
  get := by
    rw [hkind]
    refine .call huser ?_
    rintro _ _ ⟨found, rfl, rfl⟩
    exact .done _
  set text := by
    rw [hkind]
    refine .call ⟨huser, (Binary64.isTime_ofInt hlasts).isSpan⟩ ?_
    rintro _ _ ⟨_, rfl, rfl⟩
    exact .done _
  delete hflow := by
    rw [hkind]
    refine .call huser ?_
    rintro _ _ ⟨⟨_, rfl⟩, _, rfl⟩
    exact hflow

theorem twins_errand (hkind : c.kind = .local) (hlasts : 0 ≤ c.timeToLive) {errand : Errand}
    (huser : errand = .invalidate → user.isText = true) :
    (c.errand errand user).Twins .alike
      (({ c with kind := .shared } : Cache).errand errand user) := by
  cases errand with
  | invalidate =>
    have htext := huser rfl
    exact ((twins_shared hkind hlasts htext).invalidate fun _ =>
      Terms.alike_passes htext).bind fun _ => twins_pure []
  | members => exact twins_access ⟨trivial, And.left⟩
  | aiUsers => exact twins_access ⟨trivial, id⟩

/-- Those who drop the rule sets of a household do not use the cache themselves. The members have
    texts for names. -/
theorem twins_invalidateHousehold (household : Id) :
    (c.invalidateHousehold household).Twins .alike (d.invalidateHousehold household) := by
  refine .call trivial ?_
  rintro r _ ⟨rfl, htexts⟩
  match r with
  | .ok members =>
    have hdrop : Terms.alike.Passes (.each .invalidate members) :=
      ⟨fun _ => htexts members rfl, id⟩
    exact Flow.Twins.bind (twins_perform hdrop id) fun _ =>
      (twins_step ⟨trivial, id⟩).bind fun _ => twins_pure members
  | .error (.failure f) => exact .done _
  | .error .cancelled => exact .done _

end Cache

/-! ## Callers who are alone -/

/-- What is met in two places with caches that match. -/
structure Solo.Matches (s t : Solo) : Prop where
  kind : s.cache.kind = .local
  lasts : 0 ≤ s.cache.timeToLive
  world : s.world.Matches t.world
  joined : ∀ j, s.joined = some j → j.user.isText = true
  same : t = { s with cache := { s.cache with kind := .shared }, world := t.world }

/-- What is carried out in places that match comes to the same, and they match then. -/
def Helper.IsAlike (h : Helper) : Prop :=
  ∀ ⦃s t s' : Solo⦄ ⦃op : Operation⦄ ⦃reply : op.Reply⦄, s.Matches t → Terms.alike.allows op →
    h.carry s op = some (reply, s') → ∃ reply' t', h.carry t op = some (reply', t') ∧
      Terms.alike.replies op reply reply' ∧ s'.Matches t'

variable {α : Type} {s t s' : Solo}

theorem Helper.IsAlike.solo_call {h : Helper} (hh : h.IsAlike) {op : Operation}
    (hop : Terms.alike.allows op) {next next' : op.Reply → Program α} {a : α}
    (hnext : ∀ reply reply', Terms.alike.replies op reply reply' → ∀ {s t : Solo}, s.Matches t →
      (next reply).solo h s = some (a, s') →
        ∃ t', (next' reply').solo h t = some (a, t') ∧ s'.Matches t')
    (hst : s.Matches t) (hp : (Program.call op next).solo h s = some (a, s')) :
    ∃ t', (Program.call op next').solo h t = some (a, t') ∧ s'.Matches t' := by
  obtain ⟨⟨reply, u⟩, hcarry, hp⟩ := Option.bind_eq_some_iff.1 hp
  obtain ⟨reply', u', hcarry', hreply, hu⟩ := hh hst hop hcarry
  obtain ⟨t', ht', hmatches⟩ := hnext reply reply' hreply hu hp
  exact ⟨t', Option.bind_eq_some_iff.2 ⟨_, hcarry', ht'⟩, hmatches⟩

/-- Programs that do the same come to the same in places that match, which match then. -/
theorem Program.Twins.solo {h : Helper} (hh : h.IsAlike) {p q : Program α}
    (hpq : p.Twins .alike q) (hst : s.Matches t) {a : α} (hp : p.solo h s = some (a, s')) :
    ∃ t', q.solo h t = some (a, t') ∧ s'.Matches t' := by
  induction hpq generalizing s t with
  | done b =>
    cases hp
    exact ⟨t, rfl, hst⟩
  | call hop _ ih => exact hh.solo_call hop (fun reply reply' hr => ih reply reply' hr) hst hp
  | @asks n _ _ _ hn _ ih =>
    obtain rfl : n = _ := hn
    have hop : Terms.alike.allows (.isOvertaken n) := trivial
    exact hh.solo_call hop (fun reply reply' hr => (show reply = reply' from hr) ▸ ih reply) hst hp
  | @waits n _ _ _ hn _ ih =>
    obtain rfl : n = _ := hn
    have hop : Terms.alike.allows (.awaitLoad n) := trivial
    exact hh.solo_call hop (fun reply reply' hr => (show reply = reply' from hr) ▸ ih reply) hst hp

/-- What does not wait. -/
theorem Helper.isAlike_errand : Helper.errand.IsAlike := by
  intro s t s' op reply hst hop hcarry
  obtain ⟨hkind, hlasts, hworld, hjoined, hsame⟩ := hst
  obtain ⟨cache, world, desk, registry, consuming, fields, joined⟩ := s
  obtain ⟨cache', world', desk', registry', consuming', fields', joined'⟩ := t
  cases hsame
  cases op with
  | access a =>
    cases hcarry
    obtain ⟨hreply, hmatches⟩ := hworld.perform hop
    exact ⟨_, _, rfl, hreply, hkind, hlasts, hmatches, hjoined, rfl⟩
  | overtake | isOvertaken | count =>
    cases hcarry
    exact ⟨_, _, rfl, rfl, hkind, hlasts, hworld, hjoined, rfl⟩
  | joinLoad | awaitLoad | each => cases hcarry
  | _ => exact hop.elim

namespace Solo

theorem Matches.runErrand (hst : s.Matches t) {errand : Errand} {id : Id}
    (hid : errand = .invalidate → id.isText = true) {r : Except Interruption (List Id)}
    (hr : s.runErrand errand id = some (r, s')) :
    ∃ t', t.runErrand errand id = some (r, t') ∧ s'.Matches t' := by
  obtain ⟨u, hu, rfl⟩ := runErrand_eq_some_iff.1 hr
  have hcache : t.cache = { s.cache with kind := .shared } := by rw [hst.same]
  have hfields : t.fields = s.fields := by rw [hst.same]
  have htwins : (s.cache.errand errand id).run.Twins .alike (t.cache.errand errand id).run :=
    hcache ▸ Cache.twins_errand hst.kind hst.lasts hid
  obtain ⟨u', hu', hmatches⟩ := htwins.solo Helper.isAlike_errand hst hu
  exact ⟨_, runErrand_eq_some_iff.2 ⟨u', hu', rfl⟩, hmatches.kind, hmatches.lasts, hmatches.world,
    hmatches.joined, by rw [hmatches.same, hfields]⟩

theorem Matches.runErrands {errand : Errand} {ids : List Id}
    (hids : errand = .invalidate → ∀ id ∈ ids, id.isText = true)
    {rs : List (Except Interruption (List Id))} (hst : s.Matches t)
    (hrs : runErrands errand ids s = some (rs, s')) :
    ∃ t', Solo.runErrands errand ids t = some (rs, t') ∧ s'.Matches t' := by
  induction ids generalizing s t rs with
  | nil =>
    cases hrs
    exact ⟨t, rfl, hst⟩
  | cons id rest ih =>
    obtain ⟨r, u, others, hr, hothers, rfl⟩ := runErrands_cons_eq_some_iff.1 hrs
    obtain ⟨u', hr', hu⟩ := hst.runErrand (fun h => hids h id List.mem_cons_self) hr
    obtain ⟨t', hothers', hmatches⟩ :=
      ih (fun h other hother => hids h other (List.mem_cons_of_mem id hother)) hu hothers
    exact ⟨t', runErrands_cons_eq_some_iff.2 ⟨r, u', others, hr', hothers', rfl⟩, hmatches⟩

end Solo

/-- What a load does. -/
theorem Helper.isAlike_load : Helper.load.IsAlike := by
  intro s t s' op reply hst hop hcarry
  cases op with
  | each errand ids =>
    have hjoined : t.joined = s.joined := by rw [hst.same]
    obtain ⟨hnone, hgather⟩ := Helper.carry_load_each.1 hcarry
    obtain ⟨rs, hrs, rfl⟩ := Solo.gather_eq_some_iff.1 hgather
    obtain ⟨u, hrs', hmatches⟩ := hst.runErrands hop hrs
    exact ⟨_, u, Helper.carry_load_each.2 ⟨hjoined.trans hnone,
      Solo.gather_eq_some_iff.2 ⟨rs, hrs', rfl⟩⟩, rfl, hmatches⟩
  | _ => exact Helper.isAlike_errand hst hop hcarry

namespace Solo

/-- A load that can be joined in one place can be joined in the other. -/
theorem Matches.join (hst : s.Matches t) {user : Id} (huser : user.isText = true) {load : Nat}
    (hjoin : s.join user = some (load, s')) :
    ∃ t', t.join user = some (load, t') ∧ s'.Matches t' := by
  obtain ⟨hkind, hlasts, hworld, hjoined, hsame⟩ := hst
  obtain ⟨hnone, hpending, rfl, rfl⟩ := Solo.join_eq_some_iff.1 hjoin
  have hjoin' : t.join user = some (s.desk.loads.length, { t with
      desk := (s.desk.start user).2,
      joined := some { load := s.desk.loads.length, user, fields := s.fields } }) := by
    rw [hsame]
    exact Solo.join_eq_some_iff.2 ⟨hnone, hpending, rfl, rfl⟩
  refine ⟨_, hjoin', hkind, hlasts, hworld, fun j hj => ?_, ?_⟩
  · cases hj
    exact huser
  · rw [hsame]

/-- The load that has been joined is done in both places. -/
theorem Matches.await (hst : s.Matches t) {load : Nat} {r : Except Interruption RuleSet}
    (hawait : s.await load = some (r, s')) :
    ∃ t', t.await load = some (r, t') ∧ s'.Matches t' := by
  obtain ⟨j, u, hj, rfl, hu, rfl⟩ := Solo.await_eq_some_iff.1 hawait
  have huser := hst.joined j hj
  have hcache : t.cache = { s.cache with kind := .shared } := by rw [hst.same]
  have htwins : (s.cache.load j.user j.load).run.Twins .alike
      (t.cache.load j.user j.load).run :=
    hcache ▸ (Cache.twins_shared hst.kind hst.lasts huser).load
      (fun _ => Terms.alike_passes huser) rfl
  have hstart : Solo.Matches { s with joined := none, fields := j.fields }
      { t with joined := none, fields := j.fields } :=
    ⟨hst.kind, hst.lasts, hst.world, (fun _ h => by cases h), by rw [hst.same]⟩
  obtain ⟨u', hu', hmatches⟩ := htwins.solo Helper.isAlike_load hstart hu
  have hsame : t.joined = some j ∧ t.fields = s.fields := by rw [hst.same]; exact ⟨hj, rfl⟩
  exact ⟨{ u' with desk := u'.desk.forget j.load, fields := s.fields },
    Solo.await_eq_some_iff.2 ⟨j, u', hsame.1, rfl, hu', by rw [hsame.2]⟩,
    hmatches.kind, hmatches.lasts, hmatches.world, hmatches.joined, by rw [hmatches.same]⟩

end Solo

/-- What a caller does. -/
theorem Helper.isAlike_call : Helper.call.IsAlike := by
  intro s t s' op reply hst hop hcarry
  cases op with
  | joinLoad user =>
    obtain ⟨t', hjoin, hmatches⟩ := hst.join hop hcarry
    exact ⟨_, t', hjoin, rfl, hmatches⟩
  | awaitLoad load =>
    obtain ⟨t', hawait, hmatches⟩ := hst.await hcarry
    exact ⟨_, t', hawait, rfl, hmatches⟩
  | _ => exact Helper.isAlike_load hst hop hcarry

end HouseholdAccess
