import HouseholdAccess.Proofs.Cache.Fallback
import HouseholdAccess.Proofs.Independence.Strands
import HouseholdAccess.Proofs.Solo.Ending

/-!
# Entries that are held

The cache *holds* an entry for a user (`World.Holds`) if the entry is there and has not
expired. Then a lookup finds the text of the entry and leaves the world as it is
(`World.Holds.perform_cacheGet`).

What is done for others *spares* the entry (`Operation.Spares`): it is still held after
every operation, and so after whatever is made of such operations, with the loads and
errands that belong to it (`Solo.Holds.of_solo`). Of the operations about an entry only
those about the user's own do not spare it.
-/

namespace HouseholdAccess

open HouseholdAccess.Flow

variable {user v : Id} {e : CacheEntry}

/-- A name that is a text, and not that of the user. -/
def Id.Differs (user v : Id) : Prop := v.isText = true ∧ v ≠ user

/-- What is found is found among fewer, if it is among those. -/
theorem find?_filter_of_find? {α : Type} {p q : α → Bool} {xs : List α} {x : α}
    (h : xs.find? q = some x) (hx : p x = true) : (xs.filter p).find? q = some x := by
  obtain ⟨hq, before, after, rfl, hbefore⟩ := List.find?_eq_some_iff_append.1 h
  refine List.find?_eq_some_iff_append.2 ⟨hq, before.filter p, after.filter p, ?_, ?_⟩
  · rw [List.filter_append, List.filter_cons_of_pos hx]
  · exact fun a ha => hbefore a (List.mem_filter.1 ha).1

/-! ## Worlds -/

namespace World

variable {w w' : World} {a : Access}

/-- The entry for the user is there, and has not expired. -/
structure Holds (w : World) (user : Id) (e : CacheEntry) : Prop where
  found : w.entries.find? (fun f => f.key = user) = some e
  fresh : w.expired e = false

namespace Holds

variable (h : w.Holds user e)
include h

theorem key : e.key = user := by simpa using List.find?_some h.found

theorem presents : w.presents e = true := by
  rw [World.presents]
  cases w.cacheKind with
  | «local» => rfl
  | shared => rw [h.fresh, Bool.not_false]

theorem find?_presentEntries : w.presentEntries.find? (fun f => f.key = user) = some e := by
  rw [presentEntries_eq]
  exact find?_filter_of_find? h.found h.presents

/-- The text of the entry is found, and left where it is. -/
theorem lookUp_eq (huser : user.isText = true) : w.lookUp user = (some e.text, w) := by
  have hentry : w.entryOf user = some e := by
    rw [entryOf, cacheName_of_isText huser, h.find?_presentEntries]
  rw [lookUp, hentry]
  simp only [h.fresh, Bool.false_eq_true, if_false]

/-- So it is if the cache can be asked. -/
theorem perform_cacheGet (huser : user.isText = true) (hconnected : w.cacheConnected = true)
    (hsound : w.failureOf .cacheGet (some user) = none) :
    w.perform (.cacheGet user) = (.ok (some e.text), w) := by
  have hreached : w.notConnected? (.cacheGet user) = none := by
    simp [notConnected?, Access.usesStore, hconnected]
  have hworks : w.failureAt? (.cacheGet user) = none := hsound
  rw [perform, hreached, hworks]
  simp only [answer, h.lookUp_eq huser]

/-! ### What is done for others -/

/-- Entries of the same time may come and go, as long as this one stays. -/
theorem of_agrees (hagrees : w.Agrees w')
    (hfound : w'.entries.find? (fun f => f.key = user) = some e) : w'.Holds user e := by
  obtain ⟨entries, forms, reads, rfl⟩ := hagrees
  exact ⟨hfound, h.fresh⟩

theorem dropEntry (hv : user.Differs v) : (w.dropEntry v).Holds user e := by
  refine h.of_agrees (w.agrees_dropEntry v) (find?_filter_of_find? h.found ?_)
  rw [cacheName_of_isText hv.1, h.key]
  exact decide_eq_true hv.2.symm

theorem setEntry (hv : user.Differs v) (text : String) (seconds : Binary64) :
    (w.setEntry v text seconds).Holds user e := by
  refine h.of_agrees (w.agrees_setEntry v text seconds) ?_
  rw [World.setEntry, find?_putEntry, cacheName_of_isText hv.1, if_neg hv.2,
    h.find?_presentEntries]

theorem lookUp (hv : user.Differs v) : (w.lookUp v).2.Holds user e := by
  rw [lookUp_snd]
  split
  · exact h.dropEntry hv
  · exact h

end Holds

/-- What has been put for a user is there. -/
theorem find?_setEntry (w : World) (huser : user.isText = true) (text : String)
    (seconds : Binary64) :
    (w.setEntry user text seconds).entries.find? (fun f => f.key = user) =
      some ⟨user, text, w.now.add seconds⟩ := by
  rw [setEntry, find?_putEntry, cacheName_of_isText huser, if_pos rfl]

end World

/-- The operation is about users, and if it is about an entry, or about dropping or loading
    what is kept, then about others than the user. -/
def Operation.Spares (user : Id) : Operation → Prop
  | .access (.cacheGet v) | .access (.cacheSet v _ _) | .access (.cacheDelete v)
  | .joinLoad v => user.Differs v
  | .each .invalidate ids => ∀ v ∈ ids, user.Differs v
  | op => ∃ other, op.IsAbout other

theorem Operation.Spares.exists_isAbout {op : Operation} (h : op.Spares user) :
    ∃ other, op.IsAbout other := by
  unfold Operation.Spares at h
  split at h
  all_goals first
    | exact ⟨_, rfl⟩
    | exact ⟨user, trivial⟩
    | exact h

/-- What is done for somebody else spares the entry. -/
theorem Operation.IsOwn.spares {op : Operation} (h : op.IsOwn v) (hv : user.Differs v) :
    op.Spares user := by
  obtain ⟨habout, hdrops⟩ := h
  unfold Operation.Spares
  split
  all_goals first
    | exact habout ▸ hv
    | exact absurd rfl (hdrops _)
    | exact ⟨v, habout⟩

/-- An access for others leaves the entry. -/
theorem World.Holds.perform {w : World} {a : Access} (h : w.Holds user e)
    (ha : (Operation.access a).Spares user) :
    w.Agrees ((w.begin a).perform a).2 ∧ ((w.begin a).perform a).2.Holds user e := by
  obtain ⟨other, habout⟩ := ha.exists_isAbout
  have hbegin : (w.begin a).Holds user e := h.of_agrees (w.agrees_begin a) (by
    cases a <;> exact h.found)
  rcases (w.begin a).perform_snd a with hsame | hanswer
  · rw [hsame]
    exact ⟨w.agrees_begin a, hbegin⟩
  · rw [hanswer]
    refine ⟨w.agrees_answer habout, ?_⟩
    cases a with
    | cacheGet v => exact hbegin.lookUp ha
    | cacheSet v text seconds => exact hbegin.setEntry ha text seconds
    | cacheDelete v => exact hbegin.dropEntry ha
    | roles | managed | members | aiUsers | load | save | clear => exact ⟨h.found, h.fresh⟩
    | _ => exact habout.elim

/-! ## Work that is done alone -/

variable {α : Type} {h : Helper}

/-- What every operation of a kind keeps is kept by a program of such operations. -/
theorem Program.Only.solo_induction {P : Operation → Prop} {J : Solo → Prop}
    (hcarry : ∀ {s : Solo} {op : Operation} {reply : op.Reply} {s' : Solo},
      P op → h.carry s op = some (reply, s') → J s → J s')
    {p : Program α} (hp : p.Only P) {a : α} {s s' : Solo} (hsolo : p.solo h s = some (a, s'))
    (hs : J s) : J s' := by
  induction p generalizing s with
  | done b =>
    cases hsolo
    exact hs
  | call op next ih =>
    obtain ⟨⟨reply, t⟩, hop, hnext⟩ := Option.bind_eq_some_iff.1 hsolo
    exact ih reply (hp.2 reply) hnext (hcarry hp.1 hop hs)

/-- What is done for somebody else spares the entry, whatever is replied. -/
theorem Program.Twins.only_spares {p : Program α} (hp : p.Twins (.ofUser v Eq) p)
    (hv : user.Differs v) : p.Only (Operation.Spares user) :=
  hp.only_isOwn.mono fun _ hop => hop.spares hv

theorem Cache.only_spares_errand (c : Cache) {errand : Errand} {id : Id}
    (hid : errand = .invalidate → user.Differs id) :
    (c.errand errand id).Only (Operation.Spares user) := by
  cases errand with
  | invalidate =>
    have hdrop : (c.invalidate id).Twins (.ofUser id Eq) (c.invalidate id) :=
      (c.twins_ofUser id).invalidate fun _ => Terms.ofUser_passes
    exact Program.Twins.only_spares (hdrop.bind fun _ => twins_pure []) (hid rfl)
  | members | aiUsers => exact only_access ⟨user, trivial⟩

namespace Solo

variable {s s' : Solo} {w : World}

/-- The world differs from the given one only in what is kept, the entry is held, and the load
    that has been joined is that of somebody else. -/
structure Holds (w : World) (user : Id) (e : CacheEntry) (s : Solo) : Prop where
  world : w.Agrees s.world
  entry : s.world.Holds user e
  joined : ∀ j, s.joined = some j → user.Differs j.user

/-- Only the world and what has been joined matter. -/
theorem Holds.congr (hs : s.Holds w user e) (hworld : s'.world = s.world)
    (hjoined : ∀ j, s'.joined = some j → s.joined = some j) : s'.Holds w user e :=
  ⟨hworld ▸ hs.world, hworld ▸ hs.entry, fun j hj => hs.joined j (hjoined j hj)⟩

theorem Holds.of_plain? {op : Operation} {reply : op.Reply} (hs : s.Holds w user e)
    (hop : op.Spares user) (hplain : s.plain? op = some (reply, s')) : s'.Holds w user e := by
  cases op with
  | access a =>
    cases hplain
    obtain ⟨hagrees, hentry⟩ := hs.entry.perform hop
    exact ⟨hs.world.trans hagrees, hentry, hs.joined⟩
  | joinLoad | awaitLoad | each => cases hplain
  | _ =>
    cases hplain
    exact hs.congr rfl fun _ => id

theorem Holds.of_runErrands {errand : Errand} {ids : List Id}
    {rs : List (Except Interruption (List Id))} (hs : s.Holds w user e)
    (hids : errand = .invalidate → ∀ v ∈ ids, user.Differs v)
    (hrs : runErrands errand ids s = some (rs, s')) : s'.Holds w user e := by
  induction ids generalizing s rs with
  | nil =>
    cases hrs
    exact hs
  | cons v rest ih =>
    obtain ⟨r, t, others, hr, hothers, rfl⟩ := runErrands_cons_eq_some_iff.1 hrs
    obtain ⟨u, hu, rfl⟩ := runErrand_eq_some_iff.1 hr
    have honly := s.cache.only_spares_errand fun heq => hids heq v List.mem_cons_self
    have hdone : u.Holds w user e :=
      honly.solo_induction (fun hop hplain hs => hs.of_plain? hop hplain) hu hs
    have hafter : ({ u with fields := s.fields } : Solo).Holds w user e :=
      hdone.congr rfl fun _ => id
    exact ih hafter (fun heq other hother => hids heq other (List.mem_cons_of_mem v hother)) hothers

theorem Holds.of_carry_load {op : Operation} {reply : op.Reply} (hs : s.Holds w user e)
    (hop : op.Spares user) (hcarry : Helper.load.carry s op = some (reply, s')) :
    s'.Holds w user e := by
  cases op with
  | each errand ids =>
    obtain ⟨rs, hrs, -⟩ := gather_eq_some_iff.1 (Helper.carry_load_each.1 hcarry).2
    refine hs.of_runErrands (fun heq => ?_) hrs
    subst heq
    exact hop
  | _ => exact hs.of_plain? hop (show s.plain? _ = some (reply, s') from hcarry)

/-- The load of somebody else spares the entry. -/
theorem Holds.of_await {load : Nat} {r : Except Interruption RuleSet} (hs : s.Holds w user e)
    (hawait : s.await load = some (r, s')) : s'.Holds w user e := by
  obtain ⟨j, u, hj, rfl, hu, rfl⟩ := await_eq_some_iff.1 hawait
  have honly : (s.cache.load j.user j.load).Only (Operation.Spares user) :=
    Program.Twins.only_spares (s.cache.twins_load j.user rfl) (hs.joined j hj)
  have hdone : u.Holds w user e :=
    honly.solo_induction (fun hop hcarry hs => hs.of_carry_load hop hcarry) hu
      (hs.congr rfl fun _ hnone => by cases hnone)
  exact hdone.congr rfl fun _ => id

theorem Holds.of_carry_call {op : Operation} {reply : op.Reply} (hs : s.Holds w user e)
    (hop : op.Spares user) (hcarry : Helper.call.carry s op = some (reply, s')) :
    s'.Holds w user e := by
  cases op with
  | joinLoad v =>
    obtain ⟨-, -, -, rfl⟩ := join_eq_some_iff.1 hcarry
    refine ⟨hs.world, hs.entry, fun j hj => ?_⟩
    cases hj
    exact hop
  | awaitLoad load => exact hs.of_await hcarry
  | _ => exact hs.of_carry_load hop hcarry

/-- Whatever is made of operations that spare the entry spares it. -/
theorem Holds.of_solo {p : Program α} {a : α} (hs : s.Holds w user e)
    (hp : p.Only (Operation.Spares user)) (hsolo : p.solo .call s = some (a, s')) :
    s'.Holds w user e :=
  hp.solo_induction (fun hop hcarry hs => hs.of_carry_call hop hcarry) hsolo hs

end Solo

/-! ## Callers -/

/-- The call is about rule sets, and drops none of the user. -/
def Call.Spares (user : Id) (w : World) : Call → Prop
  | .get v => v.isText = true
  | .recompute v | .invalidate v => user.Differs v
  | .invalidateHousehold household => ∀ v ∈ w.membersOf household, user.Differs v
  | _ => False

variable {s s' : Solo} {w : World}

/-- Those who drop the rule sets of a household spare the entry of a user who is no member. -/
theorem Solo.Holds.of_invalidateHousehold (c : Cache) {household : Id}
    {r : Except Interruption (List Id)} (hs : s.Holds w user e)
    (hmembers : ∀ v ∈ s.world.membersOf household, user.Differs v)
    (hsolo : (c.invalidateHousehold household).solo .call s = some (r, s')) :
    s'.Holds w user e := by
  let a : Access := .members household
  let t : Solo := { s with world := (s.world.perform a).2 }
  have hask : (access a).solo .call s = some ((s.world.perform a).1.mapError .failure, t) :=
    solo_uncounted rfl
  obtain ⟨hagrees, hentry⟩ := hs.entry.perform (a := a) ⟨user, trivial⟩
  have ht : t.Holds w user e := ⟨hs.world.trans hagrees, hentry, hs.joined⟩
  rw [Cache.invalidateHousehold, solo_bind, solo_recover, hask, World.perform_fst] at hsolo
  cases hfails : (s.world.notConnected? a).or (s.world.failureAt? a) with
  | some f =>
    rw [hfails] at hsolo
    obtain ⟨-, hend⟩ := Prod.mk.inj (Option.some.inj hsolo)
    exact hend ▸ ht
  | none =>
    -- Whose rule sets are dropped is known once the members have been asked for.
    rw [hfails] at hsolo
    have hdrops : Flow.Only (Operation.Spares user) (do
        let _ ← ExceptT.mk (Program.perform (.each .invalidate (s.world.membersOf household)))
        count .householdInvalidation
        return s.world.membersOf household) :=
      Flow.Only.bind (only_perform hmembers) fun _ => (only_step ⟨user, trivial⟩).bind fun _ =>
        only_pure _
    exact ht.of_solo hdrops hsolo

/-- Callers who want anything else than the rule set of the user spare the entry. -/
theorem Solo.Holds.of_call (service : Service) {call : Call} {r : Except Interruption Answer}
    (hs : s.Holds w user e) (hcall : call.Spares user s.world) (hother : call ≠ .get user)
    (hsolo : (call.flow service).solo .call s = some (r, s')) : s'.Holds w user e := by
  have hown {v : Id} (habout : call.IsAbout v) (hv : user.Differs v) : s'.Holds w user e :=
    hs.of_solo (Program.Twins.only_spares (call.twins_flow service habout) hv) hsolo
  cases call with
  | get v => exact hown rfl ⟨hcall, fun heq => hother (heq ▸ rfl)⟩
  | recompute v | invalidate v => exact hown rfl hcall
  | invalidateHousehold household =>
    rw [Call.flow, solo_bind] at hsolo
    obtain ⟨⟨ids, t⟩, hdrop, hend⟩ := Option.bind_eq_some_iff.1 hsolo
    have ht := hs.of_invalidateHousehold service.cache hcall hdrop
    cases ids <;> cases hend <;> exact ht
  | _ => exact hcall.elim

/-! ## Putting an entry -/

namespace Cache

variable {c : Cache} {load : Nat} {form : Value} {rules : RuleSet} {text : String}

/-- A form that is read on the record is what loading comes to. -/
theorem solo_load_of_reading (hs : s.world.IsConnected)
    (hreading : c.store.reading (s.world.formFor user) = .ok (some form)) :
    (c.store.load user).solo h s = some (.ok (some form), s) := by
  match hstore : c.store with
  | .database =>
    have hbears : ({ c with kind := .shared } : Cache).Bears s.world user := ⟨.inl rfl, .inl hstore⟩
    have hload := hbears.solo_load (h := h) hs
    rw [hreading, hstore] at hload
    exact hload
  | .table =>
    rw [hstore] at hreading
    refine (solo_uncounted rfl).trans ?_
    rw [s.world.perform_load_snd]
    rw [World.formFor] at hreading
    -- What has been read has been answered.
    cases hanswer : (s.world.perform (.load user)).1 with
    | error f =>
      rw [hanswer] at hreading
      cases hreading
    | ok answer =>
      rw [hanswer] at hreading
      change StoreKind.table.reading answer = _ at hreading
      cases answer with
      | none => cases hreading
      | some v =>
        cases hreading
        rfl

/-- What has a text is put into a cache that works. -/
theorem solo_populate (hs : s.world.IsConnected)
    (hsound : s.world.failureOf .cacheSet (some user) = none)
    (hload : s.desk.isOvertaken load = false) (htext : Json.write Json.compact form = .ok text) :
    (c.populate user form load).solo h s =
      some (.ok (), { s with world := s.world.setEntry user text (.ofInt c.timeToLive) }) := by
  have hset : (c.kind.set user text (.ofInt c.timeToLive)).solo h s =
      some (.ok true, { s with world := s.world.setEntry user text (.ofInt c.timeToLive) }) := by
    have hput : (do
        access (.cacheSet user text (.ofInt c.timeToLive))
        return true : Flow Bool).solo h s =
          some (.ok true,
            { s with world := s.world.setEntry user text (.ofInt c.timeToLive) }) := by
      rw [solo_bind, solo_uncounted rfl,
        hs.perform_eq (a := .cacheSet user text (.ofInt c.timeToLive)) rfl hsound]
      rfl
    match c.kind with
    | .local => exact hput
    | .shared => exact solo_recover_ok hput _
  have htaken : (ofExcept Failure.unwritable (Json.write Json.compact form)).solo h s =
      some (.ok text, s) := by
    rw [solo_ofExcept, htext]
    rfl
  refine (solo_bind_ok (solo_step (h.carry_of_plain? rfl)) _).trans ?_
  simp only [hload, Bool.false_eq_true, if_false]
  exact (solo_bind_ok htaken _).trans (solo_bind_ok hset _)

/-- A load that reads the form comes to what it says, and puts it into the cache. -/
theorem solo_load_of_form (hs : s.world.IsConnected)
    (hsound : s.world.failureOf .cacheSet (some user) = none)
    (hload : s.desk.isOvertaken load = false)
    (hreading : c.store.reading (s.world.formFor user) = .ok (some form))
    (hunpack : Packed.unpackWithin loadRoom form = .ok rules)
    (htext : Json.write Json.compact form = .ok text) :
    (c.load user load).solo h s = some (.ok rules,
      { s with world := s.world.setEntry user text (.ofInt c.timeToLive),
               registry := s.registry.map (·.count (.cacheLookup .persisted)) }) := by
  rw [load_eq_bind]
  refine (solo_bind_ok (solo_load_of_reading hs hreading) _).trans ?_
  rw [loadFrom, hunpack]
  refine (solo_bind_ok (solo_count _) _).trans ?_
  exact solo_bind_ok (solo_populate (by exact hs) (by exact hsound) (by exact hload) htext) _

/-- A load that reads a form which is too deep fails. -/
theorem solo_load_of_tooDeep (hs : s.world.IsConnected)
    (hreading : c.store.reading (s.world.formFor user) = .ok (some form)) {o : Obstacle}
    (hdeep : Packed.unpackWithin loadRoom form = .error (.tooDeep o)) :
    (c.load user load).solo h s = some (.error (.failure (.tooDeep o)), s) := by
  rw [load_eq_bind]
  refine (solo_bind_ok (solo_load_of_reading hs hreading) _).trans ?_
  rw [loadFrom, hdeep]
  rfl

/-- A lookup that finds no rule set in the cache comes to what its load comes to, which finds the
    world as it was but for the entries of the cache. -/
theorem ensures_lookUp_of_miss (hcache : s.cache = c) (hs : s.world.IsConnected) (hfree : s.Free)
    (hget : c.kind = .shared ∨ s.world.failureOf .cacheGet (some user) = none)
    (hset : s.world.failureOf .cacheSet (some user) = none)
    (hmiss : s.world.cachedRules? user = none)
    (hentry : ∀ f, ¬c.EntrySlip s.world s.world user f) {r : Except Interruption RuleSet}
    (put : World → World) (registry : Option Registry → Option Registry)
    (hput : ∀ w : World, w.Agrees (put w))
    (hload : ∀ (load : Nat) (t : Solo), t.world.IsConnected →
      t.world.failureOf .cacheSet (some user) = none → t.desk.isOvertaken load = false →
      t.world.formFor user = s.world.formFor user → (c.load user load).solo .load t =
        some (r, { t with world := put t.world, registry := registry t.registry })) :
    (c.lookUp user).Ensures .call s fun r' s' => s.Beyond s' ∧ r' = r ∧
      ∃ w, w.now = s.world.now ∧ s'.world = put w := by
  refine hfree.ensures_beyond ?_
  -- Asking the cache has nothing to do with the store.
  have hbears : ({ c with store := .database } : Cache).Bears s.world user := by
    refine ⟨hget.imp_right fun hget p hp => ?_, .inl rfl⟩
    simp only [List.mem_cons, List.not_mem_nil, or_false] at hp
    rcases hp with rfl | rfl
    · exact hget
    · exact hset
  have hcached : (c.cached user).Ensures .call s _ := hbears.ensures_cached hs
  refine hcached.bind (fun found t ht => ?_) fun f t ht => ?_
  · obtain ⟨hbeside, hforms, ⟨f, -, hf⟩ | ⟨-, hfound⟩⟩ := ht
    · cases hf
    rw [hmiss] at hfound
    cases hfound
    have hfree' := hbeside.free hfree
    have hset' : t.world.failureOf .cacheSet (some user) = none := by
      obtain ⟨entries, forms, reads, hworld⟩ := hbeside.world
      rw [hworld]
      exact hset
    have hnow : t.world.now = s.world.now := by
      obtain ⟨entries, forms, reads, hworld⟩ := hbeside.world
      rw [hworld]
    -- The load is the caller's own.
    refine (ensures_join (P := fun _ r' u => r' = r ∧ u.cache = t.cache ∧ u.joined = none ∧
      u.world = put t.world) (hbeside.cache.trans hcache) hfree' fun load desk hfresh =>
        ensures_of_solo (hload load { t with desk } (hs.of_agrees hbeside.world) hset' hfresh
          (hbeside.world.formFor_eq hforms user)) ⟨rfl, rfl, hfree'.joined, rfl⟩).mono ?_
    rintro r' u ⟨_, _, x, ⟨rfl, hsame, hjoined, hworld⟩, rfl⟩
    refine ⟨hsame.trans hbeside.cache, ?_, hjoined, rfl, t.world, hnow, hworld⟩
    rw [hworld]
    exact hbeside.world.trans (hput t.world)
  · obtain ⟨-, -, ⟨f, hslip, -⟩ | ⟨-, hf⟩⟩ := ht
    · cases hslip with
      | tooDeep hfound hloads => exact absurd (.tooDeep hfound hloads) (hentry _)
      | stuck hfound hloads hdelete => exact absurd (.stuck hfound hloads hdelete) (hentry _)
    · cases hf

/-- A lookup that finds no rule set in the cache, but a form on the record, is answered what the
    form says, and leaves an entry with the text of the form. -/
theorem ensures_lookUp_of_form (hcache : s.cache = c) (hs : s.world.IsConnected) (hfree : s.Free)
    (huser : user.isText = true)
    (hget : c.kind = .shared ∨ s.world.failureOf .cacheGet (some user) = none)
    (hset : s.world.failureOf .cacheSet (some user) = none)
    (hmiss : s.world.cachedRules? user = none)
    (hentry : ∀ f, ¬c.EntrySlip s.world s.world user f)
    (hreading : c.store.reading (s.world.formFor user) = .ok (some form))
    (hunpack : Packed.unpackWithin loadRoom form = .ok rules)
    (htext : Json.write Json.compact form = .ok text) :
    (c.lookUp user).Ensures .call s fun r s' => s.Beyond s' ∧ r = .ok rules ∧
      s'.world.entries.find? (fun f => f.key = user) =
        some ⟨user, text, s.world.now.add (.ofInt c.timeToLive)⟩ := by
  refine (ensures_lookUp_of_miss hcache hs hfree hget hset hmiss hentry
    (fun w => w.setEntry user text (.ofInt c.timeToLive))
    (fun registry => registry.map (·.count (.cacheLookup .persisted)))
    (fun w => w.agrees_setEntry user text _) fun load t ht hset' hfresh hform =>
      solo_load_of_form ht hset' hfresh (hform ▸ hreading) hunpack htext).mono ?_
  rintro r s' ⟨hbeyond, rfl, w, hnow, hworld⟩
  exact ⟨hbeyond, rfl, by rw [hworld, w.find?_setEntry huser, hnow]⟩

/-- A lookup that finds no rule set in the cache, but a form on the record which is too deep,
    fails. -/
theorem ensures_lookUp_of_tooDeep (hcache : s.cache = c) (hs : s.world.IsConnected)
    (hfree : s.Free) (hget : c.kind = .shared ∨ s.world.failureOf .cacheGet (some user) = none)
    (hset : s.world.failureOf .cacheSet (some user) = none)
    (hmiss : s.world.cachedRules? user = none)
    (hentry : ∀ f, ¬c.EntrySlip s.world s.world user f)
    (hreading : c.store.reading (s.world.formFor user) = .ok (some form)) {o : Obstacle}
    (hdeep : Packed.unpackWithin loadRoom form = .error (.tooDeep o)) :
    (c.lookUp user).Ensures .call s fun r s' =>
      s.Beyond s' ∧ r = .error (.failure (.tooDeep o)) := by
  refine (ensures_lookUp_of_miss hcache hs hfree hget hset hmiss hentry id id
    World.Agrees.refl fun load t ht _ _ hform =>
      solo_load_of_tooDeep ht (hform ▸ hreading) hdeep).mono ?_
  rintro r s' ⟨hbeyond, rfl, -⟩
  exact ⟨hbeyond, rfl⟩

end Cache

end HouseholdAccess
