import HouseholdAccess.Proofs.Cache.Holding
import HouseholdAccess.Proofs.Session.Kinds

/-!
# Lookups of what has been read

A lookup that finds nothing in the cache reads the form on the record of the user, and puts
its text into the cache. Lookups after that read the text. They come to the same, whatever
shape the form has, since JSON gives back what it is given (`Packed.loads_write`).

So it goes on until the entry expires or is dropped (`Session.lookUp_of_form`):

* a lookup that finds the entry is answered from it, even if nothing but asking the cache
  works (`Session.Offers.get`);
* the entry stays while callers look rule sets up, drop those of others, or have them
  computed again, and while the world changes (`Session.Has.follow`).
-/

namespace HouseholdAccess

open HouseholdAccess.Flow

variable {user : Id} {e : CacheEntry} {x : Except Obstacle RuleSet} {rules : RuleSet}

/-! ## Finding an entry -/

/-- What a caller comes to who finds a rule set in the cache, if there is no obstacle to reading
    it. -/
def Answer.ofEntry : Except Obstacle RuleSet → Except Interruption Answer
  | .ok rules => .ok (.rules rules)
  | .error o => .error (.failure (.tooDeep o))

/-- What a caller does who finds a rule set in the cache: the lookup is counted unless there is an
    obstacle to reading it. -/
def Program.ofEntry (x : Except Obstacle RuleSet) : Program (Except Interruption Answer) :=
  match x with
  | .ok rules => .call (.count (.cacheLookup .hit)) fun _ => .done (.ok (.rules rules))
  | .error o => .done (.error (.failure (.tooDeep o)))

/-- A caller who is answered the text of a rule set by the cache does nothing else but to count the
    lookup. -/
theorem Call.exists_run_get (user : Id) (service : Service) {text : String}
    (hloads : Packed.loads (.text text) = x.mapError .tooDeep) :
    ∃ next, ((Call.get user).flow service).run = .call (.access (.cacheGet user)) next ∧
      next (.ok (some text)) = Program.ofEntry x := by
  simp only [Call.flow, Cache.lookUp, Cache.cached]
  cases service.cache.kind with
  | «local» | shared =>
    refine ⟨_, rfl, ?_⟩
    simp only [pure, Program.andThen, ExceptT.bindCont, hloads]
    cases x <;> rfl

/-- A caller who asks for a rule set of which the cache has the text is answered at once, whoever
    waits at other points. Nothing else is done but to count the lookup. -/
theorem Machine.call_hit {m : Machine Answer} (hready : m.ready = [])
    (hnumbers : ∀ o ∈ m.outcomes, o.1 < m.tasks.length) (hfree : Point.cacheGet ∉ m.world.held)
    {text : String} (hget : m.world.perform (.cacheGet user) = (.ok (some text), m.world))
    (hloads : Packed.loads (.text text) = x.mapError .tooDeep) (service : Service) :
    ∃ m', m.call ((Call.get user).flow service) = (m.tasks.length, m') ∧
      m'.outcome? m.tasks.length = some (Answer.ofEntry x) ∧ m'.cache = m.cache ∧
      m'.world = m.world ∧ m'.desk = m.desk ∧ m'.loads = m.loads ∧ m'.ready = [] ∧
      ∀ o ∈ m'.outcomes, o.1 < m'.tasks.length := by
  let n := m.tasks.length
  let flow := (Call.get user).flow service
  obtain ⟨next, hrun, hnext⟩ := Call.exists_run_get user service hloads
  let t : Turn Answer := { machine := m.withCaller flow, fields := [] }
  have hasked : t.carry? (.access (.cacheGet user)) = some (.ok (some text), t) := by
    have hpass : m.world.heldAt? (.cacheGet user) = none := by
      simp [World.heldAt?, World.pointOf?, Access.point?, Option.filter, hfree]
    have haccess : t.access (.cacheGet user) = (.ok (some text), t) := by
      have hworld : t.machine.world.perform (.cacheGet user) = (.ok (some text), t.machine.world) :=
        hget
      rw [Turn.access, hworld]
      rfl
    rw [Turn.carry?, show t.machine.world.heldAt? _ = none from hpass]
    exact congrArg some haccess
  -- The lookup is counted, or not.
  obtain ⟨registry, hentry⟩ : ∃ registry, Station.call.run n (Program.ofEntry x) t =
      Station.call.run n (.done (Answer.ofEntry x))
        { t with machine := { t.machine with registry } } := by
    cases x with
    | error o => exact ⟨m.registry, rfl⟩
    | ok rules =>
      have hcounted : t.carry? (.count (.cacheLookup .hit)) = some ((), { t with
        machine := { t.machine with registry := m.registry.map (·.count (.cacheLookup .hit)) } }) :=
        rfl
      exact ⟨_, Station.run_of_carry? .call hcounted _⟩
  have hwork : Leads (Station.call.run n flow.run t) (Station.call.run n
      (.done (Answer.ofEntry x)) { t with machine := { t.machine with registry } }) := by
    rw [hrun, Station.run_of_carry? .call hasked, hnext, hentry]
    exact Leads.refl _
  have hlives : n < t.machine.tasks.length := by simp [t, withCaller, n]
  obtain ⟨hcall, houtcome, hnumbers'⟩ := call_of_leads hready hnumbers hwork rfl hlives rfl
  exact ⟨_, hcall, houtcome, rfl, rfl, rfl, rfl, rfl, hnumbers'⟩

namespace Session

variable {s : Session}

/-- Nothing is to be done, and the cache can be asked for the entry of the user, which has not
    expired. Anything else may be out of order, and callers may wait elsewhere. -/
structure Offers (s : Session) (user : Id) (e : CacheEntry) : Prop where
  ready : s.machine.ready = []
  numbers : ∀ o ∈ s.machine.outcomes, o.1 < s.machine.tasks.length
  free : Point.cacheGet ∉ s.machine.world.held
  connected : s.machine.world.cacheConnected = true
  sound : s.machine.world.failureOf .cacheGet (some user) = none
  entry : s.machine.world.Holds user e

/-- A lookup that finds the entry is answered from it. No load begins, and the world is left as it
    is. -/
theorem Offers.get (h : s.Offers user e) (huser : user.isText = true)
    (hloads : Packed.loads (.text e.text) = x.mapError .tooDeep) :
    let after := (s.call none (.get user)).2
    (s.call none (.get user)).1 = some (Answer.ofEntry x) ∧
      after.machine.world = s.machine.world ∧ after.machine.loads = s.machine.loads ∧
      after.Offers user e := by
  obtain ⟨m, hcall, houtcome, -, hworld, -, hsame, hready, hnumbers⟩ := Machine.call_hit h.ready
    h.numbers h.free (h.entry.perform_cacheGet huser h.connected h.sound) hloads s.service
  simp only [Session.call, hcall, houtcome]
  exact ⟨trivial, hworld, hsame, hready, hnumbers, hworld ▸ h.free, hworld ▸ h.connected,
    hworld ▸ h.sound, hworld ▸ h.entry⟩

/-- The entry can be found while callers wait elsewhere. -/
theorem Offers.hold (h : s.Offers user e) {p : Point} (hp : p ≠ .cacheGet) :
    (s.hold p).Offers user e where
  ready := h.ready
  numbers := h.numbers
  free hmem := by
    rcases List.mem_cons.1 hmem with heq | hmem
    · exact hp heq.symm
    · exact h.free (List.mem_filter.1 hmem).1
  connected := h.connected
  sound := h.sound
  entry := ⟨h.entry.found, h.entry.fresh⟩

/-! ## Keeping an entry -/

/-- Nothing is under way, and there are connections to the systems. -/
structure Quiet (s : Session) : Prop where
  idle : s.machine.Idle
  cache : s.machine.cache = s.service.cache
  pending : s.machine.desk.pending = []
  connected : s.machine.world.IsConnected

/-- Nothing is under way, and the entry for the user is in the cache, whether or not it has
    expired. -/
structure Has (s : Session) (user : Id) (e : CacheEntry) : Prop extends s.Quiet where
  found : s.machine.world.entries.find? (fun f => f.key = user) = some e

/-- A call that ends as alone, and in which nothing has happened in the world but to what is kept,
    leaves nothing under way. -/
theorem Quiet.call_of_solo (h : s.Quiet) {c : Call} {r : Except Interruption Answer} {t : Solo}
    (hsolo : (c.flow s.service).solo .call s.machine.solo = some (r, t)) (hjoined : t.joined = none)
    (hworld : s.machine.world.Agrees t.world) :
    (s.call none c).1 = some r ∧ (s.call none c).2.Quiet ∧
      (s.call none c).2.machine.world = t.world := by
  obtain ⟨m, hcall, hidle, houtcome, hm⟩ := Machine.call_solo h.idle hsolo hjoined
  have hcache : m.cache = t.cache := congrArg Solo.cache hm
  have hdesk : m.desk = t.desk := congrArg Solo.desk hm
  have hsame : m.world = t.world := congrArg Solo.world hm
  have hfree : t.Free := Solo.Free.of_solo hsolo ⟨rfl, h.pending⟩ hjoined
  simp only [Session.call, hcall, houtcome]
  exact ⟨trivial, ⟨hidle, hcache.trans ((Solo.cache_of_solo hsolo).trans h.cache),
    hdesk ▸ hfree.pending, hsame ▸ h.connected.of_agrees hworld⟩, hsame⟩

end Session

/-- The cache can be asked for the entry, which has not expired. -/
structure World.Lasts (w : World) (user : Id) (e : CacheEntry) : Prop where
  fresh : w.expired e = false
  sound : w.failureOf .cacheGet (some user) = none

theorem World.Lasts.of_agrees {w w' : World} (h : w.Lasts user e) (hagrees : w.Agrees w') :
    w'.Lasts user e := by
  obtain ⟨entries, forms, reads, rfl⟩ := hagrees
  exact ⟨h.fresh, h.sound⟩

namespace Session

variable {s : Session}

/-- In the course of the moves the entry does not expire, the cache can be asked for it, and nobody
    drops the rule set of the user. -/
def Spares (user : Id) (e : CacheEntry) (s : Session) : List Move → Prop
  | [] => s.machine.world.Lasts user e
  | .call c :: moves => s.machine.world.Lasts user e ∧ c.Spares user s.machine.world ∧
      (s.call none c).2.Spares user e moves
  | .change c :: moves => s.machine.world.Lasts user e ∧ (s.change c).Spares user e moves

namespace Has

variable (h : s.Has user e)
include h

theorem offers (hlasts : s.machine.world.Lasts user e) : s.Offers user e where
  ready := h.idle.ready
  numbers := h.idle.outcomes
  free := by
    rw [h.idle.free]
    exact List.not_mem_nil
  connected := h.connected.cache
  sound := hlasts.sound
  entry := ⟨h.found, hlasts.fresh⟩

theorem change (c : Change) : (s.change c).Has user e := by
  have hheld : (c.apply s.machine.world).held = s.machine.world.held := by cases c <;> rfl
  refine ⟨⟨⟨h.idle.ready, hheld.trans h.idle.free, h.idle.loads, h.idle.outcomes⟩, h.cache,
    h.pending, ?_⟩, ?_⟩
  · cases c <;> exact ⟨h.connected.store, h.connected.cache⟩
  · change (c.apply s.machine.world).entries.find? _ = _
    rw [World.entries_apply, h.found]

/-- A caller who wants something else of the user's than to drop it, or something of others,
    leaves the entry. -/
theorem call (huser : user.isText = true)
    (hloads : Packed.loads (.text e.text) = x.mapError .tooDeep)
    (hlasts : s.machine.world.Lasts user e) {c : Call} (hc : c.Spares user s.machine.world) :
    (s.call none c).2.Has user e ∧
      s.machine.world.Agrees (s.call none c).2.machine.world := by
  by_cases hown : c = .get user
  · -- The user's own lookups find the entry.
    subst hown
    have hoffers := h.offers hlasts
    obtain ⟨m, hcall, -, hcache, hworld, hdesk, hsame, hready, hnumbers⟩ :=
      Machine.call_hit hoffers.ready hoffers.numbers hoffers.free
        (hoffers.entry.perform_cacheGet huser hoffers.connected hoffers.sound) hloads s.service
    simp only [Session.call, hcall]
    refine ⟨⟨⟨⟨hready, hworld ▸ h.idle.free, ?_, hnumbers⟩, hcache.trans h.cache,
      hdesk ▸ h.pending, hworld ▸ h.connected⟩, hworld ▸ h.found⟩, hworld ▸ World.Agrees.refl _⟩
    rw [hsame, hdesk, h.idle.loads]
  · -- What others have done is done as alone.
    have habout : c.IsAboutRules := by
      cases c with
      | get | recompute | invalidate | invalidateHousehold => trivial
      | _ => exact hc.elim
    have hfree : s.machine.solo.Free := ⟨rfl, h.pending⟩
    obtain ⟨r, t, hsolo, hjoined⟩ := (Call.shares_flow s.service habout).exists_solo hfree
    have hbefore : s.machine.solo.Holds s.machine.world user e :=
      ⟨World.Agrees.refl _, ⟨h.found, hlasts.fresh⟩, fun _ hj => by cases hj⟩
    have hafter := hbefore.of_call s.service hc hown hsolo
    obtain ⟨-, hquiet, hworld⟩ := h.call_of_solo hsolo hjoined hafter.world
    exact ⟨⟨hquiet, hworld ▸ hafter.entry.found⟩, hworld ▸ hafter.world⟩

/-- The entry can be found after moves that spare it. -/
theorem follow (huser : user.isText = true)
    (hloads : Packed.loads (.text e.text) = x.mapError .tooDeep) {moves : List Move}
    (hmoves : s.Spares user e moves) : (s.follow moves).2.Offers user e := by
  induction moves generalizing s with
  | nil => exact h.offers hmoves
  | cons move moves ih =>
    cases move with
    | call c => exact ih (h.call huser hloads hmoves.1 hmoves.2.1).1 hmoves.2.2
    | change c => exact ih (h.change c) hmoves.2

end Has

/-! ## Reading a form -/

/-- A lookup that finds no rule set in the cache is answered what the form on the record says, and
    leaves an entry. -/
theorem Quiet.get_of_form {user : String} {form : Value} {text : String} (hs : s.Quiet)
    (hget : s.service.cache.kind = .shared ∨
      s.machine.world.failureOf .cacheGet (some (.text user)) = none)
    (hset : s.machine.world.failureOf .cacheSet (some (.text user)) = none)
    (hmiss : s.machine.world.cachedRules? (.text user) = none)
    (hentry : ∀ f, ¬s.service.cache.EntrySlip s.machine.world s.machine.world (.text user) f)
    (hreading : s.service.cache.store.reading (s.machine.world.formFor (.text user)) =
      .ok (some form))
    (hunpack : Packed.unpackWithin Cache.loadRoom form = .ok rules)
    (htext : Json.write Json.compact form = .ok text) :
    let after := (s.call none (.get (.text user))).2
    (s.call none (.get (.text user))).1 = some (.ok (.rules rules)) ∧
      s.machine.world.Agrees after.machine.world ∧
      after.Has (.text user)
        ⟨.text user, text, s.machine.world.now.add (.ofInt s.service.cache.timeToLive)⟩ := by
  have hfree : s.machine.solo.Free := ⟨rfl, hs.pending⟩
  have hlookUp := Cache.ensures_lookUp_of_form (s := s.machine.solo) hs.cache hs.connected hfree
    (show (Id.text user).isText = true from rfl) hget hset hmiss hentry hreading hunpack htext
  obtain ⟨r, t, hsolo, hbeyond, rfl, hfound⟩ := hlookUp
  have hflow : ((Call.get (.text user)).flow s.service).solo .call s.machine.solo =
      some (.ok (.rules rules), t) := solo_bind_ok hsolo _
  obtain ⟨hanswer, hquiet, hworld⟩ := hs.call_of_solo hflow hbeyond.free.joined hbeyond.world
  exact ⟨hanswer, hworld ▸ hbeyond.world, hquiet, hworld ▸ hfound⟩

/-- A lookup that finds no rule set in the cache fails if the form on the record is too deep. -/
theorem Quiet.get_of_tooDeep {user : String} {form : Value} (hs : s.Quiet)
    (hget : s.service.cache.kind = .shared ∨
      s.machine.world.failureOf .cacheGet (some (.text user)) = none)
    (hset : s.machine.world.failureOf .cacheSet (some (.text user)) = none)
    (hmiss : s.machine.world.cachedRules? (.text user) = none)
    (hentry : ∀ f, ¬s.service.cache.EntrySlip s.machine.world s.machine.world (.text user) f)
    (hreading : s.service.cache.store.reading (s.machine.world.formFor (.text user)) =
      .ok (some form)) {o : Obstacle}
    (hdeep : Packed.unpackWithin Cache.loadRoom form = .error (.tooDeep o)) :
    (s.call none (.get (.text user))).1 = some (.error (.failure (.tooDeep o))) := by
  have hfree : s.machine.solo.Free := ⟨rfl, hs.pending⟩
  obtain ⟨r, t, hsolo, hbeyond, rfl⟩ := Cache.ensures_lookUp_of_tooDeep (s := s.machine.solo)
    hs.cache hs.connected hfree hget hset hmiss hentry hreading hdeep
  have hflow : ((Call.get (.text user)).flow s.service).solo .call s.machine.solo =
      some (.error (.failure (.tooDeep o)), t) := solo_bind_error hsolo _
  exact (hs.call_of_solo hflow hbeyond.free.joined hbeyond.world).1

/-- A lookup that finds no rule set in the cache, but a form on the record, is answered what the
    form says, and puts the text of the form into the cache. From then on lookups are answered the
    same without a load as long as the entry is there and has not expired, and it is there as long
    as nobody drops it.

    Not so if there is an obstacle to reading the form, or its text: whoever meets that fails. Of
    forms that are not deep there is none. -/
theorem lookUp_of_form {user : String} {form : Value} {depth : Nat} (hs : s.Quiet)
    (hget : s.service.cache.kind = .shared ∨
      s.machine.world.failureOf .cacheGet (some (.text user)) = none)
    (hset : s.machine.world.failureOf .cacheSet (some (.text user)) = none)
    (hmiss : s.machine.world.cachedRules? (.text user) = none)
    (hentry : ∀ f, ¬s.service.cache.EntrySlip s.machine.world s.machine.world (.text user) f)
    (hreading : s.service.cache.store.reading (s.machine.world.formFor (.text user)) =
      .ok (some form))
    (hform : Json.Faithful depth form) (hunpack : Packed.unpack form = .ok rules) :
    let after := (s.call none (.get (.text user))).2
    (∀ o, Packed.unpackWithin Cache.loadRoom form = .error (.tooDeep o) →
      (s.call none (.get (.text user))).1 = some (.error (.failure (.tooDeep o)))) ∧
    (Packed.unpackWithin Cache.loadRoom form = .ok rules →
      (s.call none (.get (.text user))).1 = some (.ok (.rules rules)) ∧
      ∃ text, Json.write Json.compact form = .ok text ∧
        let e : CacheEntry :=
          ⟨.text user, text, s.machine.world.now.add (.ofInt s.service.cache.timeToLive)⟩
        after.machine.world.entries.find? (fun f => f.key = .text user) = some e ∧
        (∀ moves, after.Spares (.text user) e moves →
          (after.follow moves).2.Offers (.text user) e) ∧
        ∀ later : Session, later.Offers (.text user) e →
          (Packed.unpackWithin callRoom form = .ok rules →
            (later.call none (.get (.text user))).1 = some (.ok (.rules rules))) ∧
          (∀ o, Packed.unpackWithin callRoom form = .error (.tooDeep o) →
            (later.call none (.get (.text user))).1 = some (.error (.failure (.tooDeep o)))) ∧
          (later.call none (.get (.text user))).2.machine.world = later.machine.world ∧
          (later.call none (.get (.text user))).2.machine.loads = later.machine.loads) ∧
    (∀ room, Packed.unpackWithin room form = .ok rules ∨
      ∃ o, Packed.unpackWithin room form = .error (.tooDeep o)) ∧
    ∀ room, 2 * depth + 4 ≤ room → Packed.unpackWithin room form = .ok rules := by
  intro after
  refine ⟨fun o ho => hs.get_of_tooDeep hget hset hmiss hentry hreading ho, fun hload => ?_,
    fun room => ?_, fun room hroom => ?_⟩
  · obtain ⟨text, htext, -⟩ := Json.exists_write Json.compact form hform
    obtain ⟨hanswer, -, hhas⟩ := hs.get_of_form hget hset hmiss hentry hreading hload htext
    -- What has been read on the record is not so deep that its text could not be read.
    have hread : Json.Faithful Json.depthLimit form :=
      Packed.faithful_of_demands hform hunpack (Packed.unpackWithin_eq_ok_iff.1 hload).2
    obtain ⟨x, hx, hrules⟩ := Packed.exists_unpackWithin hunpack callRoom
    have hloads := (Packed.loads_write hread htext).trans hx
    refine ⟨hanswer, text, htext, hhas.found, fun moves hmoves => hhas.follow rfl hloads hmoves,
      fun later hlater => ?_⟩
    obtain ⟨hanswer', hworld, hsame, -⟩ := hlater.get rfl hloads
    rw [hx, hanswer']
    refine ⟨fun hok => ?_, fun o ho => ?_, hworld, hsame⟩
    · rw [mapError_eq_ok_iff.1 hok]
      rfl
    · cases x <;> cases ho
      rfl
  · obtain ⟨x, hx, hrules⟩ := Packed.exists_unpackWithin hunpack room
    cases x with
    | ok rules' => exact .inl (hx.trans (congrArg Except.ok (hrules rules' rfl)))
    | error o => exact .inr ⟨o, hx⟩
  · exact Packed.unpackWithin_eq_ok_iff.2 ⟨hunpack, Packed.allMet_demands hform hroom⟩

/-- A form as someone may write it: zeros are left at the end, a flag is a truth value, and lists of
    conditions are in each other. -/
def handForm : Value :=
  .list [
    .list [.text "read", .text "User", .int 0, .int 0],
    .list [.text "update,delete", .text "Message",
      .record [("$and", .list [
        .record [("author", .record [("id", .text "u1")])],
        .record [("$and", .list [.record [("length", .record [("$gt", .int 3)])]])]])],
      .bool true]]

/-- The form is on the record of a user. -/
def handWorld : World := { forms := [(.text "u1", handForm)] }

/-- The record is overwritten, the rule set of another user is dropped, and time passes until just
    before the entry expires. -/
def sparingMoves : List Move :=
  [.change (.setForm (.text "u1") .null), .call (.invalidate (.text "u2")),
    .change (.advance (.ofInt 299))]

/-- The lookup at the end is answered although nobody gets at the record any more. -/
theorem lookUp_of_handForm :
    let s := begin {} handWorld false
    let after := (s.call none (.get (.text "u1"))).2
    let later := (after.follow sparingMoves).2.hold .load
    ∃ rules, Packed.unpack handForm = .ok rules ∧
      (s.call none (.get (.text "u1"))).1 = some (.ok (.rules rules)) ∧
      (later.call none (.get (.text "u1"))).1 = some (.ok (.rules rules)) := by
  intro s after later
  obtain ⟨rules, hunpack⟩ : ∃ rules, Packed.unpack handForm = .ok rules := ⟨_, rfl⟩
  have hquiet : s.Quiet := ⟨⟨rfl, rfl, rfl, List.forall_mem_nil _⟩, rfl, rfl, ⟨rfl, rfl⟩⟩
  have hmiss : handWorld.textFor (.text "u1") = none := rfl
  have hrules : handWorld.cachedRules? (.text "u1") = none := by rw [World.cachedRules?, hmiss]; rfl
  have hentry : ∀ f, ¬s.service.cache.EntrySlip handWorld handWorld (.text "u1") f :=
    Cache.not_entrySlip_none hmiss
  have hform : Json.Faithful 9 handForm := by
    have hshort : Json.IsShort 0 ∧ Json.IsShort 3 := by
      unfold Json.IsShort
      decide
    simpa [Json.Faithful, Json.FaithfulItems, Json.FaithfulEntries, handForm, Value.record,
      Entries.ofFields] using hshort
  obtain ⟨-, hread, -, hshallow⟩ :=
    lookUp_of_form hquiet (.inr rfl) rfl hrules hentry rfl hform hunpack
  obtain ⟨hanswer, text, htext, -, hkeeps, hhits⟩ := hread (hshallow _ (by decide))
  refine ⟨rules, hunpack, hanswer, (hhits later ?_).1 (hshallow _ (by decide))⟩
  -- The entry can be found in the course of the moves.
  have hloads : Packed.loads (.text text) = (Except.ok rules).mapError .tooDeep :=
    (Packed.loads_write (hform.mono (by decide)) htext).trans (hshallow _ (by decide))
  obtain ⟨-, hagrees, hhas⟩ := hquiet.get_of_form (.inr rfl) rfl hrules hentry rfl
    (hshallow _ (by decide)) htext
  let e : CacheEntry := ⟨.text "u1", text, handWorld.now.add (.ofInt 300)⟩
  have hfresh : handWorld.expired e = false := by
    simp only [World.expired, e]
    decide +kernel
  have hlater : ((Change.advance (.ofInt 299)).apply handWorld).expired e = false := by
    simp only [World.expired, Change.apply, e]
    decide +kernel
  have hlasts : handWorld.Lasts (.text "u1") e := ⟨hfresh, rfl⟩
  have hspares {w : World} : (Call.invalidate (.text "u2")).Spares (.text "u1") w :=
    ⟨rfl, by decide⟩
  have hwritten := hagrees.trans (World.agrees_setForm _ (.text "u1") .null)
  obtain ⟨-, hdropped⟩ := (hhas.change (.setForm (.text "u1") .null)).call rfl hloads
    (hlasts.of_agrees hwritten) hspares
  have hmoves : after.Spares (.text "u1") e sparingMoves := by
    refine ⟨hlasts.of_agrees hagrees, hlasts.of_agrees hwritten, hspares,
      hlasts.of_agrees (hwritten.trans hdropped), ?_⟩
    exact World.Lasts.of_agrees ⟨hlater, rfl⟩ ((hwritten.trans hdropped).apply _)
  exact (hkeeps sparingMoves hmoves).hold (by decide)

/-- A form that compares a field with lists in lists is on the record of a user. -/
def boxedWorld (n : Nat) : World := { forms := [(.text "u1", Packed.boxedForm n)] }

/-- Not all forms that can be unpacked are answered: lists in lists that are deep enough fail the
    lookup that reads them. -/
theorem not_forall_lookUp_of_form : ¬∀ (s : Session) (user : String) (form : Value) (depth : Nat)
    (rules : RuleSet), s.Quiet → s.service.cache.kind = .shared →
    s.machine.world.failureOf .cacheSet (some (.text user)) = none →
    s.machine.world.textFor (.text user) = none →
    s.service.cache.store.reading (s.machine.world.formFor (.text user)) = .ok (some form) →
    Json.Faithful depth form → Packed.unpack form = .ok rules →
    (s.call none (.get (.text user))).1 = some (.ok (.rules rules)) := by
  intro hall
  let s := begin { cache := { kind := .shared } } (boxedWorld 495) false
  have hquiet : s.Quiet := ⟨⟨rfl, rfl, rfl, List.forall_mem_nil _⟩, rfl, rfl, ⟨rfl, rfl⟩⟩
  have hmiss : s.machine.world.textFor (.text "u1") = none := rfl
  have hentry : ∀ f, ¬s.service.cache.EntrySlip s.machine.world s.machine.world (.text "u1") f :=
    Cache.not_entrySlip_none hmiss
  obtain ⟨rules, hunpack⟩ := Packed.exists_unpack_boxedForm 495
  have hdeep : Packed.unpackWithin Cache.loadRoom (Packed.boxedForm 495) =
      .error (.tooDeep .calls) := Packed.unpackWithin_of_firstObstacle?
    ((Packed.firstObstacle?_demands_boxed _ _).trans (if_neg (by decide)))
  have hanswer := hall s "u1" _ _ rules hquiet rfl rfl hmiss rfl
    (Packed.faithful_boxedForm 495) hunpack
  rw [hquiet.get_of_tooDeep (.inl rfl) rfl (by rw [World.cachedRules?, hmiss]; rfl) hentry rfl
    hdeep] at hanswer
  cases hanswer

end Session

end HouseholdAccess
