import HouseholdAccess.Proofs.Cache.Kinds
import HouseholdAccess.Proofs.Session.LookingUp

/-!
# Sessions with caches of either kind

A session in which one caller comes after the other is given by its moves
(`Session.follow`). Two sessions that *match* (`Session.Matches`) differ in the kind of
their caches only. They answer a call alike (`Session.Matches.call`), and match after every
move, so that the kind of the cache makes no difference to a whole run
(`Session.follow_using`).
-/

namespace HouseholdAccess

open HouseholdAccess.Flow

/-- The service with a cache of a kind. -/
def Service.using (s : Service) (kind : CacheKind) : Service :=
  { s with cache := { s.cache with kind } }

/-- The world with a cache of a kind. -/
def World.using (w : World) (kind : CacheKind) : World := { w with cacheKind := kind }

namespace Session

/-! ## Moves -/

/-- What happens in a session where one caller comes after the other. -/
inductive Move
  /-- A caller comes. -/
  | call (c : Call)
  /-- The world changes. -/
  | change (c : Change)

/-- The call is about the rule set of a user whose name is a text, or about those of a household;
    the change is one of the role data, or time passes. -/
def Move.IsPlain : Move → Prop
  | .call (.get user) | .call (.recompute user) | .call (.invalidate user) => user.isText = true
  | .call (.invalidateHousehold _) => True
  | .call _ => False
  | .change c => c.IsRoutine ∧ c.Passes

/-- What callers are answered in the course of moves, and the session after them. -/
def follow (s : Session) : List Move → List (Option (Except Interruption Answer)) × Session
  | [] => ([], s)
  | .call c :: moves =>
    let (answer, s) := s.call none c
    let (answers, s) := s.follow moves
    (answer :: answers, s)
  | .change c :: moves => (s.change c).follow moves

/-! ## Sessions that match -/

/-- Nothing is under way in the sessions, and what callers meet matches. -/
structure Matches (s t : Session) : Prop where
  idle : s.machine.Idle
  idle' : t.machine.Idle
  cache : s.machine.cache = s.service.cache
  service : t.service.cache = { s.service.cache with kind := .shared }
  free : s.machine.solo.Free
  places : s.machine.solo.Matches t.machine.solo

variable {s t : Session}

/-- Callers do the same in sessions that match. -/
theorem Matches.twins_flow (h : s.Matches t) {c : Call} (hc : (Move.call c).IsPlain) :
    (c.flow s.service).Twins .alike (c.flow t.service) := by
  have htwins {user : Id} (huser : user.isText = true) :
      s.service.cache.Twins .alike user t.service.cache := by
    rw [h.service]
    exact Cache.twins_shared (h.cache ▸ h.places.kind) (h.cache ▸ h.places.lasts) huser
  have hflow {user : Id} (huser : user.isText = true) (hc : c.IsAbout user) :
      (c.flow s.service).Twins .alike (c.flow t.service) :=
    Cache.Twins.flow (fun _ => Terms.alike_passes huser) huser (fun _ _ => id) (htwins huser) hc
  cases c with
  | get user | recompute user | invalidate user => exact hflow hc rfl
  | invalidateHousehold household =>
    exact (Cache.twins_invalidateHousehold household).bind fun _ => twins_pure _
  | _ => exact hc.elim

/-- A call is answered alike, and the sessions match after it. -/
theorem Matches.call (h : s.Matches t) {c : Call} (hc : (Move.call c).IsPlain) :
    ∃ r, (s.call none c).1 = some r ∧ (t.call none c).1 = some r ∧
      (s.call none c).2.Matches (t.call none c).2 := by
  have habout : c.IsAboutRules := by
    cases c with
    | get | recompute | invalidate | invalidateHousehold => trivial
    | _ => exact hc.elim
  obtain ⟨r, s', hs', hjoined⟩ := (Call.shares_flow s.service habout).exists_solo h.free
  obtain ⟨t', ht', hmatches⟩ :=
    Program.Twins.solo Helper.isAlike_call (h.twins_flow hc) h.places hs'
  have hjoined' : t'.joined = none := by
    rw [hmatches.same]
    exact hjoined
  obtain ⟨m, hcall, hidle, houtcome, hm⟩ := Machine.call_solo h.idle hs' hjoined
  obtain ⟨m', hcall', hidle', houtcome', hm'⟩ := Machine.call_solo h.idle' ht' hjoined'
  have hfree := Solo.Free.of_solo hs' h.free hjoined
  have hrests : s'.cache = s.machine.cache := Solo.cache_of_solo hs'
  refine ⟨r, ?_, ?_, ?_⟩
  · simp only [Session.call, hcall, houtcome]
  · simp only [Session.call, hcall', houtcome']
  · simp only [Session.call, hcall, hcall']
    refine ⟨hidle, hidle', ?_, h.service, ?_, ?_⟩
    · have hcache : m.cache = s'.cache := congrArg Solo.cache hm
      exact hcache.trans (hrests.trans h.cache)
    · exact hm ▸ ⟨hfree.joined, hfree.pending⟩
    · rw [hm, hm']
      exact ⟨hmatches.kind, hmatches.lasts, hmatches.world, hmatches.joined,
        by rw [hmatches.same]⟩

/-- Sessions that match still do so when the world changes. -/
theorem Matches.change (h : s.Matches t) {c : Change} (hc : c.IsRoutine) (hpasses : c.Passes) :
    (s.change c).Matches (t.change c) where
  idle := ⟨h.idle.ready, (hc.kept _).2.2.trans h.idle.free, h.idle.loads, h.idle.outcomes⟩
  idle' := ⟨h.idle'.ready, (hc.kept _).2.2.trans h.idle'.free, h.idle'.loads, h.idle'.outcomes⟩
  cache := h.cache
  service := h.service
  free := ⟨h.free.joined, h.free.pending⟩
  places := by
    refine ⟨h.places.kind, h.places.lasts, h.places.world.apply hc hpasses,
      (fun _ h => by cases h), ?_⟩
    have hsame := h.places.same
    simp only [Machine.solo, Solo.mk.injEq] at hsame
    simp only [Machine.solo, Session.change, Solo.mk.injEq]
    exact ⟨hsame.1, trivial, hsame.2.2⟩

/-- What callers are answered in the course of moves, and the session after them, with a local cache
    and with a shared one. -/
theorem Matches.follow (h : s.Matches t) {moves : List Move} (hmoves : ∀ m ∈ moves, m.IsPlain) :
    (t.follow moves).1 = (s.follow moves).1 ∧ (∀ r ∈ (s.follow moves).1, r.isSome = true) ∧
      (s.follow moves).2.Matches (t.follow moves).2 := by
  induction moves generalizing s t with
  | nil => exact ⟨rfl, List.forall_mem_nil _, h⟩
  | cons move moves ih =>
    rw [List.forall_mem_cons] at hmoves
    cases move with
    | call c =>
      obtain ⟨r, hs, ht, hcall⟩ := h.call hmoves.1
      obtain ⟨hanswers, hsome, hmatches⟩ := ih hcall hmoves.2
      simp only [Session.follow, hs, ht, hanswers, List.forall_mem_cons]
      exact ⟨trivial, ⟨rfl, hsome⟩, hmatches⟩
    | change c => exact ih (h.change hmoves.1.1 hmoves.1.2) hmoves.2

/-- Sessions that begin with nothing in the cache match. -/
theorem matches_begin {service : Service} {world : World} (counts : Bool)
    (hlasts : 0 ≤ service.cache.timeToLive) (hserves : world.Serves) (hnames : world.HasTextNames)
    (hnow : world.now.IsTime) (hentries : world.entries = []) (hheld : world.held = []) :
    (begin (service.using .local) (world.using .local) counts).Matches
      (begin (service.using .shared) (world.using .shared) counts) := by
  have hnone {kind : CacheKind} : (world.using kind).entries = [] := hentries
  have horder (kind : CacheKind) : (world.using kind).IsInOrder := by
    refine ⟨⟨hnow, ?_⟩, ⟨⟨hserves.store, hserves.cache⟩, hserves.sound⟩,
      ⟨hnames.rows, hnames.managers⟩, ?_⟩
    · rw [hnone]
      exact List.Pairwise.nil
    · rw [World.HasTimes, hnone]
      exact List.forall_mem_nil _
  refine ⟨⟨rfl, hheld, rfl, List.forall_mem_nil _⟩, ⟨rfl, hheld, rfl, List.forall_mem_nil _⟩, rfl,
    rfl, ⟨rfl, rfl⟩, rfl, hlasts, ⟨⟨world.entries, rfl⟩, rfl, horder .local, horder .shared, ?_⟩,
    (fun _ h => by cases h), rfl⟩
  intro user huser
  change (world.using .shared).lasting user = (world.using .local).lasting user
  rw [(horder .local).lasting_eq huser, (horder .shared).lasting_eq huser, hnone, hnone]
  rfl

/-- While nothing but reads of role data may fail, services that begin with nothing in the cache
    answer every call alike and leave the same records and the same count of reads, whether the
    cache is local or shared. -/
theorem follow_using (service : Service) (world : World) (counts : Bool) {moves : List Move}
    (hlasts : 1 ≤ service.cache.timeToLive) (hserves : world.Serves) (hnames : world.HasTextNames)
    (hnow : world.now.IsTime) (hentries : world.entries = []) (hheld : world.held = [])
    (hmoves : ∀ m ∈ moves, m.IsPlain) :
    let run (kind : CacheKind) :=
      (begin (service.using kind) (world.using kind) counts).follow moves
    (run .shared).1 = (run .local).1 ∧ (∀ r ∈ (run .local).1, r.isSome = true) ∧
      (run .shared).2.machine.world.forms = (run .local).2.machine.world.forms ∧
      (run .shared).2.machine.world.reads = (run .local).2.machine.world.reads := by
  have hstays : 0 ≤ service.cache.timeToLive := by omega
  have hbegin := matches_begin counts hstays hserves hnames hnow hentries hheld
  obtain ⟨hanswers, hsome, hmatches⟩ := hbegin.follow hmoves
  exact ⟨hanswers, hsome, hmatches.places.world.kept⟩

/-- A lookup, one when the entry is about to expire, a change of role data, and a drop. -/
def expiryMoves : List Move :=
  [.call (.get (.text "u1")), .change (.advance (.ofInt 300)), .call (.get (.text "u1")),
    .change (.addMember ⟨.text "h2", .text "u1", .text "manager"⟩),
    .call (.invalidateHousehold (.text "h2")), .call (.recompute (.text "u1"))]

theorem follow_using_expiryMoves :
    let run (kind : CacheKind) :=
      (begin (sharing.using kind) (tablesWorld.using kind) true).follow expiryMoves
    (run .shared).1 = (run .local).1 ∧ (∀ r ∈ (run .local).1, r.isSome = true) ∧
      (run .shared).2.machine.world.forms = (run .local).2.machine.world.forms ∧
      (run .shared).2.machine.world.reads = (run .local).2.machine.world.reads := by
  have hnames : tablesWorld.HasTextNames := by constructor <;> decide
  have hnow : tablesWorld.now.IsTime := by
    simp only [tablesWorld]
    exact Binary64.isTime_ofInt (by decide)
  have hpasses : Change.Passes (.advance (.ofInt 300)) :=
    (Binary64.isTime_ofInt (by decide)).isSpan
  refine follow_using sharing tablesWorld true (by decide) ⟨⟨rfl, rfl⟩, List.forall_mem_nil _⟩
    hnames hnow rfl rfl ?_
  simp only [expiryMoves, List.forall_mem_cons]
  exact ⟨rfl, ⟨trivial, hpasses⟩, rfl, ⟨⟨rfl, rfl⟩, trivial⟩, trivial, rfl, List.forall_mem_nil _⟩

end Session

end HouseholdAccess
