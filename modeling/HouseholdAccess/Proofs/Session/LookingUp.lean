import HouseholdAccess.Proofs.Cache.Fallback
import HouseholdAccess.Proofs.Role.Tables
import HouseholdAccess.Proofs.Solo.Caller

/-!
# Lookups in a session at rest

What a lookup answers when nothing else is under way (`Session.Resting`): the rule
set that is offered, unless one of the slips of `Cache.Slips` fails it
(`Session.Resting.get`).

With a shared cache and a database, that is all that can happen to a lookup as long
as the roles can be read, whatever else fails (`Session.lookUp_offered_or_slips`).
If nothing is kept of the user, the tables decide (`Session.lookUp_of_tables`).
-/

namespace HouseholdAccess

open HouseholdAccess.Flow

namespace Session

variable {s : Session} {user : String}

/-- Nothing is under way, there are connections to the systems, and names are texts. -/
structure Resting (s : Session) : Prop where
  idle : s.machine.Idle
  cache : s.machine.cache = s.service.cache
  pending : s.machine.desk.pending = []
  connected : s.machine.world.IsConnected
  names : s.machine.world.HasTextNames

/-- A session that has just begun is at rest. -/
theorem resting_begin {service : Service} {world : World} {counts : Bool}
    (hheld : world.held = []) (hconnected : world.IsConnected) (hnames : world.HasTextNames) :
    (begin service world counts).Resting :=
  ⟨⟨rfl, hheld, rfl, List.forall_mem_nil _⟩, rfl, rfl, hconnected, hnames⟩

/-- A lookup is answered what is offered, unless it slips. -/
theorem Resting.get (hs : s.Resting)
    (hbears : s.service.cache.Bears s.machine.world (.text user)) :
    (∃ f, s.service.cache.Slips s.machine.world (.text user) f ∧
      (s.call none (.get (.text user))).1 = some (.error (.failure f))) ∨
    (∀ f, ¬s.service.cache.Slips s.machine.world (.text user) f) ∧
      (s.call none (.get (.text user))).1 =
        some ((s.service.cache.offered s.machine.world (.text user)).map .rules) := by
  have hlookUp := Cache.Bears.ensures_lookUp (s := s.machine.solo) hbears hs.cache hs.connected
    hs.names ⟨rfl, hs.pending⟩ (show (Id.text user).isText = true from rfl)
  have hflow : ((Call.get (.text user)).flow s.service).Ensures .call s.machine.solo fun r t =>
      s.machine.solo.Beyond t ∧
        ((∃ f, s.service.cache.Slips s.machine.world (.text user) f ∧ r = .error (.failure f)) ∨
          (∀ f, ¬s.service.cache.Slips s.machine.world (.text user) f) ∧
            r = (s.service.cache.offered s.machine.world (.text user)).map .rules) := by
    refine hlookUp.bind (fun rules t ht => ?_) fun e t ht => ?_
    · obtain ⟨hbeyond, ⟨f, -, hf⟩ | ⟨hnone, hr⟩⟩ := ht
      · cases hf
      · exact ensures_pure ⟨hbeyond, .inr ⟨hnone, congrArg (Except.map Answer.rules) hr⟩⟩
    · obtain ⟨hbeyond, ⟨f, hslip, hf⟩ | ⟨hnone, hr⟩⟩ := ht
      · cases hf
        exact ⟨hbeyond, .inl ⟨f, hslip, rfl⟩⟩
      · exact ⟨hbeyond, .inr ⟨hnone, congrArg (Except.map Answer.rules) hr⟩⟩
  obtain ⟨r, t, hsolo, hbeyond, hr⟩ := hflow
  obtain ⟨m, hcall, -, houtcome, -⟩ := Machine.call_solo hs.idle hsolo hbeyond.free.joined
  have hanswer : (s.call none (.get (.text user))).1 = some r := by
    simp only [Session.call, hcall, houtcome]
  rw [hanswer]
  rcases hr with ⟨f, hslip, rfl⟩ | ⟨hnone, rfl⟩
  · exact .inl ⟨f, hslip, rfl⟩
  · exact .inr ⟨hnone, rfl⟩

/-! ## While systems are away -/

/-- With a shared cache and a database, a lookup of a user whose roles can be read is answered the
    rule set in the cache, else the one on the record, else the one that is compiled, whatever else
    fails, unless it slips. -/
theorem lookUp_offered_or_slips (hs : s.Resting) (hkind : s.service.cache.kind = .shared)
    (hstore : s.service.cache.store = .database) {c : UserContext}
    (hread : s.machine.world.readContext (.text user) = .ok c) :
    (∃ f, s.service.cache.Slips s.machine.world (.text user) f ∧
      (s.call none (.get (.text user))).1 = some (.error (.failure f))) ∨
    (∀ f, ¬s.service.cache.Slips s.machine.world (.text user) f) ∧
      (s.call none (.get (.text user))).1 = some (.ok (.rules
        (((s.machine.world.cachedRules? (.text user)).or
          (s.machine.world.writtenRules? .database (.text user))).getD c.compile))) := by
  refine (hs.get ⟨.inl hkind, .inl hstore⟩).imp_right fun ⟨hnone, hanswer⟩ => ⟨hnone, ?_⟩
  rw [hanswer, Cache.offered, hstore, Cache.compiled, hread]
  cases (s.machine.world.cachedRules? (.text user)).or
    (s.machine.world.writtenRules? .database (.text user)) <;> rfl

/-- A service with a shared cache and a database. -/
def sharing : Service := { cache := { kind := .shared, store := .database } }

/-- A world without rows in which the entry of the user cannot be read. -/
def unreadableWorld (failing : List Outage) : World where
  storeKind := .database
  cacheKind := .shared
  entries := [⟨.text "u1", "\x7b\x7d", .ofInt 1300⟩]
  failing

section Unreadable

variable (failing : List Outage)

theorem resting_unreadableWorld : (begin sharing (unreadableWorld failing) false).Resting :=
  resting_begin rfl ⟨rfl, rfl⟩ ⟨List.forall_mem_nil _, List.forall_mem_nil _⟩

theorem exists_readContext_unreadableWorld
    (hroles : (unreadableWorld failing).failureOf .roles (some (.text "u1")) = none)
    (hmanaged : (unreadableWorld failing).failureOf .managed (some (.text "u1")) = none) :
    ∃ c, (unreadableWorld failing).readContext (.text "u1") = .ok c := by
  refine (World.exists_readContext_iff (resting_unreadableWorld failing).names rfl).2 ⟨?_, nofun⟩
  rintro (h | h | ⟨_, ⟨_, hrow, -⟩, -⟩ | ⟨_, ⟨_, hrow, -⟩, -⟩)
  · exact h hroles
  · exact h hmanaged
  · cases hrow
  · cases hrow

end Unreadable

/-- An entry cannot be taken out. -/
def stuckFailing : List Outage :=
  [⟨.cacheDelete, none, .outside .connection "connection lost"⟩]

/-- An entry that cannot be read fails a lookup if it cannot be taken out. -/
theorem not_forall_lookUp_offered : ¬∀ (s : Session) (user : String) (c : UserContext),
    s.Resting → s.service.cache.kind = .shared → s.service.cache.store = .database →
    s.machine.world.readContext (.text user) = .ok c →
    (s.call none (.get (.text user))).1 = some (.ok (.rules
      (((s.machine.world.cachedRules? (.text user)).or
        (s.machine.world.writtenRules? .database (.text user))).getD c.compile))) := by
  intro h
  have hresting := resting_unreadableWorld stuckFailing
  obtain ⟨c, hread⟩ := exists_readContext_unreadableWorld stuckFailing rfl rfl
  have hanswer := h _ "u1" c hresting rfl rfl hread
  have hbears : sharing.cache.Bears (unreadableWorld stuckFailing) (.text "u1") :=
    ⟨.inl rfl, .inl rfl⟩
  rcases hresting.get hbears with ⟨f, -, hfails⟩ | ⟨hnone, -⟩
  · rw [hfails] at hanswer
    cases hanswer
  · have htext : (unreadableWorld stuckFailing).textFor (.text "u1") = some "\x7b\x7d" := by
      decide +kernel
    exact hnone _ (.inl (.stuck htext rfl rfl))

/-! ## From the tables -/

/-- Whatever becomes of reading the context of a user is reported as role data that cannot be
    read. -/
theorem exists_reported (user : Id) (f : Failure) :
    ∃ g : ServiceFailure, UserContext.reported user f = .service g ∧
      g.kind = .roleDataUnavailable := by
  rw [UserContext.reported]
  split
  · next h =>
    cases f with
    | service g => exact ⟨g, rfl, of_decide_eq_true h⟩
    | _ => cases h
  · exact ⟨_, rfl, rfl⟩

theorem textFor_of_lookUp {w : World} {user : Id} (h : (w.lookUp user).1 = none) :
    w.textFor user = none := by
  rw [World.textFor, World.perform_fst]
  cases (w.notConnected? (.cacheGet user)).or (w.failureAt? (.cacheGet user))
  · exact h
  · rfl

theorem formFor_of_formOf {w : World} {user : Id} (h : w.formOf user = none) :
    w.formFor user = none := by
  rw [World.formFor, World.perform_fst]
  cases (w.notConnected? (.load user)).or (w.failureAt? (.load user))
  · exact h
  · rfl

/-- Where nothing is kept of a user, nothing slips. -/
theorem not_slips_of_nothing {c : Cache} {w : World} {user : Id} (htext : w.textFor user = none)
    (hform : w.formFor user = none) (f : Failure) : ¬c.Slips w user f := by
  rintro ((⟨htext', -⟩ | ⟨htext', -, -⟩) | ⟨-, hslip⟩)
  · rw [htext] at htext'
    cases htext'
  · rw [htext] at htext'
    cases htext'
  · have hreading : c.store.reading (w.formFor user) = .ok none := by
      rw [hform]
      rfl
    exact Cache.not_recordSlip_none hreading f hslip

/-- Where nothing is kept of a user, a lookup is answered what is compiled. -/
theorem Resting.get_of_nothing (hs : s.Resting)
    (hbears : s.service.cache.Bears s.machine.world (.text user))
    (hentry : (s.machine.world.lookUp (.text user)).1 = none)
    (hform : s.machine.world.formOf (.text user) = none) :
    (s.call none (.get (.text user))).1 =
      some ((Cache.compiled s.machine.world (.text user)).map .rules) := by
  have htext := textFor_of_lookUp hentry
  have hnothing := formFor_of_formOf hform
  have hoffered : s.service.cache.offered s.machine.world (.text user) =
      Cache.compiled s.machine.world (.text user) := by
    rw [Cache.offered, World.cachedRules?, World.writtenRules?, htext, hnothing]
    rfl
  rw [← hoffered]
  rcases hs.get hbears with ⟨f, hslip, -⟩ | ⟨-, hanswer⟩
  · exact absurd hslip (not_slips_of_nothing htext hnothing f)
  · exact hanswer

/-- A lookup of a user of whom nothing is kept is answered rules that the tables govern, if no read
    fails that is made and the roles of the user are known, and else fails for want of role
    data. -/
theorem lookUp_of_tables (hs : s.Resting)
    (hbears : s.service.cache.Bears s.machine.world (.text user))
    (hentry : (s.machine.world.lookUp (.text user)).1 = none)
    (hform : s.machine.world.formOf (.text user) = none) :
    (¬s.machine.world.ReadFails (.text user) ∧ s.machine.world.KnowsRoles (.text user) →
      ∃ rules, (s.call none (.get (.text user))).1 = some (.ok (.rules rules)) ∧
        s.machine.world.Governs (.text user) rules) ∧
    (s.machine.world.ReadFails (.text user) ∨ ¬s.machine.world.KnowsRoles (.text user) →
      ∃ f : ServiceFailure, f.kind = .roleDataUnavailable ∧
        (s.call none (.get (.text user))).1 = some (.error (.failure (.service f)))) := by
  have hiff := World.exists_readContext_iff hs.names (u := .text user) rfl
  rw [hs.get_of_nothing hbears hentry hform, Cache.compiled]
  constructor
  · intro h
    obtain ⟨c, hread⟩ := hiff.2 h
    rw [hread]
    refine ⟨c.compile, rfl, ?_⟩
    exact World.governs_compile hs.names rfl (World.contextOf_of_readContext hread)
  · intro h
    cases hread : s.machine.world.readContext (.text user) with
    | ok c =>
      obtain ⟨hfails, hknows⟩ := hiff.1 ⟨c, hread⟩
      exact absurd hknows (h.resolve_left hfails)
    | error f =>
      obtain ⟨g, hg, hkind⟩ := exists_reported (.text user) f
      refine ⟨g, hkind, ?_⟩
      rw [← hg]
      rfl

/-- A manager of one household, with two rows there, who is a member of another one and manages a
    user there. -/
def tablesWorld : World where
  storeKind := .database
  rows := [⟨.text "h1", .text "u1", .text "manager"⟩, ⟨.text "h1", .text "u1", .text "member"⟩,
    ⟨.text "h1", .text "a1", .text "ai"⟩, ⟨.text "h2", .text "u1", .text "member"⟩,
    ⟨.text "h2", .text "u2", .text "member"⟩]
  managers := [(.text "u2", .text "u1")]

theorem lookUp_of_tablesWorld :
    let s := begin sharing tablesWorld false
    s.Resting ∧ sharing.cache.Bears tablesWorld (.text "u1") ∧
      (tablesWorld.lookUp (.text "u1")).1 = none ∧ tablesWorld.formOf (.text "u1") = none ∧
      ∃ rules, (s.call none (.get (.text "u1"))).1 = some (.ok (.rules rules)) ∧
        tablesWorld.Governs (.text "u1") rules := by
  have hnames : tablesWorld.HasTextNames := by constructor <;> decide
  have hresting : (begin sharing tablesWorld false).Resting := resting_begin rfl ⟨rfl, rfl⟩ hnames
  have hbears : sharing.cache.Bears tablesWorld (.text "u1") := ⟨.inl rfl, .inl rfl⟩
  have hreads : ¬tablesWorld.ReadFails (.text "u1") := by
    rintro (h | h | ⟨_, -, h⟩ | ⟨_, -, h⟩) <;> exact h rfl
  have hknows : tablesWorld.KnowsRoles (.text "u1") := by
    intro row hrow _
    simp only [tablesWorld, List.mem_cons, List.not_mem_nil, or_false] at hrow
    rcases hrow with rfl | rfl | rfl | rfl | rfl
    · exact ⟨.manager, rfl⟩
    · exact ⟨.member, rfl⟩
    · exact ⟨.ai, rfl⟩
    · exact ⟨.member, rfl⟩
    · exact ⟨.member, rfl⟩
  exact ⟨hresting, hbears, rfl, rfl, (lookUp_of_tables hresting hbears rfl rfl).1 ⟨hreads, hknows⟩⟩

end Session

end HouseholdAccess
