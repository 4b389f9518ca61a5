import HouseholdAccess.Proofs.Cache.Keeping
import HouseholdAccess.Proofs.Session.Routine
import HouseholdAccess.Proofs.Solo.Caller

/-!
# Events that follow changes

While roles change, events tell the service of the changes: late, out of order and
more than once. Callers come one after the other, and nothing fails but reads of
role data (`Session.Reached`).

A change of role data is about the membership of a user in a household, or about
the users whom somebody manages (`Concern`). It waits until an event that names
what it is about is handled. `Session.lookUp_of_reached` says that lookups are
right once nothing waits: whatever they answer is compiled from the roles as they
are, and they do answer if the roles can be read.

In between, the users of whom something old may be kept are those of a membership
that waits, the present members of its household, and those who manage others in a
way that waits (`IsDue`). Members who have come or gone meanwhile are among them,
as their own memberships wait.
-/

namespace HouseholdAccess

open HouseholdAccess.Flow

/-- What a change of role data is about. -/
inductive Concern
  /-- The membership of a user in a household. -/
  | membership (household user : String)
  /-- The users whom somebody manages. -/
  | managed (manager : String)

namespace Change

/-- What a change does something to. -/
def Concerns (c : Change) (w : World) : Concern → Prop
  | .membership household user =>
    c.IsMembership (.text household) (.text user) ∧ (c.apply w).rows ≠ w.rows
  | .managed manager => (c.apply w).managedBy (.text manager) ≠ w.managedBy (.text manager)

end Change

/-- The event names the text; the empty text is no name. -/
def RoleChangeEvent.Names (name : Option Id) (text : String) : Prop :=
  name = some (.text text) ∧ text ≠ ""

/-- The event tells of the concern. -/
def RoleChangeEvent.TellsOf (e : RoleChangeEvent) : Concern → Prop
  | .membership household user =>
    e.type.isMembership = true ∧ Names e.household household ∧ Names e.user user
  | .managed manager => e.type = .managedChanged ∧ Names e.user manager

/-- A world whose systems are in order, in which nothing is held up, and nothing is kept. -/
structure World.IsFresh (w : World) : Prop where
  serves : w.Serves
  names : w.HasTextNames
  free : w.held = []
  entries : w.entries = []
  forms : w.forms = []

namespace Session

/-- A payload is handled now, and its event tells of the concern. -/
def Settles (s : Session) (topic : String) (payload : Value) (k : Concern) : Prop :=
  (∃ fields, (s.call none (.payload topic payload)).1 = some (.ok (.applied true fields))) ∧
    ∃ e, Cache.readEvent topic payload = .ok e ∧ e.TellsOf k

/-- What is reached from a session by changes, lookups and payloads that come one after the other,
    and the concerns that wait for an event then. -/
inductive Reached (start : Session) : Session → (Concern → Prop) → Prop
  | start : Reached start start fun _ => False
  | change {s : Session} {waiting : Concern → Prop} {c : Change} :
    Reached start s waiting → c.IsRoutine →
      Reached start (s.change c) fun k => waiting k ∨ c.Concerns s.machine.world k
  | lookUp {s : Session} {waiting : Concern → Prop} (user : String) :
    Reached start s waiting → Reached start (s.call none (.get (.text user))).2 waiting
  | payload {s : Session} {waiting : Concern → Prop} (topic : String) (payload : Value) :
    Reached start s waiting → Reached start (s.call none (.payload topic payload)).2
      fun k => waiting k ∧ ¬s.Settles topic payload k

end Session

/-! ## Users who are due -/

/-- The user is the one of a concern that waits, or a member of its household. -/
def IsDue (waiting : Concern → Prop) (w : World) (v : Id) : Prop :=
  (∃ household user, waiting (.membership household user) ∧
    (v = .text user ∨ v ∈ w.membersOf (.text household))) ∨
  ∃ manager, waiting (.managed manager) ∧ v = .text manager

theorem IsDue.mono {waiting waiting' : Concern → Prop} {w : World} {v : Id}
    (h : ∀ k, waiting k → waiting' k) (hv : IsDue waiting w v) : IsDue waiting' w v := by
  rcases hv with ⟨household, user, hk, hv⟩ | ⟨manager, hk, hv⟩
  · exact .inl ⟨household, user, h _ hk, hv⟩
  · exact .inr ⟨manager, h _ hk, hv⟩

namespace Change

variable {c : Change} {w : World} {waiting : Concern → Prop} {v household user : Id}

/-- A membership that changes leaves the other members of all households. -/
theorem mem_membersOf_apply (hc : c.IsMembership household user) (hw : w.HasTextNames)
    (hw' : (c.apply w).HasTextNames) {name : Id} (hname : name.isText = true) (hv : v ≠ user) :
    v ∈ (c.apply w).membersOf name ↔ v ∈ w.membersOf name := by
  -- The rows of another user are the same as before.
  have hrows : (c.apply w).rows.filter (fun row => row.household = name ∧ row.user = v) =
      w.rows.filter fun row => row.household = name ∧ row.user = v := by
    refine filter_rows hc fun row _ huser => ?_
    rw [decide_eq_false_iff_not]
    rintro ⟨-, rfl⟩
    exact hv huser
  have hmem (row : MemberRow) (hrow : row.household = name ∧ row.user = v) :
      row ∈ (c.apply w).rows ↔ row ∈ w.rows := by
    have hiff : row ∈ (c.apply w).rows.filter (fun row => row.household = name ∧ row.user = v) ↔
        row ∈ w.rows.filter fun row => row.household = name ∧ row.user = v := by rw [hrows]
    simpa only [List.mem_filter, hrow.1, hrow.2, and_self, decide_true, and_true] using hiff
  rw [hw.mem_membersOf hname, hw'.mem_membersOf hname]
  exact exists_congr fun row => and_congr_left fun hrow => hmem row hrow

/-- A change of a membership that leaves the rows changes nothing. -/
theorem apply_eq_of_rows (hc : c.IsMembership household user) (hrows : (c.apply w).rows = w.rows) :
    c.apply w = w := by
  have hall : c.apply w = { w with rows := (c.apply w).rows } := by
    cases c <;> first | rfl | exact hc.elim
  rw [hall, hrows]

/-- Users who are not due after a change of a membership were not due before, and it is no concern
    of theirs. -/
theorem not_isDue_of_membership {household user : String}
    (hc : c.IsMembership (.text household) (.text user)) (hw : w.HasTextNames)
    (hw' : (c.apply w).HasTextNames) (hv : v.isText = true)
    (hnot : ¬IsDue (fun k => waiting k ∨ c.Concerns w k) (c.apply w) v) :
    ¬IsDue waiting w v ∧ (c.apply w).contextOf v = w.contextOf v := by
  by_cases hrows : (c.apply w).rows = w.rows
  · rw [apply_eq_of_rows hc hrows] at hnot ⊢
    exact ⟨fun hdue => hnot (hdue.mono fun _ => .inl), rfl⟩
  · have hwaits : c.Concerns w (.membership household user) := ⟨hc, hrows⟩
    have hne : v ≠ .text user := fun hv =>
      hnot (.inl ⟨household, user, .inr hwaits, .inl hv⟩)
    have hsame (name : String) : v ∈ (c.apply w).membersOf (.text name) ↔
        v ∈ w.membersOf (.text name) := mem_membersOf_apply hc hw hw' rfl hne
    have hout : v ∉ w.membersOf (.text household) := fun hv =>
      hnot (.inl ⟨household, user, .inr hwaits, .inr ((hsame household).2 hv)⟩)
    refine ⟨fun hdue => hnot ?_, contextOf_apply hc hw rfl rfl hv hne hout⟩
    rcases hdue with ⟨h, u, hk, hv | hv⟩ | ⟨m, hk, hv⟩
    · exact .inl ⟨h, u, .inl hk, .inl hv⟩
    · exact .inl ⟨h, u, .inl hk, .inr ((hsame h).2 hv)⟩
    · exact .inr ⟨m, .inl hk, hv⟩

/-- Users who are not due after a change were not due before, and it is no concern of theirs. -/
theorem IsRoutine.not_isDue (hc : c.IsRoutine) (hw : w.HasTextNames) (hv : v.isText = true)
    (hnot : ¬IsDue (fun k => waiting k ∨ c.Concerns w k) (c.apply w) v) :
    ¬IsDue waiting w v ∧ (c.apply w).contextOf v = w.contextOf v := by
  have hw' := hc.hasTextNames hw
  have htext {id : Id} (h : id.isText = true) : ∃ name, id = .text name := by
    cases id with
    | text name => exact ⟨name, rfl⟩
    | _ => cases h
  have hmono : IsDue waiting w v → IsDue (fun k => waiting k ∨ c.Concerns w k) w v :=
    fun hdue => hdue.mono fun _ => .inl
  cases c with
  | addMember row =>
    obtain ⟨household, hhousehold⟩ := htext hc.1
    obtain ⟨user, huser⟩ := htext hc.2
    exact not_isDue_of_membership ⟨hhousehold, huser⟩ hw hw' hv hnot
  | removeMember h u | setRole h u =>
    obtain ⟨household, hhousehold⟩ := htext hc.1
    obtain ⟨user, huser⟩ := htext hc.2
    exact not_isDue_of_membership ⟨hhousehold, huser⟩ hw hw' hv hnot
  | setManager user manager =>
    obtain ⟨name, rfl⟩ := htext hv
    refine ⟨fun hdue => hnot (hmono hdue), contextOf_setManager ?_⟩
    by_contra hne
    exact hnot (.inr ⟨name, .inr hne, rfl⟩)
  | advance | fail | failFor | mend => exact ⟨fun hdue => hnot (hmono hdue), rfl⟩
  | setForm | dropForm | setInformation => exact hc.elim

/-- What is kept stays coherent when roles change, as those whom it concerns are due then. -/
theorem IsRoutine.coherent {kind : StoreKind} (hc : c.IsRoutine) (hw : w.HasTextNames)
    (h : w.Coherent kind (IsDue waiting w)) :
    (c.apply w).Coherent kind (IsDue (fun k => waiting k ∨ c.Concerns w k) (c.apply w)) := by
  obtain ⟨hentries, hforms, -⟩ := hc.kept w
  have hcurrent {v : Id} {rules : RuleSet} (hv : v.isText = true)
      (hrules : ¬IsDue waiting w v → w.Current v rules)
      (hnot : ¬IsDue (fun k => waiting k ∨ c.Concerns w k) (c.apply w) v) :
      (c.apply w).Current v rules := by
    obtain ⟨hnot, hcontext⟩ := hc.not_isDue hw hv hnot
    rw [World.Current, hcontext]
    exact hrules hnot
  refine ⟨fun e he => ?_, fun f hf => ?_⟩
  · rw [hentries] at he
    obtain ⟨hkey, rules, hloads, hrules⟩ := h.entries e he
    exact ⟨hkey, rules, hloads, hcurrent hkey hrules⟩
  · rw [hforms] at hf
    obtain ⟨hkey, rules, hlasting, hsaid, hrules⟩ := h.forms f hf
    exact ⟨hkey, rules, hlasting, hsaid, hcurrent hkey hrules⟩

end Change

/-- Users whom the event of a payload touches are not due on account of what the payload settles. -/
theorem IsDue.of_not_touches {s : Session} {waiting : Concern → Prop} {w : World} {v : Id}
    {topic : String} {payload : Value} {e : RoleChangeEvent}
    (he : Cache.readEvent topic payload = .ok e) (hv : IsDue waiting w v)
    (hnot : ¬Cache.Touches w e v) :
    IsDue (fun k => waiting k ∧ ¬s.Settles topic payload k) w v := by
  have htruthy {name : String} (h : name ≠ "") : (Id.text name).isTruthy = true := by
    simpa [Id.isTruthy, Id.toValue, Value.isTruthy] using h
  rcases hv with ⟨household, user, hk, hv⟩ | ⟨manager, hk, hv⟩
  · refine .inl ⟨household, user, ⟨hk, ?_⟩, hv⟩
    rintro ⟨-, e', he', hmembership, ⟨hhousehold, hne⟩, huser, hne'⟩
    rw [he] at he'
    cases he'
    -- The event names the user and the household, and touches whoever is due for them.
    rcases hv with rfl | hv
    · exact hnot (.inr ⟨huser, htruthy hne'⟩)
    · exact hnot (.inl ⟨_, hhousehold, htruthy hne, hmembership, hv⟩)
  · refine .inr ⟨manager, ⟨hk, ?_⟩, hv⟩
    rintro ⟨-, e', he', -, huser, hne⟩
    rw [he] at he'
    cases he'
    subst hv
    exact hnot (.inr ⟨huser, htruthy hne⟩)

namespace Session

variable {s s' start : Session} {waiting : Concern → Prop}

/-- The service has nothing to do, its systems are in order, and what is kept is current, unless its
    user is due. -/
structure Tended (s : Session) (waiting : Concern → Prop) : Prop where
  idle : s.machine.Idle
  cache : s.machine.cache = s.service.cache
  free : s.machine.solo.Free
  orderly : s.machine.solo.Orderly s.service.cache.store (IsDue waiting s.machine.world)

/-- A caller whose flow ends alone has an answer, and leaves the session where the flow ends. -/
theorem Tended.call (hs : s.Tended waiting) {c : Call}
    {Q : Except Interruption Answer → Solo → Prop}
    (hflow : (c.flow s.service).Ensures .call s.machine.solo Q)
    (hQ : ∀ r t, Q r t → s.machine.solo.Beyond t) :
    ∃ r t, Q r t ∧ (s.call none c).1 = some r ∧ (s.call none c).2.service = s.service ∧
      (s.call none c).2.machine.Idle ∧
      (s.call none c).2.machine.solo = { t with fields := [] } := by
  obtain ⟨r, t, hsolo, hr⟩ := hflow
  obtain ⟨m, hcall, hidle, houtcome, hplace⟩ :=
    Machine.call_solo hs.idle hsolo (hQ r t hr).free.joined
  refine ⟨r, t, hr, ?_, rfl, ?_, ?_⟩
  · simp only [Session.call, hcall, houtcome]
  · simpa only [Session.call, hcall] using hidle
  · simpa only [Session.call, hcall] using hplace

/-- What a call leaves behind is tended if what its flow leaves behind is orderly. -/
theorem Tended.of_call (hs : s.Tended waiting) {waiting' : Concern → Prop} {t : Solo}
    (hservice : s'.service = s.service) (hidle : s'.machine.Idle)
    (hplace : s'.machine.solo = { t with fields := [] }) (hbeyond : s.machine.solo.Beyond t)
    (ht : t.Orderly s.service.cache.store (IsDue waiting' s.machine.world)) :
    s'.Tended waiting' := by
  have hworld : s'.machine.world = t.world := congrArg Solo.world hplace
  have hdue : ∀ v, IsDue waiting' s.machine.world v → IsDue waiting' s'.machine.world v := by
    intro v hv
    rw [hworld]
    simp only [IsDue, hbeyond.world.membersOf_eq]
    exact hv
  refine ⟨hidle, ?_, ?_, ?_⟩
  · rw [hservice, ← hs.cache]
    exact (congrArg Solo.cache hplace).trans hbeyond.cache
  · rw [hplace]
    exact ⟨hbeyond.free.joined, hbeyond.free.pending⟩
  · rw [hservice, hplace]
    exact ⟨ht.serves, ht.names, ht.coherent.mono hdue⟩

/-- A lookup of a user in a tended session. -/
theorem Tended.ensures_get (hs : s.Tended waiting) (user : String) :
    ((Call.get (.text user)).flow s.service).Ensures .call s.machine.solo fun r t =>
      s.machine.solo.Beyond t ∧
        t.Orderly s.service.cache.store (IsDue waiting s.machine.world) ∧
        ∃ found, r = found.map Answer.rules ∧
          Cache.Answers s.machine.world (IsDue waiting s.machine.world) (.text user) found := by
  refine (Cache.ensures_lookUp hs.cache hs.orderly hs.free rfl).bind (fun rules t ht => ?_)
    fun e t ht => ?_
  · exact ensures_pure ⟨ht.1, ht.2.1, .ok rules, rfl, ht.2.2⟩
  · exact ⟨ht.1, ht.2.1, .error e, rfl, ht.2.2⟩

theorem Tended.get (hs : s.Tended waiting) (user : String) :
    (s.call none (.get (.text user))).2.Tended waiting := by
  obtain ⟨r, t, ⟨hbeyond, ht, -⟩, -, hservice, hidle, hplace⟩ :=
    hs.call (hs.ensures_get user) fun _ _ h => h.1
  exact hs.of_call hservice hidle hplace hbeyond ht

theorem Tended.payload (hs : s.Tended waiting) (topic : String) (payload : Value) :
    (s.call none (.payload topic payload)).2.Tended
      fun k => waiting k ∧ ¬s.Settles topic payload k := by
  have hflow : ((Call.payload topic payload).flow s.service).Ensures .call s.machine.solo
      fun r t => Cache.Leaves s.service.cache s.machine.solo (IsDue waiting s.machine.world) topic
        payload (∃ fields, r = .ok (.applied true fields)) t := by
    refine (Cache.ensures_handleMessage hs.cache hs.orderly hs.free).bind (fun applied t ht => ?_)
      fun e t ht => ?_
    · have hbound : Helper.call.carry t .bound = some (t.fields, t) :=
        Helper.call.carry_of_plain? rfl
      refine ensures_bind_ok (solo_step hbound) (ensures_pure ?_)
      refine ht.of_beside (Solo.Beside.refl t) rfl ?_
      rintro ⟨_, happlied⟩
      cases happlied
      rfl
    · exact ht.of_beside (Solo.Beside.refl t) rfl nofun
  obtain ⟨r, t, ⟨hbeyond, ht, happlied⟩, hanswer, hservice, hidle, hplace⟩ :=
    hs.call hflow fun _ _ h => h.1
  refine hs.of_call hservice hidle hplace hbeyond ?_
  -- Only a payload that is applied settles anything.
  by_cases hr : ∃ fields, r = .ok (.applied true fields)
  · obtain ⟨e, he, ht'⟩ := happlied hr
    refine ⟨ht'.serves, ht'.names, ht'.coherent.mono fun v hv => ?_⟩
    exact hv.1.of_not_touches he hv.2
  · refine ⟨ht.serves, ht.names, ht.coherent.mono fun v hv => hv.mono fun k hk => ⟨hk, ?_⟩⟩
    rintro ⟨⟨fields, hfields⟩, -⟩
    rw [hanswer] at hfields
    exact hr ⟨fields, Option.some.inj hfields⟩

theorem Tended.change (hs : s.Tended waiting) {c : Change} (hc : c.IsRoutine) :
    (s.change c).Tended fun k => waiting k ∨ c.Concerns s.machine.world k := by
  obtain ⟨-, -, hheld⟩ := hc.kept s.machine.world
  refine ⟨⟨hs.idle.ready, hheld.trans hs.idle.free, hs.idle.loads, hs.idle.outcomes⟩, hs.cache,
    ⟨hs.free.joined, hs.free.pending⟩, ?_⟩
  exact ⟨hc.serves hs.orderly.serves, hc.hasTextNames hs.orderly.names,
    hc.coherent hs.orderly.names hs.orderly.coherent⟩

theorem tended_begin {service : Service} {world : World} {counts : Bool} (hworld : world.IsFresh) :
    (begin service world counts).Tended fun _ => False := by
  refine ⟨⟨rfl, hworld.free, rfl, List.forall_mem_nil _⟩, rfl, ⟨rfl, rfl⟩, ?_⟩
  refine ⟨hworld.serves, hworld.names, ?_⟩
  constructor
  · rw [show (begin service world counts).machine.solo.world.entries = [] from hworld.entries]
    exact List.forall_mem_nil _
  · rw [show (begin service world counts).machine.solo.world.forms = [] from hworld.forms]
    exact List.forall_mem_nil _

theorem Reached.tended {service : Service} {world : World} {counts : Bool} (hworld : world.IsFresh)
    (hs : Reached (begin service world counts) s waiting) : s.Tended waiting := by
  induction hs with
  | start => exact tended_begin hworld
  | change _ hc ih => exact ih.change hc
  | lookUp user _ ih => exact ih.get user
  | payload topic payload _ ih => exact ih.payload topic payload

/-- Asking for the context of a user comes to reading it. -/
theorem Tended.context (hs : s.Tended waiting) (user : String) {c : UserContext}
    (hc : (s.call none (.context (.text user))).1 = some (.ok (.context c))) :
    s.machine.world.readContext (.text user) = .ok c := by
  have hfetch := UserContext.solo_fetch (s := s.machine.solo) Helper.gathers_call
    hs.orderly.serves.toIsConnected hs.free.joined (.text user)
  have hflow : ((Call.context (.text user)).flow s.service).Ensures .call s.machine.solo fun r t =>
      s.machine.solo.Beyond t ∧ ∀ c, r = .ok (.context c) →
        s.machine.world.readContext (.text user) = .ok c := by
    have hbeyond : s.machine.solo.Beyond { s.machine.solo with
        world := { s.machine.world with reads := s.machine.world.reads + 1 } } :=
      ⟨rfl, ⟨_, _, _, rfl⟩, hs.free.joined, hs.free.pending⟩
    cases hread : s.machine.world.readContext (.text user) with
    | error f =>
      rw [show s.machine.solo.world.readContext (.text user) = .error f from hread] at hfetch
      exact ensures_of_solo (solo_bind_error hfetch _) ⟨hbeyond, nofun⟩
    | ok context =>
      rw [show s.machine.solo.world.readContext (.text user) = .ok context from hread] at hfetch
      refine ensures_bind_ok hfetch (ensures_pure ⟨hbeyond, fun c hc => ?_⟩)
      cases hc
      rfl
  obtain ⟨r, t, ⟨-, hr⟩, hanswer, -⟩ := hs.call hflow fun _ _ h => h.1
  rw [hanswer] at hc
  exact hr c (Option.some.inj hc)

/-- Once no concern waits for an event, what a lookup answers is compiled from the roles as they
    are, and a lookup answers if the context of its user can be read. -/
theorem lookUp_of_reached {service : Service} {world : World} {counts : Bool}
    (hworld : world.IsFresh) (hs : Reached (begin service world counts) s waiting)
    (hwaiting : ∀ k, ¬waiting k) (user : String) :
    ∃ r, (s.call none (.get (.text user))).1 = some r ∧
      (∀ answer, r = .ok answer → ∃ c, s.machine.world.contextOf (.text user) = .ok c ∧
        answer = .rules c.compile) ∧
      ∀ c, (s.call none (.context (.text user))).1 = some (.ok (.context c)) →
        r = .ok (.rules c.compile) := by
  have htended := hs.tended hworld
  have hnot : ¬IsDue waiting s.machine.world (.text user) := by
    rintro (⟨household, name, hk, -⟩ | ⟨manager, hk, -⟩)
    · exact hwaiting _ hk
    · exact hwaiting _ hk
  obtain ⟨r, t, ⟨-, -, found, rfl, hcurrent, hfound⟩, hanswer, -⟩ :=
    htended.call (htended.ensures_get user) fun _ _ h => h.1
  refine ⟨_, hanswer, fun answer hr => ?_, fun c hc => ?_⟩
  · cases found with
    | error e => cases hr
    | ok rules =>
      cases hr
      obtain ⟨c, hc, rfl⟩ := hcurrent rules rfl hnot
      exact ⟨c, hc, rfl⟩
  · -- The context that is read is the one of the roles as they are.
    have hread := htended.context user hc
    obtain ⟨rules, rfl⟩ := hfound c hread
    obtain ⟨c', hc', rfl⟩ := hcurrent rules rfl hnot
    rw [World.contextOf_of_readContext hread] at hc'
    cases hc'
    rfl

/-! ## A manager who leaves -/

/-- A household with a manager and a member. -/
def smallWorld : World where
  rows := [⟨.text "h1", .text "u1", .text "manager"⟩, ⟨.text "h1", .text "u2", .text "member"⟩]

/-- The payload that tells of the manager in the household. -/
def managerPayload : Value := .record [("household_id", .text "h1"), ("user_id", .text "u1")]

/-- The session after the manager has left the household. -/
def managerLeft : Session :=
  (begin {} smallWorld false).change (.removeMember (.text "h1") (.text "u1"))

theorem isFresh_smallWorld : smallWorld.IsFresh := by
  refine ⟨⟨⟨rfl, rfl⟩, List.forall_mem_nil _⟩, ⟨?_, nofun⟩, rfl, rfl, rfl⟩
  simp only [smallWorld, List.forall_mem_cons]
  exact ⟨⟨rfl, rfl⟩, ⟨rfl, rfl⟩, List.forall_mem_nil _⟩

/-- The call ends alone, and its payload is handled. -/
def appliesAlone (c : Call) (s : Session) : Bool :=
  match (c.flow s.service).solo .call s.machine.solo with
  | some (.ok (.applied true _), t) => t.joined.isNone
  | _ => false

theorem exists_of_appliesAlone {c : Call} (h : appliesAlone c s = true) :
    ∃ fields t, (c.flow s.service).solo .call s.machine.solo =
      some (.ok (.applied true fields), t) ∧ t.joined = none := by
  rw [appliesAlone] at h
  split at h
  · next fields t hsolo => exact ⟨fields, t, hsolo, Option.isNone_iff_eq_none.1 h⟩
  · cases h

/-- What the payload tells of is settled. -/
theorem settles_managerPayload :
    managerLeft.Settles "household.member.removed" managerPayload (.membership "h1" "u1") := by
  have hidle : managerLeft.machine.Idle := ⟨rfl, rfl, rfl, List.forall_mem_nil _⟩
  have happlies : appliesAlone (.payload "household.member.removed" managerPayload) managerLeft =
      true := by decide +kernel
  obtain ⟨fields, t, hsolo, hjoined⟩ := exists_of_appliesAlone happlies
  obtain ⟨m, hcall, -, houtcome, -⟩ := Machine.call_solo hidle hsolo hjoined
  refine ⟨⟨fields, ?_⟩, ⟨.memberRemoved, some (.text "u1"), some (.text "h1"), .null⟩, rfl, ?_⟩
  · simp only [Session.call, hcall]
    exact houtcome
  · exact ⟨rfl, ⟨rfl, by decide⟩, rfl, by decide⟩

/-- Once the event is handled, lookups of the manager are answered from the roles as they are. -/
theorem lookUp_of_managerLeft :
    smallWorld.IsFresh ∧ ∃ s waiting, Reached (begin {} smallWorld false) s waiting ∧
      (∀ k, ¬waiting k) ∧ ∃ r, (s.call none (.get (.text "u1"))).1 = some r ∧
        ∀ answer, r = .ok answer → ∃ c, s.machine.world.contextOf (.text "u1") = .ok c ∧
          answer = .rules c.compile := by
  let change : Change := .removeMember (.text "h1") (.text "u1")
  have hleft : Reached (begin {} smallWorld false) managerLeft
      fun k => False ∨ change.Concerns smallWorld k := Reached.start.change ⟨rfl, rfl⟩
  have hreached := hleft.payload "household.member.removed" managerPayload
  have hwaiting : ∀ k, ¬((False ∨ change.Concerns smallWorld k) ∧
      ¬managerLeft.Settles "household.member.removed" managerPayload k) := by
    rintro k ⟨hk | hk, hnot⟩
    · exact hk
    · cases k with
      | membership household user =>
        obtain ⟨⟨hhousehold, huser⟩, -⟩ := hk
        cases hhousehold
        cases huser
        exact hnot settles_managerPayload
      | managed manager =>
        have hleaves : change.IsMembership (.text "h1") (.text "u1") := ⟨rfl, rfl⟩
        exact hk (Change.managedBy_apply hleaves smallWorld (.text manager))
  obtain ⟨r, hanswer, hr, -⟩ := lookUp_of_reached isFresh_smallWorld hreached hwaiting "u1"
  exact ⟨isFresh_smallWorld, _, _, hreached, hwaiting, r, hanswer, hr⟩

end Session

end HouseholdAccess
