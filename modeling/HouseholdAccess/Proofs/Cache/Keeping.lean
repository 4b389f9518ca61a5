import HouseholdAccess.Event.Handling
import HouseholdAccess.Proofs.Cache.Coherent
import HouseholdAccess.Proofs.Solo.Desk

/-!
# What keeps the cache coherent

What the service does for one caller after the other leaves what is kept coherent,
with fewer users due than before:

* a lookup gives a current rule set unless its user is due (`Cache.ensures_lookUp`);
* dropping the rule set of a user leaves the user not due (`Cache.ensures_invalidate`),
  and dropping those of a household its members (`Cache.ensures_invalidateHousehold`);
* an event that is handled leaves neither the members of its household due nor its
  user (`Cache.ensures_handleMessage`).
-/

namespace HouseholdAccess

open HouseholdAccess.Flow

variable {h : Helper} {s s' s'' : Solo} {due due' : Id → Prop} {kind : StoreKind} {c : Cache}
  {user : Id} {load : Nat} {rules : RuleSet}

/-! ## Where work is done -/

namespace Solo

/-- Nothing has happened but in the world, and there only to what is kept. -/
structure Beside (s s' : Solo) : Prop where
  cache : s'.cache = s.cache
  desk : s'.desk = s.desk
  joined : s'.joined = s.joined
  world : s.world.Agrees s'.world

theorem Beside.refl (s : Solo) : s.Beside s := ⟨rfl, rfl, rfl, World.Agrees.refl s.world⟩

theorem Beside.trans (h : s.Beside s') (h' : s'.Beside s'') : s.Beside s'' :=
  ⟨h'.cache.trans h.cache, h'.desk.trans h.desk, h'.joined.trans h.joined,
    h.world.trans h'.world⟩

/-- The systems are in order, and what is kept is current, unless its user is due. -/
structure Orderly (s : Solo) (kind : StoreKind) (due : Id → Prop) : Prop where
  serves : s.world.Serves
  names : s.world.HasTextNames
  coherent : s.world.Coherent kind due

theorem Beside.orderly (h : s.Beside s') (hs : s.Orderly kind due)
    (hcoherent : s'.world.Coherent kind due') : s'.Orderly kind due' :=
  ⟨h.world.serves hs.serves, h.world.hasTextNames hs.names, hcoherent⟩

end Solo

namespace Cache

/-! ## Looking up -/

/-- What is put into the cache holds. -/
theorem ensures_populate (hs : s.Orderly c.store due) (huser : user.isText = true)
    (hload : s.desk.isOvertaken load = false) (hlasting : rules.IsLasting)
    (hcurrent : ¬due user → s.world.Current user rules) :
    (c.populate user (Packed.pack rules) load).Ensures h s fun r s' =>
      r = .ok () ∧ s.Beside s' ∧ s'.Orderly c.store due := by
  obtain ⟨text, htext, hloads⟩ := hlasting.exists_dumps
  rw [Packed.dumps] at htext
  have hcoherent := hs.coherent.setEntry huser hloads hcurrent (.ofInt c.timeToLive)
  have hbeside : s.Beside { s with world := s.world.setEntry user text (.ofInt c.timeToLive) } :=
    ⟨rfl, rfl, rfl, s.world.agrees_setEntry user text _⟩
  refine ensures_bind_ok (solo_step (h.carry_of_plain? rfl)) ?_
  simp only [hload, Bool.false_eq_true, if_false]
  refine ensures_bind_ok (a := text) (by rw [htext]; rfl) ?_
  refine ensures_bind_ok (CacheKind.solo_set hs.serves c.kind text _) ?_
  exact ensures_pure ⟨rfl, hbeside, hbeside.orderly hs hcoherent⟩

/-- A rule set that is kept is the one that is given, and holds. -/
theorem ensures_keep (hs : s.Orderly c.store due) (huser : user.isText = true)
    (hload : s.desk.isOvertaken load = false) (hlasting : rules.IsLasting)
    (hcurrent : ¬due user → s.world.Current user rules) :
    (c.keep user load rules).Ensures h s fun r s' =>
      r = .ok rules ∧ s.Beside s' ∧ s'.Orderly c.store due := by
  obtain ⟨form, hholds, hsave⟩ : ∃ form, c.store.Says form rules ∧
      (c.store.save user (Packed.pack rules)).solo h s =
        some (.ok true, { s with world := s.world.setForm user form }) :=
    StoreKind.exists_solo_save hs.serves c.store hlasting
  let t : Solo := { s with world := s.world.setForm user form }
  have hbeside : s.Beside t := ⟨rfl, rfl, rfl, s.world.agrees_setForm user form⟩
  have ht : t.Orderly c.store due :=
    hbeside.orderly hs (hs.coherent.setForm huser hlasting hholds hcurrent)
  refine ensures_bind_ok (solo_step (h.carry_of_plain? rfl)) ?_
  simp only [hload, Bool.false_eq_true, if_false]
  refine ensures_bind_ok hsave ?_
  refine ensures_bind_ok (solo_step (h.carry_of_plain? rfl)) ?_
  -- Nobody else is at work, so that the load is not overtaken while it writes.
  rw [show t.desk.isOvertaken load = false from hload]
  simp only [Bool.false_eq_true, if_false]
  have hpopulate := ensures_populate (h := h) (c := c) ht huser hload hlasting fun hnot =>
    hbeside.world.current (hcurrent hnot)
  refine hpopulate.bind (fun _ u hu => ?_) fun e _ hr => nomatch hr.1
  exact ensures_pure ⟨rfl, hbeside.trans hu.2.1, hu.2.2⟩

/-- What compiling comes to. -/
def compiled (w : World) (user : Id) : Except Interruption RuleSet :=
  ((w.readContext user).map UserContext.compile).mapError fun f =>
    .failure (UserContext.reported user f)

/-- Compiling comes to reading the context of the user, and leaves the world as it is but for the
    count of reads. -/
theorem ensures_compile_connected (hh : h.Gathers) (hs : s.world.IsConnected)
    (hjoined : s.joined = none) :
    (compile user).Ensures h s fun r s' =>
      r = compiled s.world user ∧ s.Beside s' ∧
        s'.world = { s.world with reads := s.world.reads + 1 } := by
  have hfetch := UserContext.solo_fetch hh hs hjoined user
  have hplace (registry : Option Registry) :
      let t := { s with world := { s.world with reads := s.world.reads + 1 }, registry }
      s.Beside t ∧ t.world = { s.world with reads := s.world.reads + 1 } :=
    ⟨⟨rfl, rfl, rfl, ⟨_, _, _, rfl⟩⟩, rfl⟩
  rw [compiled]
  cases hread : s.world.readContext user with
  | ok context =>
    rw [hread] at hfetch
    refine ensures_bind_ok (solo_recover_ok hfetch _) ?_
    refine ensures_bind_ok (solo_count _) ?_
    refine ensures_bind_ok (solo_count _) ?_
    exact ensures_pure ⟨rfl, hplace _⟩
  | error e =>
    rw [hread] at hfetch
    -- Whether the failure is counted or not, it is passed on.
    let f := UserContext.reported user e
    have hcount : (do
        if UserContext.saysUnavailable f then count (.compilation false)
        fail f : Flow UserContext).Ensures h
          { s with world := { s.world with reads := s.world.reads + 1 } } fun r s' =>
        r = .error (.failure f) ∧ s.Beside s' ∧
          s'.world = { s.world with reads := s.world.reads + 1 } := by
      split
      · exact ensures_bind_ok (solo_count _) (ensures_fail ⟨rfl, hplace _⟩)
      · exact ensures_fail ⟨rfl, hplace _⟩
    obtain ⟨r, s', hsolo, rfl, hs'⟩ := hcount
    refine ensures_of_solo (solo_bind_error ?_ _) ⟨rfl, hs'⟩
    exact (solo_recover_failure hfetch _).trans hsolo

/-- What is kept is as coherent after compiling as before. -/
theorem ensures_compile (hh : h.Gathers) (hs : s.Orderly kind due) (hjoined : s.joined = none) :
    (compile user).Ensures h s fun r s' =>
      r = compiled s.world user ∧ s.Beside s' ∧ s'.Orderly kind due := by
  refine (ensures_compile_connected hh hs.serves.toIsConnected hjoined).mono fun r s' h => ?_
  obtain ⟨hr, hbeside, hworld⟩ := h
  refine ⟨hr, hbeside, hbeside.orderly hs ?_⟩
  rw [hworld]
  exact World.Agrees.coherent ⟨_, _, _, rfl⟩ hs.coherent.entries hs.coherent.forms

/-- A rule set that is answered is current, unless its user is due; and one is answered if the
    context of the user can be read. -/
def Answers (w : World) (due : Id → Prop) (user : Id) (r : Except Interruption RuleSet) : Prop :=
  (∀ rules, r = .ok rules → ¬due user → w.Current user rules) ∧
    ∀ context, w.readContext user = .ok context → ∃ rules, r = .ok rules

theorem answers_ok (hcurrent : ¬due user → s.world.Current user rules) :
    Answers s.world due user (.ok rules) := by
  refine ⟨fun others hothers hnot => ?_, fun _ _ => ⟨rules, rfl⟩⟩
  cases hothers
  exact hcurrent hnot

theorem Answers.of_agrees {w w' : World} {r : Except Interruption RuleSet} (hw : w.Agrees w')
    (hr : Answers w' due user r) : Answers w due user r := by
  refine ⟨fun rules hrules hnot => ?_, fun context hcontext => hr.2 context ?_⟩
  · have hcurrent := hr.1 rules hrules hnot
    rwa [World.Current, hw.contextOf_eq] at hcurrent
  · rwa [hw.readContext_eq]

/-- A rule set that is compiled is current, and is kept. -/
theorem ensures_compileAndKeep (hh : h.Gathers) (hs : s.Orderly c.store due)
    (huser : user.isText = true) (hload : s.desk.isOvertaken load = false)
    (hjoined : s.joined = none) :
    (c.compileAndKeep user load).Ensures h s fun r s' =>
      s.Beside s' ∧ s'.Orderly c.store due ∧ Answers s.world due user r := by
  let t : Solo := { s with registry := s.registry.map (·.count (.cacheLookup .miss)) }
  have hbeside : s.Beside t := ⟨rfl, rfl, rfl, World.Agrees.refl s.world⟩
  have ht : t.Orderly c.store due := hbeside.orderly hs hs.coherent
  have hcompile : (compile user).Ensures h t _ := ensures_compile hh ht hjoined
  rw [compiled] at hcompile
  refine ensures_bind_ok (solo_count _) ?_
  cases hread : s.world.readContext user with
  | error f =>
    rw [show t.world.readContext user = .error f from hread] at hcompile
    refine hcompile.bind (fun rules u hu => nomatch hu.1) fun e u hu => ?_
    refine ⟨hbeside.trans hu.2.1, hu.2.2, nofun, fun context hcontext => ?_⟩
    rw [hread] at hcontext
    cases hcontext
  | ok context =>
    rw [show t.world.readContext user = .ok context from hread] at hcompile
    have hcontext := World.contextOf_of_readContext hread
    have hcurrent : s.world.Current user context.compile := ⟨context, hcontext, rfl⟩
    have hlasting := UserContext.isLasting_compile (hs.names.contextOf huser hcontext)
    refine hcompile.bind (fun rules u hu => ?_) fun e u hu => nomatch hu.1
    -- What has been compiled is lasting, and current whether or not the user is due.
    obtain ⟨hrules, hu, hu'⟩ := hu
    cases hrules
    have hfrom : s.Beside u := hbeside.trans hu
    refine (ensures_keep hu' huser (hfrom.desk ▸ hload) hlasting fun _ =>
      hfrom.world.current hcurrent).mono fun r v hv => ?_
    obtain ⟨rfl, hv, hv'⟩ := hv
    exact ⟨hfrom.trans hv, hv', answers_ok fun _ => hcurrent⟩

/-- A load gives what the record says, or else a rule set that is compiled. -/
theorem ensures_load (hh : h.Gathers) (hs : s.Orderly c.store due) (huser : user.isText = true)
    (hload : s.desk.isOvertaken load = false) (hjoined : s.joined = none) :
    (c.load user load).Ensures h s fun r s' =>
      s.Beside s' ∧ s'.Orderly c.store due ∧ Answers s.world due user r := by
  cases hform : s.world.formOf user with
  | none =>
    refine ensures_bind_ok (StoreKind.solo_load_none hs.serves c.store hform) ?_
    exact ensures_compileAndKeep hh hs huser hload hjoined
  | some form =>
    obtain ⟨-, rules, hlasting, hholds, hcurrent⟩ :=
      hs.coherent.forms _ (World.mem_of_formOf huser hform)
    refine ensures_bind_ok (StoreKind.solo_load_some hs.serves c.store hform hholds) ?_
    simp only [hlasting.unpackWithin (show 14 ≤ loadRoom by decide)]
    let t : Solo := { s with registry := s.registry.map (·.count (.cacheLookup .persisted)) }
    have hbeside : s.Beside t := ⟨rfl, rfl, rfl, World.Agrees.refl s.world⟩
    have ht : t.Orderly c.store due := hbeside.orderly hs hs.coherent
    refine ensures_bind_ok (solo_count _) ?_
    refine (ensures_populate (h := h) ht huser hload hlasting hcurrent).bind (fun _ u hu => ?_)
      fun e u hu => nomatch hu.1
    exact ensures_pure ⟨hbeside.trans hu.2.1, hu.2.2, answers_ok hcurrent⟩

/-- What is found in the cache holds. -/
theorem ensures_cached (hs : s.Orderly c.store due) (huser : user.isText = true) :
    (c.cached user).Ensures h s fun r s' => s.Beside s' ∧ s'.Orderly c.store due ∧
      ∃ found : Option RuleSet, r = .ok found ∧
        ∀ rules, found = some rules → ¬due user → s.world.Current user rules := by
  obtain ⟨hagrees, hcoherent⟩ := hs.coherent.lookUp user
  have hbeside : s.Beside { s with world := (s.world.lookUp user).2 } := ⟨rfl, rfl, rfl, hagrees⟩
  have horderly := hbeside.orderly hs hcoherent
  refine ensures_bind_ok (CacheKind.solo_get hs.serves c.kind) ?_
  cases htext : (s.world.lookUp user).1 with
  | none => exact ensures_pure ⟨hbeside, horderly, none, rfl, nofun⟩
  | some text =>
    obtain ⟨rules, hloads, hcurrent⟩ := hs.coherent.lookUp_some huser htext
    simp only [hloads]
    refine ensures_pure ⟨hbeside, horderly, some rules, rfl, fun others hothers hnot => ?_⟩
    cases hothers
    exact hcurrent hnot

end Cache

/-! ## Callers -/

namespace Solo

/-- No load is under way or has been joined. -/
structure Free (s : Solo) : Prop where
  joined : s.joined = none
  pending : s.desk.pending = []

theorem Free.pendingOf (hs : s.Free) (user : Id) : s.desk.pendingOf user = none := by
  rw [Desk.pendingOf, hs.pending]
  rfl

theorem Free.of_solo {α : Type} {flow : Flow α} {r : Except Interruption α}
    (hflow : flow.solo .call s = some (r, s')) (hs : s.Free) (hjoined : s'.joined = none) :
    s'.Free := by
  have htidy : s.Tidy := by
    rw [Tidy, hs.joined]
    exact hs.pending
  have htidy' := tidy_of_solo hflow htidy
  rw [Tidy, hjoined] at htidy'
  exact ⟨hjoined, htidy'⟩

theorem Beside.free (h : s.Beside s') (hs : s.Free) : s'.Free :=
  ⟨h.joined.trans hs.joined, (congrArg Desk.pending h.desk).trans hs.pending⟩

/-- The caller has gone on to a place where no load is under way, and nothing has happened in the
    world but to what is kept. -/
structure Beyond (s s' : Solo) : Prop where
  cache : s'.cache = s.cache
  world : s.world.Agrees s'.world
  free : s'.Free

theorem Beyond.trans (h : s.Beyond s') (h' : s'.Beyond s'') : s.Beyond s'' :=
  ⟨h'.cache.trans h.cache, h.world.trans h'.world, h'.free⟩

theorem Beside.beyond (h : s.Beside s') (hs : s.Free) : s.Beyond s' :=
  ⟨h.cache, h.world, h.free hs⟩

/-- A caller who has left no load joined has left none under way. -/
theorem Free.ensures_beyond {α : Type} {flow : Flow α} {P : Except Interruption α → Solo → Prop}
    (hs : s.Free) (h : flow.Ensures .call s fun r s' =>
      s'.cache = s.cache ∧ s.world.Agrees s'.world ∧ s'.joined = none ∧ P r s') :
    flow.Ensures .call s fun r s' => s.Beyond s' ∧ P r s' := by
  obtain ⟨r, s', hsolo, hcache, hworld, hjoined, hr⟩ := h
  exact ⟨r, s', hsolo, ⟨hcache, hworld, hs.of_solo hsolo hjoined⟩, hr⟩

/-- The load that has been joined is done when the caller waits for it. -/
theorem ensures_await {load : Nat} {j : Joined} (hj : s.joined = some j) (hload : j.load = load)
    {P : Except Interruption RuleSet → Solo → Prop}
    (hP : (s.cache.load j.user load).Ensures .load
      { s with joined := none, fields := j.fields } P) :
    Flow.Ensures .call (ExceptT.mk (Program.perform (.awaitLoad load))) s fun r s' =>
      ∃ t, P r t ∧ s' = { t with desk := t.desk.forget load, fields := s.fields } := by
  obtain ⟨r, t, hsolo, hr⟩ := hP
  exact ensures_of_solo (solo_perform (await_eq_some_iff.2 ⟨j, t, hj, hload, hsolo, rfl⟩))
    ⟨t, hr, rfl⟩

end Solo

namespace Cache

/-- Joins a load, and waits for it. -/
def join (user : Id) : Flow RuleSet := do
  let load ← step (.joinLoad user)
  ExceptT.mk (Program.perform (.awaitLoad load))

/-- While no load is under way, one is started, and done when the caller waits for it. -/
theorem ensures_join (hc : s.cache = c) (hfree : s.Free)
    {P : Desk → Except Interruption RuleSet → Solo → Prop}
    (hload : ∀ load desk, desk.isOvertaken load = false →
      (c.load user load).Ensures .load { s with desk } (P desk)) :
    (join user).Ensures .call s fun r s' =>
      ∃ load desk t, P desk r t ∧
        s' = { t with desk := t.desk.forget load, fields := s.fields } := by
  let load := s.desk.loads.length
  let j : Joined := { load, user, fields := s.fields }
  let t : Solo := { s with desk := (s.desk.start user).2, joined := some j }
  have hjoin : Helper.call.carry s (.joinLoad user) = some (load, t) :=
    Solo.join_eq_some_iff.2 ⟨hfree.joined, hfree.pendingOf user, rfl, rfl⟩
  refine ensures_bind_ok (solo_step hjoin) ?_
  have hnew : (s.desk.start user).2.isOvertaken load = false := by
    simp [Desk.start, Desk.isOvertaken, load]
  have hstart : ({ t with joined := none, fields := j.fields } : Solo) =
      { s with desk := (s.desk.start user).2 } := by
    simp only [t, j, ← hfree.joined]
  have hdone := hload load (s.desk.start user).2 hnew
  rw [← hstart, ← show t.cache = c from hc] at hdone
  refine (Solo.ensures_await (s := t) (j := j) rfl rfl hdone).mono fun r u hu => ?_
  obtain ⟨x, hx, hu⟩ := hu
  exact ⟨load, _, x, hx, hu⟩

/-- A lookup gives a current rule set, unless its user is due. -/
theorem ensures_lookUp (hc : s.cache = c) (hs : s.Orderly c.store due) (hfree : s.Free)
    (huser : user.isText = true) :
    (c.lookUp user).Ensures .call s fun r s' =>
      s.Beyond s' ∧ s'.Orderly c.store due ∧ Answers s.world due user r := by
  refine hfree.ensures_beyond ?_
  refine (ensures_cached (h := .call) hs huser).bind (fun found t ht => ?_) fun e t ht => ?_
  · obtain ⟨hbeside, ht, others, hfound, hcurrent⟩ := ht
    cases hfound
    cases found with
    | some rules =>
      refine ensures_bind_ok (solo_count _)
        (ensures_pure ⟨hbeside.cache, hbeside.world, ?_, ?_, ?_⟩)
      · exact hbeside.joined.trans hfree.joined
      · exact ⟨ht.serves, ht.names, ht.coherent⟩
      · exact answers_ok (hcurrent rules rfl)
    | none =>
      have hfree' := hbeside.free hfree
      refine (ensures_join (hbeside.cache.trans hc) hfree' fun _ desk hload =>
        ensures_load (s := { t with desk }) Helper.gathers_load
          ⟨ht.serves, ht.names, ht.coherent⟩ huser hload hfree'.joined).mono fun r w hw => ?_
      obtain ⟨_, _, x, ⟨hbeside', hx, hr⟩, rfl⟩ := hw
      exact ⟨hbeside'.cache.trans hbeside.cache, hbeside.world.trans hbeside'.world,
        hbeside'.joined.trans hfree'.joined, ⟨hx.serves, hx.names, hx.coherent⟩,
        hr.of_agrees hbeside.world⟩
  · obtain ⟨-, -, found, hfound, -⟩ := ht
    cases hfound

/-! ## Dropping -/

/-- A user whose rule set is dropped is not due. -/
theorem ensures_invalidate (hs : s.Orderly c.store due) (hpending : s.desk.pending = [])
    (huser : user.isText = true) :
    (c.invalidate user).Ensures h s fun r s' =>
      r = .ok () ∧ s.Beside s' ∧ s'.Orderly c.store fun u => due u ∧ u ≠ user := by
  have hdesk : s.desk.overtake user = s.desk := by
    rw [Desk.overtake, Desk.pendingOf, hpending]
    rfl
  have hovertake : h.carry s (.overtake user) = some ((), s) := by
    refine h.carry_of_plain? ?_
    rw [Solo.plain?, hdesk]
  let t : Solo := { s with world := s.world.dropEntry user }
  have hagrees := s.world.agrees_dropEntry user
  have hserves : t.world.Serves := hagrees.serves hs.serves
  have hcleared := hagrees.trans (t.world.agrees_clearForm user)
  refine ensures_bind_ok (solo_step hovertake) ?_
  refine ensures_bind_ok (CacheKind.solo_delete hs.serves c.kind) ?_
  refine ensures_bind_ok (StoreKind.solo_clear hserves c.store) ?_
  refine ensures_of_solo (solo_count _) ⟨rfl, ⟨rfl, rfl, rfl, hcleared⟩, ?_⟩
  exact ⟨hcleared.serves hs.serves, hcleared.hasTextNames hs.names, hs.coherent.drop huser⟩

/-- Users whose rule sets are dropped one after the other are not due. -/
theorem exists_runErrands_invalidate {users : List Id} (hc : s.cache = c)
    (hs : s.Orderly c.store due) (hpending : s.desk.pending = [])
    (husers : ∀ u ∈ users, u.isText = true) :
    ∃ s', Solo.runErrands .invalidate users s = some (users.map fun _ => .ok [], s') ∧
      s.Beside s' ∧ s'.Orderly c.store fun u => due u ∧ u ∉ users := by
  induction users generalizing s due with
  | nil => exact ⟨s, rfl, Solo.Beside.refl s, hs.serves, hs.names, hs.coherent.mono fun _ hu =>
      ⟨hu, List.not_mem_nil⟩⟩
  | cons u rest ih =>
    rw [List.forall_mem_cons] at husers
    obtain ⟨r, t, hsolo, rfl, hbeside, ht⟩ := ensures_invalidate (h := .errand) hs hpending husers.1
    -- An errand puts the fields back that it has found.
    have herrand : s.runErrand .invalidate u = some (.ok [], { t with fields := s.fields }) := by
      refine Solo.runErrand_eq_some_iff.2 ⟨t, ?_, rfl⟩
      rw [hc, errand, solo_bind_ok hsolo]
      rfl
    obtain ⟨s', hrest, hbeside', hs'⟩ := ih (s := { t with fields := s.fields })
      (hbeside.cache.trans hc) ⟨ht.serves, ht.names, ht.coherent⟩
      ((congrArg Desk.pending hbeside.desk).trans hpending) husers.2
    have hfirst : s.Beside { t with fields := s.fields } :=
      ⟨hbeside.cache, hbeside.desk, hbeside.joined, hbeside.world⟩
    exact ⟨s', Solo.runErrands_cons_eq_some_iff.2 ⟨_, _, _, herrand, hrest, rfl⟩,
      hfirst.trans hbeside', hs'.serves, hs'.names, hs'.coherent.mono fun v hv =>
        ⟨hv.1.1, fun hmem => (List.mem_cons.1 hmem).elim hv.1.2 hv.2⟩⟩

/-- Members of a household whose rule sets are dropped are not due. -/
theorem ensures_invalidateHousehold {household : Id} (hh : h.Gathers) (hc : s.cache = c)
    (hs : s.Orderly c.store due) (hfree : s.Free) :
    (c.invalidateHousehold household).Ensures h s fun r s' =>
      s.Beside s' ∧ s'.Orderly c.store due ∧
        ∀ members, r = .ok members →
          s'.Orderly c.store fun u => due u ∧ u ∉ s.world.membersOf household := by
  let members := s.world.membersOf household
  have hread : (access (.members household)).solo h s =
      some ((s.world.attempt .members household members).mapError .failure, s) :=
    solo_read hs.serves.toIsConnected rfl rfl rfl
  -- If the members cannot be read, nothing is dropped.
  cases hattempt : s.world.attempt .members household members with
  | error f =>
    rw [hattempt] at hread
    refine ensures_of_solo (solo_bind_error (solo_recover_failure hread _) _) ?_
    exact ⟨Solo.Beside.refl s, hs, nofun⟩
  | ok found =>
    rw [hattempt] at hread
    have hfound : found = members := World.eq_of_attempt hattempt
    have htexts : ∀ u ∈ found, u.isText = true := hfound ▸ hs.names.isText_membersOf
    obtain ⟨t, hdrop, hbeside, ht⟩ := exists_runErrands_invalidate hc hs hfree.pending htexts
    have hgather : h.carry s (.each .invalidate found) = some (.ok (found.map fun _ => []), t) := by
      rw [hh hfree.joined]
      have hall : (found.map fun _ => (.ok [] : Except Interruption (List Id))).mapM id =
          .ok (found.map fun _ => []) := by
        rw [List.mapM_map]
        exact mapM_eq_ok_map fun _ _ => rfl
      exact Solo.gather_eq_some_iff.2 ⟨_, hdrop, hall.symm⟩
    refine ensures_bind_ok (solo_recover_ok hread _) ?_
    refine ensures_bind_ok (solo_perform hgather) ?_
    refine ensures_bind_ok (solo_count _) (ensures_pure ?_)
    rw [hfound] at ht
    have hplace : s.Beside { t with registry := t.registry.map (·.count .householdInvalidation) } :=
      ⟨hbeside.cache, hbeside.desk, hbeside.joined, hbeside.world⟩
    exact ⟨hplace, hplace.orderly hs (ht.coherent.mono fun _ hu => hu.1),
      fun _ _ => ⟨ht.serves, ht.names, ht.coherent⟩⟩

/-- A user whose rule set is computed again is not due. -/
theorem ensures_recompute (hc : s.cache = c) (hs : s.Orderly c.store due) (hfree : s.Free)
    (huser : user.isText = true) :
    (c.recompute user).Ensures .call s fun _ s' =>
      s.Beyond s' ∧ s'.Orderly c.store fun u => due u ∧ u ≠ user := by
  refine (ensures_invalidate hs hfree.pending huser).bind (fun _ t ht => ?_)
    fun e t ht => nomatch ht.1
  obtain ⟨-, hbeside, ht⟩ := ht
  refine (ensures_lookUp (hbeside.cache.trans hc) ht (hbeside.free hfree) huser).mono
    fun r v hv => ?_
  exact ⟨(hbeside.beyond hfree).trans hv.1, hv.2.1⟩

/-! ## Events -/

/-- The event is about the user, or about a membership in a household of which the user is a
    member. -/
def Touches (w : World) (e : RoleChangeEvent) (u : Id) : Prop :=
  (∃ household, e.household = some household ∧ household.isTruthy = true ∧
    e.type.isMembership = true ∧ u ∈ w.membersOf household) ∨
  (e.user = some u ∧ u.isTruthy = true)

/-- The names in the event are texts. -/
structure HasTextNames (e : RoleChangeEvent) : Prop where
  user : ∀ u, e.user = some u → u.isText = true
  household : ∀ h, e.household = some h → h.isText = true

/-- The household of an event about a membership is dropped. -/
theorem ensures_dropHousehold {e : RoleChangeEvent} (hh : h.Gathers) (hc : s.cache = c)
    (hs : s.Orderly c.store due) (hfree : s.Free) :
    (c.dropHousehold e).Ensures h s fun r s' =>
      s.Beside s' ∧ s'.Orderly c.store due ∧
        ∀ members, r = .ok members → s'.Orderly c.store fun u => due u ∧
          ¬∃ household, e.household = some household ∧ household.isTruthy = true ∧
            e.type.isMembership = true ∧ u ∈ s.world.membersOf household := by
  rw [dropHousehold]
  cases hhousehold : e.household with
  | none =>
    refine ensures_pure ⟨Solo.Beside.refl s, hs, fun _ _ => ⟨hs.serves, hs.names, ?_⟩⟩
    exact hs.coherent.mono fun u hu => ⟨hu, nofun⟩
  | some household =>
    simp only
    split
    · refine (ensures_invalidateHousehold hh hc hs hfree).mono fun r t ht => ?_
      refine ⟨ht.1, ht.2.1, fun members hr => ?_⟩
      obtain ⟨hserves, hnames, hcoherent⟩ := ht.2.2 members hr
      refine ⟨hserves, hnames, hcoherent.mono fun u hu => ⟨hu.1, ?_⟩⟩
      rintro ⟨_, hsame, -, -, hmember⟩
      cases hsame
      exact hu.2 hmember
    · next hnot =>
      refine ensures_pure ⟨Solo.Beside.refl s, hs, fun _ _ => ⟨hs.serves, hs.names, ?_⟩⟩
      refine hs.coherent.mono fun u hu => ⟨hu, ?_⟩
      rintro ⟨_, hsame, htruthy, hmembership, -⟩
      cases hsame
      rw [htruthy, hmembership] at hnot
      exact hnot rfl

/-- The rule set of the user of an event is computed again. -/
theorem ensures_refreshUser {e : RoleChangeEvent} (he : HasTextNames e) (hc : s.cache = c)
    (hs : s.Orderly c.store due) (hfree : s.Free) :
    (c.refreshUser e).Ensures .call s fun _ s' =>
      s.Beyond s' ∧ s'.Orderly c.store fun u => due u ∧ ¬(e.user = some u ∧ u.isTruthy = true) := by
  have hhere : s.Beyond s := (Solo.Beside.refl s).beyond hfree
  rw [refreshUser]
  cases huser : e.user with
  | none =>
    refine ensures_pure ⟨hhere, hs.serves, hs.names, hs.coherent.mono fun u hu => ⟨hu, ?_⟩⟩
    rintro ⟨hsame, -⟩
    cases hsame
  | some user =>
    simp only
    split
    · have hless : ∀ u, due u ∧ u ≠ user → due u ∧ ¬(some user = some u ∧ u.isTruthy = true) := by
        rintro u ⟨hu, hne⟩
        refine ⟨hu, ?_⟩
        rintro ⟨hsame, -⟩
        cases hsame
        exact hne rfl
      refine (ensures_recompute hc hs hfree (he.user user huser)).bind (fun _ t ht => ?_)
        fun e t ht => ?_
      · exact ensures_pure ⟨ht.1, ht.2.serves, ht.2.names, ht.2.coherent.mono hless⟩
      · exact ⟨ht.1, ht.2.serves, ht.2.names, ht.2.coherent.mono hless⟩
    · next hnot =>
      refine ensures_pure ⟨hhere, hs.serves, hs.names, hs.coherent.mono fun u hu => ⟨hu, ?_⟩⟩
      rintro ⟨hsame, htruthy⟩
      cases hsame
      exact hnot htruthy

/-- An event that is handled leaves nobody due whom it touches. -/
theorem ensures_handle {e : RoleChangeEvent} (he : HasTextNames e) (hc : s.cache = c)
    (hs : s.Orderly c.store due) (hfree : s.Free) :
    (c.handle e).Ensures .call s fun r s' =>
      s.Beyond s' ∧ s'.Orderly c.store due ∧ ∀ handled, r = .ok handled →
        s'.Orderly c.store fun u => due u ∧ ¬Touches s.world e u := by
  obtain ⟨t, hbind, hbeside, hworld⟩ : ∃ t,
      Helper.call.carry s (.bind (logFields e)) = some ((), t) ∧
      s.Beside t ∧ t.world = s.world :=
    ⟨_, Helper.call.carry_of_plain? rfl, ⟨rfl, rfl, rfl, World.Agrees.refl s.world⟩, rfl⟩
  have ht : t.Orderly c.store due := hbeside.orderly hs (hworld ▸ hs.coherent)
  refine ensures_bind_ok (solo_step hbind) ?_
  have hdrop : (c.dropHousehold e).Ensures .call t _ :=
    ensures_dropHousehold Helper.gathers_call (hbeside.cache.trans hc) ht (hbeside.free hfree)
  -- First the household is dropped, then the user is looked up again.
  refine hdrop.bind (fun members u hu => ?_) fun i u hu => ?_
  · obtain ⟨hu, -, hdropped⟩ := hu
    have hfrom : s.Beside u := hbeside.trans hu
    have hrefresh := ensures_refreshUser he (hfrom.cache.trans hc) (hdropped members rfl)
      (hfrom.free hfree)
    have hless : ∀ v, (due v ∧ ¬∃ household, e.household = some household ∧
        household.isTruthy = true ∧ e.type.isMembership = true ∧ v ∈ t.world.membersOf household) ∧
          ¬(e.user = some v ∧ v.isTruthy = true) → due v ∧ ¬Touches s.world e v := by
      rw [hworld]
      exact fun v hv => ⟨hv.1.1, fun htouch => htouch.elim hv.1.2 hv.2⟩
    refine hrefresh.bind (fun users v hv => ?_) fun i v hv => ?_
    · have horderly : v.Orderly c.store fun u => due u ∧ ¬Touches s.world e u :=
        ⟨hv.2.serves, hv.2.names, hv.2.coherent.mono hless⟩
      exact ensures_pure ⟨(hfrom.beyond hfree).trans hv.1,
        ⟨hv.2.serves, hv.2.names, hv.2.coherent.mono fun _ h => h.1.1⟩, fun _ _ => horderly⟩
    · exact ⟨(hfrom.beyond hfree).trans hv.1,
        ⟨hv.2.serves, hv.2.names, hv.2.coherent.mono fun _ h => h.1.1⟩, nofun⟩
  · exact ⟨(hbeside.trans hu.1).beyond hfree, hu.2.1, nofun⟩

/-- Names in payloads are texts. -/
theorem isText_of_nameIn {entries : Entries} {first second : String} {id : Id}
    (h : RoleChangeEvent.nameIn entries first second = some id) : id.isText = true := by
  rw [RoleChangeEvent.nameIn] at h
  split at h
  · cases h
    rfl
  · cases h

theorem hasTextNames_of_readEvent {topic : String} {payload : Value} {e : RoleChangeEvent}
    (h : readEvent topic payload = .ok e) : HasTextNames e := by
  rw [readEvent] at h
  obtain ⟨v, -, h⟩ := exists_of_bind_eq_ok h
  cases v with
  | object entries =>
    simp only [RoleChangeEvent.ofPayload] at h
    split at h
    · cases h
    · split at h
      · cases h
      · split at h
        · cases h
        · cases h
          exact ⟨fun _ h => isText_of_nameIn h, fun _ h => isText_of_nameIn h⟩
  | _ => cases h

/-- What a payload leaves behind, if it succeeds or not. -/
def Leaves (c : Cache) (s : Solo) (due : Id → Prop) (topic : String) (payload : Value)
    (succeeds : Prop) (s' : Solo) : Prop :=
  s.Beyond s' ∧ s'.Orderly c.store due ∧ (succeeds →
    ∃ e, readEvent topic payload = .ok e ∧
      s'.Orderly c.store fun u => due u ∧ ¬Touches s.world e u)

theorem ensures_applyPayload {topic : String} {payload : Value} (hc : s.cache = c)
    (hs : s.Orderly c.store due) (hfree : s.Free) :
    (c.applyPayload topic payload).Ensures .call s fun r s' =>
      Leaves c s due topic payload (∃ type, r = .ok type) s' := by
  rw [applyPayload]
  cases hread : readEvent topic payload with
  | error f =>
    refine ensures_of_solo (solo_bind_error rfl _) ?_
    exact ⟨(Solo.Beside.refl s).beyond hfree, hs, fun ⟨_, hr⟩ => nomatch hr⟩
  | ok e =>
    have he := hasTextNames_of_readEvent hread
    refine ensures_bind_ok (a := e) rfl ?_
    refine (ensures_handle he hc hs hfree).bind (fun handled t ht => ?_) fun i t ht => ?_
    · exact ensures_pure ⟨ht.1, ht.2.1, fun _ => ⟨e, hread, ht.2.2 handled rfl⟩⟩
    · exact ⟨ht.1, ht.2.1, fun ⟨_, hr⟩ => nomatch hr⟩

theorem Leaves.of_beside {topic : String} {payload : Value} {p q : Prop}
    (h : Leaves c s due topic payload p s') (hbeside : s'.Beside s'')
    (hworld : s''.world = s'.world) (hqp : q → p) : Leaves c s due topic payload q s'' := by
  obtain ⟨hbeyond, horderly, hhandled⟩ := h
  have hsame {due : Id → Prop} (h : s'.Orderly c.store due) : s''.Orderly c.store due := by
    refine hbeside.orderly h ?_
    rw [hworld]
    exact h.coherent
  refine ⟨hbeyond.trans (hbeside.beyond hbeyond.free), hsame horderly, fun hq => ?_⟩
  obtain ⟨e, hread, he⟩ := hhandled (hqp hq)
  exact ⟨e, hread, hsame he⟩

/-- A payload that has been handled leaves nobody due whom its event touches. -/
theorem ensures_handleMessage {topic : String} {payload : Value} (hc : s.cache = c)
    (hs : s.Orderly c.store due) (hfree : s.Free) :
    (c.handleMessage topic payload).Ensures .call s fun r s' =>
      Leaves c s due topic payload (r = .ok true) s' := by
  -- What is counted, and which fields are bound, makes no difference to what is kept.
  have hcount (t : Solo) (series : Series) :
      t.Beside { t with registry := t.registry.map (·.count series) } :=
    ⟨rfl, rfl, rfl, World.Agrees.refl t.world⟩
  have hattempt : Flow.Ensures .call (do
      let type ← c.applyPayload topic payload
      return some type : Flow (Option EventType)) s fun r s' =>
        Leaves c s due topic payload (∃ type, r = .ok (some type)) s' := by
    refine (ensures_applyPayload hc hs hfree).bind (fun type t ht => ?_) fun i t ht => ?_
    · exact ensures_pure (ht.of_beside (Solo.Beside.refl t) rfl fun _ => ⟨type, rfl⟩)
    · exact ht.of_beside (Solo.Beside.refl t) rfl fun ⟨_, hr⟩ => nomatch hr
  refine Ensures.bind
    (P := fun r s' => Leaves c s due topic payload (∃ type, r = .ok (some type)) s')
    (Ensures.atLast (hattempt.recover
      (Q := fun r s' => Leaves c s due topic payload (∃ type, r = .ok (some type)) s')
      (fun _ _ ht => ht) (fun f t ht => ?_) fun _ ht => ht) fun r t ht => ?_)
    (fun outcome t ht => ?_) fun i t ht => ?_
  · refine ensures_bind_ok (solo_count _) (ensures_pure ?_)
    exact ht.of_beside (hcount t _) rfl fun ⟨_, hr⟩ => nomatch hr
  · refine ⟨{ t with fields := [] }, rfl, ?_⟩
    exact ht.of_beside ⟨rfl, rfl, rfl, World.Agrees.refl t.world⟩ rfl id
  · cases outcome with
    | none => exact ensures_pure (ht.of_beside (Solo.Beside.refl t) rfl nofun)
    | some type =>
      refine ensures_bind_ok (solo_count _) (ensures_pure ?_)
      exact ht.of_beside (hcount t _) rfl fun _ => ⟨type, rfl⟩
  · exact ht.of_beside (Solo.Beside.refl t) rfl nofun

end Cache

end HouseholdAccess
