import HouseholdAccess.Proofs.Stage.Company
import HouseholdAccess.Proofs.Stage.LookingUp

/-!
# Loads that fail leave nothing behind

A load that has been denied role data, whether by a question of its own or by one of its
errands, leaves nothing behind, whoever else is at work
(`Stage.leavesNothing_of_isDenied`):

* it has not written anything, and its turns leave the cache and the records as they are;
* it comes to an end if it is let go on, and fails then for want of role data;
* whoever waits for it is told just that;
* once the desk has forgotten it, whoever looks the rule set up and finds no other load
  under way starts a new one. If that is served, it comes to the rule set that it has
  compiled, unless what it reads on the record is too deep.
-/

namespace HouseholdAccess

open HouseholdAccess.Flow

variable {α : Type} {user : Id} {c : Cache} {n : Nat}

/-! ## Those who wait -/

/-- Who has waited for a load after joining it has come to what the load has come to. -/
theorem Program.Shares.of_leads {f : Except Interruption RuleSet → α} {p q : Program α}
    {tr : List Exchange} (hp : p.Shares f) (hleads : p.Leads tr q) {time : Nat} {source : Mark}
    {r : Except Interruption RuleSet} (hr : ⟨time, source, .awaitLoad n, r⟩ ∈ tr) :
    q = .done (f r) := by
  induction tr generalizing p with
  | nil => cases hr
  | cons e tr ih =>
    cases p with
    | done => exact hleads.elim
    | call op next =>
      obtain ⟨time', source', reply, rfl, hleads⟩ := hleads
      rcases List.mem_cons.1 hr with heq | hrest
      · cases heq
        exact hp.elim
      · clear hr
        cases op with
        | awaitLoad => exact hp.elim
        | joinLoad v =>
          -- The load that has been joined is waited for, and then nothing else is done.
          rw [hp reply] at hleads
          cases tr with
          | nil => cases hrest
          | cons e tr =>
            obtain ⟨time'', source'', outcome, rfl, hleads⟩ := hleads
            cases tr with
            | nil =>
              cases List.mem_singleton.1 hrest
              exact hleads
            | cons => exact hleads.elim
        | _ => exact ih (hp reply) hleads hrest

/-! ## What a load that has been denied role data does -/

namespace Strand

variable {t : Strand RuleSet}

namespace IsLoad

variable (h : t.IsLoad c user n) (hdenied : t.IsDenied)
include h hdenied

/-- While it goes on, it has not written anything, and leaves no trace. -/
theorem abstains {op : Operation} {next : op.Reply → Program (Except Interruption RuleSet)}
    (hprogram : t.program = .call op next) : ¬Wrote t.trace ∧ op.LeavesNoTrace := by
  have hkeeps := h.keeps
  rw [hprogram] at hkeeps
  refine hkeeps.1 (hdenied.imp_right fun hfailed => ?_)
  obtain ⟨x, hx⟩ := Option.isSome_iff_exists.1 hfailed
  obtain ⟨errand, ids, next', hprogram'⟩ := h.waiting (h.failed x hx).1
  obtain ⟨rfl, -⟩ := Program.call.inj (hprogram.symm.trans hprogram')
  exact ⟨errand, ids, rfl⟩

/-- When it has ended, it has not written anything, and has failed for want of role data. -/
theorem fails {r : Except Interruption RuleSet} (hdone : t.program = .done r) :
    ¬Wrote t.trace ∧ IsUnavailable r := by
  have hkeeps := h.keeps
  rw [hdone] at hkeeps
  rcases hdenied with hdenied | hfailed
  · exact hkeeps hdenied
  · obtain ⟨x, hx⟩ := Option.isSome_iff_exists.1 hfailed
    exact absurd (h.parts_eq_nil hdone) (h.failed x hx).1

theorem not_wrote : ¬Wrote t.trace := by
  cases hprogram : t.program with
  | done r => exact (h.fails hdenied hprogram).1
  | call op next => exact (h.abstains hdenied hprogram).1

end IsLoad

end Strand

namespace Stage

variable {s s' : Stage} {gathered : Option (Except Interruption (List (List Id)))}
  {op : Operation}

/-- The cache and the records are as they were. -/
def Kept (w w' : World) : Prop := w'.entries = w.entries ∧ w'.forms = w.forms

/-- Asking for role data leaves the cache and the records as they are. -/
theorem kept_of_plain? {x : op.Reply × Solo} (hop : op.LeavesNoTrace ∨ op.AsksMembers)
    (hx : s.place.plain? op = some x) : Kept s.place.world x.2.world := by
  cases op with
  | access a =>
    rcases s.place.plain?_access_cases a with h | ⟨f, h⟩ <;>
    · obtain rfl := Option.some.inj (h.symm.trans hx)
      cases a with
      | roles | managed | members | aiUsers => exact ⟨rfl, rfl⟩
      | _ => exact (hop.elim id id).elim
  | count =>
    cases hx
    exact ⟨rfl, rfl⟩
  | each => cases hx
  | _ => exact (hop.elim id id).elim

theorem kept_of_carry {x : op.Reply × Solo × List (Strand RuleSet)} (hop : op.LeavesNoTrace)
    (hx : s.carry gathered op = some x) : Kept s.place.world x.2.1.world := by
  cases op with
  | each =>
    obtain ⟨r, -, rfl⟩ := Option.map_eq_some_iff.1 hx
    exact ⟨rfl, rfl⟩
  | access a =>
    obtain ⟨y, hy, rfl⟩ : ∃ y, s.place.plain? (.access a) = some y ∧ (y.1, y.2, []) = x :=
      Option.map_eq_some_iff.1 hx
    exact kept_of_plain? (.inl hop) hy
  | count =>
    cases hx
    exact ⟨rfl, rfl⟩
  | _ => exact hop.elim

/-- The load has not written anything, and when it or one of its errands goes on, the cache and the
    records stay as they are. -/
structure LeavesNothing (s : Stage) (n : Nat) (t : Strand RuleSet) : Prop where
  notWrote : ¬Wrote t.trace
  kept : ∀ (turn : Turn) (s' : Stage), turn.IsOf n → s.take? turn = some s' →
    Kept s.place.world s'.place.world

theorem Orderly.leavesNothing (h : s.Orderly) {t : Strand RuleSet} (ht : s.loads[n]? = some t)
    (hdenied : t.IsDenied) : s.LeavesNothing n t := by
  obtain ⟨user, -, hload⟩ := h.loads n t ht
  refine ⟨hload.not_wrote hdenied, fun turn s' hturn hs' => ?_⟩
  cases turn with
  | load m =>
    obtain rfl : m = n := hturn
    obtain ⟨t', x, ht', hact, rfl⟩ := exists_of_goLoad? hs'
    obtain rfl := Option.some.inj (ht.symm.trans ht')
    obtain ⟨op, next, hprogram, y, hy, -, hx⟩ := exists_of_act hact
    rw [hx]
    exact kept_of_carry (hload.abstains hdenied hprogram).2 hy
  | errand m i =>
    obtain rfl : m = n := hturn
    obtain ⟨t', op, next, x, ht', hp, hx, rfl⟩ := exists_of_goErrand? hs'
    obtain rfl := Option.some.inj (ht.symm.trans ht')
    exact kept_of_plain? (.inr (hload.asks _ (List.mem_of_getElem? hp)).exists_access.1) hx
  | _ => exact hturn.elim

/-! ## What becomes of those who wait, and of the next load -/

/-- Whoever has waited for the load has been told what it has come to, and comes to that if it looks
    the rule set up. Whoever waits for the load can go on with that. -/
structure Tells (s : Stage) (n : Nat) (r : Except Interruption RuleSet) : Prop where
  told : ∀ k ∈ s.callers, ∀ time source reply,
    ⟨time, source, .awaitLoad n, reply⟩ ∈ k.trace → reply = r ∧
      ∀ call : Call, call.IsAboutRules → (call.flow s.service).run.Leads k.trace k.program →
        k.program = .done (Answer.ofLoad r)
  tells : ∀ (i : Nat) (k : Strand Answer) next, s.callers[i]? = some k →
    k.program = .call (.awaitLoad n) next → ∃ s' k', s.goCaller? i = some s' ∧
      s'.callers[i]? = some k' ∧ k'.program = next r

theorem Orderly.tells (h : s.Orderly) {t : Strand RuleSet} {r : Except Interruption RuleSet}
    (ht : s.loads[n]? = some t) (hdone : t.program = .done r) : s.Tells n r where
  told := fun k hk time source reply hmem => by
    obtain ⟨t', ht', hdone'⟩ := h.told k hk _ hmem
    obtain rfl := Option.some.inj (ht.symm.trans ht')
    obtain rfl := Program.done.inj (hdone.symm.trans hdone')
    exact ⟨rfl, fun call hcall hleads => (call.shares_flow s.service hcall).of_leads hleads hmem⟩
  tells := fun i k next hk hprogram => by
    have hcarry : s.carry k.gathered? (.awaitLoad n) = some (r, s.place, []) := by
      rw [carry, ht, Option.bind_some, hdone]
      rfl
    exact ⟨_, _, goCaller?_eq hk hprogram hcarry,
      List.getElem?_set_self (List.getElem?_eq_some_iff.1 hk).1, rfl⟩

/-- The desk knows the load no more. If no other load of the user is under way, a caller who joins a
    load of the user starts a new one. -/
structure StartsAfresh (s : Stage) (user : Id) (n : Nat) : Prop where
  released : s.place.desk.pendingOf user ≠ some n
  starts : ∀ (i : Nat) (k : Strand Answer) next, s.callers[i]? = some k →
    k.program = .call (.joinLoad user) next →
    (∀ m, s.place.desk.pendingOf user = some m → m = n) →
    n < s.loads.length ∧ ∃ s' k', s.goCaller? i = some s' ∧ s'.callers[i]? = some k' ∧
      k'.program = next s.loads.length ∧ s'.owners[s.loads.length]? = some user ∧
      s'.loads = s.loads ++ [Strand.start s.service.cache s.clock
        (s.service.cache.load user s.loads.length).run]

theorem Orderly.startsAfresh (h : s.Orderly) (hn : n < s.loads.length)
    (hreleased : s.place.desk.pendingOf user ≠ some n) : s.StartsAfresh user n where
  released := hreleased
  starts := fun i k next hk hprogram hother => by
    have hnone : s.place.desk.pendingOf user = none := by
      cases hpending : s.place.desk.pendingOf user with
      | none => rfl
      | some m => exact absurd (hother m hpending ▸ hpending) hreleased
    have hcarry : s.carry k.gathered? (.joinLoad user) =
        some (s.loads.length, { s.place with desk := (s.place.desk.start user).2 },
          [Strand.start s.service.cache s.clock
            (s.service.cache.load user s.loads.length).run]) := by
      rw [carry, hnone, ← h.numbered]
      rfl
    refine ⟨hn, _, _, goCaller?_eq hk hprogram hcarry,
      List.getElem?_set_self (List.getElem?_eq_some_iff.1 hk).1, rfl, ?_, rfl⟩
    change (s.place.desk.start user).2.owners[s.loads.length]? = some user
    rw [Desk.owners_start, ← h.numbered, ← length_owners]
    exact List.getElem?_concat_length

/-- The desk forgets a load that has ended. -/
theorem pendingOf_of_forget? (h : s.Orderly) (hforget : s.forget? n = some s') :
    s'.place.desk.pendingOf user ≠ some n := by
  obtain ⟨r, -, rfl⟩ := exists_of_forget? hforget
  change (s.place.desk.forget n).pendingOf user ≠ some n
  rw [Desk.pendingOf_forget_eq h.desk.exists_pending]
  split
  · nofun
  · next hpending => exact hpending

/-- A load that is served comes to the rule set that it has compiled, unless what it reads on the
    record is too deep. -/
theorem Orderly.comesTo (h : s.Orderly) (huser : user.isText = true) {t : Strand RuleSet}
    (ht : s.loads[n]? = some t) (hn : s.owners[n]? = some user)
    (hserves : ∀ e ∈ t.trace, e.Serves s.service.cache) {r : Except Interruption RuleSet}
    (hdone : t.program = .done r) : s.service.cache.ComesTo user t.trace r := by
  obtain ⟨v, hv, hload⟩ := h.loads n t ht
  obtain rfl := Option.some.inj (hn.symm.trans hv)
  have hkeeps := Program.Keeps.of_leads (Cache.keeps_load_served huser) hload.leads hserves
  rw [hdone] at hkeeps
  exact hkeeps

/-! ## Nothing is left behind -/

/-- What becomes of a load of the user: it comes to an end if it is let go on, all who wait for it
    are told what it has come to, and if it is served, that is the rule set that it has compiled,
    unless what it reads on the record is too deep. -/
structure Answers (s : Stage) (user : Id) (n : Nat) : Prop where
  canEnd : s.CanEnd n
  tells : ∀ r, s.outcome? n = some r → s.Tells n r
  comesTo : ∀ t r, s.loads[n]? = some t → t.program = .done r →
    (∀ e ∈ t.trace, e.Serves s.service.cache) → s.service.cache.ComesTo user t.trace r

/-- A load that has been denied role data leaves nothing behind, fails all who wait for it, and
    makes way for the next load. -/
theorem leavesNothing_of_isDenied {service : Service} {world : World}
    {registry : Option Registry} (hs : Comes (begin service world registry) s)
    (huser : user.isText = true) (hn : s.owners[n]? = some user) {t : Strand RuleSet}
    (ht : s.loads[n]? = some t) (hdenied : t.IsDenied) :
    s.LeavesNothing n t ∧ s.CanEnd n ∧
    (∀ s', Comes s s' → ∃ t', s'.loads[n]? = some t' ∧ t'.IsDenied) ∧
    ∀ r, t.program = .done r → IsUnavailable r ∧ s.Tells n r ∧
      ∀ s₁, s.forget? n = some s₁ → ∀ s', Comes s₁ s' → s'.StartsAfresh user n ∧
        ∀ m, s'.owners[m]? = some user → s'.Answers user m := by
  have h := (hs.orderly (orderly_begin service world registry)).1
  refine ⟨h.leavesNothing ht hdenied, h.canEnd ht,
    fun s' hs' => (hs'.orderly h).2.denied n t ht hdenied, fun r hdone => ⟨?_, h.tells ht hdone,
      fun s₁ hforget s' hs' => ?_⟩⟩
  · obtain ⟨v, -, hload⟩ := h.loads n t ht
    exact (hload.fails hdenied hdone).2
  · obtain ⟨h₁, hextends₁⟩ := h.step (.turn (show s.take? (.forget n) = some s₁ from hforget))
    obtain ⟨h', hextends⟩ := hs'.orderly h₁
    have hlt : n < s₁.owners.length :=
      (List.getElem?_eq_some_iff.1 hn).1.trans_le hextends₁.owners.length_le
    have hreleased := hextends.released n user hlt (pendingOf_of_forget? h hforget)
    have hlength : s'.owners.length = s'.loads.length := by rw [length_owners, h'.numbered]
    refine ⟨h'.startsAfresh (hlength ▸ hlt.trans_le hextends.owners.length_le) hreleased,
      fun m hm => ?_⟩
    have hm' : m < s'.loads.length := hlength ▸ (List.getElem?_eq_some_iff.1 hm).1
    refine ⟨h'.canEnd (List.getElem?_eq_getElem hm'), fun r hr => ?_,
      fun t r ht hdone hserves => h'.comesTo huser ht hm hserves hdone⟩
    obtain ⟨t, ht, hdone⟩ := outcome?_eq_some_iff.1 hr
    exact h'.tells ht hdone

/-! ### A load that is denied, and the next one -/

/-- A world in which the reader runs a household whose users cannot be asked for. -/
def troubledWorld : World where
  rows := [⟨.text "h1", reader, .text HouseholdRole.manager.token⟩]
  failing := [⟨.members, none, .notConnected "acquire"⟩]

/-- Two callers share a load, which is denied the users of the household and fails. -/
def deniedTurns : List Turn :=
  Turn.miss reader 0 ++ Turn.miss reader 1 ++ List.replicate 4 (.load 0) ++ [.errand 0 0] ++
    List.replicate 2 (.load 0) ++ [.caller 0, .caller 1]

/-- The users of the household can be asked for again, and a third caller starts a load, which comes
    to its end. -/
def retriedTurns : List Turn :=
  [.change (.mend .members)] ++ Turn.miss reader 2 ++ List.replicate 4 (.load 1) ++
    [.errand 1 0, .load 1, .errand 1 0] ++ List.replicate 8 (.load 1) ++ [.caller 2]

/-- After the first load has failed and has been forgotten, the second one comes to the rule set
    that it has compiled. -/
theorem leavesNothing_of_isDenied_retried : reader.isText = true ∧ ∃ s t r,
    Comes (begin {} troubledWorld none) s ∧ s.owners[0]? = some reader ∧
    s.loads[0]? = some t ∧ t.IsDenied ∧ t.program = .done r ∧
    s.LeavesNothing 0 t ∧ IsUnavailable r ∧ s.Tells 0 r ∧ s.callers.length = 2 ∧
    ∃ s₁ s' u rules, s.forget? 0 = some s₁ ∧ Comes s₁ s' ∧ s'.owners[1]? = some reader ∧
      s'.loads[1]? = some u ∧ u.program = .done (.ok rules) ∧ Compiled reader u.trace rules := by
  have hdenied : (begin {} troubledWorld none).Plays deniedTurns fun s =>
      s.owners[0]? = some reader ∧ s.callers.length = 2 ∧
        ∃ t ∈ s.loads[0]?, t.IsDenied ∧ t.program.result?.isSome = true := by
    decide +kernel
  have hretried : (begin {} troubledWorld none).Plays (deniedTurns ++ .forget 0 :: retriedTurns)
      fun s => s.owners[1]? = some reader ∧ ∃ u ∈ s.loads[1]?,
        (∀ e ∈ u.trace, e.Serves {}) ∧ ∃ r ∈ u.program.result?, r.isOk = true := by
    decide +kernel
  obtain ⟨s, hs, howner, hcallers, t, ht, ht', hended⟩ := hdenied
  obtain ⟨r, hr⟩ := Option.isSome_iff_exists.1 hended
  have hdone := Program.result?_eq_some hr
  obtain ⟨s', hs', howner', u, hu, hserves, r', hr', hok⟩ := hretried
  rw [play_append, hs, Option.bind_some, play_cons] at hs'
  obtain ⟨s₁, hforget, hs'⟩ := Option.bind_eq_some_iff.1 hs'
  have hcomes := Comes.start.play hs
  have hcomes' : Comes s₁ s' := Comes.start.play hs'
  have h' := ((hcomes.step (.turn hforget)).trans hcomes').orderly (orderly_begin {} _ none) |>.2
  have h := leavesNothing_of_isDenied hcomes rfl howner ht ht'
  obtain ⟨hunavailable, htells, hafter⟩ := h.2.2.2 r hdone
  have hdone' := Program.result?_eq_some hr'
  -- What the second load has come to is a rule set, so that nothing has been too deep.
  rcases ((hafter s₁ hforget s' hcomes').2 1 howner').comesTo u r' hu hdone' (by
    rw [h'.service]
    exact hserves) with ⟨rules, rfl, hcompiled⟩ | ⟨_, _, _, _, -, -, rfl⟩
  · exact ⟨rfl, s, t, r, hcomes, howner, ht, ht', hdone, h.1, hunavailable, htells, hcallers,
      s₁, s', u, rules, hforget, hcomes', howner', hu, hdone', hcompiled⟩
  · cases hok

/-! ### A record that is too deep -/

/-- A load fails that reads something on the record which is too deep. -/
theorem exists_load_of_tooDeep {v : Value} {f : Failure} (hstore : c.store = .database)
    (hv : StoreKind.decoded v = .error f) : ∃ next,
      (c.load user n).run = .call (.access (.load user)) next ∧
        next (.ok (some v)) = .done (.error (.failure f)) := by
  obtain ⟨kind, store, seconds⟩ := c
  obtain rfl : store = .database := hstore
  have hpure {α : Type} (a : α) : (pure a : Program α) = .done a := rfl
  refine ⟨_, rfl, ?_⟩
  simp only [hpure, Program.andThen, ExceptT.bindCont, hv]
  rfl

theorem decoded_nestedText :
    StoreKind.decoded (.text nestedText) = .error (.tooDeep (.json true)) := by
  rw [StoreKind.decoded, nestedText, Json.read_brackets]

/-- A load that has just begun fails if something that is too deep is written on the record. -/
theorem Orderly.exists_tooDeep (h : s.Orderly) {t : Strand RuleSet} (ht : s.loads[n]? = some t)
    (hn : s.owners[n]? = some user) (htrace : t.trace = [])
    (hstore : s.service.cache.store = .database)
    (hconnected : s.place.world.notConnected? (.load user) = none)
    (hworks : s.place.world.failureAt? (.load user) = none) :
    ∃ s' t', Comes s s' ∧ s'.owners[n]? = some user ∧ s'.loads[n]? = some t' ∧
      (∀ e ∈ t'.trace, e.Serves s.service.cache) ∧
      t'.program = .done (.error (.failure (.tooDeep (.json true)))) := by
  -- What the text is does not matter.
  obtain ⟨text, htext⟩ : ∃ text, StoreKind.decoded (.text text) = .error (.tooDeep (.json true)) :=
    ⟨nestedText, decoded_nestedText⟩
  obtain ⟨v, hv, hload⟩ := h.loads n t ht
  obtain rfl := Option.some.inj (hn.symm.trans hv)
  have hleads := hload.leads
  rw [htrace] at hleads
  obtain ⟨next, hprogram, hnext⟩ := exists_load_of_tooDeep (n := n) hstore htext
  let written := s.change (.setForm user (.text text))
  have hform : written.place.world.formOf user = some (.text text) :=
    World.formOf_setForm _ _ nofun
  have hcarry : written.carry t.gathered? (.access (.load user)) =
      some (.ok (some (.text text)), written.place, []) := by
    have hperform : written.place.world.perform (.load user) =
        (.ok (written.place.world.formOf user), written.place.world) := by
      rw [World.perform, show written.place.world.notConnected? (.load user) = none from hconnected,
        show written.place.world.failureAt? (.load user) = none from hworks]
      rfl
    rw [hform] at hperform
    simp only [carry, Solo.plain?, World.begin, hperform]
    rfl
  have ht' : written.loads[n]? = some t := ht
  have hgo : written.take? (.load n) = _ := goLoad?_eq ht' (hleads.trans hprogram) hcarry
  have hwrite : s.take? (.change (.setForm user (.text text))) = some written := rfl
  have hserves : Exchange.Serves s.service.cache
      (written.exchange (.access (.load user)) (.ok (some (.text text)))) := by
    refine ⟨trivial, rfl, ?_, rfl⟩
    simp only [exchange, Exchange.tellsNothing, StoreKind.reading, hstore, htext]
  refine ⟨_, _, (Comes.start.step (.turn hwrite)).step (.turn hgo), hn,
    List.getElem?_set_self ?_, fun e he => ?_, hnext⟩
  · rw [List.append_nil]
    exact (List.getElem?_eq_some_iff.1 ht).1
  · rcases List.mem_append.1 he with he | he
    · rw [htrace] at he
      cases he
    · exact List.mem_singleton.1 he ▸ hserves

/-- A world in which the roles of users cannot be asked for. -/
def rolelessWorld : World where
  storeKind := .database
  failing := [⟨.roles, none, .notConnected "acquire"⟩]

/-- A caller starts a load, which is denied the roles of the reader and fails. -/
def rolelessTurns : List Turn :=
  Turn.miss reader 0 ++ List.replicate 4 (.load 0) ++ [.caller 0]

/-- The roles can be asked for again, and a second caller starts a load. -/
def restartedTurns : List Turn := [.change (.mend .roles)] ++ Turn.miss reader 1

/-- After a load has failed, the next one may fail, too, if something that is too deep has been
    written on the record. -/
theorem not_forall_isDenied_compiled : ¬∀ (service : Service) (world : World) (user : Id)
    (s s₁ s' : Stage) (t u : Strand RuleSet) (n m : Nat) (r r' : Except Interruption RuleSet),
    user.isText = true → Comes (begin service world none) s → s.owners[n]? = some user →
    s.loads[n]? = some t → t.IsDenied → t.program = .done r → s.forget? n = some s₁ →
    Comes s₁ s' → s'.owners[m]? = some user → s'.loads[m]? = some u →
    (∀ e ∈ u.trace, e.Serves service.cache) → u.program = .done r' →
    ∃ rules, r' = .ok rules ∧ Compiled user u.trace rules := by
  intro hall
  let service : Service := { cache := { store := .database } }
  have hdenied : (begin service rolelessWorld none).Plays rolelessTurns fun s =>
      s.owners[0]? = some reader ∧
        ∃ t ∈ s.loads[0]?, t.IsDenied ∧ t.program.result?.isSome = true := by
    decide +kernel
  have hstarted : (begin service rolelessWorld none).Plays
      (rolelessTurns ++ .forget 0 :: restartedTurns) fun s => s.owners[1]? = some reader ∧
        (∃ u ∈ s.loads[1]?, u.trace.isEmpty = true) ∧
        (s.place.world.notConnected? (.load reader)).isNone = true ∧
        (s.place.world.failureAt? (.load reader)).isNone = true := by
    decide +kernel
  obtain ⟨s, hs, hn, t, ht, hdenied, hended⟩ := hdenied
  obtain ⟨r, hr⟩ := Option.isSome_iff_exists.1 hended
  obtain ⟨s₂, hs₂, hm, ⟨u, hu, htrace⟩, hconnected, hworks⟩ := hstarted
  rw [play_append, hs, Option.bind_some, play_cons] at hs₂
  obtain ⟨s₁, hforget, hs₂⟩ := Option.bind_eq_some_iff.1 hs₂
  have hcomes := Comes.start.play hs
  have hcomes₂ : Comes s₁ s₂ := Comes.start.play hs₂
  obtain ⟨h, hextends⟩ := ((hcomes.step (.turn hforget)).trans hcomes₂).orderly
    (orderly_begin service rolelessWorld none)
  have hservice : s₂.service = service := hextends.service
  obtain ⟨s', u', hs', hm', hu', hserves, hdone⟩ := h.exists_tooDeep hu hm
    (List.isEmpty_iff.1 htrace) (by rw [hservice]) (Option.isNone_iff_eq_none.1 hconnected)
    (Option.isNone_iff_eq_none.1 hworks)
  rw [hservice] at hserves
  obtain ⟨rules, hrules, -⟩ := hall service rolelessWorld reader s s₁ s' t u' 0 1 r _ rfl hcomes hn
    ht hdenied (Program.result?_eq_some hr) hforget (hcomes₂.trans hs') hm' hu' hserves hdone
  cases hrules

end Stage

end HouseholdAccess
