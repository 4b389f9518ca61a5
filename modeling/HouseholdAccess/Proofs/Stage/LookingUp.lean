import HouseholdAccess.Proofs.Stage.Undisturbed

/-!
# Looking up on a stage

Callers look the rule set of a user up, in any number and in any order, while role data
changes and time passes, but nothing fails and nobody drops the rule set
(`Stage.LookedUp`). If nothing can be read of the user at the start, the roles of the
user are asked for at most once, and all callers come to the same rule set
(`Stage.reads_le_of_lookedUp`); entries of the cache may expire, or be taken out because
they cannot be read. Only an entry that is too deep fails those who find it
(`Stage.exists_lookedUp_tooDeep`).
-/

namespace HouseholdAccess

namespace Stage

variable {user : Id} {o : Outlook} {s s' : Stage} {reads : Nat}

/-! ## Runs -/

/-- One thing that may happen while nothing fails and callers only look the rule set up. -/
inductive LooksUp (user : Id) (s : Stage) : Stage → Prop
  /-- A caller enters. -/
  | enter : LooksUp user s (s.enter (.get user))
  /-- A caller goes on. -/
  | caller {n : Nat} {s' : Stage} : s.goCaller? n = some s' → LooksUp user s s'
  /-- A load goes on. -/
  | load {n : Nat} {s' : Stage} : s.goLoad? n = some s' → LooksUp user s s'
  /-- An errand of a load goes on. -/
  | errand {n i : Nat} {s' : Stage} : s.goErrand? n i = some s' → LooksUp user s s'
  /-- The desk forgets a load. -/
  | forget {n : Nat} {s' : Stage} : s.forget? n = some s' → LooksUp user s s'
  /-- Role data changes, or time passes, and the roles of the user stay known. -/
  | change {c : Change} : c.IsRoutine → (c.apply s.place.world).Works user →
    LooksUp user s (s.change c)

/-- What is reached by lookups from a stage, one step after the other. -/
inductive LookedUp (user : Id) (start : Stage) : Stage → Prop
  | start : LookedUp user start start
  | step {s s' : Stage} : LookedUp user start s → LooksUp user s s' → LookedUp user start s'

theorem LooksUp.toStep (h : LooksUp user s s') : Step user s s' := by
  cases h with
  | enter => exact .enter rfl
  | caller h => exact .caller h
  | load h => exact .load h
  | errand h => exact .errand h
  | forget h => exact .forget h
  | @change c hc => cases c <;> first | exact .change hc | exact .change trivial

/-- Whatever happens next, nobody is disturbed. -/
theorem Undisturbed.step (h : s.Undisturbed o reads) (hb : s.Behaves o.user)
    (ho : s.Ordered o.user) (hstep : LooksUp o.user s s') :
    ∃ o', o.Becomes o' ∧ s'.Undisturbed o' reads := by
  cases hstep with
  | enter => exact ⟨o, .same, h.enter⟩
  | @caller n _ hgo =>
    obtain ⟨t, x, ht, hx, rfl⟩ := exists_of_goCaller? hgo
    obtain ⟨op, next, hprogram, y, hy, ht', hs'⟩ := exists_of_act hx
    rw [ht', hs']
    exact ⟨o, .same, h.caller hb ho ht hprogram hy⟩
  | @load n _ hgo =>
    obtain ⟨t, x, ht, hx, rfl⟩ := exists_of_goLoad? hgo
    obtain ⟨op, next, hprogram, y, hy, ht', hs'⟩ := exists_of_act hx
    have hmay := (hb.loads n t ht).rest
    rw [hprogram] at hmay
    have hnil := LoadMay.started_eq_nil hmay.1 (carried_of_carry hmay.1.isAbout hy)
    rw [ht', hs', hnil, loads_after_nil]
    rcases (h.loadDoes ht hprogram).allows with ⟨form, rfl⟩ | hallows
    · exact h.load_save ht hprogram hy
    · exact ⟨o, .same, h.load_allowed hb ht hprogram hallows hy hnil⟩
  | @errand n i _ hgo =>
    obtain ⟨t, op, next, x, ht, hp, hx, rfl⟩ := exists_of_goErrand? hgo
    exact ⟨o, .same, h.errand hb ht hp hx⟩
  | @forget n _ hforget =>
    obtain ⟨r, -, rfl⟩ := exists_of_forget? hforget
    exact ⟨o, .same, h.forgot n⟩
  | change hc hworks => exact ⟨o, .same, h.change hc hworks⟩

theorem LookedUp.undisturbed {service : Service} {world : World} {registry : Option Registry}
    (huser : user.isText = true) (hworld : world.Works user) (hform : world.formOf user = none)
    (hunread : ∀ e ∈ world.entries, e.key = user →
      ∀ rules, Packed.loads (.text e.text) ≠ .ok rules)
    (hs : LookedUp user (begin service world registry) s) :
    (s.Behaves user ∧ s.Timed ∧ s.Ordered user) ∧ ∃ found, s.Undisturbed
      { user, store := service.cache.store, entries := world.entries, found } world.reads := by
  induction hs with
  | start =>
    exact ⟨⟨behaves_begin hworld.names, timed_begin, ordered_begin⟩, none,
      undisturbed_begin huser hworld hform hunread⟩
  | step _ hstep ih =>
    obtain ⟨⟨hb, ht, ho⟩, found, h⟩ := ih
    have hmoves := hb.moves hstep.toStep
    refine ⟨⟨hb.of_moves huser hmoves, ht.of_moves hmoves, ho.of_moves hb ht hmoves⟩, ?_⟩
    obtain ⟨o', hbecomes, h'⟩ := h.step hb ho hstep
    cases hbecomes with
    | same => exact ⟨found, h'⟩
    | @found rules => exact ⟨some rules, h'⟩

/-! ## Progress -/

/-- A caller, a load or an errand of a load can go on. -/
def GoesOn (s : Stage) : Prop :=
  (∃ n, (s.goCaller? n).isSome = true) ∨ (∃ n, (s.goLoad? n).isSome = true) ∨
    ∃ n i, (s.goErrand? n i).isSome = true

/-- A caller can go on whose next operation can be carried out. -/
theorem goesOn_of_caller {n : Nat} {t : Strand Answer} (ht : s.callers[n]? = some t)
    {op : Operation} {next : op.Reply → Program (Except Interruption Answer)}
    (hprogram : t.program = .call op next) (hx : (s.carry t.gathered? op).isSome = true) :
    s.GoesOn := by
  obtain ⟨x, hx⟩ := Option.isSome_iff_exists.1 hx
  refine .inl ⟨n, ?_⟩
  simp [goCaller?, act, ht, hprogram, hx]

/-- A load can go on whose next operation can be carried out. -/
theorem goesOn_of_load {n : Nat} {t : Strand RuleSet} (ht : s.loads[n]? = some t)
    {op : Operation} {next : op.Reply → Program (Except Interruption RuleSet)}
    (hprogram : t.program = .call op next) (hx : (s.carry t.gathered? op).isSome = true) :
    s.GoesOn := by
  obtain ⟨x, hx⟩ := Option.isSome_iff_exists.1 hx
  refine .inr (.inl ⟨n, ?_⟩)
  simp [goLoad?, act, ht, hprogram, hx]

/-- An errand can go on that asks for something. -/
theorem goesOn_of_errand {n i : Nat} {t : Strand RuleSet} (ht : s.loads[n]? = some t)
    {a : Access} {next : (Operation.access a).Reply → ErrandProgram}
    (hp : t.parts[i]? = some (.call (.access a) next)) : s.GoesOn := by
  refine .inr (.inr ⟨n, i, ?_⟩)
  simp [goErrand?, ht, hp, Solo.plain?]

namespace Undisturbed

/-- A load that has not ended goes on, or one of its errands does. -/
theorem load_goesOn (h : s.Undisturbed o reads) (hb : s.Behaves o.user) {n : Nat}
    {t : Strand RuleSet} (ht : s.loads[n]? = some t) {op : Operation}
    {next : op.Reply → Program (Except Interruption RuleSet)}
    (hprogram : t.program = .call op next) :
    s.GoesOn := by
  have hmay := h.loadDoes ht hprogram
  cases op with
  | each errand ids =>
    have hreading := (hb.loads n t ht).reading
    rcases (h.loads n t ht).gathered_or_active hreading with
      ⟨lists, hlists, -⟩ | ⟨-, i, p, hp, hresult⟩
    · exact goesOn_of_load ht hprogram (by simp [carry, hlists])
    · cases p with
      | done => cases hresult
      | call op' next' =>
        obtain ⟨a, rfl, -⟩ := (hreading _ (List.mem_of_getElem? hp)).exists_answered o
        exact goesOn_of_errand ht hp
  | access | isOvertaken | count => exact goesOn_of_load ht hprogram rfl
  | _ => exact hmay.elim

/-- Unless all callers have ended, somebody goes on. -/
theorem ended_or_goesOn (h : s.Undisturbed o reads) (hb : s.Behaves o.user) :
    (∀ t ∈ s.callers, ∃ r, t.program = .done r) ∨ s.GoesOn := by
  by_contra! hstuck
  obtain ⟨⟨t, ht, hactive⟩, hstays⟩ := hstuck
  obtain ⟨n, hn⟩ := List.mem_iff_getElem?.1 ht
  cases hprogram : t.program with
  | done r => exact hactive r hprogram
  | call op next =>
    have hmay := h.lookUpDoes ht hprogram
    have hwaits : ¬(s.carry t.gathered? op).isSome = true := fun hx =>
      hstays (goesOn_of_caller hn hprogram hx)
    -- A caller that cannot go on waits for a load, which can go on then.
    cases op with
    | access | count => exact hwaits rfl
    | joinLoad v =>
      refine hwaits ?_
      simp only [carry]
      split <;> rfl
    | awaitLoad m =>
      obtain ⟨time, source, hjoined⟩ := hmay
      have hm := h.joined t ht time source _ m hjoined
      cases hload : (s.loads[m]).program with
      | done r =>
        refine hwaits ?_
        simp [carry, List.getElem?_eq_getElem hm, hload, Program.result?]
      | call op' next' => exact hstays (h.load_goesOn hb (List.getElem?_eq_getElem hm) hload)
    | _ => exact hmay.elim

end Undisturbed

/-! ## One compilation -/

/-- While nothing fails and the rule set of a user, of which nothing can be read at the start, is
    only looked up, the roles of the user are asked for at most once. All callers come to the same
    rule set, except for those who find an entry in the cache that is too deep; and unless all have
    ended, somebody goes on. -/
theorem reads_le_of_lookedUp {service : Service} {world : World} {registry : Option Registry}
    (huser : user.isText = true) (hworld : world.Works user) (hform : world.formOf user = none)
    (hunread : ∀ e ∈ world.entries, e.key = user →
      ∀ rules, Packed.loads (.text e.text) ≠ .ok rules)
    (hs : LookedUp user (begin service world registry) s) :
    s.place.world.reads ≤ world.reads + 1 ∧
    (∃ rules, ∀ t ∈ s.callers, ∀ r, t.program = .done r → r = .ok (.rules rules) ∨
      ∃ o, r = .error (.failure (.tooDeep o)) ∧ ∃ e ∈ world.entries, e.key = user ∧
        Packed.loads (.text e.text) = .error (.tooDeep o)) ∧
    ((∀ t ∈ s.callers, ∃ r, t.program = .done r) ∨ s.GoesOn) := by
  obtain ⟨⟨hb, -, -⟩, found, h⟩ := hs.undisturbed huser hworld hform hunread
  refine ⟨?_, ⟨found.getD [], fun t ht r hdone => ?_⟩, h.ended_or_goesOn hb⟩
  · rcases h.reads with hreads | ⟨hreads, -⟩
    · exact hreads.le.trans (Nat.le_succ _)
    · exact hreads.le
  · have hends := (h.callers t ht).keeps (Cache.keeps_get_answered h.fair s.service)
    rw [hdone] at hends
    rcases hends with ⟨rules, hfound, rfl⟩ | ⟨o, ⟨e, he, hkey, hloads⟩, rfl⟩
    · exact .inl (by rw [show found = some rules from hfound]; rfl)
    · exact .inr ⟨o, rfl, e, he, hkey, hloads⟩

/-! ### Turns of lookups -/

/-- The turn may come while callers only look the rule set up, and nothing changes. -/
def Turn.IsLookUp (user : Id) : Turn → Prop
  | .enter (.get v) => v = user
  | .enter _ | .change _ => False
  | _ => True

theorem looksUp_of_take? {turn : Turn} (hturn : turn.IsLookUp user) (h : s.take? turn = some s') :
    LooksUp user s s' := by
  cases turn with
  | enter call =>
    cases h
    cases call with
    | get v =>
      obtain rfl : v = user := hturn
      exact .enter
    | _ => exact hturn.elim
  | caller n => exact .caller h
  | load n => exact .load h
  | errand n i => exact .errand h
  | forget n => exact .forget h
  | change c => exact hturn.elim

theorem LookedUp.play {start : Stage} (hs : LookedUp user start s) {turns : List Turn}
    (hturns : ∀ turn ∈ turns, turn.IsLookUp user) (h : s.play turns = some s') :
    LookedUp user start s' :=
  keeps_of_foldlM_eq_some (fun turn hturn _ _ hs hturn' =>
    hs.step (looksUp_of_take? (hturns turn hturn) hturn')) hs h

/-- A user. -/
def reader : Id := .text "u1"

/-- A world in which the cache has an entry of the reader. -/
def entryWorld (text : String) : World := { entries := [⟨reader, text, .ofInt 1300⟩] }

section Entry

variable {text : String}

theorem works_entryWorld : (entryWorld text).Works reader :=
  ⟨⟨rfl, rfl⟩, ⟨List.forall_mem_nil _, List.forall_mem_nil _⟩, rfl, List.forall_mem_nil _⟩

theorem unread_entryWorld (text : String) (h : (Packed.loads (.text text)).isOk = false) :
    ∀ e ∈ (entryWorld text).entries, e.key = reader →
      ∀ rules, Packed.loads (.text e.text) ≠ .ok rules := by
  refine List.forall_mem_singleton.2 fun _ rules hloads => ?_
  rw [hloads] at h
  cases h

end Entry

/-- The text of an object, which is no rule set. -/
def objectText : String := "\x7b\x7d"

/-- Two callers find an entry that they cannot read, take it out one after the other, and share a
    load. A third one finds what has been put into the cache. -/
def sharedTurns : List Turn :=
  [.enter (.get reader), .enter (.get reader), .caller 0, .caller 1, .caller 0, .caller 0,
    .caller 1, .caller 1] ++ List.replicate 13 (.load 0) ++ [.caller 0, .forget 0, .caller 1,
    .enter (.get reader), .caller 2, .caller 2]

/-- All three come to the same rule set, and one of them has had it compiled. -/
theorem reads_le_of_lookedUp_shared :
    let world := entryWorld objectText
    reader.isText = true ∧ world.Works reader ∧ world.formOf reader = none ∧
      (∀ e ∈ world.entries, e.key = reader →
        ∀ rules, Packed.loads (.text e.text) ≠ .ok rules) ∧
      ∃ s, LookedUp reader (begin {} world none) s ∧ s.callers.length = 3 ∧
        (∀ t ∈ s.callers, t.program.result?.isSome = true) ∧
        (s.place.world.reads ≤ world.reads + 1 ∧
          (∃ rules, ∀ t ∈ s.callers, ∀ r, t.program = .done r → r = .ok (.rules rules) ∨
            ∃ o, r = .error (.failure (.tooDeep o)) ∧ ∃ e ∈ world.entries,
              e.key = reader ∧ Packed.loads (.text e.text) = .error (.tooDeep o)) ∧
          ((∀ t ∈ s.callers, ∃ r, t.program = .done r) ∨ s.GoesOn)) := by
  have hplays : (begin {} (entryWorld objectText) none).Plays sharedTurns fun s =>
      s.callers.length = 3 ∧ ∀ t ∈ s.callers, t.program.result?.isSome = true := by
    decide +kernel
  have hturns : ∀ turn ∈ sharedTurns, turn.IsLookUp reader := by
    simp [sharedTurns, Turn.IsLookUp]
  have hunread := unread_entryWorld objectText (by decide +kernel)
  obtain ⟨s, hplay, hlength, hended⟩ := hplays
  have hs := LookedUp.start.play hturns hplay
  exact ⟨rfl, works_entryWorld, rfl, hunread, s, hs, hlength, hended,
    reads_le_of_lookedUp rfl works_entryWorld rfl hunread hs⟩

/-- A caller who finds an entry that is too deep fails. -/
theorem exists_lookedUp_tooDeep {text : String} {o : Obstacle}
    (h : Packed.loads (.text text) = .error (.tooDeep o)) :
    ∃ s, LookedUp reader (begin {} (entryWorld text) none) s ∧
      ∃ t ∈ s.callers, t.program = .done (.error (.failure (.tooDeep o))) := by
  obtain ⟨next, hprogram, hnext⟩ : ∃ next,
      ((Call.get reader).flow {}).run = .call (.access (.cacheGet reader)) next ∧
        next (.ok (some text)) = .done (.error (.failure (.tooDeep o))) := by
    refine ⟨_, rfl, ?_⟩
    simp only [Program.andThen, ExceptT.bindCont, h]
    rfl
  have hexpired : (entryWorld "").expired ⟨reader, "", .ofInt 1300⟩ = false := by decide +kernel
  have hfound : (entryWorld text).lookUp reader = (some text, entryWorld text) := by
    have hentry : (entryWorld text).entryOf reader = some ⟨reader, text, .ofInt 1300⟩ := rfl
    rw [World.lookUp, hentry]
    exact if_neg (Bool.eq_false_iff.1 hexpired)
  let s := (begin {} (entryWorld text) none).enter (.get reader)
  let t : Strand Answer := Strand.start {} 1 ((Call.get reader).flow {}).run
  have hcarry (gathered : Option (Except Interruption (List (List Id)))) :
      s.carry gathered (.access (.cacheGet reader)) = some (.ok (some text), s.place, []) := by
    simp only [carry, Solo.plain?, World.begin]
    rw [show s.place.world = entryWorld text from rfl, works_entryWorld.perform]
    change some (Except.ok ((entryWorld text).lookUp reader).1,
      { s.place with world := ((entryWorld text).lookUp reader).2 }, []) = _
    rw [hfound]
    rfl
  have hgo : s.goCaller? 0 = some
      { s.after none (s.exchange (.access (.cacheGet reader)) (.ok (some text))) s.place [] with
        callers := [t.go {} (s.exchange (.access (.cacheGet reader)) (.ok (some text)))
          (next (.ok (some text)))] } := by
    have hcallers : s.callers = [t] := rfl
    have ht : t.program = .call (.access (.cacheGet reader)) next := hprogram
    simp only [goCaller?, act, hcallers, List.getElem?_cons_zero, Option.bind_eq_bind,
      Option.bind_some, ht, hcarry, Option.map_some]
    rfl
  exact ⟨_, (LookedUp.start.step .enter).step (.caller hgo), _, List.mem_singleton.2 rfl, hnext⟩

/-- A list in a list, and so on, beyond what can be read. -/
def nestedText : String := String.ofList (List.replicate (Json.depthLimit + 1) '[')

theorem loads_nestedText : Packed.loads (.text nestedText) = .error (.tooDeep (.json true)) := by
  rw [Packed.loads, nestedText, Json.read_brackets]
  rfl

/-- A caller who finds an entry that is too deep comes to no rule set. -/
theorem not_forall_lookedUp_same : ¬∀ (user : Id) (world : World) (s : Stage),
    user.isText = true → world.Works user → world.formOf user = none →
    (∀ e ∈ world.entries, e.key = user → ∀ rules, Packed.loads (.text e.text) ≠ .ok rules) →
    LookedUp user (begin {} world none) s →
    ∃ rules, ∀ t ∈ s.callers, ∀ r, t.program = .done r → r = .ok (.rules rules) := by
  intro hall
  have hunread := unread_entryWorld nestedText (by rw [loads_nestedText]; rfl)
  obtain ⟨s, hs, t, ht, hdone⟩ := exists_lookedUp_tooDeep loads_nestedText
  obtain ⟨rules, hrules⟩ := hall reader _ s rfl works_entryWorld rfl hunread hs
  cases hrules t ht _ hdone

end Stage

end HouseholdAccess
