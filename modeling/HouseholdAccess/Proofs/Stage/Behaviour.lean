import HouseholdAccess.Proofs.Cache.Coherent
import HouseholdAccess.Proofs.Stage

/-!
# Behaviour on a stage

While names are texts, whatever is replied on a stage is sound, so that callers and
loads keep to what they may do (`Strand.Keeps`, `Stage.Behaves`). What an operation
about the user can do is told by `Stage.Carried`, and every step of such a stage is
one of its moves (`Stage.Moves`). What is shown of stages later goes by these cases.
-/

namespace HouseholdAccess

open HouseholdAccess.Flow

variable {α : Type} {user : Id}

/-! ## Answers -/

namespace World

variable {w : World}

/-- An access is answered, or refused without effect. -/
theorem perform_cases (w : World) (a : Access) :
    w.perform a = (.ok (w.answer a).1, (w.answer a).2) ∨ ∃ f, w.perform a = (.error f, w) := by
  rw [perform]
  split
  · next f _ => exact .inr ⟨f, rfl⟩
  · split
    · next f _ => exact .inr ⟨f, rfl⟩
    · exact .inl rfl

theorem HasTextNames.begin (hw : w.HasTextNames) (a : Access) : (w.begin a).HasTextNames := by
  cases a <;> exact ⟨hw.rows, hw.managers⟩

theorem HasTextNames.answer (hw : w.HasTextNames) (a : Access) :
    ((w.begin a).answer a).2.HasTextNames := by
  cases a with
  | cacheGet user =>
    change (w.lookUp user).2.HasTextNames
    rw [lookUp]
    split
    · exact hw
    · split <;> exact ⟨hw.rows, hw.managers⟩
  | cacheClose =>
    simp only [World.begin, World.answer]
    split <;> exact ⟨hw.rows, hw.managers⟩
  | _ => exact ⟨hw.rows, hw.managers⟩

/-- The names in what is answered are texts. -/
theorem HasTextNames.namesTexts (hw : w.HasTextNames) (a : Access) :
    a.NamesTexts ((w.begin a).answer a).1 := by
  cases a with
  | roles user =>
    intro r hr household hhousehold
    obtain ⟨row, hrow, rfl⟩ := List.mem_map.1 hr
    have htext := (hw.rows row (List.mem_filter.1 hrow).1).1
    rw [← Option.some.inj hhousehold]
    exact (storeName_of_isText htext).symm ▸ htext
  | managed user => exact hw.isText_managedBy
  | members household => exact hw.isText_membersOf
  | aiUsers household => exact hw.isText_aiUsersOf
  | _ => trivial

end World

/-- An access is answered, or refused without effect. -/
theorem Solo.plain?_access_cases (s : Solo) (a : Access) :
    s.plain? (.access a) = some (.ok ((s.world.begin a).answer a).1,
      { s with world := ((s.world.begin a).answer a).2 }) ∨
    ∃ f, s.plain? (.access a) =
      some (.error (.failure f), { s with world := s.world.begin a }) := by
  simp only [plain?]
  rcases (s.world.begin a).perform_cases a with hperform | ⟨f, hperform⟩
  · exact .inl (by rw [hperform]; rfl)
  · exact .inr ⟨f, by rw [hperform]; rfl⟩

/-! ## Operations about a user -/

/-- The operation is one of those that callers and loads of the user carry out. -/
def Operation.IsAbout (user : Id) : Operation → Prop
  | .access (.roles v) | .access (.load v) | .access (.save v _) | .access (.clear v)
  | .access (.cacheGet v) | .access (.cacheSet v _ _) | .access (.cacheDelete v)
  | .joinLoad v | .overtake v => v = user
  | .access (.managed _) | .access (.members _) | .access (.aiUsers _) | .each .. | .awaitLoad _
  | .isOvertaken _ | .count _ => True
  | _ => False

theorem CallerMay.isAbout {op : Operation} (h : CallerMay user op) : op.IsAbout user := by
  unfold CallerMay at h
  split at h <;> first | exact h | exact h.elim

theorem LoadMay.isAbout {kind : StoreKind} {load : Nat} {tr : List Exchange} {op : Operation}
    (h : LoadMay kind user load tr op) : op.IsAbout user := by
  unfold LoadMay at h
  split at h <;> first | exact h | exact h.1 | exact trivial | exact h.elim

/-- What carrying out an operation about the user comes to. -/
inductive Stage.Carried (s : Stage)
    (gathered : Option (Except Interruption (List (List Id)))) :
    (op : Operation) → op.Reply → Solo → List (Strand RuleSet) → Prop
  | answered (a : Access) :
      Carried s gathered (.access a) (.ok ((s.place.world.begin a).answer a).1)
        { s.place with world := ((s.place.world.begin a).answer a).2 } []
  | refused (a : Access) (f : Failure) : Carried s gathered (.access a) (.error (.failure f))
      { s.place with world := s.place.world.begin a } []
  | joined {v : Id} {n : Nat} : s.place.desk.pendingOf v = some n →
      Carried s gathered (.joinLoad v) n s.place []
  | started {v : Id} : s.place.desk.pendingOf v = none →
      Carried s gathered (.joinLoad v) s.place.desk.loads.length
        { s.place with desk := (s.place.desk.start v).2 }
        [Strand.start s.service.cache s.clock
          (s.service.cache.load v s.place.desk.loads.length).run]
  | awaited {n : Nat} {t : Strand RuleSet} {r : Except Interruption RuleSet} :
      s.loads[n]? = some t → t.program = .done r → Carried s gathered (.awaitLoad n) r s.place []
  | gathered {errand : Errand} {ids : List Id} {r : Except Interruption (List (List Id))} :
      gathered = some r → Carried s gathered (.each errand ids) r s.place []
  | overtook (v : Id) : Carried s gathered (.overtake v) ()
      { s.place with desk := s.place.desk.overtake v } []
  | asked (n : Nat) :
      Carried s gathered (.isOvertaken n) (s.place.desk.isOvertaken n) s.place []
  | counted (series : Series) (registry : Option Registry) :
      Carried s gathered (.count series) () { s.place with registry } []

theorem Program.result?_eq_some {p : Program α} {a : α} (h : p.result? = some a) :
    p = .done a := by
  cases p with
  | done b =>
    cases h
    rfl
  | call => cases h

variable {s : Stage} {gathered : Option (Except Interruption (List (List Id)))}

/-- A load is joined, or started if there is none for the user. -/
theorem Stage.joined_or_started {v : Id} {x : Nat × Solo × List (Strand RuleSet)}
    (hx : s.carry gathered (.joinLoad v) = some x) :
    (∃ n, s.place.desk.pendingOf v = some n ∧ x = (n, s.place, [])) ∨
      s.place.desk.pendingOf v = none ∧
        x = (s.place.desk.loads.length, { s.place with desk := (s.place.desk.start v).2 },
          [.start s.service.cache s.clock
            (s.service.cache.load v s.place.desk.loads.length).run]) := by
  simp only [carry] at hx
  split at hx
  · next n hn => exact .inl ⟨n, hn, (Option.some.inj hx).symm⟩
  · next hn => exact .inr ⟨hn, (Option.some.inj hx).symm⟩

theorem Stage.carried_access {a : Access} {x : (Operation.access a).Reply × Solo}
    (hx : s.place.plain? (.access a) = some x) : s.Carried gathered (.access a) x.1 x.2 [] := by
  simp only [Solo.plain?, Option.some.injEq] at hx
  rcases (s.place.world.begin a).perform_cases a with hperform | ⟨f, hperform⟩
  · rw [hperform] at hx
    cases hx
    exact .answered a
  · rw [hperform] at hx
    cases hx
    exact .refused a f

theorem Stage.carried_of_carry {op : Operation} (hop : op.IsAbout user)
    {x : op.Reply × Solo × List (Strand RuleSet)} (hx : s.carry gathered op = some x) :
    s.Carried gathered op x.1 x.2.1 x.2.2 := by
  cases op with
  | access a =>
    cases hx
    exact carried_access rfl
  | joinLoad v =>
    rcases joined_or_started hx with ⟨n, hn, rfl⟩ | ⟨hn, rfl⟩
    · exact .joined hn
    · exact .started hn
  | awaitLoad n =>
    obtain ⟨r, hr, rfl⟩ := Option.map_eq_some_iff.1 hx
    obtain ⟨t, ht, hr⟩ := Option.bind_eq_some_iff.1 hr
    exact .awaited ht (Program.result?_eq_some hr)
  | each errand ids =>
    obtain ⟨r, hr, rfl⟩ := Option.map_eq_some_iff.1 hx
    exact .gathered hr
  | overtake v =>
    cases hx
    exact .overtook v
  | isOvertaken n =>
    cases hx
    exact .asked n
  | count series =>
    cases hx
    exact .counted series _
  | _ => exact hop.elim

/-! ## Strands that keep to what they may do -/

/-- The errand asks for the users of a household, or has been told them, or has failed. -/
inductive ErrandReads : ErrandProgram → Prop
  | members (household : Id) : ErrandReads (access (.members household)).run
  | aiUsers (household : Id) : ErrandReads (access (.aiUsers household)).run
  | done {ids : List Id} : (∀ id ∈ ids, id.isText = true) → ErrandReads (.done (.ok ids))
  | failed (e : Interruption) : ErrandReads (.done (.error e))

/-- The strand has done what `G` allows, and goes on so. -/
structure Strand.Keeps (G : List Exchange → Operation → Prop)
    (Q : List Exchange → Except Interruption α → Prop) (t : Strand α) : Prop where
  rest : t.program.Keeps Exchange.IsSound G Q t.trace
  done : ∀ before e after, t.trace = before ++ e :: after → G before e.op
  sound : ∀ e ∈ t.trace, e.IsSound
  reading : ∀ p ∈ t.parts, ErrandReads p
  waiting : t.parts ≠ [] → ∃ errand ids next, t.program = .call (.each errand ids) next

namespace Strand

variable {G : List Exchange → Operation → Prop} {Q : List Exchange → Except Interruption α → Prop}
  {t : Strand α} {c : Cache}

/-- The errands of a program that does not drop anything read. -/
theorem reads_errandsOf (hG : ∀ tr errand ids, G tr (.each errand ids) → errand ≠ .invalidate)
    {p : Program (Except Interruption α)} {tr : List Exchange}
    (hp : p.Keeps Exchange.IsSound G Q tr) : ∀ q ∈ c.errandsOf p, ErrandReads q := by
  intro q hq
  obtain ⟨errand, ids, next, id, rfl, rfl⟩ := Cache.exists_of_mem_errandsOf hq
  have herrand := hG tr errand ids hp.1
  cases errand with
  | invalidate => exact absurd rfl herrand
  | members => exact .members id
  | aiUsers => exact .aiUsers id

theorem waiting_errandsOf {p : Program (Except Interruption α)} (hp : c.errandsOf p ≠ []) :
    ∃ errand ids next, p = .call (.each errand ids) next := by
  obtain ⟨q, hq⟩ := List.exists_mem_of_ne_nil _ hp
  obtain ⟨errand, ids, next, -, hprogram, -⟩ := Cache.exists_of_mem_errandsOf hq
  exact ⟨errand, ids, next, hprogram⟩

theorem keeps_start (hG : ∀ tr errand ids, G tr (.each errand ids) → errand ≠ .invalidate)
    {begun : Nat} {p : Program (Except Interruption α)} (hp : p.Keeps Exchange.IsSound G Q []) :
    (start c begun p).Keeps G Q where
  rest := hp
  done := fun before e after htrace => by cases before <;> cases htrace
  sound := List.forall_mem_nil _
  reading := reads_errandsOf hG hp
  waiting := waiting_errandsOf

theorem Keeps.go (h : t.Keeps G Q)
    (hG : ∀ tr errand ids, G tr (.each errand ids) → errand ≠ .invalidate) {time : Nat}
    {source : Mark} {op : Operation} {next : op.Reply → Program (Except Interruption α)}
    (hprogram : t.program = .call op next) {reply : op.Reply}
    (hsound : Exchange.IsSound ⟨time, source, op, reply⟩) :
    (t.go c ⟨time, source, op, reply⟩ (next reply)).Keeps G Q := by
  have hrest := h.rest
  rw [hprogram] at hrest
  have hnext := hrest.2 time source reply hsound
  refine ⟨hnext, fun before e after htrace => ?_, fun e he => ?_, reads_errandsOf hG hnext,
    waiting_errandsOf⟩
  · -- Either the exchange is the one that has been added, or it was there before.
    rcases List.eq_nil_or_concat' after with rfl | ⟨others, e', rfl⟩
    · obtain ⟨hbefore, he⟩ := List.append_inj' htrace rfl
      cases he
      exact hbefore ▸ hrest.1
    · rw [← List.cons_append, ← List.append_assoc] at htrace
      exact h.done before e others (List.append_inj' htrace rfl).1
  · rcases List.mem_append.1 he with he | he
    · exact h.sound e he
    · exact List.mem_singleton.1 he ▸ hsound

theorem Keeps.goErrand (h : t.Keeps G Q) {i time : Nat} {op : Operation} {p : ErrandProgram}
    (hp : ErrandReads p) : (t.goErrand i time op p).Keeps G Q where
  rest := h.rest
  done := h.done
  sound := h.sound
  reading := fun q hq => by
    rcases List.mem_or_eq_of_mem_set hq with hq | rfl
    · exact h.reading q hq
    · exact hp
  waiting := fun hparts => h.waiting fun hnil => hparts (by
    change t.parts.set i p = []
    rw [hnil]
    rfl)

end Strand

/-- An errand asks for something, and is done then. -/
theorem ErrandReads.exists_access {op : Operation} {next : op.Reply → ErrandProgram}
    (h : ErrandReads (.call op next)) :
    ∃ a, op = .access a ∧ (Operation.access a).readsRoles = true ∧ (∀ v, a ≠ .roles v) ∧
      ∀ time source reply, Exchange.IsSound ⟨time, source, op, reply⟩ →
        ErrandReads (next reply) := by
  have htold {ids : Except Interruption (List Id)}
      (hids : ∀ names, ids = .ok names → ∀ id ∈ names, id.isText = true) :
      ErrandReads (.done ids) := by
    cases ids with
    | ok names => exact .done (hids names rfl)
    | error e => exact .failed e
  generalize hp : Program.call op next = p at h
  cases h with
  | members household =>
    cases hp
    refine ⟨_, rfl, rfl, fun _ h => (by cases h), fun time source reply hsound => htold ?_⟩
    rintro names rfl
    exact hsound
  | aiUsers household =>
    cases hp
    refine ⟨_, rfl, rfl, fun _ h => (by cases h), fun time source reply hsound => htold ?_⟩
    rintro names rfl
    exact hsound
  | done => cases hp
  | failed => cases hp

/-- Errands that have been told what they have asked for bring texts back. -/
theorem ErrandReads.of_gathered? {t : Strand α} (hparts : ∀ p ∈ t.parts, ErrandReads p)
    {lists : List (List Id)} (h : t.gathered? = some (.ok lists)) :
    ∀ ids ∈ lists, ∀ id ∈ ids, id.isText = true := by
  rw [Strand.gathered?] at h
  split at h
  · cases h
  · obtain ⟨rs, hrs, hlists⟩ := Option.map_eq_some_iff.1 h
    intro ids hids
    obtain ⟨r, hr, rfl⟩ := exists_of_mapM_eq_ok hlists ids hids
    obtain ⟨p, hp, hresult⟩ := exists_of_mapM_eq_some hrs _ hr
    obtain rfl := Program.result?_eq_some hresult
    cases hparts _ hp with
    | done hids => exact hids

/-! ## Moves -/

theorem LoadMay.started_eq_nil {kind : StoreKind} {load : Nat} {tr : List Exchange} {op : Operation}
    {reply : op.Reply} {place : Solo} {started : List (Strand RuleSet)}
    (h : LoadMay kind user load tr op) (hc : s.Carried gathered op reply place started) :
    started = [] := by
  cases hc with
  | started => exact h.elim
  | _ => rfl

namespace Stage

variable {s' : Stage}

/-- Names are texts, and callers and loads keep to what they may do. -/
structure Behaves (user : Id) (s : Stage) : Prop where
  names : s.place.world.HasTextNames
  numbered : s.place.desk.loads.length = s.loads.length
  callers : ∀ t ∈ s.callers, t.Keeps (fun _ => CallerMay user) fun _ _ => True
  loads : ∀ (n : Nat) (t : Strand RuleSet), s.loads[n]? = some t →
    t.Keeps (LoadMay s.service.cache.store user n) (LoadEnds s.service.cache.store user n)

/-- The steps of a stage that behaves, one by one. -/
inductive Moves (user : Id) (s : Stage) : Stage → Prop
  | entered {call : Call} : call.IsAbout user → Moves user s (s.enter call)
  | caller {n : Nat} {t : Strand Answer} {op : Operation}
      {next : op.Reply → Program (Except Interruption Answer)} {reply : op.Reply} {place : Solo}
      {started : List (Strand RuleSet)} :
      s.callers[n]? = some t → t.program = .call op next → CallerMay user op →
      s.Carried t.gathered? op reply place started → Moves user s
        { s.after none (s.exchange op reply) place started with
          callers := s.callers.set n (t.go s.service.cache (s.exchange op reply) (next reply)) }
  | load {n : Nat} {t : Strand RuleSet} {op : Operation}
      {next : op.Reply → Program (Except Interruption RuleSet)} {reply : op.Reply} {place : Solo} :
      s.loads[n]? = some t → t.program = .call op next →
      LoadMay s.service.cache.store user n t.trace op →
      s.Carried t.gathered? op reply place [] → Moves user s
        { s.after (some n) (s.exchange op reply) place [] with
          loads := s.loads.set n (t.go s.service.cache (s.exchange op reply) (next reply)) }
  | errand {n i : Nat} {t : Strand RuleSet} {a : Access} {reply : (Operation.access a).Reply}
      {place : Solo} {p : ErrandProgram} :
      s.loads[n]? = some t → ¬Passed n t.trace → t.program.result? = none →
      (Operation.access a).readsRoles = true → (∀ v, a ≠ .roles v) → ErrandReads p →
      s.Carried none (.access a) reply place [] → Moves user s
        { s.after (some n) (s.exchange (.access a) reply) place [] with
          loads := s.loads.set n (t.goErrand i s.clock (.access a) p) }
  | forgot {n : Nat} {t : Strand RuleSet} {r : Except Interruption RuleSet} :
      s.loads[n]? = some t → t.program = .done r → Moves user s
        { s with place := { s.place with desk := s.place.desk.forget n } }
  | changed {c : Change} : c.IsUsual → Moves user s (s.change c)

/-- What goes on with a program that acts. -/
theorem exists_of_act {load : Option Nat} {t : Strand α} {x : Strand α × Stage}
    (hx : s.act load t = some x) : ∃ op next, t.program = .call op next ∧
      ∃ y, s.carry t.gathered? op = some y ∧
        x.1 = t.go s.service.cache (s.exchange op y.1) (next y.1) ∧
        x.2 = s.after load (s.exchange op y.1) y.2.1 y.2.2 := by
  rw [act] at hx
  split at hx
  · cases hx
  · next op next hprogram =>
    obtain ⟨y, hy, rfl⟩ := Option.map_eq_some_iff.1 hx
    exact ⟨op, next, hprogram, y, hy, rfl, rfl⟩

theorem loads_after_nil (s : Stage) (load : Option Nat) (e : Exchange) (place : Solo) :
    (s.after load e place []).loads = s.loads := List.append_nil s.loads

theorem exists_of_goCaller? {n : Nat} (hgo : s.goCaller? n = some s') :
    ∃ a x, s.callers[n]? = some a ∧ s.act none a = some x ∧
      s' = { x.2 with callers := x.2.callers.set n x.1 } := by
  obtain ⟨a, ha, hgo⟩ := Option.bind_eq_some_iff.1 hgo
  obtain ⟨x, hx, hgo⟩ := Option.bind_eq_some_iff.1 hgo
  cases hgo
  exact ⟨a, x, ha, hx, rfl⟩

theorem exists_of_goLoad? {n : Nat} (hgo : s.goLoad? n = some s') :
    ∃ c x, s.loads[n]? = some c ∧ s.act (some n) c = some x ∧
      s' = { x.2 with loads := x.2.loads.set n x.1 } := by
  obtain ⟨c, hc, hgo⟩ := Option.bind_eq_some_iff.1 hgo
  obtain ⟨x, hx, hgo⟩ := Option.bind_eq_some_iff.1 hgo
  cases hgo
  exact ⟨c, x, hc, hx, rfl⟩

theorem exists_of_goErrand? {n i : Nat} (hgo : s.goErrand? n i = some s') :
    ∃ c op next x, s.loads[n]? = some c ∧ c.parts[i]? = some (.call op next) ∧
      s.place.plain? op = some x ∧
      s' = { s.after (some n) (s.exchange op x.1) x.2 [] with
        loads := s.loads.set n (c.goErrand i s.clock op (next x.1)) } := by
  obtain ⟨c, hc, hgo⟩ := Option.bind_eq_some_iff.1 hgo
  obtain ⟨p, hp, hgo⟩ := Option.bind_eq_some_iff.1 hgo
  cases p with
  | done => cases hgo
  | call op next =>
    obtain ⟨x, hx, hgo⟩ := Option.bind_eq_some_iff.1 hgo
    cases hgo
    rw [loads_after_nil]
    exact ⟨c, op, next, x, hc, hp, hx, rfl⟩

theorem exists_of_forget? {n : Nat} (hgo : s.forget? n = some s') :
    ∃ r, (s.loads[n]?).bind (·.program.result?) = some r ∧
      s' = { s with place := { s.place with desk := s.place.desk.forget n } } := by
  obtain ⟨r, hr, rfl⟩ := Option.map_eq_some_iff.1 hgo
  exact ⟨r, hr, rfl⟩

/-- The names in what is answered are texts, and names stay texts. -/
theorem Carried.isSound (hnames : s.place.world.HasTextNames)
    (hgathered : ∀ lists, gathered = some (.ok lists) → ∀ ids ∈ lists, ∀ id ∈ ids, id.isText = true)
    {op : Operation} {reply : op.Reply} {place : Solo} {started : List (Strand RuleSet)}
    (hc : s.Carried gathered op reply place started) (time : Nat) (source : Mark) :
    Exchange.IsSound ⟨time, source, op, reply⟩ ∧ place.world.HasTextNames := by
  cases hc with
  | answered a => exact ⟨hnames.namesTexts a, hnames.answer a⟩
  | refused a f => exact ⟨⟨f, rfl⟩, hnames.begin a⟩
  | @gathered errand ids r hr =>
    refine ⟨?_, hnames⟩
    cases r with
    | ok lists => exact hgathered lists hr
    | error e => exact trivial
  | _ => exact ⟨trivial, hnames⟩

/-- If a stage behaves, every step is one of the moves. -/
theorem Behaves.moves (hs : s.Behaves user) (h : Step user s s') : s.Moves user s' := by
  cases h with
  | enter hcall => exact .entered hcall
  | @caller n _ hgo =>
    obtain ⟨t, x, ht, hx, rfl⟩ := exists_of_goCaller? hgo
    obtain ⟨op, next, hprogram, y, hy, ht', hs'⟩ := exists_of_act hx
    have hkeeps := (hs.callers t (List.mem_of_getElem? ht)).rest
    rw [hprogram] at hkeeps
    rw [ht', hs']
    exact .caller ht hprogram hkeeps.1 (carried_of_carry hkeeps.1.isAbout hy)
  | @load n _ hgo =>
    obtain ⟨t, x, ht, hx, rfl⟩ := exists_of_goLoad? hgo
    obtain ⟨op, next, hprogram, y, hy, ht', hs'⟩ := exists_of_act hx
    have hkeeps := (hs.loads n t ht).rest
    rw [hprogram] at hkeeps
    have hcarried := carried_of_carry hkeeps.1.isAbout hy
    -- Loads do not start loads.
    have hnil := LoadMay.started_eq_nil hkeeps.1 hcarried
    rw [hnil] at hcarried
    rw [ht', hs', hnil, loads_after_nil]
    exact .load ht hprogram hkeeps.1 hcarried
  | @errand n i _ hgo =>
    obtain ⟨t, op, next, x, ht, hp, hx, rfl⟩ := exists_of_goErrand? hgo
    have hkeeps := hs.loads n t ht
    have hmem := List.mem_of_getElem? hp
    obtain ⟨a, rfl, hreads, hroles, hnext⟩ := (hkeeps.reading _ hmem).exists_access
    -- The load waits for its errands, so that it may still read.
    obtain ⟨errand, ids, rest, hprogram⟩ := hkeeps.waiting (List.ne_nil_of_mem hmem)
    have hmay := hkeeps.rest
    rw [hprogram] at hmay
    have hcarried : s.Carried none (.access a) x.1 x.2 [] := carried_access hx
    have hsound := (hcarried.isSound hs.names (by simp) 0 {}).1
    have hactive : t.program.result? = none := by
      rw [hprogram]
      rfl
    exact .errand (i := i) ht hmay.1.2.2 hactive hreads hroles (hnext 0 {} x.1 hsound) hcarried
  | forget hforget =>
    obtain ⟨r, hr, rfl⟩ := exists_of_forget? hforget
    obtain ⟨t, ht, hr⟩ := Option.bind_eq_some_iff.1 hr
    exact .forgot ht (Program.result?_eq_some hr)
  | change hc => exact .changed hc

/-! ## Runs -/

/-- The loads stay numbered by the desk. -/
theorem Carried.numbered (hs : s.place.desk.loads.length = s.loads.length) {op : Operation}
    {reply : op.Reply} {place : Solo} {started : List (Strand RuleSet)}
    (hc : s.Carried gathered op reply place started) :
    place.desk.loads.length = (s.loads ++ started).length := by
  cases hc with
  | started =>
    simp only [Desk.start, List.length_append, List.length_singleton]
    rw [hs]
  | overtook v =>
    rw [List.append_nil, ← hs]
    exact Desk.length_loads_overtake _ v
  | _ => rwa [List.append_nil]

theorem getElem?_set_cases {β : Type} {l : List β} {m n : Nat} {a b : β}
    (h : (l.set n a)[m]? = some b) : (m = n ∧ b = a) ∨ (m ≠ n ∧ l[m]? = some b) := by
  rw [List.getElem?_set] at h
  split at h
  · next heq =>
    split at h
    · cases h
      exact .inl ⟨heq.symm, rfl⟩
    · cases h
  · next hne => exact .inr ⟨fun heq => hne heq.symm, h⟩

theorem getElem?_snoc_cases {β : Type} {l : List β} {m : Nat} {a b : β}
    (h : (l ++ [a])[m]? = some b) : l[m]? = some b ∨ (m = l.length ∧ b = a) := by
  rw [List.getElem?_append] at h
  split at h
  · exact .inl h
  · next hlength =>
    rw [List.getElem?_singleton] at h
    split at h
    · cases h
      exact .inr ⟨by omega, rfl⟩
    · cases h

/-- Loads that are started keep to what loads may do. -/
theorem Behaves.keeps_started (huser : user.isText = true) (hs : s.Behaves user) {op : Operation}
    {reply : op.Reply} {place : Solo} {started : List (Strand RuleSet)} (hop : op.IsAbout user)
    (hc : s.Carried gathered op reply place started) {n : Nat} {t : Strand RuleSet}
    (ht : (s.loads ++ started)[n]? = some t) :
    t.Keeps (LoadMay s.service.cache.store user n) (LoadEnds s.service.cache.store user n) := by
  cases hc with
  | started hpending =>
    obtain rfl := hop
    rcases getElem?_snoc_cases ht with ht | ⟨rfl, rfl⟩
    · exact hs.loads n t ht
    · -- The desk has given the load the number that it has on the stage.
      rw [hs.numbered]
      exact Strand.keeps_start (fun _ _ _ h => h.1) (Cache.keeps_load huser)
  | _ =>
    rw [List.append_nil] at ht
    exact hs.loads n t ht

theorem hasTextNames_of_isUsual {c : Change} (hc : c.IsUsual) {w : World}
    (hw : w.HasTextNames) : (c.apply w).HasTextNames := by
  cases c with
  | fail | mend => exact ⟨hw.rows, hw.managers⟩
  | setForm | dropForm | setInformation => exact hc.elim
  | _ => exact Change.IsRoutine.hasTextNames hc hw

theorem Behaves.of_moves (huser : user.isText = true) (hs : s.Behaves user)
    (h : s.Moves user s') : s'.Behaves user := by
  have hcall (tr : List Exchange) (errand : Errand) (ids : List Id) :
      CallerMay user (.each errand ids) → errand ≠ .invalidate := fun h => h.elim
  have hload (n : Nat) (tr : List Exchange) (errand : Errand) (ids : List Id)
      (h : LoadMay s.service.cache.store user n tr (.each errand ids)) : errand ≠ .invalidate := h.1
  cases h with
  | entered hcall' =>
    refine ⟨hs.names, hs.numbered, fun t ht => ?_, hs.loads⟩
    rcases List.mem_append.1 ht with ht | ht
    · exact hs.callers t ht
    · obtain rfl := List.mem_singleton.1 ht
      exact Strand.keeps_start hcall (Call.keeps_flow hcall' s.service)
  | @caller n t op next reply place started ht hprogram hmay hc =>
    have hkeeps := hs.callers t (List.mem_of_getElem? ht)
    have hsound := hc.isSound hs.names fun _ => ErrandReads.of_gathered? hkeeps.reading
    refine ⟨(hsound 0 {}).2, hc.numbered hs.numbered, fun t' ht' => ?_, fun m t' ht' => ?_⟩
    · rcases List.mem_or_eq_of_mem_set ht' with ht' | rfl
      · exact hs.callers t' ht'
      · exact hkeeps.go hcall hprogram (hsound _ _).1
    · exact hs.keeps_started huser hmay.isAbout hc ht'
  | @load n t op next reply place ht hprogram hmay hc =>
    have hkeeps := hs.loads n t ht
    have hsound := hc.isSound hs.names fun _ => ErrandReads.of_gathered? hkeeps.reading
    refine ⟨(hsound 0 {}).2, ?_, hs.callers, fun m t' ht' => ?_⟩
    · rw [List.length_set]
      exact (hc.numbered hs.numbered).trans (congrArg List.length (List.append_nil s.loads))
    · rcases getElem?_set_cases ht' with ⟨rfl, rfl⟩ | ⟨-, ht'⟩
      · exact hkeeps.go (hload m) hprogram (hsound _ _).1
      · exact hs.loads m t' ht'
  | errand ht hpassed hactive hreads hroles hp hc =>
    refine ⟨(hc.isSound hs.names (by simp) 0 {}).2, ?_, hs.callers, fun m t' ht' => ?_⟩
    · rw [List.length_set]
      exact (hc.numbered hs.numbered).trans (congrArg List.length (List.append_nil s.loads))
    · rcases getElem?_set_cases ht' with ⟨rfl, rfl⟩ | ⟨-, ht'⟩
      · exact (hs.loads _ _ ht).goErrand hp
      · exact hs.loads m t' ht'
  | forgot ht hprogram =>
    refine ⟨hs.names, ?_, hs.callers, hs.loads⟩
    rw [← hs.numbered]
    exact Desk.length_loads_forget _ _
  | changed hc => exact ⟨hasTextNames_of_isUsual hc hs.names, hs.numbered, hs.callers, hs.loads⟩

theorem behaves_begin {service : Service} {world : World} {registry : Option Registry}
    (hnames : world.HasTextNames) : (begin service world registry).Behaves user where
  names := hnames
  numbered := rfl
  callers := List.forall_mem_nil _
  loads := fun _ _ ht => by cases ht

end Stage

end HouseholdAccess
