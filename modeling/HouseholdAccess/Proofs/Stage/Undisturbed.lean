import HouseholdAccess.Proofs.Cache.Undisturbed
import HouseholdAccess.Proofs.Stage.Playing
import HouseholdAccess.Proofs.Stage.Provenance

/-!
# Callers and loads undisturbed

While nothing fails and the roles of a user are known (`World.Works`), callers who only
look the rule set of the user up, and the loads that they share, are not disturbed
(`Stage.Undisturbed`). What they meet is as their outlook has it (`Outlook.Shows`), and
each of them has come along its trace from what it is to do (`Strand.Undisturbed`).

The order of what is done to the record carries this. Before a rule set is found,
nobody ends a load, so that there is one load at most. That load is the one that
writes what it has compiled; all that come later find that on the record.

There is one lemma for each thing that can happen: a caller goes on
(`Stage.Undisturbed.caller`), a load goes on (`load_allowed`, `load_save`), an errand
goes on, a caller enters, a load is forgotten, the world changes.
-/

namespace HouseholdAccess

open HouseholdAccess.Flow

/-! ## The world -/

namespace World

variable {w : World} {user : Id}

/-- Nothing fails, and the roles of the user are known. -/
structure Works (user : Id) (w : World) : Prop extends w.IsConnected where
  names : w.HasTextNames
  sound : w.failing = []
  known : w.KnowsRoles user

theorem Works.perform (hw : w.Works user) (a : Access) :
    w.perform a = (.ok (w.answer a).1, (w.answer a).2) := by
  have hsound : w.failureAt? a = none := by
    rw [failureAt?]
    cases w.pointOf? a with
    | none => rfl
    | some p => exact failureOf_eq_none_iff.2 fun o ho => by simp [hw.sound] at ho
  rw [World.perform, hw.notConnected?_eq_none, hsound]

theorem Works.withKept (hw : w.Works user) (entries : List CacheEntry) (forms : List (Id × Value))
    (reads : Nat) : { w with entries, forms, reads }.Works user :=
  ⟨⟨hw.store, hw.cache⟩, ⟨hw.names.rows, hw.names.managers⟩, hw.sound, hw.known⟩

/-- The records of a user of whom the roles are known can be read. -/
theorem Works.exists_read (hw : w.Works user) (huser : user.isText = true) :
    ∀ r ∈ w.recordsOf user, ∃ m, r.read = .ok m := by
  intro r hr
  obtain ⟨row, hrow, hname, rfl⟩ := (mem_recordsOf hw.names huser).1 hr
  obtain ⟨role, hrole⟩ := hw.known row hrow hname
  exact ⟨⟨row.household, role⟩, (read_record_eq_ok hw.names hrow).2 ⟨rfl, hrole⟩⟩

/-- Looking an entry up may take it out. -/
theorem exists_lookUp_eq (w : World) (user : Id) :
    ∃ entries, entries ⊆ w.entries ∧ (w.lookUp user).2 = { w with entries } := by
  rw [lookUp]
  split
  · exact ⟨w.entries, fun _ => id, rfl⟩
  · split
    · exact ⟨_, List.filter_subset_self _, rfl⟩
    · exact ⟨w.entries, fun _ => id, rfl⟩

end World

/-! ## What is met -/

/-- What is kept of the user is as it may be come across, and no load has been overtaken. -/
structure Outlook.Shows (o : Outlook) (place : Solo) : Prop where
  works : place.world.Works o.user
  entries : ∀ e ∈ place.world.entries, e.key = o.user → o.Tells e.text
  form : place.world.formOf o.user = none ∧ o.found = none ∨
    ∃ form, place.world.formOf o.user = some form ∧ o.Says form
  fresh : ∀ l ∈ place.desk.loads, l.overtaken = false

/-- The operations of undisturbed lookups and loads that write nothing on the record. -/
def Outlook.Allows (o : Outlook) : Operation → Prop
  | .access (.load v) | .access (.roles v) | .access (.cacheGet v) | .access (.cacheDelete v)
  | .joinLoad v => v = o.user
  | .access (.cacheSet v text _) => v = o.user ∧
      ∃ rules, o.found = some rules ∧ Packed.loads (.text text) = .ok rules
  | .access (.managed _) | .access (.members _) | .access (.aiUsers _) | .isOvertaken _
  | .awaitLoad _ | .each .. | .count _ => True
  | _ => False

namespace Outlook

variable {o : Outlook} {place : Solo} {tr : List Exchange} {op : Operation}

theorem LookUpDoes.allows (h : o.LookUpDoes tr op) : o.Allows op := by
  unfold LookUpDoes at h
  split at h <;> first | exact h | exact trivial | exact h.elim

/-- A load writes on the record, or does what is allowed. -/
theorem LoadDoes.allows (h : o.LoadDoes tr op) :
    (∃ form, op = .access (.save o.user form)) ∨ o.Allows op := by
  unfold LoadDoes at h
  split at h
  · exact .inr h.1
  · exact .inr h.1
  · obtain ⟨rfl, -⟩ := h
    exact .inl ⟨_, rfl⟩
  all_goals first | exact .inr h | exact .inr trivial | exact h.elim

theorem Allows.isAbout (h : o.Allows op) : op.IsAbout o.user := by
  unfold Allows at h
  split at h <;> first | exact h | exact h.1 | exact trivial | exact h.elim

/-- What is read fits, and what is read, taken out or put leaves everything as it may be. -/
theorem Shows.answered (ho : o.IsFair) (h : o.Shows place) {a : Access}
    (ha : o.Allows (.access a)) (time : Nat) (source : Mark) :
    Exchange.Fits o ⟨time, source, .access a, .ok ((place.world.begin a).answer a).1⟩ ∧
      o.Shows { place with world := ((place.world.begin a).answer a).2 } := by
  have hnames := h.works.names.namesTexts a
  have hsame {entries : List CacheEntry} (hentries : entries ⊆ place.world.entries) (reads : Nat) :
      o.Shows { place with world := { place.world with entries, reads } } :=
    ⟨h.works.withKept entries place.world.forms reads, fun e he => h.entries e (hentries he),
      h.form, h.fresh⟩
  cases a with
  | roles v =>
    obtain rfl : v = o.user := ha
    exact ⟨⟨h.works.exists_read ho.user, hnames⟩, hsame (fun _ => id) _⟩
  | load v =>
    obtain rfl : v = o.user := ha
    refine ⟨?_, h⟩
    change Exchange.Fits o ⟨time, source, .access (.load o.user), .ok (place.world.formOf o.user)⟩
    rcases h.form with ⟨hform, -⟩ | ⟨form, hform, hsaid⟩
    · rw [hform]
      trivial
    · rw [hform]
      exact hsaid
  | cacheGet v =>
    obtain rfl : v = o.user := ha
    refine ⟨?_, ?_⟩
    · change Exchange.Fits o
        ⟨time, source, .access (.cacheGet o.user), .ok (place.world.lookUp o.user).1⟩
      cases hfound : (place.world.lookUp o.user).1 with
      | none => trivial
      | some text =>
        obtain ⟨e, he, hkey, rfl⟩ := Stage.exists_of_lookUp ho.user hfound
        exact h.entries e he hkey
    · obtain ⟨entries, hentries, hlookUp⟩ := place.world.exists_lookUp_eq o.user
      change o.Shows { place with world := (place.world.lookUp o.user).2 }
      rw [hlookUp]
      exact hsame hentries _
  | cacheDelete v => exact ⟨trivial, hsame (List.filter_subset_self _) _⟩
  | cacheSet v text seconds =>
    obtain ⟨rfl, rules, hfound, hloads⟩ := ha
    refine ⟨trivial, h.works.withKept _ _ _, fun e he hkey => ?_, h.form, h.fresh⟩
    rcases World.mem_putEntry he with rfl | he
    · exact .inr ⟨rules, hfound, hloads⟩
    · exact h.entries e (World.mem_presentEntries he) hkey
  | managed | members | aiUsers => exact ⟨hnames, h⟩
  | _ => exact ha.elim

/-- Once a rule set has been written on the record, it has been found. -/
theorem Shows.saved (h : o.Shows place) (hfound : o.found = none) {form : Value}
    {rules : RuleSet} (hsaid : o.store.Says form rules) :
    Shows { o with found := some rules }
      { place with world := place.world.setForm o.user form } := by
  have htells {text : String} (h : o.Tells text) : Tells { o with found := some rules } text :=
    h.imp_right fun ⟨_, hsome, _⟩ => by rw [hfound] at hsome; cases hsome
  refine ⟨h.works.withKept _ _ _, fun e he hkey => htells (h.entries e he hkey),
    .inr ⟨form, ?_, rules, rfl, hsaid⟩, h.fresh⟩
  -- What says a rule set is not nothing.
  have hform : form ≠ .null := by
    rintro rfl
    cases hstore : o.store with
    | table =>
      rw [hstore] at hsaid
      cases hsaid
    | database =>
      rw [hstore] at hsaid
      cases hsaid
  exact World.formOf_setForm _ _ hform

end Outlook

/-! ## Strands -/

/-- An errand that is answered has not failed. -/
theorem ErrandReads.exists_answered {op : Operation} {next : op.Reply → ErrandProgram}
    (h : ErrandReads (.call op next)) (o : Outlook) : ∃ a, op = .access a ∧ o.Allows (.access a) ∧
      (∀ v, a ≠ .roles v) ∧ ∀ time source reply, Exchange.Fits o ⟨time, source, op, reply⟩ →
        ∀ e, next reply ≠ .done (.error e) := by
  generalize hp : Program.call op next = p at h
  cases h with
  | members household =>
    cases hp
    refine ⟨_, rfl, trivial, fun _ h => (by cases h), fun _ _ reply hfits e he => ?_⟩
    cases he
    exact hfits
  | aiUsers household =>
    cases hp
    refine ⟨_, rfl, trivial, fun _ h => (by cases h), fun _ _ reply hfits e he => ?_⟩
    cases he
    exact hfits
  | done => cases hp
  | failed => cases hp

namespace Strand

variable {α : Type} {o : Outlook} {c : Cache} {script : Program (Except Interruption α)}
  {t : Strand α}

/-- The strand has come along its trace from its script, and what it has come across fits. -/
structure Undisturbed (o : Outlook) (script : Program (Except Interruption α)) (t : Strand α) :
    Prop where
  leads : script.Leads t.trace t.program
  fits : ∀ e ∈ t.trace, e.Fits o
  unfailed : t.failed = none
  answered : ∀ p ∈ t.parts, ∀ e, p ≠ .done (.error e)

/-- Errands that have not begun have not failed. -/
theorem answered_errandsOf (p : Program (Except Interruption α)) :
    ∀ q ∈ c.errandsOf p, ∀ e, q ≠ .done (.error e) := by
  intro q hq e
  obtain ⟨errand, ids, next, id, rfl, rfl⟩ := Cache.exists_of_mem_errandsOf hq
  cases errand <;> exact nofun

theorem undisturbed_start (begun : Nat) : (start c begun script).Undisturbed o script :=
  ⟨rfl, List.forall_mem_nil _, rfl, answered_errandsOf script⟩

namespace Undisturbed

/-- What the script keeps to, the strand keeps to. -/
theorem keeps (h : t.Undisturbed o script) {G : List Exchange → Operation → Prop}
    {Q : List Exchange → Except Interruption α → Prop}
    (hscript : script.Keeps (Exchange.Fits o) G Q []) :
    t.program.Keeps (Exchange.Fits o) G Q t.trace :=
  Program.Keeps.of_leads hscript h.leads h.fits

/-- What has been come across before a rule set is found still fits. -/
theorem find (h : t.Undisturbed o script) (hfound : o.found = none) (rules : RuleSet) :
    t.Undisturbed { o with found := some rules } script :=
  ⟨h.leads, fun e he => Outlook.fits_find hfound rules (h.fits e he), h.unfailed, h.answered⟩

theorem go (h : t.Undisturbed o script) {op : Operation}
    {next : op.Reply → Program (Except Interruption α)} (hprogram : t.program = .call op next)
    {time : Nat} {source : Mark} {reply : op.Reply}
    (hfits : Exchange.Fits o ⟨time, source, op, reply⟩) :
    (t.go c ⟨time, source, op, reply⟩ (next reply)).Undisturbed o script where
  leads := Program.Leads.snoc (hprogram ▸ h.leads) time source reply
  fits := fun e he => (List.mem_append.1 he).elim (h.fits e) fun he =>
    List.mem_singleton.1 he ▸ hfits
  unfailed := rfl
  answered := answered_errandsOf (next reply)

theorem goErrand (h : t.Undisturbed o script) (i time : Nat) (op : Operation) {p : ErrandProgram}
    (hp : ∀ e, p ≠ .done (.error e)) : (t.goErrand i time op p).Undisturbed o script where
  leads := h.leads
  fits := h.fits
  unfailed := by
    have hfailure : p.failure? = none := by
      cases p with
      | call => rfl
      | done r =>
        cases r with
        | ok => rfl
        | error e => exact absurd rfl (hp e)
    change (t.failed <|> p.failure?) = none
    rw [h.unfailed, hfailure]
    rfl
  answered := fun q hq => by
    rcases List.mem_or_eq_of_mem_set hq with hq | rfl
    · exact h.answered q hq
    · exact hp

/-- Errands have brought back texts, or one of them is still at work. -/
theorem gathered_or_active (h : t.Undisturbed o script) (hreads : ∀ p ∈ t.parts, ErrandReads p) :
    (∃ lists, t.gathered? = some (.ok lists) ∧ ∀ ids ∈ lists, ∀ id ∈ ids, id.isText = true) ∨
      t.gathered? = none ∧
        ∃ (i : Nat) (p : ErrandProgram), t.parts[i]? = some p ∧ p.result? = none := by
  by_cases hall : ∃ rs, t.parts.mapM Program.result? = some rs
  · obtain ⟨rs, hrs⟩ := hall
    -- Nobody has failed, so that all have brought something back.
    obtain ⟨lists, hlists⟩ : ∃ lists, rs.mapM id = .ok lists := by
      refine exists_mapM_eq_ok fun r hr => ?_
      obtain ⟨p, hp, hresult⟩ := exists_of_mapM_eq_some hrs r hr
      obtain rfl := Program.result?_eq_some hresult
      cases r with
      | ok ids => exact ⟨ids, rfl⟩
      | error e => exact absurd rfl (h.answered _ hp e)
    have hgathered : t.gathered? = some (.ok lists) := by
      rw [gathered?, h.unfailed]
      simp only [hrs, Option.map_some, hlists]
    exact .inl ⟨lists, hgathered, ErrandReads.of_gathered? hreads hgathered⟩
  · have hnone : t.parts.mapM Program.result? = none :=
      Option.eq_none_iff_forall_ne_some.2 fun rs hrs => hall ⟨rs, hrs⟩
    refine .inr ⟨?_, ?_⟩
    · rw [gathered?, h.unfailed]
      simp only [hnone, Option.map_none]
    · by_contra hactive
      refine hall (exists_mapM_eq_some fun p hp => ?_)
      obtain ⟨i, hi⟩ := List.mem_iff_getElem?.1 hp
      refine Option.ne_none_iff_exists'.1 fun hresult => hactive ⟨i, p, hi, hresult⟩

end Undisturbed

end Strand

/-! ## Stages -/

/-- A rule set may be found that can be kept. -/
inductive Outlook.Becomes (o : Outlook) : Outlook → Prop
  | same : Becomes o o
  | found {rules : RuleSet} : o.found = none → rules.IsLasting →
    Becomes o { o with found := some rules }

theorem Outlook.IsFair.becomes {o o' : Outlook} (ho : o.IsFair) (h : o.Becomes o') : o'.IsFair := by
  cases h with
  | same => exact ho
  | found _ hlasting => exact ⟨ho.user, ho.unread, fun _ hsome => Option.some.inj hsome ▸ hlasting⟩

theorem Strand.Undisturbed.becomes {α : Type} {o o' : Outlook} {t : Strand α}
    {script : Program (Except Interruption α)} (ht : t.Undisturbed o script) (h : o.Becomes o') :
    t.Undisturbed o' script := by
  cases h with
  | same => exact ht
  | found hfound _ => exact ht.find hfound _

namespace Stage

variable {user : Id} {o o' : Outlook} {s s' : Stage} {reads : Nat}

/-- Callers and loads are not disturbed, and the roles of the user have been asked for at most
    once. Until a rule set is found there is at most one load; after that, a load that has found
    nothing on the record is the one that has compiled and written the rule set. -/
structure Undisturbed (o : Outlook) (reads : Nat) (s : Stage) : Prop where
  fair : o.IsFair
  store : s.service.cache.store = o.store
  place : o.Shows s.place
  callers : ∀ t ∈ s.callers, t.Undisturbed o ((Call.get o.user).flow s.service).run
  joined : ∀ t ∈ s.callers, ∀ time source v n,
    (⟨time, source, .joinLoad v, n⟩ : Exchange) ∈ t.trace → n < s.loads.length
  loads : ∀ (n : Nat) (t : Strand RuleSet), s.loads[n]? = some t →
    t.Undisturbed o (s.service.cache.load o.user n).run
  alone : o.found = none → s.loads.length ≤ 1
  wrote : ∀ rules, o.found = some rules → ∀ t ∈ s.loads, FoundNothing o.user t.trace →
    Asked o.user t.trace ∧ Saved o.user t.trace
  reads : s.place.world.reads = reads ∨
    s.place.world.reads = reads + 1 ∧ ∃ t ∈ s.loads, Asked o.user t.trace

/-- What is there in a list is still there if it passes on to what takes the place of an item. -/
theorem exists_mem_set {α : Type} {xs : List α} {n : Nat} {a b : α} (ha : xs[n]? = some a)
    {P : α → Prop} (hP : P a → P b) (h : ∃ x ∈ xs, P x) : ∃ x ∈ xs.set n b, P x := by
  obtain ⟨x, hx, hPx⟩ := h
  obtain ⟨m, hm⟩ := List.mem_iff_getElem?.1 hx
  rcases eq_or_ne m n with rfl | hne
  · obtain rfl := Option.some.inj (hm.symm.trans ha)
    exact ⟨b, List.mem_of_getElem? (List.getElem?_set_self (List.getElem?_eq_some_iff.1 ha).1),
      hP hPx⟩
  · exact ⟨x, List.mem_of_getElem? ((List.getElem?_set_ne hne.symm).trans hm), hPx⟩

/-- Only asking for the roles of a user is counted. -/
theorem Carried.reads_eq {gathered : Option (Except Interruption (List (List Id)))}
    {op : Operation} {reply : op.Reply} {place : Solo} {started : List (Strand RuleSet)}
    (hc : s.Carried gathered op reply place started) :
    place.world.reads = s.place.world.reads ∨
      place.world.reads = s.place.world.reads + 1 ∧ ∃ v, op = .access (.roles v) := by
  cases hc with
  | answered a =>
    cases a with
    | roles v => exact .inr ⟨rfl, v, rfl⟩
    | cacheGet v =>
      obtain ⟨entries, -, hlookUp⟩ := s.place.world.exists_lookUp_eq v
      have hreads : (s.place.world.lookUp v).2.reads = s.place.world.reads := by rw [hlookUp]
      exact .inl hreads
    | cacheClose =>
      refine .inl ?_
      simp only [World.begin, World.answer]
      split <;> rfl
    | _ => exact .inl rfl
  | refused a f =>
    cases a with
    | roles v => exact .inr ⟨rfl, v, rfl⟩
    | _ => exact .inl rfl
  | _ => exact .inl rfl

namespace Undisturbed

/-- A load that has ended comes to the rule set that has been found. -/
theorem found_of_done (h : s.Undisturbed o reads) {n : Nat} {t : Strand RuleSet}
    (ht : s.loads[n]? = some t) {r : Except Interruption RuleSet} (hdone : t.program = .done r) :
    ∃ rules, o.found = some rules ∧ r = .ok rules := by
  have hkeeps := (h.loads n t ht).keeps (Cache.keeps_load_answered h.fair h.store)
  rwa [hdone] at hkeeps

/-- What is replied to an operation that is allowed fits, and everything stays as it may be. -/
theorem carried (h : s.Undisturbed o reads)
    {gathered : Option (Except Interruption (List (List Id)))} {op : Operation}
    (hop : o.Allows op)
    (hgathered : ∀ errand ids r, op = .each errand ids → gathered = some r →
      ∃ lists, r = .ok lists ∧ ∀ ids ∈ lists, ∀ id ∈ ids, id.isText = true)
    {x : op.Reply × Solo × List (Strand RuleSet)} (hx : s.carry gathered op = some x) :
    Exchange.Fits o (s.exchange op x.1) ∧ o.Shows x.2.1 := by
  cases op with
  | access a =>
    have hbegin : (s.place.world.begin a).Works o.user := by
      cases a <;> exact h.place.works.withKept _ _ _
    simp only [carry, Solo.plain?, hbegin.perform, Except.mapError, Option.map_some,
      Option.some.injEq] at hx
    subst hx
    exact h.place.answered h.fair hop _ _
  | joinLoad v =>
    rcases joined_or_started hx with ⟨n, -, rfl⟩ | ⟨-, rfl⟩
    · exact ⟨trivial, h.place⟩
    · refine ⟨trivial, h.place.works, h.place.entries, h.place.form, fun l hl => ?_⟩
      rcases List.mem_append.1 hl with hl | hl
      · exact h.place.fresh l hl
      · obtain rfl := List.mem_singleton.1 hl
        rfl
  | awaitLoad n =>
    obtain ⟨r, hr, rfl⟩ := Option.map_eq_some_iff.1 hx
    obtain ⟨t, ht, hr⟩ := Option.bind_eq_some_iff.1 hr
    exact ⟨h.found_of_done ht (Program.result?_eq_some hr), h.place⟩
  | each errand ids =>
    obtain ⟨r, hr, rfl⟩ := Option.map_eq_some_iff.1 hx
    obtain ⟨lists, rfl, htexts⟩ := hgathered errand ids r rfl hr
    exact ⟨htexts, h.place⟩
  | isOvertaken n =>
    cases hx
    refine ⟨?_, h.place⟩
    change s.place.desk.isOvertaken n = false
    rw [Desk.isOvertaken]
    split
    · rfl
    · next l hl => exact h.place.fresh l (List.mem_of_getElem? hl)
  | count series =>
    cases hx
    exact ⟨trivial, h.place.works, h.place.entries, h.place.form, h.place.fresh⟩
  | _ => exact hop.elim

/-- The record says something once a rule set has been found. -/
theorem ne_none_of_load (h : s.Undisturbed o reads) {rules : RuleSet}
    (hfound : o.found = some rules)
    {gathered : Option (Except Interruption (List (List Id)))}
    {x : (Operation.access (.load o.user)).Reply × Solo × List (Strand RuleSet)}
    (hx : s.carry gathered (.access (.load o.user)) = some x) : x.1 ≠ .ok none := by
  simp only [carry, Solo.plain?, World.begin, h.place.works.perform, Except.mapError,
    Option.map_some, Option.some.injEq] at hx
  subst hx
  rcases h.place.form with ⟨-, hnone⟩ | ⟨form, hform, -⟩
  · rw [hfound] at hnone
    cases hnone
  · change Except.ok (s.place.world.formOf o.user) ≠ .ok none
    rw [hform]
    rintro ⟨⟩

/-- A load goes on, and what it has done is kept. -/
theorem setLoad (h : s.Undisturbed o reads) (ho : o.Becomes o') {n : Nat} {t' : Strand RuleSet}
    (ht' : t'.Undisturbed o' (s.service.cache.load o'.user n).run)
    (hservice : s'.service = s.service) (hcallers : s'.callers = s.callers)
    (hloads : s'.loads = s.loads.set n t') (hplace : o'.Shows s'.place)
    (hwrote : ∀ rules, o'.found = some rules → ∀ u ∈ s.loads.set n t', FoundNothing o.user u.trace →
      Asked o.user u.trace ∧ Saved o.user u.trace)
    (hreads : s'.place.world.reads = reads ∨ s'.place.world.reads = reads + 1 ∧
      ∃ u ∈ s.loads.set n t', Asked o.user u.trace) : s'.Undisturbed o' reads := by
  have huser : o'.user = o.user := by cases ho <;> rfl
  have hstore : o'.store = o.store := by cases ho <;> rfl
  refine ⟨h.fair.becomes ho, ?_, hplace, ?_, ?_, ?_, ?_, ?_, ?_⟩
  · rw [hservice, hstore]
    exact h.store
  · rw [hcallers, hservice, huser]
    exact fun u hu => (h.callers u hu).becomes ho
  · rw [hcallers, hloads, List.length_set]
    exact h.joined
  · rw [hloads, hservice]
    intro m u hu
    rcases getElem?_set_cases hu with ⟨rfl, rfl⟩ | ⟨-, hu⟩
    · exact ht'
    · rw [huser]
      exact (h.loads m u hu).becomes ho
  · rw [hloads, List.length_set]
    cases ho with
    | same => exact h.alone
    | found => exact nofun
  · rw [hloads, huser]
    exact hwrote
  · rw [hloads, huser]
    exact hreads

/-- What a load does next. -/
theorem loadDoes (h : s.Undisturbed o reads) {n : Nat} {t : Strand RuleSet}
    (ht : s.loads[n]? = some t) {op : Operation}
    {next : op.Reply → Program (Except Interruption RuleSet)}
    (hprogram : t.program = .call op next) :
    o.LoadDoes t.trace op := by
  have hkeeps := (h.loads n t ht).keeps (Cache.keeps_load_answered h.fair h.store)
  rw [hprogram] at hkeeps
  exact hkeeps.1

/-- Before a rule set is found, a load is the only one. -/
theorem eq_of_not_found (h : s.Undisturbed o reads) (hfound : o.found = none) {n : Nat}
    {t : Strand RuleSet} (ht : s.loads[n]? = some t) (t' : Strand RuleSet) :
    s.loads = [t] ∧ s.loads.set n t' = [t'] := by
  have hlength := h.alone hfound
  match hloads : s.loads with
  | [] =>
    rw [hloads] at ht
    cases ht
  | [u] =>
    rw [hloads] at ht
    obtain ⟨hn, rfl⟩ := List.getElem?_eq_some_iff.1 ht
    obtain rfl : n = 0 := Nat.lt_one_iff.1 hn
    exact ⟨rfl, rfl⟩
  | _ :: _ :: _ =>
    rw [hloads] at hlength
    simp at hlength

/-- The roles of the user are asked for by the load that is alone. -/
theorem reads_after (h : s.Undisturbed o reads) {n : Nat} {t : Strand RuleSet}
    (ht : s.loads[n]? = some t) {op : Operation}
    {next : op.Reply → Program (Except Interruption RuleSet)} (hprogram : t.program = .call op next)
    {reply : op.Reply} {place : Solo} (hc : s.Carried t.gathered? op reply place []) {c : Cache} :
    place.world.reads = reads ∨ place.world.reads = reads + 1 ∧
      ∃ u ∈ s.loads.set n (t.go c (s.exchange op reply) (next reply)), Asked o.user u.trace := by
  have hmay := h.loadDoes ht hprogram
  obtain ⟨t', ht'⟩ : ∃ t', t' = t.go c (s.exchange op reply) (next reply) := ⟨_, rfl⟩
  have htrace : t'.trace = t.trace ++ [s.exchange op reply] := ht' ▸ rfl
  rw [← ht']
  rcases hc.reads_eq with hsame | ⟨hmore, v, rfl⟩
  · rw [hsame]
    exact h.reads.imp_right
      (And.imp_right (exists_mem_set ht fun hasked => htrace ▸ hasked.append))
  · obtain ⟨rfl, hnothing, hasked⟩ := hmay
    -- Whoever has found nothing and has written a rule set has asked before.
    have hfound : o.found = none := Option.eq_none_iff_forall_ne_some.2 fun rules hfound =>
      hasked (h.wrote rules hfound t (List.mem_of_getElem? ht) hnothing).1
    obtain ⟨halone, hset⟩ := h.eq_of_not_found hfound ht t'
    rw [hmore, hset]
    refine .inr ⟨?_, t', List.mem_singleton.2 rfl, htrace ▸ asked_snoc rfl⟩
    rcases h.reads with hreads | ⟨-, u, hu, hu'⟩
    · rw [hreads]
    · rw [halone] at hu
      exact absurd (List.mem_singleton.1 hu ▸ hu') hasked

/-- A load goes on with an operation that writes nothing on the record. -/
theorem load_allowed (h : s.Undisturbed o reads) (hb : s.Behaves o.user) {n : Nat}
    {t : Strand RuleSet} (ht : s.loads[n]? = some t) {op : Operation}
    {next : op.Reply → Program (Except Interruption RuleSet)} (hprogram : t.program = .call op next)
    (hop : o.Allows op) {x : op.Reply × Solo × List (Strand RuleSet)}
    (hx : s.carry t.gathered? op = some x) (hnil : x.2.2 = []) :
    { s.after (some n) (s.exchange op x.1) x.2.1 [] with
      loads := s.loads.set n
        (t.go s.service.cache (s.exchange op x.1) (next x.1)) }.Undisturbed o reads := by
  have hreading := (hb.loads n t ht).reading
  obtain ⟨hfits, hplace⟩ := h.carried hop (fun _ _ r _ hr => by
    rcases (h.loads n t ht).gathered_or_active hreading with ⟨lists, hlists, htexts⟩ | ⟨hnone, -⟩
    · exact ⟨lists, Option.some.inj (hr.symm.trans hlists), htexts⟩
    · rw [hnone] at hr
      cases hr) hx
  have hc := carried_of_carry hop.isAbout hx
  rw [hnil] at hc
  refine h.setLoad .same ((h.loads n t ht).go hprogram hfits) rfl rfl rfl hplace
    (fun rules hfound u hu hnothing => ?_) (h.reads_after ht hprogram hc)
  rcases List.mem_or_eq_of_mem_set hu with hu | rfl
  · exact h.wrote rules hfound u hu hnothing
  · -- Once a rule set has been found, nobody finds nothing any more.
    have hbefore : FoundNothing o.user t.trace := by
      obtain ⟨time, source, hmem⟩ := hnothing
      rcases List.mem_append.1 hmem with hmem | hmem
      · exact ⟨time, source, hmem⟩
      · obtain ⟨-, -, hop', hreply⟩ := Exchange.mk.inj (List.mem_singleton.1 hmem)
        subst hop'
        exact absurd (eq_of_heq hreply).symm (h.ne_none_of_load hfound hx)
    obtain ⟨hasked, hsaved⟩ := h.wrote rules hfound t (List.mem_of_getElem? ht) hbefore
    refine ⟨hasked.append, ?_⟩
    obtain ⟨time, source, form, hmem⟩ := hsaved
    exact ⟨time, source, form, List.mem_append_left _ hmem⟩

/-- A load writes what it has compiled on the record. -/
theorem load_save (h : s.Undisturbed o reads) {n : Nat} {t : Strand RuleSet}
    (ht : s.loads[n]? = some t) {form : Value}
    {next : (Operation.access (.save o.user form)).Reply → Program (Except Interruption RuleSet)}
    (hprogram : t.program = .call (.access (.save o.user form)) next)
    {x : (Operation.access (.save o.user form)).Reply × Solo × List (Strand RuleSet)}
    (hx : s.carry t.gathered? (.access (.save o.user form)) = some x) :
    ∃ o', o.Becomes o' ∧ { s.after (some n) (s.exchange _ x.1) x.2.1 [] with
      loads := s.loads.set n
        (t.go s.service.cache (s.exchange _ x.1) (next x.1)) }.Undisturbed o' reads := by
  obtain ⟨-, hnothing, hasked, hsaved, rules, hlasting, hsaid⟩ := h.loadDoes ht hprogram
  have hfound : o.found = none := Option.eq_none_iff_forall_ne_some.2 fun rules hfound =>
    hsaved (h.wrote rules hfound t (List.mem_of_getElem? ht) hnothing).2
  have hc : s.Carried t.gathered? (.access (.save o.user form)) x.1 x.2.1 [] := by
    have hc := carried_of_carry
      (show (Operation.access (.save o.user form)).IsAbout o.user from rfl) hx
    cases hx
    exact hc
  have hbecomes : o.Becomes { o with found := some rules } := .found hfound hlasting
  have hreads := h.reads_after (c := s.service.cache) ht hprogram hc
  simp only [carry, Solo.plain?, World.begin, h.place.works.perform, Except.mapError,
    Option.map_some, Option.some.injEq] at hx
  subst hx
  have hfits : Exchange.Fits { o with found := some rules }
      (s.exchange (.access (.save o.user form)) (.ok ())) := ⟨rules, rfl, hsaid⟩
  refine ⟨_, hbecomes, h.setLoad hbecomes (((h.loads n t ht).becomes hbecomes).go hprogram hfits)
    rfl rfl rfl (h.place.saved hfound hsaid) (fun _ _ u hu _ => ?_)
    hreads⟩
  -- The load that has written is the only one.
  rw [(h.eq_of_not_found hfound ht _).2] at hu
  obtain rfl := List.mem_singleton.1 hu
  exact ⟨hasked.append, _, _, form, List.mem_append_right _ (List.mem_singleton.2 rfl)⟩

/-- What a caller does next. -/
theorem lookUpDoes (h : s.Undisturbed o reads) {t : Strand Answer} (ht : t ∈ s.callers)
    {op : Operation} {next : op.Reply → Program (Except Interruption Answer)}
    (hprogram : t.program = .call op next) : o.LookUpDoes t.trace op := by
  have hkeeps := (h.callers t ht).keeps (Cache.keeps_get_answered h.fair s.service)
  rw [hprogram] at hkeeps
  exact hkeeps.1

/-- When no load is under way, none has been started before a rule set is found. -/
theorem loads_eq_nil (h : s.Undisturbed o reads) (ho : s.Ordered o.user) (hfound : o.found = none)
    (hpending : s.place.desk.pendingOf o.user = none) : s.loads = [] := by
  refine List.eq_nil_iff_forall_not_mem.2 fun t ht => ?_
  obtain ⟨n, hn⟩ := List.mem_iff_getElem?.1 ht
  cases hprogram : t.program with
  | done r =>
    obtain ⟨_, hsome, -⟩ := h.found_of_done hn hprogram
    rw [hfound] at hsome
    cases hsome
  | call op next =>
    have hresult : t.program.result? = none := by rw [hprogram]; rfl
    rcases ho.active n t hn hresult with hovertaken | hn
    · rw [Desk.isOvertaken] at hovertaken
      split at hovertaken
      · cases hovertaken
      · next l hl =>
        rw [h.place.fresh l (List.mem_of_getElem? hl)] at hovertaken
        cases hovertaken
    · rw [hpending] at hn
      cases hn

/-- What a caller starts, if it starts anything, is a load that has the next number. -/
theorem eq_nil_or_eq_start (hb : s.Behaves o.user)
    {gathered : Option (Except Interruption (List (List Id)))} {tr : List Exchange}
    {op : Operation} (hmay : o.LookUpDoes tr op) {reply : op.Reply} {place : Solo}
    {started : List (Strand RuleSet)} (hc : s.Carried gathered op reply place started) :
    started = [] ∨ s.place.desk.pendingOf o.user = none ∧
      started = [Strand.start s.service.cache s.clock
        (s.service.cache.load o.user s.loads.length).run] := by
  cases hc with
  | started hpending =>
    obtain rfl : _ = o.user := hmay
    rw [hb.numbered]
    exact .inr ⟨hpending, rfl⟩
  | _ => exact .inl rfl

/-- A load that a caller joins is there. -/
theorem lt_of_joinLoad (hb : s.Behaves o.user) (ho : s.Ordered o.user)
    {gathered : Option (Except Interruption (List (List Id)))} {n : Nat} {place : Solo}
    {started : List (Strand RuleSet)}
    (hc : s.Carried gathered (.joinLoad o.user) n place started) :
    n < (s.loads ++ started).length := by
  cases hc with
  | joined hm => exact Nat.lt_of_lt_of_le (ho.pending _ hm) (by simp)
  | started => simp [hb.numbered]

/-- A caller goes on. -/
theorem caller (h : s.Undisturbed o reads) (hb : s.Behaves o.user) (ho : s.Ordered o.user) {n : Nat}
    {t : Strand Answer} (ht : s.callers[n]? = some t) {op : Operation}
    {next : op.Reply → Program (Except Interruption Answer)} (hprogram : t.program = .call op next)
    {x : op.Reply × Solo × List (Strand RuleSet)} (hx : s.carry t.gathered? op = some x) :
    { s.after none (s.exchange op x.1) x.2.1 x.2.2 with
      callers := s.callers.set n
        (t.go s.service.cache (s.exchange op x.1) (next x.1)) }.Undisturbed o reads := by
  have hmem := List.mem_of_getElem? ht
  have hmay := h.lookUpDoes hmem hprogram
  obtain ⟨hfits, hplace⟩ := h.carried hmay.allows (by rintro _ _ _ rfl; exact hmay.elim) hx
  have hc := carried_of_carry hmay.allows.isAbout hx
  have hstarted := eq_nil_or_eq_start hb hmay hc
  have hlt (v : Id) (m : Nat) (hop : op = .joinLoad v) (hm : HEq x.1 m) :
      m < (s.loads ++ x.2.2).length := by
    subst hop
    obtain rfl : v = o.user := hmay
    obtain rfl := eq_of_heq hm
    exact lt_of_joinLoad hb ho hc
  exact {
    fair := h.fair
    store := h.store
    place := hplace
    callers := fun u hu => by
      rcases List.mem_or_eq_of_mem_set hu with hu | rfl
      · exact h.callers u hu
      · exact (h.callers t hmem).go hprogram hfits
    joined := fun u hu time source v m hm => by
      have hle : s.loads.length ≤ (s.loads ++ x.2.2).length := by simp
      rcases List.mem_or_eq_of_mem_set hu with hu | rfl
      · exact Nat.lt_of_lt_of_le (h.joined u hu time source v m hm) hle
      · rcases List.mem_append.1 hm with hm | hm
        · exact Nat.lt_of_lt_of_le (h.joined t hmem time source v m hm) hle
        · obtain ⟨-, -, hop, hreply⟩ := Exchange.mk.inj (List.mem_singleton.1 hm)
          exact hlt v m hop.symm hreply.symm
    loads := fun m u hu => by
      rcases hstarted with hnil | ⟨-, hone⟩
      · exact h.loads m u (by simpa [Stage.after, hnil] using hu)
      · have hu' : (s.loads ++ x.2.2)[m]? = some u := hu
        rw [hone] at hu'
        rcases getElem?_snoc_cases hu' with hu' | ⟨rfl, rfl⟩
        · exact h.loads m u hu'
        · exact Strand.undisturbed_start s.clock
    alone := fun hfound => by
      change (s.loads ++ x.2.2).length ≤ 1
      rcases hstarted with hnil | ⟨hpending, hone⟩
      · rw [hnil, List.append_nil]
        exact h.alone hfound
      · rw [hone, h.loads_eq_nil ho hfound hpending]
        exact le_rfl
    wrote := fun rules hfound u hu hnothing => by
      have hu' : u ∈ s.loads ++ x.2.2 := hu
      rcases List.mem_append.1 hu' with hu' | hu'
      · exact h.wrote rules hfound u hu' hnothing
      -- A load that has been started has not found anything yet.
      · rcases hstarted with hnil | ⟨-, hone⟩
        · rw [hnil] at hu'
          cases hu'
        · rw [hone] at hu'
          obtain rfl := List.mem_singleton.1 hu'
          obtain ⟨_, _, hmem⟩ := hnothing
          cases hmem
    reads := by
      change x.2.1.world.reads = reads ∨
        x.2.1.world.reads = reads + 1 ∧ ∃ u ∈ s.loads ++ x.2.2, Asked o.user u.trace
      rcases hc.reads_eq with hsame | ⟨-, v, rfl⟩
      · rw [hsame]
        refine h.reads.imp_right ?_
        rintro ⟨hreads, u, hu, hasked⟩
        exact ⟨hreads, u, List.mem_append_left _ hu, hasked⟩
      · exact hmay.elim }

/-- An errand of a load asks for the users of a household. -/
theorem errand (h : s.Undisturbed o reads) (hb : s.Behaves o.user) {n i : Nat} {t : Strand RuleSet}
    (ht : s.loads[n]? = some t) {op : Operation} {next : op.Reply → ErrandProgram}
    (hp : t.parts[i]? = some (.call op next)) {x : op.Reply × Solo}
    (hx : s.place.plain? op = some x) :
    { s.after (some n) (s.exchange op x.1) x.2 [] with
      loads := s.loads.set n (t.goErrand i s.clock op (next x.1)) }.Undisturbed o reads := by
  obtain ⟨a, rfl, hallows, hroles, hnext⟩ :=
    ((hb.loads n t ht).reading _ (List.mem_of_getElem? hp)).exists_answered o
  have hcarry : s.carry none (.access a) = some (x.1, x.2, []) := by
    simp only [carry, hx, Option.map_some]
  obtain ⟨hfits, hplace⟩ := h.carried hallows (by rintro _ _ _ h; cases h) hcarry
  have hreads : x.2.world.reads = s.place.world.reads :=
    (carried_of_carry hallows.isAbout hcarry).reads_eq.resolve_right <| by
      rintro ⟨-, v, ⟨⟩⟩
      exact hroles v rfl
  -- The load itself stands still.
  refine h.setLoad .same ((h.loads n t ht).goErrand i s.clock _ (hnext _ _ x.1 hfits)) rfl rfl rfl
    hplace (fun rules hfound u hu hnothing => ?_) ?_
  · rcases List.mem_or_eq_of_mem_set hu with hu | rfl
    · exact h.wrote rules hfound u hu hnothing
    · exact h.wrote rules hfound t (List.mem_of_getElem? ht) hnothing
  · change x.2.world.reads = reads ∨ x.2.world.reads = reads + 1 ∧ _
    rw [hreads]
    exact h.reads.imp_right (And.imp_right (exists_mem_set ht id))

/-- A caller enters who looks the rule set up. -/
theorem enter (h : s.Undisturbed o reads) : (s.enter (.get o.user)).Undisturbed o reads := by
  refine ⟨h.fair, h.store, h.place, fun u hu => ?_, fun u hu => ?_, h.loads, h.alone, h.wrote,
    h.reads⟩
  · rcases List.mem_append.1 hu with hu | hu
    · exact h.callers u hu
    · obtain rfl := List.mem_singleton.1 hu
      exact Strand.undisturbed_start s.clock
  · rcases List.mem_append.1 hu with hu | hu
    · exact h.joined u hu
    · obtain rfl := List.mem_singleton.1 hu
      exact fun _ _ _ _ hmem => by cases hmem

/-- The desk forgets a load. -/
theorem forgot (h : s.Undisturbed o reads) (n : Nat) :
    { s with place := { s.place with desk := s.place.desk.forget n } }.Undisturbed o reads :=
  ⟨h.fair, h.store, ⟨h.place.works, h.place.entries, h.place.form,
    (s.place.desk.loads_forget n).symm ▸ h.place.fresh⟩, h.callers, h.joined, h.loads, h.alone,
    h.wrote, h.reads⟩

/-- Role data changes, or time passes. -/
theorem change (h : s.Undisturbed o reads) {c : Change} (hc : c.IsRoutine)
    (hworks : (c.apply s.place.world).Works o.user) : (s.change c).Undisturbed o reads := by
  have hkept : (c.apply s.place.world).entries = s.place.world.entries ∧
      (c.apply s.place.world).formOf o.user = s.place.world.formOf o.user ∧
      (c.apply s.place.world).reads = s.place.world.reads := by
    cases c with
    | setForm | dropForm | setInformation => exact hc.elim
    | _ => exact ⟨rfl, rfl, rfl⟩
  obtain ⟨hentries, hform, hreads⟩ := hkept
  refine ⟨h.fair, h.store, ⟨hworks, ?_, ?_, h.place.fresh⟩, h.callers, h.joined, h.loads, h.alone,
    h.wrote, ?_⟩
  · exact hentries.symm ▸ h.place.entries
  · exact hform.symm ▸ h.place.form
  · exact hreads.symm ▸ h.reads

end Undisturbed

theorem undisturbed_begin {service : Service} {world : World} {registry : Option Registry}
    (huser : user.isText = true) (hworld : world.Works user) (hform : world.formOf user = none)
    (hunread : ∀ e ∈ world.entries, e.key = user →
      ∀ rules, Packed.loads (.text e.text) ≠ .ok rules) :
    (begin service world registry).Undisturbed
      { user, store := service.cache.store, entries := world.entries } world.reads where
  fair := ⟨huser, hunread, nofun⟩
  store := rfl
  place := ⟨hworld, fun e he hkey => .inl ⟨e, he, hkey, rfl⟩, .inl ⟨hform, rfl⟩,
    List.forall_mem_nil _⟩
  callers := List.forall_mem_nil _
  joined := List.forall_mem_nil _
  loads := fun _ _ ht => by cases ht
  alone := fun _ => Nat.zero_le 1
  wrote := nofun
  reads := .inl rfl

end Stage

end HouseholdAccess
