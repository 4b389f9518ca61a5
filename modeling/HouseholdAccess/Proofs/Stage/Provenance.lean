import HouseholdAccess.Proofs.Stage.Order
import HouseholdAccess.Proofs.Stage.Places

/-!
# Where what is kept comes from

What is found in the cache or on the record has been there from the start, or has
been put there by the load that the mark names (`Stage.Stems`). It has been put there
after everybody who has taken such a thing away before it was found, and a load that
is joined was begun after everybody who has overtaken loads before that
(`Stage.Explains`).
-/

namespace HouseholdAccess

variable {user : Id}

/-- Names are texts, and the cache has one entry at most for each name. -/
structure World.IsProper (w : World) : Prop where
  names : w.HasTextNames
  distinct : w.entries.Pairwise fun e f => e.key ≠ f.key

/-- The operation puts nothing into the cache or on a record. -/
def Operation.PutsNothing : Operation → Prop
  | .access (.cacheSet ..) | .access (.save ..) => False
  | _ => True

namespace Stage

variable {s s' : Stage} {gathered : Option (Except Interruption (List (List Id)))}

/-- What the mark tells of has been there from the start, or has been put there by an operation as
    in `P`. -/
def Stems (s : Stage) (mark : Mark) (P : Operation → Prop) : Prop :=
  (mark.load = none ∧ mark.time = 0) ∨ ∃ n t e, mark.load = some n ∧ s.loads[n]? = some t ∧
    e ∈ t.trace ∧ e.time = mark.time ∧ P e.op

/-- The operation puts the entry of the user. -/
def Puts (user : Id) (text : String) (op : Operation) : Prop :=
  ∃ seconds, op = .access (.cacheSet user text seconds)

/-- The operation writes the form on the record of the user. -/
def Writes (user : Id) (form : Value) (op : Operation) : Prop := op = .access (.save user form)

/-- What has been found has been put there after everybody who had taken such a thing away. -/
def Survives (s : Stage) (e : Exchange) (op : Operation) : Prop :=
  e.source.time < e.time ∧ ∀ time, (time, op) ∈ s.log → time < e.source.time ∨ e.time < time

/-- Where the reply to an operation comes from. -/
def Explains (user : Id) (s : Stage) (e : Exchange) : Prop :=
  match e.op, e.reply with
  | .access (.cacheGet _), .ok (some text) =>
    s.Stems e.source (Puts user text) ∧ s.Survives e (.access (.cacheDelete user))
  | .access (.load _), .ok (some form) =>
    s.Stems e.source (Writes user form) ∧ s.Survives e (.access (.clear user))
  | .joinLoad _, n => ∃ t, s.loads[n]? = some t ∧
    ∀ time, (time, .overtake user) ∈ s.log → time < t.begun ∨ e.time < time
  | .awaitLoad n, r => ∃ t, s.loads[n]? = some t ∧ t.program = .done r
  | _, _ => True

/-- What is kept has been put there after everybody who had taken such a thing away. -/
structure Marked (user : Id) (s : Stage) : Prop where
  distinct : s.place.world.entries.Pairwise fun e f => e.key ≠ f.key
  entry : ∀ x ∈ s.place.world.entries, x.key = user → s.Stems s.entry (Puts user x.text) ∧
    ∀ time, (time, .access (.cacheDelete user)) ∈ s.log → time < s.entry.time
  form : ∀ v, s.place.world.forms.lookup user = some v → s.Stems s.form (Writes user v) ∧
    ∀ time, (time, .access (.clear user)) ∈ s.log → time < s.form.time

/-- Everything that has been replied comes from somewhere. -/
structure Explained (user : Id) (s : Stage) : Prop where
  callers : ∀ t ∈ s.callers, ∀ e ∈ t.trace, s.Explains user e
  loads : ∀ t ∈ s.loads, ∀ e ∈ t.trace, s.Explains user e

/-- Loads go on, and what is noted is new. -/
structure Grows (s s' : Stage) : Prop where
  loads : ∀ (n : Nat) (t : Strand RuleSet), s.loads[n]? = some t →
    ∃ t', s'.loads[n]? = some t' ∧ t'.begun = t.begun ∧ (∀ e ∈ t.trace, e ∈ t'.trace) ∧
      ∀ r, t.program = .done r → t'.program = .done r
  log : ∀ x ∈ s'.log, x ∈ s.log ∨ s.clock ≤ x.1

theorem Stems.mono {mark : Mark} {P : Operation → Prop} (h : s.Stems mark P) (hs : s.Grows s') :
    s'.Stems mark P := by
  rcases h with h | ⟨n, t, e, hload, hn, he, htime, hP⟩
  · exact .inl h
  · obtain ⟨t', hn', -, htrace, -⟩ := hs.loads n t hn
    exact .inr ⟨n, t', e, hload, hn', htrace e he, htime, hP⟩

theorem Survives.mono {e : Exchange} {op : Operation} (h : s.Survives e op) (hs : s.Grows s')
    (he : e.time < s.clock) : s'.Survives e op := by
  refine ⟨h.1, fun time htime => ?_⟩
  rcases hs.log _ htime with htime | hnow
  · exact h.2 time htime
  · exact .inr (he.trans_le hnow)

theorem Explains.mono {e : Exchange} (h : s.Explains user e) (hs : s.Grows s')
    (he : e.time < s.clock) : s'.Explains user e := by
  obtain ⟨time, source, op, reply⟩ := e
  unfold Explains at h ⊢
  split at h
  · exact ⟨h.1.mono hs, h.2.mono hs he⟩
  · exact ⟨h.1.mono hs, h.2.mono hs he⟩
  · -- A load that has been joined was begun when it was: who overtakes loads later is no matter.
    obtain ⟨t, hn, hbegun⟩ := h
    obtain ⟨t', hn', hbegun', -⟩ := hs.loads _ t hn
    refine ⟨t', hn', fun time htime => ?_⟩
    rcases hs.log _ htime with htime | hnow
    · exact hbegun' ▸ hbegun time htime
    · exact .inr (he.trans_le hnow)
  · obtain ⟨t, hn, hdone⟩ := h
    obtain ⟨t', hn', -, -, hdone'⟩ := hs.loads _ t hn
    exact ⟨t', hn', hdone' _ hdone⟩
  · trivial

/-! ### Steps -/

theorem grows_of_loads_eq (hloads : s'.loads = s.loads)
    (hlog : ∀ x ∈ s'.log, x ∈ s.log ∨ s.clock ≤ x.1) : s.Grows s' where
  loads := fun _ t hn => ⟨t, hloads ▸ hn, rfl, fun _ => id, fun _ => id⟩
  log := hlog

theorem mem_log_or_le {e : Exchange} : ∀ x ∈ s.noted e, x ∈ s.log ∨ s.clock ≤ x.1 := by
  intro x hx
  rcases mem_noted hx with hx | ⟨rfl, -⟩
  · exact .inl hx
  · exact .inr (Nat.le_refl _)

/-- An operation that may start a load. -/
theorem grows_append {started : List (Strand RuleSet)} (hloads : s'.loads = s.loads ++ started)
    (hlog : ∀ x ∈ s'.log, x ∈ s.log ∨ s.clock ≤ x.1) : s.Grows s' where
  loads := fun n t hn => by
    refine ⟨t, ?_, rfl, fun _ => id, fun _ => id⟩
    rw [hloads]
    exact (List.getElem?_append_left (List.getElem?_eq_some_iff.1 hn).1).trans hn
  log := hlog

theorem grows_after {load : Option Nat} {e : Exchange} {place : Solo}
    {started : List (Strand RuleSet)} : s.Grows (s.after load e place started) :=
  grows_append rfl mem_log_or_le

/-- A load that goes on. -/
theorem grows_set {n : Nat} {t t' : Strand RuleSet} (hn : s.loads[n]? = some t)
    (hactive : t.program.result? = none) (hloads : s'.loads = s.loads.set n t')
    (hlog : ∀ x ∈ s'.log, x ∈ s.log ∨ s.clock ≤ x.1)
    (hbegun : t'.begun = t.begun) (htrace : ∀ e ∈ t.trace, e ∈ t'.trace) : s.Grows s' where
  loads := fun m u hm => by
    rw [hloads]
    -- The load that goes on has not ended, so that what has ended stays as it is.
    by_cases hmn : n = m
    · subst hmn
      obtain rfl := Option.some.inj (hn.symm.trans hm)
      refine ⟨t', ?_, hbegun, htrace, fun r hr => ?_⟩
      · exact List.getElem?_set_self (List.getElem?_eq_some_iff.1 hn).1
      · rw [hr] at hactive
        cases hactive
    · exact ⟨u, (List.getElem?_set_ne hmn).trans hm, rfl, fun _ => id, fun _ => id⟩
  log := hlog

theorem exists_of_lookUp {w : World} (huser : user.isText = true) {text : String}
    (h : (w.lookUp user).1 = some text) : ∃ x ∈ w.entries, x.key = user ∧ x.text = text := by
  rw [World.lookUp] at h
  split at h
  · cases h
  · next x hx =>
    split at h
    · cases h
    · obtain ⟨hmem, hkey⟩ := World.exists_mem_of_entryOf huser hx
      exact ⟨x, hmem, hkey, Option.some.inj h⟩

theorem lookup_of_formOf {w : World} (huser : user.isText = true) {form : Value}
    (h : w.formOf user = some form) : w.forms.lookup user = some form := by
  rw [World.formOf, World.storeName_of_isText huser] at h
  split at h
  · cases h
  · exact h

theorem explains_get {e : Exchange} {v : Id} {found : Option String}
    (he : e = ⟨e.time, e.source, .access (.cacheGet v), .ok found⟩)
    (h : ∀ text, found = some text →
      s.Stems e.source (Puts user text) ∧ s.Survives e (.access (.cacheDelete user))) :
    s.Explains user e := by
  rw [he] at h ⊢
  cases found with
  | none => trivial
  | some text => exact h text rfl

theorem explains_load {e : Exchange} {v : Id} {found : Option Value}
    (he : e = ⟨e.time, e.source, .access (.load v), .ok found⟩)
    (h : ∀ form, found = some form →
      s.Stems e.source (Writes user form) ∧ s.Survives e (.access (.clear user))) :
    s.Explains user e := by
  rw [he] at h ⊢
  cases found with
  | none => trivial
  | some form => exact h form rfl

/-- Where what is replied now comes from. -/
theorem Carried.explains (huser : user.isText = true) (hb : s.Behaves user) (ht : s.Timed)
    (ho : s.Ordered user) (hm : s.Marked user) {op : Operation} (hop : op.IsAbout user)
    {reply : op.Reply} {place : Solo} {started : List (Strand RuleSet)}
    (hc : s.Carried gathered op reply place started) (load : Option Nat) :
    (s.after load (s.exchange op reply) place started).Explains user (s.exchange op reply) := by
  -- What has been noted before this operation was noted before now.
  have hsurvives {op op' : Operation} {reply : op.Reply} {place : Solo} (hne : op' ≠ op)
      (hsource : (s.source op).time < s.clock)
      (hlog : ∀ time, (time, op') ∈ s.log → time < (s.source op).time) :
      (s.after load (s.exchange op reply) place []).Survives (s.exchange op reply) op' := by
    refine ⟨hsource, fun time htime => .inl ?_⟩
    rcases mem_noted htime with htime | ⟨heq, -⟩
    · exact hlog time htime
    · exact absurd (Prod.mk.inj heq).2 hne
  have hovertakes {v : Id} {n : Nat} {place : Solo} {started : List (Strand RuleSet)} {time : Nat}
      (htime : (time, .overtake user) ∈
        (s.after load (s.exchange (.joinLoad v) n) place started).log) :
      (time, .overtake user) ∈ s.log := mem_log_of_after (by simp [exchange]) htime
  cases hc with
  | answered a =>
    cases a with
    -- What is found there now is there, and its mark has been right so far.
    | cacheGet v =>
      obtain rfl : v = user := hop
      refine explains_get rfl fun text htext => ?_
      obtain ⟨x, hx, hkey, rfl⟩ := exists_of_lookUp huser htext
      obtain ⟨hstems, hlog⟩ := hm.entry x hx hkey
      exact ⟨hstems.mono grows_after, hsurvives (by simp) ht.entry hlog⟩
    | load v =>
      obtain rfl : v = user := hop
      refine explains_load rfl fun form hform => ?_
      obtain ⟨hstems, hlog⟩ := hm.form form (lookup_of_formOf huser hform)
      exact ⟨hstems.mono grows_after, hsurvives (by simp) ht.form hlog⟩
    | _ => trivial
  | refused a f => cases a <;> trivial
  -- The load under way is fresh: whoever has overtaken loads did so before it was begun.
  | @joined v n hn =>
    obtain rfl := hop
    obtain ⟨t, hget⟩ : ∃ t, s.loads[n]? = some t :=
      ⟨_, List.getElem?_eq_getElem (ho.pending n hn)⟩
    obtain ⟨t', hget', hbegun, -⟩ := grows_after.loads n t hget
    exact ⟨t', hget', fun time htime =>
      .inl (hbegun ▸ ho.fresh n t hget hn time (hovertakes htime))⟩
  -- A load that is started now is the last one, and was begun after all that has been noted.
  | started hpending =>
    obtain rfl := hop
    rw [hb.numbered]
    exact ⟨_, List.getElem?_concat_length, fun time htime => .inl (ht.log _ (hovertakes htime))⟩
  | awaited hn hdone =>
    obtain ⟨t', hget', -, -, hdone'⟩ := grows_after.loads _ _ hn
    exact ⟨t', hget', hdone' _ hdone⟩
  | _ => trivial

/-- Where nothing is kept or taken away, the marks stay right. -/
theorem Marked.congr (hm : s.Marked user) (hgrows : s.Grows s')
    (hentries : s'.place.world.entries = s.place.world.entries)
    (hforms : s'.place.world.forms = s.place.world.forms) (hentry : s'.entry = s.entry)
    (hform : s'.form = s.form)
    (hlog : ∀ time a, (time, .access a) ∈ s'.log → (time, .access a) ∈ s.log) :
    s'.Marked user where
  distinct := hentries ▸ hm.distinct
  entry := fun x hx hkey => by
    obtain ⟨hstems, hdeletes⟩ := hm.entry x (hentries ▸ hx) hkey
    rw [hentry]
    exact ⟨hstems.mono hgrows, fun time htime => hdeletes time (hlog time _ htime)⟩
  form := fun v hv => by
    obtain ⟨hstems, hclears⟩ := hm.form v (hforms ▸ hv)
    rw [hform]
    exact ⟨hstems.mono hgrows, fun time htime => hclears time (hlog time _ htime)⟩

/-- A load has carried out the operation at the time. -/
def HasDone (s : Stage) (load : Option Nat) (time : Nat) (op : Operation) : Prop :=
  ∃ n t e, load = some n ∧ s.loads[n]? = some t ∧ e ∈ t.trace ∧ e.time = time ∧ e.op = op

theorem HasDone.stems {load : Option Nat} {time : Nat} {op : Operation}
    (h : s.HasDone load time op) {P : Operation → Prop} (hP : P op) : s.Stems ⟨load, time⟩ P := by
  obtain ⟨n, t, e, hload, hn, he, htime, rfl⟩ := h
  exact .inr ⟨n, t, e, hload, hn, he, htime, hP⟩

section Access

variable {load : Option Nat} {a : Access} {reply : (Operation.access a).Reply} {place : Solo}
  {started : List (Strand RuleSet)}

theorem entry_after (h : ∀ v text seconds, a ≠ .cacheSet v text seconds) :
    (s.after load (s.exchange (.access a) reply) place started).entry = s.entry := by
  simp only [Stage.after, exchange]
  split
  · next v text seconds heq _ => exact absurd (Operation.access.inj heq) (h v text seconds)
  · rfl

theorem form_after (h : ∀ v form, a ≠ .save v form) :
    (s.after load (s.exchange (.access a) reply) place started).form = s.form := by
  simp only [Stage.after, exchange]
  split
  · next v form heq _ => exact absurd (Operation.access.inj heq) (h v form)
  · rfl

/-- An access that is answered keeps the marks right, if what it puts somewhere stems from where the
    mark says. -/
theorem Marked.answered (huser : user.isText = true) (ht : s.Timed) (hm : s.Marked user)
    (ha : (Operation.access a).IsAbout user) (hgrows : s.Grows s') {answer : a.Answer}
    (hworld : s'.place.world = ((s.place.world.begin a).answer a).2)
    (hlog : s'.log = s.noted (s.exchange (.access a) (.ok answer)))
    (hentry : s'.entry = (s.after load (s.exchange (.access a) (.ok answer)) place started).entry)
    (hform : s'.form = (s.after load (s.exchange (.access a) (.ok answer)) place started).form)
    (hstems : (Operation.access a).PutsNothing ∨ s'.HasDone load s.clock (.access a)) :
    s'.Marked user := by
  have hmem {time : Nat} {op : Operation} (htime : (time, op) ∈ s'.log) :
      (time, op) ∈ s.log ∨ time = s.clock ∧ op = .access a := by
    rcases mem_noted (hlog ▸ htime) with htime | ⟨heq, -⟩
    · exact .inl htime
    · exact .inr (Prod.mk.inj heq)
  -- An entry or a form was there before with its mark, or has just been put there.
  refine ⟨hworld ▸ World.pairwise_answer hm.distinct a, fun x hx hkey => ?_, fun v hv => ?_⟩
  · rw [hworld] at hx
    rcases World.mem_entries_answer hm.distinct huser ha hx hkey with
      ⟨hx, hdelete, hset⟩ | ⟨seconds, rfl⟩
    · obtain ⟨hold, hdeletes⟩ := hm.entry x hx hkey
      rw [hentry, entry_after hset]
      refine ⟨hold.mono hgrows, fun time htime => ?_⟩
      rcases hmem htime with htime | ⟨-, hop⟩
      · exact hdeletes time htime
      · exact absurd (Operation.access.inj hop).symm hdelete
    · rw [hentry]
      refine ⟨?_, fun time htime => ?_⟩
      · rcases hstems with hnothing | hdone
        · exact hnothing.elim
        · exact hdone.stems ⟨seconds, rfl⟩
      · rcases hmem htime with htime | ⟨-, hop⟩
        · exact ht.log _ htime
        · cases hop
  · rw [hworld] at hv
    rcases World.lookup_forms_answer huser ha hv with ⟨hv, hclear, hsave⟩ | rfl
    · obtain ⟨hold, hclears⟩ := hm.form v hv
      rw [hform, form_after hsave]
      refine ⟨hold.mono hgrows, fun time htime => ?_⟩
      rcases hmem htime with htime | ⟨-, hop⟩
      · exact hclears time htime
      · exact absurd (Operation.access.inj hop).symm hclear
    · rw [hform]
      refine ⟨?_, fun time htime => ?_⟩
      · rcases hstems with hnothing | hdone
        · exact hnothing.elim
        · exact hdone.stems rfl
      · rcases hmem htime with htime | ⟨-, hop⟩
        · exact ht.log _ htime
        · cases hop

end Access

theorem Marked.of_carried (huser : user.isText = true) (ht : s.Timed) (hm : s.Marked user)
    {op : Operation} (hop : op.IsAbout user) {reply : op.Reply} {place : Solo}
    {started : List (Strand RuleSet)} (hc : s.Carried gathered op reply place started)
    {load : Option Nat} (hgrows : s.Grows s') (hworld : s'.place.world = place.world)
    (hlog : s'.log = s.noted (s.exchange op reply))
    (hentry : s'.entry = (s.after load (s.exchange op reply) place started).entry)
    (hform : s'.form = (s.after load (s.exchange op reply) place started).form)
    (hstems : op.PutsNothing ∨ s'.HasDone load s.clock op) : s'.Marked user := by
  cases hc with
  | answered a => exact hm.answered huser ht hop hgrows hworld hlog hentry hform hstems
  -- What is refused has no effect, and is not noted.
  | refused a f =>
    have hbegin : (s.place.world.begin a).entries = s.place.world.entries ∧
        (s.place.world.begin a).forms = s.place.world.forms := by
      cases a <;> exact ⟨rfl, rfl⟩
    refine hm.congr hgrows (hworld ▸ hbegin.1) (hworld ▸ hbegin.2) ?_ ?_ fun time b htime => ?_
    · rw [hentry]
      cases a <;> rfl
    · rw [hform]
      cases a <;> rfl
    · rcases mem_noted (hlog ▸ htime) with htime | ⟨-, heffect⟩
      · exact htime
      · cases heffect
  | _ =>
    refine hm.congr hgrows ?_ ?_ hentry hform fun time a htime => ?_
    · rw [hworld]
    · rw [hworld]
    · rcases mem_noted (hlog ▸ htime) with htime | ⟨heq, -⟩
      · exact htime
      · cases (Prod.mk.inj heq).2

theorem Marked.of_moves (huser : user.isText = true) (ht : s.Timed) (hm : s.Marked user)
    (h : s.Moves user s') : s'.Marked user := by
  cases h with
  | entered => exact hm.congr (grows_of_loads_eq rfl fun _ => .inl) rfl rfl rfl rfl fun _ _ => id
  -- Callers put nothing anywhere, so that the marks stay.
  | @caller n t op next reply place started hn hprogram hmay hc =>
    refine hm.of_carried huser ht hmay.isAbout hc (grows_append rfl mem_log_or_le) rfl rfl
      rfl rfl (.inl ?_)
    cases op with
    | access a => cases a <;> trivial
    | _ => trivial
  -- What a load has put somewhere is the last thing that it has done.
  | @load n t op next reply place hn hprogram hmay hc =>
    have hactive : t.program.result? = none := by
      rw [hprogram]
      rfl
    refine hm.of_carried huser ht hmay.isAbout hc
      (grows_set hn hactive rfl mem_log_or_le rfl fun _ => List.mem_append_left _) rfl rfl rfl rfl
      (.inr ?_)
    exact ⟨n, _, _, rfl, List.getElem?_set_self (List.getElem?_eq_some_iff.1 hn).1,
      List.mem_append_right _ (List.mem_singleton.2 rfl), rfl, rfl⟩
  | @errand n i t a reply place p hn hpassed hactive hreads hroles hp hc =>
    refine hm.of_carried huser ht (isAbout_of_readsRoles hreads hroles) hc
      (grows_set hn hactive rfl mem_log_or_le rfl fun _ => id) rfl rfl rfl rfl (.inl ?_)
    cases a <;> trivial
  | forgot => exact hm.congr (grows_of_loads_eq rfl fun _ => .inl) rfl rfl rfl rfl fun _ _ => id
  | @changed c hc =>
    -- Usual changes are those of role data and time: neither the cache nor a record is touched.
    have hkept : (c.apply s.place.world).entries = s.place.world.entries ∧
        (c.apply s.place.world).forms = s.place.world.forms := by
      cases c with
      | setForm | dropForm | setInformation => exact hc.elim
      | _ => exact ⟨rfl, rfl⟩
    exact hm.congr (grows_of_loads_eq rfl fun _ => .inl) hkept.1 hkept.2 rfl rfl fun _ _ => id

/-- What has been explained stays so: only what is new is to be explained. -/
theorem Explained.of_grows (ht : s.Timed) (he : s.Explained user) (hgrows : s.Grows s')
    (hcallers : ∀ t ∈ s'.callers, ∀ e ∈ t.trace,
      (∃ u ∈ s.callers, e ∈ u.trace) ∨ s'.Explains user e)
    (hloads : ∀ t ∈ s'.loads, ∀ e ∈ t.trace,
      (∃ u ∈ s.loads, e ∈ u.trace) ∨ s'.Explains user e) : s'.Explained user where
  callers := fun t hn e hmem => by
    rcases hcallers t hn e hmem with ⟨u, hu, hmem⟩ | hnew
    · exact (he.callers u hu e hmem).mono hgrows ((ht.callers u hu).1.times e hmem).2
    · exact hnew
  loads := fun t hn e hmem => by
    rcases hloads t hn e hmem with ⟨u, hu, hmem⟩ | hnew
    · exact (he.loads u hu e hmem).mono hgrows ((ht.loads u hu).1.times e hmem).2
    · exact hnew

/-- What a strand has done when one has gone on had been done before, or is what that one did. -/
theorem mem_trace_of_set {α : Type} {strands : List (Strand α)} {n : Nat} {t u : Strand α}
    (hn : strands[n]? = some t) {c : Cache} {e e' : Exchange}
    {rest : Program (Except Interruption α)} (hu : u ∈ strands.set n (t.go c e rest))
    (he' : e' ∈ u.trace) : (∃ v ∈ strands, e' ∈ v.trace) ∨ e' = e := by
  rcases List.mem_or_eq_of_mem_set hu with hu | rfl
  · exact .inl ⟨u, hu, he'⟩
  · rcases List.mem_append.1 he' with he' | he'
    · exact .inl ⟨t, List.mem_of_getElem? hn, he'⟩
    · exact .inr (List.mem_singleton.1 he')

theorem Carried.trace_started {op : Operation} {reply : op.Reply} {place : Solo}
    {started : List (Strand RuleSet)} (hc : s.Carried gathered op reply place started) :
    ∀ t ∈ started, t.trace = [] := by
  cases hc with
  | started => exact List.forall_mem_singleton.2 rfl
  | _ => exact List.forall_mem_nil _

theorem Explained.of_moves (huser : user.isText = true) (hb : s.Behaves user) (ht : s.Timed)
    (ho : s.Ordered user) (hm : s.Marked user) (he : s.Explained user) (h : s.Moves user s') :
    s'.Explained user := by
  cases h with
  | entered =>
    refine he.of_grows ht (grows_of_loads_eq rfl fun _ => .inl) (fun t hn e hmem => ?_)
      fun t hn e hmem => .inl ⟨t, hn, hmem⟩
    rcases List.mem_append.1 hn with hn | hn
    · exact .inl ⟨t, hn, hmem⟩
    · -- Who has just come has been told nothing.
      obtain rfl := List.mem_singleton.1 hn
      cases hmem
  | @caller n t op next reply place started hn hprogram hmay hc =>
    have hnew := hc.explains huser hb ht ho hm hmay.isAbout none
    refine he.of_grows ht (grows_append rfl mem_log_or_le) (fun u hu e hmem => ?_)
      fun u hu e hmem => ?_
    · refine (mem_trace_of_set hn hu hmem).imp_right ?_
      rintro rfl
      exact hnew.mono (grows_of_loads_eq rfl fun _ => .inl) (Nat.lt_succ_self _)
    · rcases List.mem_append.1 hu with hu | hu
      · exact .inl ⟨u, hu, hmem⟩
      · rw [hc.trace_started u hu] at hmem
        cases hmem
  | @load n t op next reply place hn hprogram hmay hc =>
    have hactive : t.program.result? = none := by
      rw [hprogram]
      rfl
    have hnew := hc.explains huser hb ht ho hm hmay.isAbout (some n)
    refine he.of_grows ht
      (grows_set hn hactive rfl mem_log_or_le rfl fun _ => List.mem_append_left _)
      (fun u hu e hmem => .inl ⟨u, hu, hmem⟩) fun u hu e hmem => ?_
    refine (mem_trace_of_set hn hu hmem).imp_right ?_
    rintro rfl
    -- What the load is told now is explained after it, whatever that makes of the load itself.
    have hloads : s.loads ++ [] = s.loads := List.append_nil s.loads
    exact hnew.mono (grows_set ((congrArg (fun l => l[n]?) hloads).trans hn) hactive
      (congrArg (fun l => List.set l n _) hloads.symm) (fun _ => .inl) rfl
      fun _ => List.mem_append_left _) (Nat.lt_succ_self _)
  | @errand n i t a reply place p hn hpassed hactive hreads hroles hp hc =>
    refine he.of_grows ht (grows_set hn hactive rfl mem_log_or_le rfl fun _ => id)
      (fun u hu e hmem => .inl ⟨u, hu, hmem⟩) fun u hu e hmem => ?_
    rcases List.mem_or_eq_of_mem_set hu with hu | rfl
    · exact .inl ⟨u, hu, hmem⟩
    · exact .inl ⟨t, List.mem_of_getElem? hn, hmem⟩
  | forgot =>
    exact he.of_grows ht (grows_of_loads_eq rfl fun _ => .inl)
      (fun u hu e hmem => .inl ⟨u, hu, hmem⟩) fun u hu e hmem => .inl ⟨u, hu, hmem⟩
  | changed =>
    exact he.of_grows ht (grows_of_loads_eq rfl fun _ => .inl)
      (fun u hu e hmem => .inl ⟨u, hu, hmem⟩) fun u hu e hmem => .inl ⟨u, hu, hmem⟩

theorem marked_begin {service : Service} {world : World} {registry : Option Registry}
    (hworld : world.IsProper) : (begin service world registry).Marked user where
  distinct := hworld.distinct
  entry := fun _ _ _ => ⟨.inl ⟨rfl, rfl⟩, fun _ htime => by cases htime⟩
  form := fun _ _ => ⟨.inl ⟨rfl, rfl⟩, fun _ htime => by cases htime⟩

/-! ## Runs -/

/-- What is known of a stage that is reached. -/
structure IsSound (user : Id) (s : Stage) : Prop where
  behaves : s.Behaves user
  timed : s.Timed
  ordered : s.Ordered user
  marked : s.Marked user
  explained : s.Explained user

/-- What is known stays so, whatever happens next. -/
theorem IsSound.step (huser : user.isText = true) (hs : s.IsSound user) (h : Step user s s') :
    s'.IsSound user := by
  have hmoves := hs.behaves.moves h
  exact ⟨hs.behaves.of_moves huser hmoves, hs.timed.of_moves hmoves,
    hs.ordered.of_moves hs.behaves hs.timed hmoves, hs.marked.of_moves huser hs.timed hmoves,
    hs.explained.of_moves huser hs.behaves hs.timed hs.ordered hs.marked hmoves⟩

theorem Reached.isSound {service : Service} {world : World} {registry : Option Registry}
    (huser : user.isText = true) (hworld : world.IsProper)
    (hs : Reached user (begin service world registry) s) : s.IsSound user := by
  induction hs with
  | start =>
    exact ⟨behaves_begin hworld.names, timed_begin, ordered_begin, marked_begin hworld,
      List.forall_mem_nil _, List.forall_mem_nil _⟩
  | step _ hstep ih => exact ih.step huser hstep

end Stage

end HouseholdAccess
