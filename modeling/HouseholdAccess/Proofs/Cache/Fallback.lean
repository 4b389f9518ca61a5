import HouseholdAccess.Proofs.Cache.Keeping
import HouseholdAccess.Proofs.Cache.Loading

/-!
# Looking up while systems are away

What a caller who is alone is answered while the cache and the records may fail. As
long as they fail no caller (`Cache.Bears`), a cache that fails has no entry, and a
record that cannot be read says nothing. The answer then is the rule set in the
cache, else the one on the record, else what compiling comes to (`Cache.offered`).

Failures reach the caller nonetheless in five ways, two of which are about the entry
of the cache (`Cache.EntrySlip`) and three about the record (`Cache.RecordSlip`). For
one caller who is alone, `Cache.Bears.ensures_lookUp` says exactly when the call fails,
and with which failure.
-/

namespace HouseholdAccess

open HouseholdAccess.Flow

variable {h : Helper} {s s' : Solo} {c : Cache} {user : Id} {load : Nat}

/-! ## What is there -/

namespace World

/-- The text in the cache, none if the cache cannot be asked. -/
def textFor (w : World) (user : Id) : Option String := (w.perform (.cacheGet user)).1.toOption.join

/-- What is written on the record, nothing if the record cannot be read. -/
def formFor (w : World) (user : Id) : Option Value := (w.perform (.load user)).1.toOption.join

/-- The rule set in the cache. -/
def cachedRules? (w : World) (user : Id) : Option RuleSet :=
  (w.textFor user).bind fun text => (Packed.loads (.text text)).toOption

/-- The rule set on the record. -/
def writtenRules? (w : World) (kind : StoreKind) (user : Id) : Option RuleSet :=
  (kind.reading (w.formFor user)).toOption.join.bind fun form => (Packed.unpack form).toOption

end World

/-- The failure that a caller meets for whom an entry cannot be taken out. -/
def CacheKind.refusal (kind : CacheKind) (user : Id) (f : Failure) : Failure :=
  match kind with
  | .local => f
  | .shared => .service (.external sharedCacheName f.message
    (Entries.ofFields [("user_id", user.toValue)]))

namespace Cache

/-- What a lookup is to answer: the rule set in the cache, else the one on the record, else what
    compiling comes to. -/
def offered (c : Cache) (w : World) (user : Id) : Except Interruption RuleSet :=
  ((w.cachedRules? user).or (w.writtenRules? c.store user)).elim (compiled w user) .ok

/-- How the entry of the cache fails a lookup that finds it in one world, and takes it out in
    another one if it has to. -/
inductive EntrySlip (c : Cache) (w w' : World) (user : Id) : Failure → Prop
  /-- The entry is too deep, for its text to be read or for the rules to be. -/
  | tooDeep {text : String} {o : Obstacle} : w.textFor user = some text →
    Packed.loads (.text text) = .error (.tooDeep o) → EntrySlip c w w' user (.tooDeep o)
  /-- The entry cannot be read, nor taken out. -/
  | stuck {text : String} {fault : Packed.Fault} {f : Failure} : w.textFor user = some text →
    Packed.loads (.text text) = .error (.malformed fault) →
    (w'.perform (.cacheDelete user)).1 = .error f → EntrySlip c w w' user (c.kind.refusal user f)

/-- How the record fails a lookup. -/
inductive RecordSlip (c : Cache) (w : World) (user : Id) : Failure → Prop
  /-- The record cannot be made sense of, and does not count as empty. -/
  | unreadable {f : Failure} : c.store.reading (w.formFor user) = .error f → RecordSlip c w user f
  /-- The form on the record is too deep for the rules to be read. -/
  | tooDeep {form : Value} {o : Obstacle} : c.store.reading (w.formFor user) = .ok (some form) →
    Packed.unpackWithin loadRoom form = .error (.tooDeep o) → RecordSlip c w user (.tooDeep o)
  /-- The record says a rule set, but in a form that has no text for the cache. -/
  | unwritable {form : Value} {rules : RuleSet} {u : Json.Unwritable} :
    c.store.reading (w.formFor user) = .ok (some form) →
    Packed.unpackWithin loadRoom form = .ok rules → Json.write Json.compact form = .error u →
    RecordSlip c w user (.unwritable u)

/-- How a lookup fails though it has something to answer. -/
def Slips (c : Cache) (w : World) (user : Id) (f : Failure) : Prop :=
  c.EntrySlip w w user f ∨ w.cachedRules? user = none ∧ c.RecordSlip w user f

/-- What fails of the cache and of the records for a user fails no caller: asking and putting fail
    in a shared cache only, and reading and writing in a database only. -/
structure Bears (c : Cache) (w : World) (user : Id) : Prop where
  cache : c.kind = .shared ∨
    ∀ p ∈ [Point.cacheGet, .cacheSet], w.failureOf p (some user) = none
  store : c.store = .database ∨ ∀ p ∈ [Point.load, .save], w.failureOf p (some user) = none

end Cache

/-! ## Using what may be away -/

namespace World

variable {w w' : World}

/-- An access that meets no outage is answered. -/
theorem IsConnected.perform_eq (hw : w.IsConnected) {a : Access} {p : Point}
    (hpoint : w.pointOf? a = some p) (hp : w.failureOf p a.name? = none) :
    w.perform a = (.ok (w.answer a).1, (w.answer a).2) := by
  rw [perform, hw.notConnected?_eq_none, failureAt?, hpoint, Option.bind_some, hp]

theorem IsConnected.of_agrees (hw : w.IsConnected) (h : w.Agrees w') : w'.IsConnected := by
  obtain ⟨entries, forms, reads, rfl⟩ := h
  exact ⟨hw.store, hw.cache⟩

/-- An access is refused, or else answered. -/
theorem perform_fst (w : World) (a : Access) :
    (w.perform a).1 =
      ((w.notConnected? a).or (w.failureAt? a)).elim (.ok (w.answer a).1) .error := by
  rw [perform]
  cases w.notConnected? a with
  | some f => rfl
  | none => cases w.failureAt? a <;> rfl

/-- An access that fails has no effect. -/
theorem perform_snd (w : World) (a : Access) :
    (w.perform a).2 = w ∨ (w.perform a).2 = (w.answer a).2 := by
  rw [perform]
  split
  · exact .inl rfl
  · split
    · exact .inl rfl
    · exact .inr rfl

/-- Reading the record leaves the world as it is. -/
theorem perform_load_snd (w : World) (user : Id) : (w.perform (.load user)).2 = w :=
  (w.perform_snd (.load user)).elim id id

/-- Asking for an entry, and taking one out, leave all but the entries as it is. -/
theorem exists_perform_cacheGet (w : World) (user : Id) :
    ∃ entries, (w.perform (.cacheGet user)).2 = { w with entries } := by
  rcases w.perform_snd (.cacheGet user) with hw | hw <;> rw [hw]
  · exact ⟨w.entries, rfl⟩
  · change ∃ entries, (w.lookUp user).2 = _
    rw [lookUp]
    split
    · exact ⟨w.entries, rfl⟩
    · split <;> exact ⟨_, rfl⟩

theorem exists_perform_cacheDelete (w : World) (user : Id) :
    ∃ entries, (w.perform (.cacheDelete user)).2 = { w with entries } := by
  rcases w.perform_snd (.cacheDelete user) with hw | hw <;> rw [hw] <;> exact ⟨_, rfl⟩

/-- A text that is found is left in the cache. -/
theorem perform_cacheGet_of_textFor {text : String} (h : w.textFor user = some text) :
    (w.perform (.cacheGet user)).2 = w := by
  revert h
  rw [textFor, perform]
  split
  · exact fun _ => rfl
  · split
    · exact fun _ => rfl
    · simp only [answer, lookUp]
      split
      · exact fun _ => rfl
      · split
        · exact fun h => by cases h
        · exact fun _ => rfl

/-- What is read on a record does not depend on the entries of the cache. -/
theorem Agrees.formFor_eq (h : w.Agrees w') (hforms : w'.forms = w.forms) (user : Id) :
    w'.formFor user = w.formFor user := by
  obtain ⟨entries, forms, reads, rfl⟩ := h
  obtain rfl : forms = w.forms := hforms
  rw [formFor, formFor, perform_fst, perform_fst]
  rfl

end World

/-- Where there is no entry, none slips. -/
theorem Cache.not_entrySlip_none {w w' : World} (htext : w.textFor user = none) (f : Failure) :
    ¬c.EntrySlip w w' user f := by
  rintro (⟨htext', -⟩ | ⟨htext', -, -⟩) <;> rw [htext] at htext' <;> cases htext'

/-- An entry slips only if it is too deep, or cannot be read nor taken out. -/
theorem Cache.entrySlip_iff {w w' : World} {text : String} (htext : w.textFor user = some text)
    {f : Failure} :
    c.EntrySlip w w' user f ↔
      (∃ o, Packed.loads (.text text) = .error (.tooDeep o) ∧ f = .tooDeep o) ∨
      ∃ fault g, Packed.loads (.text text) = .error (.malformed fault) ∧
        (w'.perform (.cacheDelete user)).1 = .error g ∧ f = c.kind.refusal user g := by
  constructor
  · rintro (⟨htext', hloads⟩ | ⟨htext', hloads, hdelete⟩) <;>
      rw [htext] at htext' <;> cases htext'
    · exact .inl ⟨_, hloads, rfl⟩
    · exact .inr ⟨_, _, hloads, hdelete, rfl⟩
  · rintro (⟨o, hloads, rfl⟩ | ⟨fault, g, hloads, hdelete, rfl⟩)
    · exact .tooDeep htext hloads
    · exact .stuck htext hloads hdelete

/-- A record on which nothing is read does not slip. -/
theorem Cache.not_recordSlip_none {w : World}
    (hreading : c.store.reading (w.formFor user) = .ok none) (f : Failure) :
    ¬c.RecordSlip w user f := by
  rintro (hreading' | ⟨hreading', -⟩ | ⟨hreading', -, -⟩) <;> rw [hreading] at hreading' <;>
    cases hreading'

/-- What has been read on the record slips only if it is too deep, or says a rule set and has no
    text. -/
theorem Cache.recordSlip_iff {w : World} {form : Value}
    (hreading : c.store.reading (w.formFor user) = .ok (some form)) {f : Failure} :
    c.RecordSlip w user f ↔
      (∃ o, Packed.unpackWithin loadRoom form = .error (.tooDeep o) ∧ f = .tooDeep o) ∨
      ∃ rules u, Packed.unpackWithin loadRoom form = .ok rules ∧
        Json.write Json.compact form = .error u ∧ f = .unwritable u := by
  constructor
  · rintro (hreading' | ⟨hreading', hunpack⟩ | ⟨hreading', hunpack, hwrite⟩) <;>
      rw [hreading] at hreading' <;> cases hreading'
    · exact .inl ⟨_, hunpack, rfl⟩
    · exact .inr ⟨_, _, hunpack, hwrite, rfl⟩
  · rintro (⟨o, hunpack, rfl⟩ | ⟨rules, u, hunpack, hwrite, rfl⟩)
    · exact .tooDeep hreading hunpack
    · exact .unwritable hreading hunpack hwrite

/-- The record matters only for what is read on it. -/
theorem Cache.RecordSlip.congr {w w' : World} {f : Failure} (h : c.RecordSlip w user f)
    (hform : w'.formFor user = w.formFor user) : c.RecordSlip w' user f := by
  cases h with
  | unreadable hreading => exact .unreadable (hform ▸ hreading)
  | tooDeep hreading hunpack => exact .tooDeep (hform ▸ hreading) hunpack
  | unwritable hreading hunpack hwrite => exact .unwritable (hform ▸ hreading) hunpack hwrite

namespace Flow

variable {α : Type}

/-- An access that is not counted comes to what the world performs. -/
theorem solo_uncounted {a : Access} (ha : s.world.begin a = s.world) :
    (access a).solo h s = some ((s.world.perform a).1.mapError .failure,
      { s with world := (s.world.perform a).2 }) := by
  rw [solo_access, ha]

/-- A failure for which something else is given. -/
theorem solo_recover_pure {flow : Flow α} {x : Except Failure α}
    (hflow : flow.solo h s = some (x.mapError .failure, s')) (a : α) :
    (flow.recover fun _ => pure a).solo h s = some (.ok (x.toOption.getD a), s') := by
  rw [solo_recover, hflow]
  cases x <;> rfl

end Flow

namespace Cache.Bears

theorem of_agrees {w w' : World} (hc : c.Bears w user) (h : w.Agrees w') : c.Bears w' user := by
  obtain ⟨entries, forms, reads, rfl⟩ := h
  exact ⟨hc.cache, hc.store⟩

/-- A cache that cannot be asked has no entry. -/
theorem solo_get (hc : c.Bears s.world user) (hs : s.world.IsConnected) :
    (c.kind.get user).solo h s = some (.ok (s.world.textFor user),
      { s with world := (s.world.perform (.cacheGet user)).2 }) := by
  have hget := solo_uncounted (h := h) (s := s) (a := .cacheGet user) rfl
  match hkind : c.kind with
  | .local =>
    have hp := (hc.cache.resolve_left (by simp [hkind])) .cacheGet (by simp)
    refine hget.trans ?_
    rw [World.textFor, hs.perform_eq (a := .cacheGet user) rfl hp]
    rfl
  | .shared =>
    refine (solo_recover_pure hget none).trans ?_
    rw [World.textFor]
    cases (s.world.perform (.cacheGet user)).1 <;> rfl

/-- An entry that cannot be put is passed over. -/
theorem exists_solo_set (hc : c.Bears s.world user) (hs : s.world.IsConnected)
    (text : String) (seconds : Binary64) : ∃ b w, s.world.Agrees w ∧
      (c.kind.set user text seconds).solo h s = some (.ok b, { s with world := w }) := by
  let a : Access := .cacheSet user text seconds
  have hagrees : s.world.Agrees (s.world.perform a).2 := by
    rcases s.world.perform_snd a with hw | hw <;> rw [hw]
    · exact World.Agrees.refl s.world
    · exact s.world.agrees_setEntry user text seconds
  have hput : (do access a; return true : Flow Bool).solo h s =
      some (((s.world.perform a).1.map fun _ => true).mapError .failure,
        { s with world := (s.world.perform a).2 }) := by
    rw [solo_bind, solo_uncounted (a := a) rfl]
    cases (s.world.perform a).1 <;> rfl
  match hkind : c.kind with
  | .local =>
    have hp := (hc.cache.resolve_left (by simp [hkind])) .cacheSet (by simp)
    refine ⟨true, _, hagrees, hput.trans ?_⟩
    rw [hs.perform_eq (a := a) rfl hp]
    rfl
  | .shared => exact ⟨_, _, hagrees, solo_recover_pure hput false⟩

/-- That an entry cannot be taken out reaches the caller. -/
theorem solo_delete (c : Cache) (user : Id) : (c.kind.delete user).solo h s =
    some ((s.world.perform (.cacheDelete user)).1.mapError fun f =>
        .failure (c.kind.refusal user f),
      { s with world := (s.world.perform (.cacheDelete user)).2 }) := by
  have hdelete := solo_uncounted (h := h) (s := s) (a := .cacheDelete user) rfl
  match c.kind with
  | .local => exact hdelete
  | .shared =>
    rw [CacheKind.delete, solo_recover, hdelete]
    cases (s.world.perform (.cacheDelete user)).1 <;> rfl

/-- A record that cannot be read says nothing. -/
theorem solo_load (hc : c.Bears s.world user) (hs : s.world.IsConnected) :
    (c.store.load user).solo h s =
      some ((c.store.reading (s.world.formFor user)).mapError .failure, s) := by
  have hload : (access (.load user)).solo h s =
      some ((s.world.perform (.load user)).1.mapError .failure, s) := by
    rw [solo_uncounted rfl, s.world.perform_load_snd]
  match hstore : c.store with
  | .table =>
    have hp := (hc.store.resolve_left (by simp [hstore])) .load (by simp)
    refine hload.trans ?_
    rw [World.formFor, hs.perform_eq (a := .load user) rfl hp]
    change some (Except.ok (s.world.formOf user), s) =
      some ((StoreKind.table.reading (s.world.formOf user)).mapError Interruption.failure, s)
    cases s.world.formOf user <;> rfl
  | .database =>
    have hform : ((access (.load user)).recover fun _ => pure none).solo h s =
        some (.ok (s.world.formFor user), s) := by
      refine (solo_recover_pure hload none).trans ?_
      rw [World.formFor]
      cases (s.world.perform (.load user)).1 <;> rfl
    refine (solo_bind_ok hform _).trans ?_
    cases s.world.formFor user with
    | none => rfl
    | some form => exact solo_ofExcept id _

/-- A record that cannot be written is passed over. -/
theorem exists_solo_save (hc : c.Bears s.world user) (hs : s.world.IsConnected)
    (form : Value) :
    ∃ b w, s.world.Agrees w ∧
      (c.store.save user form).solo h s = some (.ok b, { s with world := w }) := by
  have hagrees (form : Value) : s.world.Agrees (s.world.perform (.save user form)).2 := by
    rcases s.world.perform_snd (.save user form) with hw | hw <;> rw [hw]
    · exact World.Agrees.refl s.world
    · exact s.world.agrees_setForm user form
  have hput (form : Value) (b : Bool) :
      (do access (.save user form); return b : Flow Bool).solo h s =
        some (((s.world.perform (.save user form)).1.map fun _ => b).mapError .failure,
          { s with world := (s.world.perform (.save user form)).2 }) := by
    rw [solo_bind, solo_uncounted (a := .save user form) rfl]
    cases (s.world.perform (.save user form)).1 <;> rfl
  match hstore : c.store with
  | .table =>
    have hp := (hc.store.resolve_left (by simp [hstore])) .save (by simp)
    refine ⟨true, _, hagrees form, (hput form true).trans ?_⟩
    rw [hs.perform_eq (a := .save user form) rfl hp]
    rfl
  | .database =>
    rw [StoreKind.save]
    cases Json.write Json.spaced form with
    | error u => exact ⟨false, s.world, World.Agrees.refl s.world, rfl⟩
    | ok text =>
      exact ⟨_, _, hagrees (.text text), solo_recover_pure (hput (.text text) _) false⟩

/-! ## Looking up -/

/-- What the cache offers, unless the entry slips. -/
theorem ensures_cached (hc : c.Bears s.world user) (hs : s.world.IsConnected) :
    (c.cached user).Ensures h s fun r s' => s.Beside s' ∧ s'.world.forms = s.world.forms ∧
      ((∃ f, c.EntrySlip s.world s.world user f ∧ r = .error (.failure f)) ∨
        (∀ f, ¬c.EntrySlip s.world s.world user f) ∧ r = .ok (s.world.cachedRules? user)) := by
  obtain ⟨entries, hget⟩ := s.world.exists_perform_cacheGet user
  have hbeside : s.Beside { s with world := (s.world.perform (.cacheGet user)).2 } :=
    ⟨rfl, rfl, rfl, hget ▸ ⟨_, _, _, rfl⟩⟩
  have hforms : (s.world.perform (.cacheGet user)).2.forms = s.world.forms := by rw [hget]
  refine ensures_bind_ok (hc.solo_get hs) ?_
  rw [World.cachedRules?]
  cases htext : s.world.textFor user with
  | none => exact ensures_pure ⟨hbeside, hforms, .inr ⟨Cache.not_entrySlip_none htext, rfl⟩⟩
  | some text =>
    simp only [Option.bind_some]
    cases hloads : Packed.loads (.text text) with
    | ok rules =>
      exact ensures_pure ⟨hbeside, hforms,
        .inr ⟨fun f => by simp [entrySlip_iff htext, hloads], rfl⟩⟩
    | error fault =>
      cases fault with
      | tooDeep o =>
        exact ensures_fail ⟨hbeside, hforms, .inl ⟨_, .tooDeep htext hloads, rfl⟩⟩
      | malformed fault =>
        -- The entry is still there when it is to be taken out.
        have hsame := World.perform_cacheGet_of_textFor htext
        simp only [hsame] at hbeside ⊢
        obtain ⟨entries', hdelete⟩ := s.world.exists_perform_cacheDelete user
        have hgone : s.Beside { s with world := (s.world.perform (.cacheDelete user)).2 } :=
          ⟨rfl, rfl, rfl, hdelete ▸ ⟨_, _, _, rfl⟩⟩
        have hforms' : (s.world.perform (.cacheDelete user)).2.forms = s.world.forms := by
          rw [hdelete]
        have hsolo := solo_delete (h := h) (s := s) c user
        cases hr : (s.world.perform (.cacheDelete user)).1 with
        | ok b =>
          rw [hr] at hsolo
          exact ensures_bind_ok hsolo (ensures_pure ⟨hgone, hforms',
            .inr ⟨fun f => by simp [entrySlip_iff htext, hloads, hr], rfl⟩⟩)
        | error f =>
          rw [hr] at hsolo
          exact ensures_of_solo (solo_bind_error hsolo _)
            ⟨hgone, hforms', .inl ⟨_, .stuck htext hloads hr, rfl⟩⟩

/-- What has a text is put into the cache, or passed over. -/
theorem ensures_populate (hc : c.Bears s.world user) (hs : s.world.IsConnected)
    (hload : s.desk.isOvertaken load = false) (form : Value) :
    (c.populate user form load).Ensures h s fun r s' => s.Beside s' ∧
      r = ((Json.write Json.compact form).map fun _ => ()).mapError fun u =>
        .failure (.unwritable u) := by
  refine ensures_bind_ok (solo_step (h.carry_of_plain? rfl)) ?_
  simp only [hload, Bool.false_eq_true, if_false]
  cases hwrite : Json.write Json.compact form with
  | error u => exact ensures_of_solo (solo_bind_error rfl _) ⟨Solo.Beside.refl s, rfl⟩
  | ok text =>
    refine ensures_bind_ok (a := text) rfl ?_
    obtain ⟨b, w, hagrees, hset⟩ := hc.exists_solo_set (h := h) hs text _
    exact ensures_bind_ok hset (ensures_pure ⟨⟨rfl, rfl, rfl, hagrees⟩, rfl⟩)

theorem ensures_keep (hc : c.Bears s.world user) (hs : s.world.IsConnected)
    (hload : s.desk.isOvertaken load = false) {rules : RuleSet} (hlasting : rules.IsLasting) :
    (c.keep user load rules).Ensures h s fun r s' => s.Beside s' ∧ r = .ok rules := by
  obtain ⟨text, htext, -⟩ := hlasting.exists_dumps
  obtain ⟨b, w, hagrees, hsave⟩ := hc.exists_solo_save (h := h) hs (Packed.pack rules)
  let t : Solo := { s with world := w }
  have hbeside : s.Beside t := ⟨rfl, rfl, rfl, hagrees⟩
  refine ensures_bind_ok (solo_step (h.carry_of_plain? rfl)) ?_
  simp only [hload, Bool.false_eq_true, if_false]
  refine ensures_bind_ok hsave ?_
  refine ensures_bind_ok (solo_step (h.carry_of_plain? rfl)) ?_
  rw [show t.desk.isOvertaken load = false from hload]
  simp only [Bool.false_eq_true, if_false]
  have hpopulate := (hc.of_agrees hagrees).ensures_populate (h := h) (s := t)
    (hs.of_agrees hagrees) hload (Packed.pack rules)
  rw [← Packed.dumps, htext] at hpopulate
  refine hpopulate.bind (fun _ u hu => ?_) fun e u hu => by cases hu.2
  exact ensures_pure ⟨hbeside.trans hu.1, rfl⟩

/-- What is compiled is answered, whether or not it can be kept. -/
theorem ensures_compileAndKeep (hc : c.Bears s.world user) (hh : h.Gathers)
    (hs : s.world.IsConnected) (hnames : s.world.HasTextNames) (huser : user.isText = true)
    (hload : s.desk.isOvertaken load = false) (hjoined : s.joined = none) :
    (c.compileAndKeep user load).Ensures h s fun r s' =>
      s.Beside s' ∧ r = compiled s.world user := by
  let t : Solo := { s with registry := s.registry.map (·.count (.cacheLookup .miss)) }
  have hbeside : s.Beside t := ⟨rfl, rfl, rfl, World.Agrees.refl s.world⟩
  refine ensures_bind_ok (solo_count _) ?_
  refine (ensures_compile_connected (s := t) hh hs hjoined).bind (fun rules u hu => ?_)
    fun e u hu => ⟨hbeside.trans hu.2.1, hu.1⟩
  obtain ⟨hrules, hu, -⟩ := hu
  have hfrom : s.Beside u := hbeside.trans hu
  -- What has been compiled can be kept.
  have hlasting : rules.IsLasting := by
    have hcompiled : compiled s.world user = .ok rules := hrules.symm
    rw [compiled] at hcompiled
    cases hread : s.world.readContext user with
    | error f =>
      rw [hread] at hcompiled
      cases hcompiled
    | ok context =>
      rw [hread] at hcompiled
      cases hcompiled
      exact UserContext.isLasting_compile
        (hnames.contextOf huser (World.contextOf_of_readContext hread))
  refine (ensures_keep (hc.of_agrees hfrom.world) (hs.of_agrees hfrom.world)
    (hfrom.desk ▸ hload) hlasting).mono fun r v hv => ?_
  exact ⟨hfrom.trans hv.1, hv.2.trans hrules⟩

/-- What a load offers, unless the record slips. -/
theorem ensures_load (hc : c.Bears s.world user) (hh : h.Gathers) (hs : s.world.IsConnected)
    (hnames : s.world.HasTextNames) (huser : user.isText = true)
    (hload : s.desk.isOvertaken load = false) (hjoined : s.joined = none) :
    (c.load user load).Ensures h s fun r s' => s.Beside s' ∧
      ((∃ f, c.RecordSlip s.world user f ∧ r = .error (.failure f)) ∨
        (∀ f, ¬c.RecordSlip s.world user f) ∧
          r = (s.world.writtenRules? c.store user).elim (compiled s.world user) .ok) := by
  have hfresh := ensures_compileAndKeep hc hh hs hnames huser hload hjoined
  rw [load_eq_bind, World.writtenRules?]
  have hread := hc.solo_load (h := h) hs
  cases hreading : c.store.reading (s.world.formFor user) with
  | error f =>
    rw [hreading] at hread
    exact ensures_of_solo (solo_bind_error hread _)
      ⟨Solo.Beside.refl s, .inl ⟨f, .unreadable hreading, rfl⟩⟩
  | ok form =>
    rw [hreading] at hread
    refine ensures_bind_ok hread ?_
    cases form with
    | none =>
      exact hfresh.mono fun r s' h => ⟨h.1, .inr ⟨Cache.not_recordSlip_none hreading, h.2⟩⟩
    | some form =>
      rw [loadFrom]
      change Ensures h _ s fun r s' => s.Beside s' ∧ (_ ∨ _ ∧
        r = (Packed.unpack form).toOption.elim (compiled s.world user) .ok)
      simp only [Cache.recordSlip_iff hreading]
      cases hunpack : Packed.unpackWithin loadRoom form with
      | error e =>
        cases e with
        | tooDeep o =>
          exact ensures_fail ⟨Solo.Beside.refl s, .inl ⟨_, .inl ⟨o, rfl, rfl⟩, rfl⟩⟩
        | malformed fault =>
          rw [(Packed.unpackWithin_eq_malformed_iff.1 hunpack).1]
          exact hfresh.mono fun r s' h => ⟨h.1, .inr ⟨by simp, h.2⟩⟩
      | ok rules =>
        rw [(Packed.unpackWithin_eq_ok_iff.1 hunpack).1]
        let t : Solo := { s with registry := s.registry.map (·.count (.cacheLookup .persisted)) }
        have hbeside : s.Beside t := ⟨rfl, rfl, rfl, World.Agrees.refl s.world⟩
        refine ensures_bind_ok (solo_count _) ?_
        have hpopulate := hc.ensures_populate (h := h) (s := t) hs hload form
        cases hwrite : Json.write Json.compact form with
        | error u =>
          rw [hwrite] at hpopulate
          refine hpopulate.bind (fun _ v hv => by cases hv.2) fun e v hv => ?_
          obtain ⟨hv, he⟩ := hv
          cases he
          exact ⟨hbeside.trans hv, .inl ⟨_, .inr ⟨rules, u, rfl, rfl, rfl⟩, rfl⟩⟩
        | ok text =>
          rw [hwrite] at hpopulate
          refine hpopulate.bind (fun _ v hv => ?_) fun e v hv => by cases hv.2
          exact ensures_pure ⟨hbeside.trans hv.1, .inr ⟨by simp, rfl⟩⟩

/-- A lookup of a caller who is alone is answered what is offered, unless it slips. -/
theorem ensures_lookUp (hc : c.Bears s.world user) (hcache : s.cache = c) (hs : s.world.IsConnected)
    (hnames : s.world.HasTextNames) (hfree : s.Free) (huser : user.isText = true) :
    (c.lookUp user).Ensures .call s fun r s' => s.Beyond s' ∧
      ((∃ f, c.Slips s.world user f ∧ r = .error (.failure f)) ∨
        (∀ f, ¬c.Slips s.world user f) ∧ r = c.offered s.world user) := by
  refine hfree.ensures_beyond ?_
  refine (hc.ensures_cached hs).bind (fun found t ht => ?_) fun e t ht => ?_
  · obtain ⟨hbeside, hforms, ⟨f, -, hf⟩ | ⟨hentry, hfound⟩⟩ := ht
    · cases hf
    have hfree' := hbeside.free hfree
    cases hfound
    cases hcached : s.world.cachedRules? user with
    | some rules =>
      refine ensures_bind_ok (solo_count _) (ensures_pure ⟨hbeside.cache, hbeside.world,
        hfree'.joined, .inr ⟨?_, ?_⟩⟩)
      · rintro f (hslip | ⟨hnone, -⟩)
        · exact hentry f hslip
        · rw [hcached] at hnone
          cases hnone
      · rw [offered, hcached]
        rfl
    | none =>
      -- The record is the one that was there before the cache was asked.
      have hform := hbeside.world.formFor_eq hforms user
      have hcompiled : compiled t.world user = compiled s.world user := by
        rw [compiled, compiled, hbeside.world.readContext_eq]
      refine (ensures_join (hbeside.cache.trans hcache) hfree' fun _ desk hload =>
        ensures_load (s := { t with desk }) (hc.of_agrees hbeside.world) Helper.gathers_load
          (hs.of_agrees hbeside.world) (hbeside.world.hasTextNames hnames) huser hload
          hfree'.joined).mono fun r u hu => ?_
      obtain ⟨_, _, x, ⟨hbeside', hr⟩, rfl⟩ := hu
      refine ⟨hbeside'.cache.trans hbeside.cache, hbeside.world.trans hbeside'.world,
        hbeside'.joined.trans hfree'.joined, hr.imp ?_ ?_⟩
      · rintro ⟨f, hslip, rfl⟩
        exact ⟨f, .inr ⟨hcached, hslip.congr hform.symm⟩, rfl⟩
      · rintro ⟨hslip, rfl⟩
        refine ⟨?_, ?_⟩
        · rintro f (hslip' | ⟨-, hslip'⟩)
          · exact hentry f hslip'
          · exact hslip f (hslip'.congr hform)
        · simp only [offered, hcached, Option.none_or, World.writtenRules?, hform, hcompiled]
  · obtain ⟨hbeside, -, ⟨f, hslip, hf⟩ | ⟨-, hf⟩⟩ := ht
    · cases hf
      exact ⟨hbeside.cache, hbeside.world, hbeside.joined.trans hfree.joined,
        .inl ⟨f, .inl hslip, rfl⟩⟩
    · cases hf

end Cache.Bears

end HouseholdAccess
