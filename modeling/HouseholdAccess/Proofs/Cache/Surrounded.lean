import HouseholdAccess.Proofs.Cache.Denied
import HouseholdAccess.Proofs.Cache.Fallback

/-!
# Looking up while others are at work

While others are at work, each access of a lookup may meet another world. What it is replied
is what one of the worlds performs that there are meanwhile (`Exchange.IsWithin`).

With a shared cache, asking the cache comes to what it offers unless the entry slips
(`Cache.Finds`), and only if it offers nothing a load is joined
(`Cache.keeps_lookUp_within`). With a database, a load that is told the roles comes to what
the record says, or else to what it has compiled, unless the record slips
(`Cache.keeps_load_within`).
-/

namespace HouseholdAccess

open HouseholdAccess.Flow

variable {W : World → Prop} {R : Exchange → Prop} {c : Cache} {user : Id} {load : Nat}
  {tr : List Exchange}

/-- What an access is replied is what one of the worlds performs. -/
def Exchange.IsWithin (W : World → Prop) (e : Exchange) : Prop :=
  match e.op, e.reply with
  | .access a, reply => ∃ w, W w ∧ reply = ((w.begin a).perform a).1.mapError .failure
  | _, _ => True

namespace Cache

/-- What asking the cache in one world comes to, if an entry is taken out in another one. -/
def Finds (c : Cache) (w w' : World) (user : Id) (r : Except Interruption (Option RuleSet)) :
    Prop :=
  (∃ f, c.EntrySlip w w' user f ∧ r = .error (.failure f)) ∨
    (∀ f, ¬c.EntrySlip w w' user f) ∧ r = .ok (w.cachedRules? user)

/-- What a load comes to that reads the record in a world: what the record says, or else what the
    load has compiled. -/
def LoadsFrom (c : Cache) (w : World) (user : Id) (tr : List Exchange)
    (r : Except Interruption RuleSet) : Prop :=
  (∃ f, c.RecordSlip w user f ∧ r = .error (.failure f)) ∨
    (∀ f, ¬c.RecordSlip w user f) ∧ ∃ rules, r = .ok rules ∧
      (w.writtenRules? c.store user = some rules ∨
        w.writtenRules? c.store user = none ∧ Compiled user tr rules)

/-- What a load does with what it has read on the record. -/
theorem keeps_loadFrom_within (hendures : c.Endures user load R)
    (hkept : ∀ {time source}, ¬R ⟨time, source, .isOvertaken load, true⟩)
    (huser : user.isText = true) {w : World} (hw : W w) {form : Option Value}
    (hreading : c.store.reading (w.formFor user) = .ok form) :
    (c.loadFrom user load form).Keeps R AtWill (fun tr r => ∃ w, W w ∧ c.LoadsFrom w user tr r)
      tr := by
  have hwritten : w.writtenRules? c.store user =
      form.bind fun form => (Packed.unpack form).toOption := by
    rw [World.writtenRules?, hreading]
    rfl
  -- If the record says nothing, the load comes to what it compiles.
  have hcompile (hslip : ∀ f, ¬c.RecordSlip w user f)
      (hnone : w.writtenRules? c.store user = none) : (c.compileAndKeep user load).Keeps R AtWill
        (fun tr r => ∃ w, W w ∧ c.LoadsFrom w user tr r) tr := by
    refine (hendures.keeps_compileAndKeep huser).mono ?_
    rintro _ _ ⟨rules, rfl, hcompiled⟩
    exact ⟨w, hw, .inr ⟨hslip, rules, rfl, .inr ⟨hnone, hcompiled⟩⟩⟩
  cases form with
  | none => exact hcompile (not_recordSlip_none hreading) hwritten
  | some form =>
    have hslips {f : Failure} := recordSlip_iff hreading (f := f)
    rw [Option.bind_some] at hwritten
    rw [loadFrom]
    cases hunpack : Packed.unpackWithin loadRoom form with
    | error e =>
      cases e with
      | tooDeep o => exact keeps_fail ⟨w, hw, .inl ⟨_, hslips.2 (.inl ⟨o, hunpack, rfl⟩), rfl⟩⟩
      | malformed fault =>
        rw [(Packed.unpackWithin_eq_malformed_iff.1 hunpack).1] at hwritten
        exact hcompile (fun f => by simp [hslips, hunpack]) hwritten
    | ok rules =>
      rw [(Packed.unpackWithin_eq_ok_iff.1 hunpack).1] at hwritten
      refine keeps_bind (keeps_step _ trivial fun _ _ _ _ => ?_)
      refine keeps_bind ((hendures.keeps_populate form).mono fun tr r hr => ?_)
      have hwrite : r = ((Json.write Json.compact form).map fun _ => ()).mapError fun u =>
          .failure (.unwritable u) :=
        hr.resolve_left (by
          rintro ⟨_, _, _, hovertaken⟩
          exact hkept hovertaken)
      cases hu : Json.write Json.compact form with
      | ok text =>
        rw [hu] at hwrite
        subst hwrite
        exact keeps_pure ⟨w, hw, .inr ⟨fun f => by simp [hslips, hunpack, hu], rules, rfl,
          .inl hwritten⟩⟩
      | error u =>
        rw [hu] at hwrite
        subst hwrite
        exact ⟨w, hw, .inl ⟨_, hslips.2 (.inr ⟨rules, u, hunpack, hu, rfl⟩), rfl⟩⟩

end Cache

/-! ## Single accesses -/

section Within

variable (hR : ∀ e, R e → e.IsWithin W)
include hR

/-- An access that is not counted, after which something else is given if it is refused. -/
theorem Flow.keeps_recover_within {a : Access} (ha : ∀ w : World, w.begin a = w) (b : a.Answer) :
    ((access a).recover fun _ => pure b).Keeps R AtWill
      (fun _ r => ∃ w, W w ∧ r = .ok ((w.perform a).1.toOption.getD b)) tr := by
  refine ⟨trivial, fun time source reply h => ?_⟩
  obtain ⟨w, hw, rfl⟩ := hR _ h
  rw [ha]
  cases hperform : (w.perform a).1 with
  | ok answer => exact keeps_pure ⟨w, hw, by rw [hperform]; rfl⟩
  | error f => exact keeps_pure ⟨w, hw, by rw [hperform]; rfl⟩

/-- A shared cache that cannot be asked has no entry. -/
theorem CacheKind.keeps_get_within : (CacheKind.shared.get user).Keeps R AtWill
    (fun _ r => ∃ w, W w ∧ r = .ok (w.textFor user)) tr := by
  refine (keeps_recover_within hR (a := .cacheGet user) (fun _ => rfl) none).mono ?_
  rintro _ _ ⟨w, hw, rfl⟩
  refine ⟨w, hw, congrArg _ ?_⟩
  rw [World.textFor]
  cases (w.perform (.cacheGet user)).1 <;> rfl

/-- That an entry cannot be taken out reaches the caller. -/
theorem CacheKind.keeps_delete_within : (CacheKind.shared.delete user).Keeps R AtWill
    (fun _ r => ∃ w, W w ∧ r = (w.perform (.cacheDelete user)).1.mapError fun f =>
      .failure (CacheKind.shared.refusal user f)) tr := by
  refine ⟨trivial, fun time source reply h => ?_⟩
  obtain ⟨w, hw, rfl⟩ := hR _ h
  rw [show w.begin (.cacheDelete user) = w from rfl]
  cases hperform : (w.perform (.cacheDelete user)).1 with
  | ok answer => exact keeps_pure ⟨w, hw, by rw [hperform]; rfl⟩
  | error f => exact keeps_fail ⟨w, hw, by rw [hperform]; rfl⟩

/-- A database that cannot be asked says nothing. -/
theorem StoreKind.keeps_load_within : (StoreKind.database.load user).Keeps R AtWill
    (fun _ r => ∃ w, W w ∧ r = (StoreKind.database.reading (w.formFor user)).mapError .failure)
    tr := by
  refine Keeps.bind (keeps_recover_within hR (a := .load user) (fun _ => rfl) none) ?_ ?_
  · rintro tr form ⟨w, hw, hform⟩
    replace hform : form = w.formFor user := by
      rw [World.formFor, Except.ok.inj hform]
      cases (w.perform (.load user)).1 <;> rfl
    subst hform
    refine Keeps.mono (?_ : Keeps R AtWill
      (fun _ r => r = (StoreKind.database.reading (w.formFor user)).mapError .failure) _ tr)
      fun _ _ hr => ⟨w, hw, hr⟩
    cases w.formFor user with
    | none => exact keeps_pure rfl
    | some v =>
      refine keeps_ofExcept (fun value hvalue => ?_) fun f hf => ?_
      · rw [reading, hvalue]
        rfl
      · rw [reading, hf]
        rfl
  · rintro _ _ ⟨_, -, hr⟩
    cases hr

/-! ## Looking up -/

namespace Cache

/-- Asking a shared cache comes to what it offers, unless the entry slips. -/
theorem keeps_cached_within (hkind : c.kind = .shared) : (c.cached user).Keeps R AtWill
    (fun _ r => ∃ w w', W w ∧ W w' ∧ c.Finds w w' user r) tr := by
  rw [cached, hkind]
  refine Keeps.bind (CacheKind.keeps_get_within hR) ?_ ?_
  · rintro tr text ⟨w, hw, htext⟩
    replace htext : w.textFor user = text := (Except.ok.inj htext).symm
    have hcached : w.cachedRules? user =
        text.bind fun text => (Packed.loads (.text text)).toOption := by
      rw [World.cachedRules?, htext]
    cases text with
    | none =>
      exact keeps_pure ⟨w, w, hw, hw, .inr ⟨not_entrySlip_none htext, congrArg _ hcached.symm⟩⟩
    | some text =>
      dsimp only
      rw [Option.bind_some] at hcached
      cases hloads : Packed.loads (.text text) with
      | ok rules =>
        rw [hloads] at hcached
        exact keeps_pure ⟨w, w, hw, hw, .inr
          ⟨fun f => by simp [entrySlip_iff htext, hloads], congrArg _ hcached.symm⟩⟩
      | error fault =>
        rw [hloads] at hcached
        cases fault with
        | tooDeep o => exact keeps_fail ⟨w, w, hw, hw, .inl ⟨_, .tooDeep htext hloads, rfl⟩⟩
        | malformed fault =>
          refine Keeps.bind (CacheKind.keeps_delete_within hR) ?_ ?_
          · rintro _ b ⟨w', hw', hb⟩
            refine keeps_pure ⟨w, w', hw, hw', .inr ⟨fun f => ?_, congrArg _ hcached.symm⟩⟩
            rw [entrySlip_iff htext]
            rintro (⟨o, hloads', -⟩ | ⟨-, g, -, hdelete, -⟩)
            · rw [hloads] at hloads'
              cases hloads'
            · rw [hdelete] at hb
              cases hb
          · rintro _ x ⟨w', hw', hx⟩
            cases hdelete : (w'.perform (.cacheDelete user)).1 with
            | ok b =>
              rw [hdelete] at hx
              cases hx
            | error f =>
              rw [hdelete] at hx
              cases hx
              exact ⟨w, w', hw, hw', .inl ⟨_, hkind ▸ .stuck htext hloads hdelete, rfl⟩⟩
  · rintro _ _ ⟨_, -, hr⟩
    cases hr

/-- With a shared cache, a lookup comes to what the cache offers, or, if it offers nothing, to what
    the load has come to that has been joined, unless the entry slips. -/
theorem keeps_lookUp_within (hkind : c.kind = .shared) : (c.lookUp user).Keeps R AtWill
    (fun tr r => ∃ w w' found, W w ∧ W w' ∧ c.Finds w w' user found ∧
      ((∃ x, found = .error x ∧ r = .error x) ∨
        (∃ rules, found = .ok (some rules) ∧ r = .ok rules) ∨
        found = .ok none ∧ ∃ n time source time' source',
          ⟨time, source, .joinLoad user, n⟩ ∈ tr ∧ ⟨time', source', .awaitLoad n, r⟩ ∈ tr)) tr := by
  refine Keeps.bind (keeps_cached_within hR hkind) ?_ ?_
  · rintro tr found ⟨w, w', hw, hw', hfinds⟩
    cases found with
    | some rules =>
      refine keeps_bind (keeps_step _ trivial fun _ _ _ _ => ?_)
      exact keeps_pure ⟨w, w', _, hw, hw', hfinds, .inr (.inl ⟨rules, rfl, rfl⟩)⟩
    | none =>
      refine keeps_bind (keeps_step _ trivial fun time source n _ => ?_)
      refine keeps_perform _ trivial fun time' source' reply _ => ?_
      refine ⟨w, w', _, hw, hw', hfinds,
        .inr (.inr ⟨rfl, n, time, source, time', source', ?_, ?_⟩)⟩
      · simp
      · simp
  · rintro tr x ⟨w, w', hw, hw', hfinds⟩
    exact ⟨w, w', _, hw, hw', hfinds, .inl ⟨x, rfl, rfl⟩⟩

/-- With a shared cache and a database, a load that is told the roles and is not overtaken comes to
    what the record says, or else to what it has compiled, unless the record slips. -/
theorem keeps_load_within (hkind : c.kind = .shared) (hstore : c.store = .database)
    (huser : user.isText = true) (hsound : ∀ e, R e → e.IsSound)
    (htold : ∀ e, R e → e.deniesRoles = false)
    (hkept : ∀ {time source}, ¬R ⟨time, source, .isOvertaken load, true⟩) :
    (c.load user load).Keeps R AtWill (fun tr r => ∃ w, W w ∧ c.LoadsFrom w user tr r) [] := by
  have hendures : c.Endures user load R :=
    ⟨hsound, htold, fun _ => hkind, fun _ => hstore, fun h => absurd h hkept⟩
  rw [load_eq_bind]
  refine keeps_bind ?_
  rw [hstore]
  refine (StoreKind.keeps_load_within hR).mono ?_
  rintro tr form ⟨w, hw, rfl⟩
  cases hreading : StoreKind.database.reading (w.formFor user) with
  | error f =>
    rw [← hstore] at hreading
    exact ⟨w, hw, .inl ⟨f, .unreadable hreading, rfl⟩⟩
  | ok form =>
    rw [← hstore] at hreading
    exact keeps_loadFrom_within hendures hkept huser hw hreading

end Cache

end Within

end HouseholdAccess
