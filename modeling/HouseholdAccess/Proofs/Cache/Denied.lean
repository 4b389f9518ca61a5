import HouseholdAccess.Proofs.Cache.Shape
import HouseholdAccess.Proofs.Cache.Undisturbed

/-!
# Loads that are denied role data

A load may be *denied* role data at any time while it reads (`Denied`): its questions for
the roles of the user or for the users whom the user manages are refused, one of its
errands fails, or a record cannot be read. Whatever else happens, such a load has not
written anything, writes nothing any more, and fails for want of role data
(`Cache.keeps_load_denied`).

A load that is *served* (`Exchange.Serves`) is not denied anything, and finds nothing on
the record that it could unpack. It comes to the rule set that it has compiled, unless what
it has found on the record is too deep to be read (`Cache.keeps_load_served`).
-/

namespace HouseholdAccess

variable {α : Type} {R : Exchange → Prop} {G : List Exchange → Operation → Prop}
  {user : Id} {load : Nat} {tr : List Exchange}

/-! ## What is denied -/

namespace Operation

/-- The operation asks for role data. -/
def AsksRoles : Operation → Prop
  | .access (.roles _) | .access (.managed _) | .each .. => True
  | _ => False

/-- The operation writes on a record or changes the cache. -/
def Writes : Operation → Prop
  | .access (.save ..) | .access (.clear _) | .access (.cacheSet ..) | .access (.cacheDelete _) =>
    True
  | _ => False

/-- The operation leaves no trace outside: it asks for role data, or counts. -/
def LeavesNoTrace : Operation → Prop
  | .access (.roles _) | .access (.managed _) | .count _ => True
  | .each errand _ => errand ≠ .invalidate
  | _ => False

end Operation

namespace Exchange

/-- What is refused is refused for a failure. -/
def IsHonest (e : Exchange) : Prop :=
  match e.op, e.reply with
  | .access _, .error x => ∃ f, x = .failure f
  | .each .., .error x => ∃ f, x = .failure f
  | _, _ => True

/-- Whether role data is refused, or a record cannot be read. -/
def deniesRoles (e : Exchange) : Bool :=
  match e.op, e.reply with
  | .access (.roles _), .ok records => records.any fun r => !r.read.isOk
  | .access (.roles _), .error _ | .access (.managed _), .error _ | .each .., .error _ => true
  | _, _ => false

/-- What asks for no role data is not denied any. -/
theorem deniesRoles_of_not_asksRoles {e : Exchange} (h : ¬e.op.AsksRoles) :
    e.deniesRoles = false := by
  unfold deniesRoles
  split
  · next hop _ => exact absurd (hop ▸ trivial) h
  · next hop _ => exact absurd (hop ▸ trivial) h
  · next hop _ => exact absurd (hop ▸ trivial) h
  · next hop _ => exact absurd (hop ▸ trivial) h
  · rfl

end Exchange

/-- Role data has been denied. -/
def Denied (tr : List Exchange) : Prop := ∃ e ∈ tr, e.deniesRoles = true

/-- Something has been written. -/
def Wrote (tr : List Exchange) : Prop := ∃ e ∈ tr, e.op.Writes

theorem not_denied_snoc {e : Exchange} (h : ¬Denied tr) (he : e.deniesRoles = false) :
    ¬Denied (tr ++ [e]) := by
  rintro ⟨e', he', hdenies⟩
  rcases List.mem_append.1 he' with he' | he'
  · exact h ⟨e', he', hdenies⟩
  · rw [List.mem_singleton.1 he', he] at hdenies
    cases hdenies

theorem not_wrote_snoc {e : Exchange} (h : ¬Wrote tr) (he : ¬e.op.Writes) : ¬Wrote (tr ++ [e]) := by
  rintro ⟨e', he', hwrites⟩
  rcases List.mem_append.1 he' with he' | he'
  · exact h ⟨e', he', hwrites⟩
  · exact he (List.mem_singleton.1 he' ▸ hwrites)

/-- A load that has been denied role data, or waits for some, has not written anything, and leaves
    no trace. -/
def Abstains (tr : List Exchange) (op : Operation) : Prop :=
  Denied tr ∨ (∃ errand ids, op = .each errand ids) → ¬Wrote tr ∧ op.LeavesNoTrace

/-- It has failed because role data cannot be read. -/
def IsUnavailable (r : Except Interruption α) : Prop :=
  ∃ f : ServiceFailure, r = .error (.failure (.service f)) ∧ f.kind = .roleDataUnavailable

/-- A load that has been denied role data fails for want of it, and has not written anything. -/
def FailsDenied (tr : List Exchange) (r : Except Interruption α) : Prop :=
  Denied tr → ¬Wrote tr ∧ IsUnavailable r

/-! ## Parts that ask for no role data -/

open HouseholdAccess.Flow

/-- What each operation of a kind keeps is kept by a flow of such operations. -/
theorem Flow.Only.keeps {P : Operation → Prop} {I : List Exchange → Prop} {flow : Flow α}
    (hflow : flow.Only P) (htr : I tr) (hG : ∀ tr op, I tr → P op → G tr op)
    (hI : ∀ tr e, I tr → P e.op → I (tr ++ [e])) : flow.Keeps R G (fun tr' _ => I tr') tr := by
  rw [Flow.Only] at hflow
  rw [Flow.Keeps]
  generalize flow.run = p at hflow
  induction p generalizing tr with
  | done a => exact htr
  | call op next ih =>
    exact ⟨hG tr op htr hflow.1,
      fun time source reply _ => ih reply (hI tr _ htr hflow.1) (hflow.2 reply)⟩

/-- A part that asks for no role data may do what it likes as long as none has been denied. -/
theorem abstains_of_not_denied {op : Operation} (htr : ¬Denied tr) (hop : ¬op.AsksRoles) :
    Abstains tr op := by
  rintro (hdenied | ⟨errand, ids, rfl⟩)
  · exact absurd hdenied htr
  · exact absurd trivial hop

/-- A part that asks for no role data is not denied any. -/
theorem Flow.Only.keeps_not_denied {flow : Flow α} (hflow : flow.Only fun op => ¬op.AsksRoles)
    (htr : ¬Denied tr) : flow.Keeps R Abstains (fun tr' _ => ¬Denied tr') tr :=
  hflow.keeps htr (fun _ _ => abstains_of_not_denied)
    fun _ _ htr hop => not_denied_snoc htr (Exchange.deniesRoles_of_not_asksRoles hop)

/-- A part that neither asks for role data nor writes is not denied any and has not written. -/
theorem Flow.Only.keeps_blank {flow : Flow α}
    (hflow : flow.Only fun op => ¬op.AsksRoles ∧ ¬op.Writes) (hdenied : ¬Denied tr)
    (hwrote : ¬Wrote tr) : flow.Keeps R Abstains (fun tr' _ => ¬Denied tr' ∧ ¬Wrote tr') tr :=
  hflow.keeps (I := fun tr => ¬Denied tr ∧ ¬Wrote tr) ⟨hdenied, hwrote⟩
    (fun _ _ htr hop => abstains_of_not_denied htr.1 hop.1)
    fun _ _ htr hop => ⟨not_denied_snoc htr.1 (Exchange.deniesRoles_of_not_asksRoles hop.1),
      not_wrote_snoc htr.2 hop.2⟩

/-! ## Compiling -/

namespace Flow

variable {a : Access} {Q : List Exchange → Except Interruption a.Answer → Prop}

/-- An access is answered, or refused for a failure. -/
theorem keeps_access_honest (hG : G tr (.access a))
    (hok : ∀ time source answer,
      Q (tr ++ [⟨time, source, .access a, .ok answer⟩]) (.ok answer))
    (herror : ∀ time source f,
      Q (tr ++ [⟨time, source, .access a, .error (.failure f)⟩]) (.error (.failure f))) :
    (access a).Keeps Exchange.IsHonest G Q tr := by
  refine ⟨hG, fun time source reply hhonest => ?_⟩
  cases reply with
  | ok answer => exact hok time source answer
  | error x =>
    obtain ⟨f, rfl⟩ := hhonest
    exact herror time source f

end Flow

/-- Nothing has been written. What has been asked for has been told, or something has failed. -/
structure HasRead (tr : List Exchange) (r : Except Interruption α) : Prop where
  notWrote : ¬Wrote tr
  told : ∀ a, r = .ok a → ¬Denied tr
  failure : ∀ x, r = .error x → ∃ f, x = .failure f

theorem hasRead_error (h : ¬Wrote tr) (f : Failure) :
    HasRead tr (.error (.failure f) : Except Interruption α) :=
  ⟨h, nofun, fun _ hx => ⟨f, (Except.error.inj hx).symm⟩⟩

theorem hasRead_ok {a : α} (hwrote : ¬Wrote tr) (hdenied : ¬Denied tr) :
    HasRead tr (.ok a : Except Interruption α) :=
  ⟨hwrote, fun _ _ => hdenied, nofun⟩

/-- Nothing has been written. What has been asked for has been told, or the role data cannot be
    read. -/
def HasReadOrFails (tr : List Exchange) (r : Except Interruption α) : Prop :=
  ¬Wrote tr ∧ ((∃ a, r = .ok a) ∧ ¬Denied tr ∨ IsUnavailable r)

namespace UserContext

/-- Where the households that the user runs are known, all records can be read. -/
theorem exists_read_of_managedHouseholds {records : List RoleRecord} {managing : List Id}
    (h : managedHouseholds records = .ok managing) : ∀ r ∈ records, ∃ m, r.read = .ok m := by
  obtain ⟨named, hnamed, -⟩ := exists_of_bind_eq_ok h
  intro r hr
  obtain ⟨m, -, hm⟩ := exists_mem_of_mapM_eq_ok hnamed r hr
  exact ⟨_, RoleRecord.named_eq_ok.1 hm⟩

theorem keeps_ask_denied (hdenied : ¬Denied tr) (hwrote : ¬Wrote tr) :
    (ask user).Keeps Exchange.IsHonest Abstains HasRead tr := by
  refine keeps_bind (keeps_access_honest (fun _ => ⟨hwrote, trivial⟩)
    (fun time source records => ?_) fun time source f => hasRead_error (not_wrote_snoc hwrote id) f)
  replace hwrote := not_wrote_snoc (e := ⟨time, source, .access (.roles user), .ok records⟩)
    hwrote id
  refine keeps_bind (keeps_access_honest (fun _ => ⟨hwrote, trivial⟩)
    (fun time' source' managed => ?_)
    fun time source f => hasRead_error (not_wrote_snoc hwrote id) f)
  replace hwrote := not_wrote_snoc (e := ⟨time', source', .access (.managed user), .ok managed⟩)
    hwrote id
  refine keeps_bind (keeps_ofExcept (fun households _ => ?_) fun f _ => hasRead_error hwrote f)
  refine keeps_bind (keeps_ofExcept (fun managing hmanaging => ?_)
    fun f _ => hasRead_error hwrote f)
  -- Only here it is known that all records can be read.
  have hread := exists_read_of_managedHouseholds hmanaging
  have hreadable : (records.any fun r => !r.read.isOk) = false := by
    rw [List.any_eq_false]
    intro r hr
    obtain ⟨m, hm⟩ := hread r hr
    simp [hm, Except.isOk, Except.toBool]
  replace hdenied := not_denied_snoc (e := ⟨time', source', .access (.managed user), .ok managed⟩)
    (not_denied_snoc (e := ⟨time, source, .access (.roles user), .ok records⟩) hdenied hreadable)
    rfl
  have hmembers : Errand.members ≠ .invalidate := fun h => by cases h
  refine keeps_bind (keeps_perform _ (fun _ => ⟨hwrote, hmembers⟩)
    fun time source reply hhonest => ?_)
  cases reply with
  | error x =>
    obtain ⟨f, rfl⟩ := hhonest
    exact hasRead_error (not_wrote_snoc hwrote id) f
  | ok members =>
    replace hwrote := not_wrote_snoc
      (e := ⟨time, source, .each .members (Policy.distinct households), .ok members⟩) hwrote id
    replace hdenied := not_denied_snoc
      (e := ⟨time, source, .each .members (Policy.distinct households), .ok members⟩) hdenied rfl
    have haiUsers : Errand.aiUsers ≠ .invalidate := fun h => by cases h
    refine keeps_bind (keeps_perform _ (fun _ => ⟨hwrote, haiUsers⟩)
      fun time source reply hhonest => ?_)
    cases reply with
    | error x =>
      obtain ⟨f, rfl⟩ := hhonest
      exact hasRead_error (not_wrote_snoc hwrote id) f
    | ok aiUsers =>
      replace hwrote := not_wrote_snoc
        (e := ⟨time, source, .each .aiUsers managing, .ok aiUsers⟩) hwrote id
      replace hdenied := not_denied_snoc
        (e := ⟨time, source, .each .aiUsers managing, .ok aiUsers⟩) hdenied rfl
      exact keeps_ofExcept (fun c _ => hasRead_ok hwrote hdenied) fun f _ => hasRead_error hwrote f

theorem exists_of_saysUnavailable {f : Failure} (h : saysUnavailable f = true) :
    ∃ g : ServiceFailure, f = .service g ∧ g.kind = .roleDataUnavailable := by
  cases f with
  | service g => exact ⟨g, rfl, of_decide_eq_true h⟩
  | _ => cases h

/-- Whatever fails while the context is read, what is reported is that it cannot be read. -/
theorem keeps_fetch_denied (hdenied : ¬Denied tr) (hwrote : ¬Wrote tr) :
    (fetch user).Keeps Exchange.IsHonest Abstains HasReadOrFails tr := by
  refine Keeps.recover (keeps_ask_denied hdenied hwrote) (fun tr c h => ?_) (fun tr f h => ?_)
    fun tr h => ?_
  · exact ⟨h.notWrote, .inl ⟨⟨c, rfl⟩, h.told c rfl⟩⟩
  · refine keeps_fail ⟨h.notWrote, .inr ?_⟩
    split
    · next hsays =>
      obtain ⟨g, rfl, hkind⟩ := exists_of_saysUnavailable hsays
      exact ⟨g, rfl, hkind⟩
    · exact ⟨_, rfl, rfl⟩
  · obtain ⟨f, hf⟩ := h.failure _ rfl
    cases hf

end UserContext

namespace Cache

variable (c : Cache)

/-- What compiling reports is what reading the context reports. -/
theorem keeps_compile_denied (hdenied : ¬Denied tr) (hwrote : ¬Wrote tr) :
    (compile user).Keeps Exchange.IsHonest Abstains HasReadOrFails tr := by
  have hcount (series : Series) {tr : List Exchange} (hwrote : ¬Wrote tr) :
      Abstains tr (.count series) := fun _ => ⟨hwrote, trivial⟩
  have hfetch : ((UserContext.fetch user).recover fun f => do
      if UserContext.saysUnavailable f then count (.compilation false)
      fail f).Keeps Exchange.IsHonest Abstains HasReadOrFails tr := by
    refine Keeps.recover (UserContext.keeps_fetch_denied hdenied hwrote) (fun _ _ => id)
      (fun tr f h => ?_) fun tr h => h
    rcases h.2 with ⟨⟨_, hr⟩, -⟩ | hunavailable
    · cases hr
    · split
      · refine keeps_bind (keeps_step _ (hcount _ h.1) fun time source reply _ => ?_)
        exact keeps_fail ⟨not_wrote_snoc h.1 id, .inr hunavailable⟩
      · exact keeps_fail ⟨h.1, .inr hunavailable⟩
  refine Keeps.bind hfetch (fun tr context h => ?_) fun tr e h => ?_
  · rcases h.2 with ⟨-, hdenied⟩ | ⟨_, hr, -⟩
    · refine keeps_bind (keeps_step _ (hcount _ h.1) fun time source reply _ => ?_)
      have hwrote := not_wrote_snoc (e := ⟨time, source, .count (.compilation true), reply⟩) h.1 id
      refine keeps_bind (keeps_step _ (hcount _ hwrote) fun time' source' reply' _ => ?_)
      exact keeps_pure ⟨not_wrote_snoc hwrote id,
        .inl ⟨⟨_, rfl⟩, not_denied_snoc (not_denied_snoc hdenied rfl) rfl⟩⟩
    · cases hr
  · refine ⟨h.1, .inr ?_⟩
    rcases h.2 with ⟨⟨_, hr⟩, -⟩ | ⟨f, hr, hkind⟩
    · cases hr
    · cases hr
      exact ⟨f, rfl, hkind⟩

theorem failsDenied_of_not_denied {r : Except Interruption α} (h : ¬Denied tr) :
    FailsDenied tr r := fun hdenied => absurd hdenied h

theorem keeps_compileAndKeep_denied (hdenied : ¬Denied tr) (hwrote : ¬Wrote tr) :
    (c.compileAndKeep user load).Keeps Exchange.IsHonest Abstains FailsDenied tr := by
  refine keeps_bind (keeps_step _ (fun _ => ⟨hwrote, trivial⟩) fun time source _ _ => ?_)
  refine Keeps.bind (keeps_compile_denied (not_denied_snoc hdenied rfl)
    (not_wrote_snoc hwrote id)) (fun tr rules h => ?_) fun tr e h => ?_
  · rcases h.2 with ⟨-, hdenied⟩ | ⟨_, hr, -⟩
    · have hkeep : (c.keep user load rules).Only fun op => ¬op.AsksRoles :=
        c.only_keep user load id (fun _ => id) id (fun _ _ => id) rules
      exact (hkeep.keeps_not_denied hdenied).mono fun _ _ => failsDenied_of_not_denied
    · cases hr
  · rcases h.2 with ⟨⟨_, hr⟩, -⟩ | hunavailable
    · cases hr
    · obtain ⟨f, hr, hkind⟩ := hunavailable
      cases hr
      exact fun _ => ⟨h.1, f, rfl, hkind⟩

/-- A load that is denied role data writes nothing, and fails for want of it. -/
theorem keeps_load_denied :
    (c.load user load).Keeps Exchange.IsHonest Abstains FailsDenied [] := by
  have hdenied : ¬Denied [] := fun ⟨_, h, _⟩ => by cases h
  have hwrote : ¬Wrote [] := fun ⟨_, h, _⟩ => by cases h
  have hload : (c.store.load user).Only fun op => ¬op.AsksRoles ∧ ¬op.Writes :=
    c.store.only_load ⟨id, id⟩
  rw [load_eq_bind]
  refine Keeps.bind (hload.keeps_blank hdenied hwrote) (fun tr form h => ?_)
    fun tr e h => failsDenied_of_not_denied h.1
  cases form with
  | none => exact c.keeps_compileAndKeep_denied h.1 h.2
  | some form =>
    rw [loadFrom]
    split
    · exact c.keeps_compileAndKeep_denied h.1 h.2
    · exact keeps_fail (failsDenied_of_not_denied h.1)
    · -- What is found on the record is put into the cache, and no role data is asked for.
      have hpopulate : (c.populate user form load).Only fun op => ¬op.AsksRoles :=
        c.only_populate user load id (fun _ _ => id) form
      refine keeps_bind (keeps_step _ (fun _ => ⟨h.2, trivial⟩) fun time source _ _ => ?_)
      exact Keeps.bind (hpopulate.keeps_not_denied (not_denied_snoc h.1 rfl))
        (fun _ _ h => keeps_pure (failsDenied_of_not_denied h))
        fun _ _ h => failsDenied_of_not_denied h

end Cache

/-! ## What is served -/

/-- Whether the access may be refused without failing a load. -/
def Cache.bears (c : Cache) : Access → Bool
  | .load _ | .save .. => c.store = .database
  | .cacheSet .. => c.kind = .shared
  | _ => false

namespace Exchange

/-- Whether what is refused, if anything is, may be refused. -/
def isBorne (c : Cache) (e : Exchange) : Bool :=
  match e.op, e.reply with
  | .access a, .error _ => c.bears a
  | _, _ => true

/-- Whether what is read on a record, if anything is, cannot be unpacked. -/
def tellsNothing (kind : StoreKind) (e : Exchange) : Bool :=
  match e.op, e.reply with
  | .access (.load _), .ok form =>
    match kind.reading form with
    | .ok (some v) => !(Packed.unpack v).isOk
    | _ => true
  | _, _ => true

/-- Names are texts, role data is told, nothing is read on the record that can be unpacked, and
    nothing is refused that must not be. -/
structure Serves (c : Cache) (e : Exchange) : Prop where
  sound : e.IsSound
  told : e.deniesRoles = false
  nothing : e.tellsNothing c.store = true
  borne : e.isBorne c = true

end Exchange

/-! ### Whether a load is served can be found out -/

instance decidableIsFailure (x : Interruption) : Decidable (∃ f, x = .failure f) :=
  match x with
  | .failure f => .isTrue ⟨f, rfl⟩
  | .cancelled => .isFalse nofun

instance Access.decidableNamesTexts : (a : Access) → (answer : a.Answer) →
    Decidable (a.NamesTexts answer)
  | .roles _, records => inferInstanceAs
      (Decidable (∀ r ∈ records, ∀ household ∈ r.household, household.isText = true))
  | .managed _, ids | .members _, ids | .aiUsers _, ids =>
    inferInstanceAs (Decidable (∀ id ∈ ids, id.isText = true))
  | .load _, _ | .save .., _ | .clear _, _ | .cacheGet _, _ | .cacheSet .., _ | .cacheDelete _, _
  | .cacheSize, _ | .cacheInfo, _ | .cachePing, _ | .cacheOpen, _ | .cacheClose, _
  | .storeStart, _ | .storeStop, _ | .storePing, _ | .brokerConnect, _ | .brokerSubscribe _, _ =>
    .isTrue trivial

namespace Exchange

instance decidableIsSound : DecidablePred IsSound := fun e =>
  match e with
  | ⟨_, _, .access a, .ok answer⟩ => inferInstanceAs (Decidable (a.NamesTexts answer))
  | ⟨_, _, .access _, .error x⟩ => inferInstanceAs (Decidable (∃ f, x = .failure f))
  | ⟨_, _, .each .., .ok lists⟩ =>
    inferInstanceAs (Decidable (∀ ids ∈ lists, ∀ id ∈ ids, id.isText = true))
  | ⟨_, _, .each .., .error _⟩ | ⟨_, _, .joinLoad _, _⟩ | ⟨_, _, .overtake _, _⟩
  | ⟨_, _, .isOvertaken _, _⟩ | ⟨_, _, .awaitLoad _, _⟩ | ⟨_, _, .count _, _⟩
  | ⟨_, _, .counted, _⟩ | ⟨_, _, .bind _, _⟩ | ⟨_, _, .unbind, _⟩ | ⟨_, _, .bound, _⟩
  | ⟨_, _, .time, _⟩ | ⟨_, _, .setConsuming _, _⟩ | ⟨_, _, .isConsuming, _⟩ => .isTrue trivial

instance decidableServes (c : Cache) : DecidablePred (Serves c) := fun e =>
  decidable_of_iff (e.IsSound ∧ e.deniesRoles = false ∧ e.tellsNothing c.store = true ∧
    e.isBorne c = true) ⟨fun h => ⟨h.1, h.2.1, h.2.2.1, h.2.2.2⟩,
      fun h => ⟨h.sound, h.told, h.nothing, h.borne⟩⟩

end Exchange

instance : DecidablePred Denied := fun tr =>
  inferInstanceAs (Decidable (∃ e ∈ tr, e.deniesRoles = true))

/-- What is read on a record is too deep, for its text to be read or for the rules to be. -/
def StoreKind.IsTooDeep (kind : StoreKind) (form : Option Value) (o : Obstacle) : Prop :=
  kind.reading form = .error (.tooDeep o) ∨ ∃ v, kind.reading form = .ok (some v) ∧
    Packed.unpackWithin Cache.loadRoom v = .error (.tooDeep o)

/-- A load has come to a rule set that it has compiled, or what it has read on the record is too
    deep. -/
def Cache.ComesTo (c : Cache) (user : Id) (tr : List Exchange) (r : Except Interruption RuleSet) :
    Prop :=
  (∃ rules, r = .ok rules ∧ Compiled user tr rules) ∨
    ∃ time source form o, ⟨time, source, .access (.load user), .ok form⟩ ∈ tr ∧
      c.store.IsTooDeep form o ∧ r = .error (.failure (.tooDeep o))

/-- A load may do what it likes. -/
def AtWill (_ : List Exchange) (_ : Operation) : Prop := True

/-- As long as replies are such as `R` says, a load of the user that compiles can bear them: names
    are texts, role data is told, and only what must not be refused is not. The record has to be
    wiped only if the load has been overtaken. -/
structure Cache.Endures (c : Cache) (user : Id) (load : Nat) (R : Exchange → Prop) : Prop where
  sound : ∀ e, R e → e.IsSound
  told : ∀ e, R e → e.deniesRoles = false
  set : ∀ {time source text seconds x},
    R ⟨time, source, .access (.cacheSet user text seconds), .error x⟩ → c.kind = .shared
  save : ∀ {time source form x},
    R ⟨time, source, .access (.save user form), .error x⟩ → c.store = .database
  clear : ∀ {time source}, R ⟨time, source, .isOvertaken load, true⟩ →
    ∀ {time source x}, ¬R ⟨time, source, .access (.clear user), .error x⟩

section Served

variable {c : Cache} {rules : RuleSet}

/-- What serves a load can be borne. -/
theorem Exchange.Serves.endures : c.Endures user load (Exchange.Serves c) where
  sound := fun _ h => h.sound
  told := fun _ h => h.told
  set := fun h => of_decide_eq_true h.borne
  save := fun h => of_decide_eq_true h.borne
  clear := fun _ _ _ _ h => by cases h.borne

namespace Flow

variable {a : Access} {Q : List Exchange → Except Interruption a.Answer → Prop}

/-- An access that must not be refused is answered. -/
theorem keeps_access_served (ha : c.bears a = false)
    (hok : ∀ time source answer, Exchange.Serves c ⟨time, source, .access a, .ok answer⟩ →
      Q (tr ++ [⟨time, source, .access a, .ok answer⟩]) (.ok answer)) :
    (access a).Keeps (Exchange.Serves c) AtWill Q tr := by
  refine ⟨trivial, fun time source reply hserves => ?_⟩
  cases reply with
  | ok answer => exact hok time source answer hserves
  | error x => exact absurd (ha.symm.trans hserves.borne) nofun

/-- An access after which a refusal is dealt with. -/
theorem keeps_access_recover_served {handle : Failure → Flow a.Answer}
    (hok : ∀ time source answer, Exchange.Serves c ⟨time, source, .access a, .ok answer⟩ →
      Q (tr ++ [⟨time, source, .access a, .ok answer⟩]) (.ok answer))
    (herror : ∀ f tr, (handle f).Keeps (Exchange.Serves c) AtWill Q tr) :
    ((access a).recover handle).Keeps (Exchange.Serves c) AtWill Q tr := by
  refine ⟨trivial, fun time source reply hserves => ?_⟩
  cases reply with
  | ok answer => exact hok time source answer hserves
  | error x =>
    obtain ⟨f, rfl⟩ := hserves.sound
    exact herror f _

/-- A part that succeeds or fails succeeds if failures are dealt with. -/
theorem keeps_recover_pure {flow : Flow α} {a : α}
    (hflow : flow.Keeps R G (fun _ r => r ≠ .error .cancelled) tr) :
    (flow.recover fun _ => pure a).Keeps R G (fun _ r => ∃ b, r = .ok b) tr :=
  Keeps.recover hflow (fun _ b _ => ⟨b, rfl⟩) (fun _ _ _ => keeps_pure ⟨a, rfl⟩)
    fun _ h => absurd rfl h

end Flow

/-- An access that is refused is refused for a failure. -/
theorem Cache.Endures.ne_cancelled (h : c.Endures user load R) {a : Access} {time : Nat}
    {source : Mark} {reply : Except Interruption a.Answer}
    (hR : R ⟨time, source, .access a, reply⟩) : reply ≠ .error .cancelled := by
  rintro rfl
  obtain ⟨f, hf⟩ := h.sound _ hR
  cases hf

theorem CacheKind.keeps_set_served (h : c.Endures user load R) (text : String)
    (seconds : Binary64) :
    (c.kind.set user text seconds).Keeps R AtWill (fun _ r => ∃ b, r = .ok b) tr := by
  cases hkind : c.kind with
  | «local» =>
    refine keeps_bind ⟨trivial, fun _ _ reply hR => ?_⟩
    cases reply with
    | ok => exact keeps_pure ⟨true, rfl⟩
    | error x => exact absurd ((h.set hR).symm.trans hkind) nofun
  | shared =>
    refine keeps_recover_pure (keeps_bind ⟨trivial, fun _ _ reply hR => ?_⟩)
    cases reply with
    | ok => exact keeps_pure nofun
    | error x => exact fun hx => h.ne_cancelled hR (congrArg _ (Except.error.inj hx))

namespace StoreKind

/-- What is read on a record is too deep if it cannot be read. -/
theorem exists_of_reading_eq_error {kind : StoreKind} {form : Option Value} {f : Failure}
    (h : kind.reading form = .error f) : ∃ o, f = .tooDeep o := by
  cases form with
  | none => cases h
  | some v =>
    cases kind with
    | table => cases h
    | database =>
      simp only [reading, decoded] at h
      split at h
      · cases h
      · cases h
      · cases h
        exact ⟨_, rfl⟩
      · cases h

/-- Loading comes to what the record says, or to nothing. -/
theorem keeps_load_served {Q : List Exchange → Except Interruption (Option Value) → Prop}
    (hok : ∀ time source form,
      Exchange.Serves c ⟨time, source, .access (.load user), .ok form⟩ →
      Q (tr ++ [⟨time, source, .access (.load user), .ok form⟩])
        ((c.store.reading form).mapError .failure))
    (hnone : ∀ tr, Q tr (.ok none)) :
    (c.store.load user).Keeps (Exchange.Serves c) AtWill Q tr := by
  cases hstore : c.store with
  | table =>
    have hbears : c.bears (.load user) = false := by simp [Cache.bears, hstore]
    refine keeps_access_served hbears fun time source form hserves => ?_
    have hform := hok time source form hserves
    rw [hstore] at hform
    cases form <;> exact hform
  | database =>
    refine keeps_bind (keeps_access_recover_served (fun time source form hserves => ?_)
      fun _ _ => keeps_pure (keeps_pure (hnone _)))
    have hform := hok time source form hserves
    rw [hstore] at hform
    cases form with
    | none => exact hform
    | some v =>
      refine keeps_ofExcept (fun value hvalue => ?_) fun e he => ?_
      · rw [reading, hvalue] at hform
        exact hform
      · rw [reading, he] at hform
        exact hform

theorem keeps_save_served (h : c.Endures user load R) (form : Value) :
    (c.store.save user form).Keeps R AtWill (fun _ r => ∃ b, r = .ok b) tr := by
  cases hstore : c.store with
  | table =>
    refine keeps_bind ⟨trivial, fun _ _ reply hR => ?_⟩
    cases reply with
    | ok => exact keeps_pure ⟨true, rfl⟩
    | error x => exact absurd ((h.save hR).symm.trans hstore) nofun
  | database =>
    refine keeps_recover_pure (keeps_bind (keeps_ofExcept (fun text _ => ?_) fun _ _ => nofun))
    refine keeps_bind ⟨trivial, fun _ _ reply hR => ?_⟩
    cases reply with
    | ok => exact keeps_pure nofun
    | error x => exact fun hx => h.ne_cancelled hR (congrArg _ (Except.error.inj hx))

theorem keeps_clear_served {kind : StoreKind}
    (h : ∀ {time source x}, ¬R ⟨time, source, .access (.clear user), .error x⟩) :
    (kind.clear user).Keeps R AtWill (fun _ r => r = .ok ()) tr := by
  have hclear : (access (.clear user)).Keeps R AtWill (fun _ r => r = .ok ()) tr := by
    refine ⟨trivial, fun _ _ reply hR => ?_⟩
    cases reply with
    | ok => rfl
    | error x => exact absurd hR h
  cases kind with
  | table => exact hclear
  | database =>
    refine Keeps.recover hclear (fun _ _ h => h) ?_ ?_
    · intro _ _ h
      cases h
    · intro _ h
      cases h

end StoreKind

namespace Cache.Endures

variable (h : c.Endures user load R)
include h

/-- An access for role data is answered. -/
theorem keeps_access {a : Access} {Q : List Exchange → Except Interruption a.Answer → Prop}
    (ha : ∀ time source x, Exchange.deniesRoles ⟨time, source, .access a, .error x⟩ = true)
    (hok : ∀ time source answer, R ⟨time, source, .access a, .ok answer⟩ →
      Q (tr ++ [⟨time, source, .access a, .ok answer⟩]) (.ok answer)) :
    (access a).Keeps R AtWill Q tr := by
  refine ⟨trivial, fun time source reply hR => ?_⟩
  cases reply with
  | ok answer => exact hok time source answer hR
  | error x => exact absurd ((h.told _ hR).symm.trans (ha time source x)) nofun

/-- The context of the user can be read. -/
theorem keeps_ask (huser : user.isText = true) : (UserContext.ask user).Keeps R AtWill
    (fun _ r => ∃ context : UserContext, r = .ok context ∧ context.HasTextIds) tr := by
  refine keeps_bind (h.keeps_access (fun _ _ _ => rfl) fun time source records hrecords => ?_)
  have hread : ∀ r ∈ records, ∃ m, r.read = .ok m := fun r hr => by
    cases hr' : r.read with
    | ok m => exact ⟨m, rfl⟩
    | error f =>
      have hread := List.any_eq_false.1 (h.told _ hrecords) r hr
      rw [hr'] at hread
      exact absurd rfl hread
  obtain ⟨⟨households, hhouseholds⟩, ⟨managing, hmanaging⟩, hcontext⟩ :=
    UserContext.exists_ofRecords user hread
  refine keeps_bind (h.keeps_access (fun _ _ _ => rfl) fun _ _ managed hmanaged => ?_)
  refine keeps_bind (keeps_ofExcept_ok hhouseholds ?_)
  refine keeps_bind (keeps_ofExcept_ok hmanaging ?_)
  refine keeps_bind (keeps_perform _ trivial fun _ _ reply hmembers => ?_)
  cases reply with
  | error x => exact absurd (h.told _ hmembers) nofun
  | ok members =>
    refine keeps_bind (keeps_perform _ trivial fun _ _ reply haiUsers => ?_)
    cases reply with
    | error x => exact absurd (h.told _ haiUsers) nofun
    | ok aiUsers =>
      obtain ⟨context, hc⟩ := hcontext managed (managing.zip aiUsers)
        ((Policy.distinct households).zip members)
      exact keeps_ofExcept_ok hc ⟨context, rfl,
        UserContext.hasTextIds_ofRecords huser (h.sound _ hrecords)
        (h.sound _ hmanaged) (h.sound _ haiUsers) (h.sound _ hmembers) hc⟩

/-- A rule set that can be kept is compiled. -/
theorem keeps_compile (huser : user.isText = true) : (compile user).Keeps R AtWill
    (fun tr' r => (∃ rules : RuleSet, r = .ok rules ∧ rules.IsLasting) ∧
      ∃ part, tr' = tr ++ part ∧ Program.Follows (compile user).run part r) tr := by
  have hfetch : ((UserContext.fetch user).recover fun f => do
      if UserContext.saysUnavailable f then count (.compilation false)
      fail f).Keeps R AtWill
      (fun _ r => ∃ context : UserContext, r = .ok context ∧ context.HasTextIds) tr := by
    have hfail {handle : Failure → Flow UserContext} {flow : Flow UserContext}
        (hflow : flow.Keeps R AtWill
          (fun _ r => ∃ context : UserContext, r = .ok context ∧ context.HasTextIds) tr) :
        (flow.recover handle).Keeps R AtWill
          (fun _ r => ∃ context : UserContext, r = .ok context ∧ context.HasTextIds) tr := by
      refine Keeps.recover hflow (fun _ _ => id) ?_ ?_
      · rintro _ _ ⟨_, hr, -⟩
        cases hr
      · rintro _ ⟨_, hr, -⟩
        cases hr
    exact hfail (hfail (h.keeps_ask huser))
  refine Program.Keeps.follows (Keeps.bind hfetch ?_ ?_)
  · rintro tr context ⟨_, hr, htexts⟩
    cases hr
    refine keeps_bind (keeps_step _ trivial fun _ _ _ _ => ?_)
    refine keeps_bind (keeps_step _ trivial fun _ _ _ _ => ?_)
    exact keeps_pure ⟨_, rfl, UserContext.isLasting_compile htexts⟩
  · rintro _ _ ⟨_, hr, -⟩
    cases hr

/-- What has a text is put into the cache, or passed over. What has none fails a load that has not
    been overtaken. -/
theorem keeps_populate (form : Value) : (c.populate user form load).Keeps R AtWill
    (fun _ r => (r = .ok () ∧ ∃ time source, R ⟨time, source, .isOvertaken load, true⟩) ∨
      r = ((Json.write Json.compact form).map fun _ => ()).mapError fun u =>
        .failure (.unwritable u)) tr := by
  refine keeps_bind (keeps_step _ trivial fun time source overtaken hR => ?_)
  cases overtaken with
  | true => exact keeps_pure (.inl ⟨rfl, time, source, hR⟩)
  | false =>
    refine keeps_bind (keeps_ofExcept (fun text htext => ?_) fun u hu => ?_)
    · refine Keeps.bind (CacheKind.keeps_set_served h text _)
        (fun _ _ _ => keeps_pure (.inr ?_)) ?_
      · rw [htext]
        rfl
      · rintro _ _ ⟨_, hr⟩
        cases hr
    · refine .inr ?_
      rw [hu]
      rfl

/-- Whether or not a rule set is kept, it is answered. -/
theorem keeps_keep (hrules : rules.IsLasting) :
    (c.keep user load rules).Keeps R AtWill (fun _ r => r = .ok rules) tr := by
  obtain ⟨text, htext, -⟩ := hrules.exists_dumps
  rw [Packed.dumps] at htext
  refine keeps_bind (keeps_step _ trivial fun _ _ overtaken _ => ?_)
  cases overtaken with
  | true => exact keeps_pure rfl
  | false =>
    refine Keeps.bind (StoreKind.keeps_save_served h (Packed.pack rules)) (fun _ _ _ => ?_) ?_
    · refine keeps_bind (keeps_step _ trivial fun _ _ overtaken hR => ?_)
      cases overtaken with
      | true =>
        refine Keeps.bind (StoreKind.keeps_clear_served (h.clear hR))
          (fun _ _ _ => keeps_pure rfl) ?_
        intro _ _ hr
        cases hr
      | false =>
        refine Keeps.bind (h.keeps_populate (Packed.pack rules)) (fun _ _ _ => keeps_pure rfl) ?_
        rintro _ _ (⟨hr, -⟩ | hr)
        · cases hr
        · rw [htext] at hr
          cases hr
    · rintro _ _ ⟨_, hr⟩
      cases hr

/-- What is compiled is answered. -/
theorem keeps_compileAndKeep (huser : user.isText = true) :
    (c.compileAndKeep user load).Keeps R AtWill
      (fun tr' r => ∃ rules, r = .ok rules ∧ Compiled user tr' rules) tr := by
  refine keeps_bind (keeps_step _ trivial fun _ _ _ _ => ?_)
  refine Keeps.bind (h.keeps_compile huser) ?_ ?_
  · rintro tr rules ⟨⟨_, hr, hrules⟩, part, rfl, hpart⟩
    cases hr
    refine (Program.Keeps.follows (h.keeps_keep hrules)).mono (fun _ _ => id) ?_
    rintro _ _ ⟨rfl, rest, rfl, -⟩
    exact ⟨rules, rfl, Compiled.append ⟨part, (List.suffix_append _ part).isInfix, hpart⟩⟩
  · rintro _ _ ⟨⟨_, hr, -⟩, -⟩
    cases hr

end Cache.Endures

namespace Cache

/-- A load that is served comes to the rule set that it has compiled, unless what it reads on the
    record is too deep. -/
theorem keeps_load_served (huser : user.isText = true) :
    (c.load user load).Keeps (Exchange.Serves c) AtWill (c.ComesTo user) [] := by
  have hcompile {tr : List Exchange} :
      (c.compileAndKeep user load).Keeps (Exchange.Serves c) AtWill (c.ComesTo user) tr :=
    (Exchange.Serves.endures.keeps_compileAndKeep huser).mono fun _ _ => .inl
  rw [load_eq_bind]
  refine keeps_bind (StoreKind.keeps_load_served (fun time source form hserves => ?_)
    fun _ => hcompile)
  have hnothing := hserves.nothing
  cases hreading : c.store.reading form with
  | error f =>
    obtain ⟨o, rfl⟩ := StoreKind.exists_of_reading_eq_error hreading
    exact .inr ⟨time, source, form, o, List.mem_singleton.2 rfl, .inl hreading, rfl⟩
  | ok value =>
    cases value with
    | none => exact hcompile
    | some v =>
      change (c.loadFrom user load (some v)).Keeps _ _ _ _
      rw [loadFrom]
      split
      · exact hcompile
      · next o ho =>
        exact .inr ⟨time, source, form, o, List.mem_singleton.2 rfl, .inr ⟨v, hreading, ho⟩, rfl⟩
      · next rules hrules =>
        rw [Packed.unpackWithin_eq_ok_iff] at hrules
        simp only [Exchange.tellsNothing, hreading, hrules.1] at hnothing
        cases hnothing

end Cache

end Served

end HouseholdAccess
