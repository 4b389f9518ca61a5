import HouseholdAccess.Proofs.Cache.Calling
import HouseholdAccess.Proofs.Role.Tables

/-!
# Looking up undisturbed

What lookups of a user and the loads that they share do while nothing fails, nobody
overtakes a load and the roles of the user are known (`Exchange.Fits`). What they come
across is told by an `Outlook`: the cache says what it has said from the start, or the
rule set that has been *found*, which is the one that has been compiled and written on
the record.

* A load compiles only if it has found nothing on the record, and writes what it has
  compiled there before it puts it into the cache (`Outlook.LoadDoes`). When it has
  ended, a rule set has been found, and that is what it comes to
  (`Outlook.keeps_load`).
* A lookup comes to the rule set that has been found. The only other way in which it
  can end is that an entry of the cache is too deep (`Outlook.keeps_get`).
-/

namespace HouseholdAccess

open HouseholdAccess.Flow

/-! ## What is come across -/

/-- What lookups of a user may come across. -/
structure Outlook where
  /-- The user. -/
  user : Id
  /-- The kind of store. -/
  store : StoreKind
  /-- The entries that have been in the cache from the start. -/
  entries : List CacheEntry
  /-- The rule set that has been written on the record, once one has. -/
  found : Option RuleSet := none

namespace Outlook

/-- The cache may say the text of the user. -/
def Tells (o : Outlook) (text : String) : Prop :=
  (∃ e ∈ o.entries, e.key = o.user ∧ e.text = text) ∨
    ∃ rules, o.found = some rules ∧ Packed.loads (.text text) = .ok rules

/-- The record may say the form. -/
def Says (o : Outlook) (form : Value) : Prop :=
  ∃ rules, o.found = some rules ∧ o.store.Says form rules

/-- A text has been in the cache from the start that is too deep to be read. -/
def IsTooDeep (o : Outlook) (x : Obstacle) : Prop :=
  ∃ e ∈ o.entries, e.key = o.user ∧ Packed.loads (.text e.text) = .error (.tooDeep x)

/-- No rule set can be read in the cache at the start, and what has been found can be kept. -/
structure IsFair (o : Outlook) : Prop where
  user : o.user.isText = true
  unread : ∀ e ∈ o.entries, e.key = o.user → ∀ rules, Packed.loads (.text e.text) ≠ .ok rules
  lasting : ∀ rules, o.found = some rules → rules.IsLasting

end Outlook

/-- The exchange is one of the undisturbed. -/
def Exchange.Fits (o : Outlook) (e : Exchange) : Prop :=
  match e.op, e.reply with
  | .access (.cacheGet _), .ok (some text) => o.Tells text
  | .access (.load _), .ok (some form) => o.Says form
  | .access (.save _ form), .ok _ => o.Says form
  | .access (.roles user), .ok records =>
    (∀ r ∈ records, ∃ m, r.read = .ok m) ∧ (Access.roles user).NamesTexts records
  | .access a, .ok answer => a.NamesTexts answer
  | .access _, .error _ => False
  | .isOvertaken _, overtaken => overtaken = false
  | .awaitLoad _, outcome => ∃ rules, o.found = some rules ∧ outcome = .ok rules
  | .each .., .ok lists => ∀ ids ∈ lists, ∀ id ∈ ids, id.isText = true
  | .each .., .error _ => False
  | _, _ => True

variable {o : Outlook} {tr : List Exchange}

namespace Outlook

/-- Once a rule set has been found, what has been come across before still fits. -/
theorem fits_find (ho : o.found = none) (rules : RuleSet) {e : Exchange} (he : e.Fits o) :
    e.Fits { o with found := some rules } := by
  have htells {text : String} (h : o.Tells text) : Tells { o with found := some rules } text :=
    h.imp_right fun ⟨_, hfound, _⟩ => by rw [ho] at hfound; cases hfound
  have hsays {form : Value} (h : o.Says form) : Says { o with found := some rules } form := by
    obtain ⟨_, hfound, -⟩ := h
    rw [ho] at hfound
    cases hfound
  obtain ⟨time, source, op, reply⟩ := e
  cases op with
  | access a =>
    cases reply with
    | error => cases a <;> exact he.elim
    | ok answer =>
      cases a with
      | cacheGet =>
        cases answer with
        | none => exact he
        | some => exact htells he
      | load =>
        cases answer with
        | none => exact he
        | some => exact hsays he
      | save => exact hsays he
      | _ => exact he
  | awaitLoad =>
    obtain ⟨_, hfound, -⟩ := he
    rw [ho] at hfound
    cases hfound
  | each => cases reply <;> exact he
  | _ => exact he

/-- A text of the cache that can be read is that of the rule set that has been found. -/
theorem IsFair.found_of_tells (ho : o.IsFair) {text : String} (h : o.Tells text) {rules : RuleSet}
    (hloads : Packed.loads (.text text) = .ok rules) : o.found = some rules := by
  rcases h with ⟨e, he, hkey, rfl⟩ | ⟨rules', hfound, hloads'⟩
  · exact absurd hloads (ho.unread e he hkey rules)
  · rw [hloads] at hloads'
    cases hloads'
    exact hfound

/-- A text of the cache that is too deep has been there from the start. -/
theorem isTooDeep_of_tells {text : String} (h : o.Tells text) {x : Obstacle}
    (hloads : Packed.loads (.text text) = .error (.tooDeep x)) : o.IsTooDeep x := by
  rcases h with ⟨e, he, hkey, rfl⟩ | ⟨rules', -, hloads'⟩
  · exact ⟨e, he, hkey, hloads⟩
  · rw [hloads] at hloads'
    cases hloads'

end Outlook

/-- A form says one rule set. -/
theorem StoreKind.Says.unique {kind : StoreKind} {form : Value} {rules rules' : RuleSet}
    (h : kind.Says form rules) (h' : kind.Says form rules') (hlasting : rules.IsLasting)
    (hlasting' : rules'.IsLasting) : rules = rules' := by
  have hform := h.reading_eq.symm.trans h'.reading_eq
  have hpacked : Packed.pack rules = Packed.pack rules' :=
    Option.some.inj (Except.ok.inj hform)
  have hunpack := hlasting.unpack
  rw [hpacked, hlasting'.unpack] at hunpack
  exact (Except.ok.inj hunpack).symm

/-! ## Systems that answer -/

variable {G : List Exchange → Operation → Prop}

namespace Flow

variable {a : Access} {Q : List Exchange → Except Interruption a.Answer → Prop}

/-- An access is answered. -/
theorem keeps_answered (hG : G tr (.access a))
    (hok : ∀ time source answer, Exchange.Fits o ⟨time, source, .access a, .ok answer⟩ →
      Q (tr ++ [⟨time, source, .access a, .ok answer⟩]) (.ok answer)) :
    (access a).Keeps (Exchange.Fits o) G Q tr := by
  refine ⟨hG, fun time source reply hfits => ?_⟩
  cases reply with
  | ok answer => exact hok time source answer hfits
  | error e => cases a <;> exact hfits.elim

/-- What would be done after a refusal does not matter. -/
theorem keeps_answered_recover {handle : Failure → Flow a.Answer} (hG : G tr (.access a))
    (hok : ∀ time source answer, Exchange.Fits o ⟨time, source, .access a, .ok answer⟩ →
      Q (tr ++ [⟨time, source, .access a, .ok answer⟩]) (.ok answer)) :
    ((access a).recover handle).Keeps (Exchange.Fits o) G Q tr := by
  refine ⟨hG, fun time source reply hfits => ?_⟩
  cases reply with
  | ok answer => exact hok time source answer hfits
  | error e => cases a <;> exact hfits.elim

end Flow

namespace CacheKind

variable {user : Id} (kind : CacheKind)

theorem keeps_get_answered {Q : List Exchange → Except Interruption (Option String) → Prop}
    (hG : G tr (.access (.cacheGet user)))
    (hok : ∀ time source found,
      Exchange.Fits o ⟨time, source, .access (.cacheGet user), .ok found⟩ →
      Q (tr ++ [⟨time, source, .access (.cacheGet user), .ok found⟩]) (.ok found)) :
    (kind.get user).Keeps (Exchange.Fits o) G Q tr := by
  match kind with
  | .local => exact keeps_answered hG hok
  | .shared => exact keeps_answered_recover hG hok

theorem keeps_delete_answered {Q : List Exchange → Except Interruption Bool → Prop}
    (hG : G tr (.access (.cacheDelete user)))
    (hok : ∀ time source found,
      Q (tr ++ [⟨time, source, .access (.cacheDelete user), .ok found⟩]) (.ok found)) :
    (kind.delete user).Keeps (Exchange.Fits o) G Q tr := by
  match kind with
  | .local => exact keeps_answered hG fun time source found _ => hok time source found
  | .shared => exact keeps_answered_recover hG fun time source found _ => hok time source found

theorem keeps_set_answered {text : String} {seconds : Binary64}
    {Q : List Exchange → Except Interruption Bool → Prop}
    (hG : G tr (.access (.cacheSet user text seconds)))
    (hok : ∀ time source,
      Q (tr ++ [⟨time, source, .access (.cacheSet user text seconds), .ok ()⟩]) (.ok true)) :
    (kind.set user text seconds).Keeps (Exchange.Fits o) G Q tr := by
  have hput : (do access (.cacheSet user text seconds); return true : Flow Bool).Keeps
      (Exchange.Fits o) G (fun tr' r => (∃ b, r = .ok b) ∧ Q tr' r) tr :=
    keeps_bind (keeps_answered hG fun time source _ _ => keeps_pure ⟨⟨_, rfl⟩, hok time source⟩)
  match kind with
  | .local => exact hput.mono fun _ _ h => h.2
  | .shared => exact (Keeps.recover_of_ok hput).mono fun _ _ h => h.2

end CacheKind

namespace StoreKind

variable {user : Id} (kind : StoreKind)

/-- Loading comes to nothing, or to the packed form of what has been found. -/
theorem keeps_load_answered (hstore : o.store = kind)
    {Q : List Exchange → Except Interruption (Option Value) → Prop}
    (hG : G tr (.access (.load user)))
    (hnone : ∀ time source, Q (tr ++ [⟨time, source, .access (.load user), .ok none⟩]) (.ok none))
    (hsome : ∀ time source form rules, o.found = some rules →
      Q (tr ++ [⟨time, source, .access (.load user), .ok (some form)⟩])
        (.ok (some (Packed.pack rules)))) :
    (kind.load user).Keeps (Exchange.Fits o) G Q tr := by
  subst hstore
  cases hkind : o.store with
  | table =>
    refine keeps_answered hG fun time source found hfits => ?_
    cases found with
    | none => exact hnone time source
    | some form =>
      obtain ⟨rules, hfound, hsays⟩ := hfits
      rw [hkind] at hsays
      obtain rfl : form = Packed.pack rules := hsays
      exact hsome time source _ rules hfound
  | database =>
    refine keeps_bind (keeps_answered_recover hG fun time source found hfits => ?_)
    cases found with
    | none => exact keeps_pure (hnone time source)
    | some form =>
      obtain ⟨rules, hfound, hsays⟩ := hfits
      rw [hkind] at hsays
      have hdecoded : decoded form = .ok (some (Packed.pack rules)) := hsays
      refine keeps_ofExcept (fun value hvalue => ?_) fun e he => ?_
      · rw [hdecoded] at hvalue
        cases hvalue
        exact hsome time source form rules hfound
      · rw [hdecoded] at he
        cases he

/-- What is saved of a lasting rule set says it. -/
theorem keeps_save_answered {rules : RuleSet} (hlasting : rules.IsLasting)
    {Q : List Exchange → Except Interruption Bool → Prop}
    (hG : ∀ form, kind.Says form rules → G tr (.access (.save user form)))
    (hok : ∀ time source form, kind.Says form rules →
      Exchange.Fits o ⟨time, source, .access (.save user form), .ok ()⟩ →
      Q (tr ++ [⟨time, source, .access (.save user form), .ok ()⟩]) (.ok true)) :
    (kind.save user (Packed.pack rules)).Keeps (Exchange.Fits o) G Q tr := by
  cases kind with
  | table =>
    exact keeps_bind (keeps_answered (hG _ rfl) fun time source _ hfits =>
      keeps_pure (hok time source _ rfl hfits))
  | database =>
    obtain ⟨text, htext, hread⟩ := hlasting.exists_write Json.isStandard_spaced
    have hsays : database.Says (.text text) rules := by
      change decoded (.text text) = _
      rw [decoded, hread]
      rfl
    have hput : (do
        access (.save user (.text text))
        return hasLength (Packed.pack rules) : Flow Bool).Keeps (Exchange.Fits o) G
        (fun tr' r => (∃ b, r = .ok b) ∧ Q tr' r) tr :=
      keeps_bind (keeps_answered (hG _ hsays) fun time source _ hfits =>
        keeps_pure ⟨⟨_, rfl⟩, hok time source _ hsays hfits⟩)
    rw [save, htext]
    exact (Keeps.recover_of_ok hput).mono fun _ _ h => h.2

end StoreKind

/-! ## Loads -/

/-- The load has found nothing on the record. -/
def FoundNothing (user : Id) (tr : List Exchange) : Prop :=
  ∃ time source, ⟨time, source, .access (.load user), .ok none⟩ ∈ tr

/-- What a load that is not disturbed does next. -/
def Outlook.LoadDoes (o : Outlook) (tr : List Exchange) : Operation → Prop
  | .access (.load v) => v = o.user ∧ tr = []
  | .access (.roles v) => v = o.user ∧ FoundNothing o.user tr ∧ ¬Asked o.user tr
  | .access (.save v form) => v = o.user ∧ FoundNothing o.user tr ∧ Asked o.user tr ∧
      ¬Saved o.user tr ∧ ∃ rules, rules.IsLasting ∧ o.store.Says form rules
  | .access (.cacheSet v text _) => v = o.user ∧
      ∃ rules, o.found = some rules ∧ Packed.loads (.text text) = .ok rules
  | .each errand _ => errand ≠ .invalidate
  | .access (.managed _) | .isOvertaken _ | .count _ => True
  | _ => False

/-- The load has found nothing, and has asked for the roles of the user, but has not written
    anything. -/
structure IsCompiling (user : Id) (tr : List Exchange) : Prop where
  nothing : FoundNothing user tr
  asked : Asked user tr
  notSaved : ¬Saved user tr

variable {user : Id}

theorem FoundNothing.append {rest : List Exchange} (h : FoundNothing user tr) :
    FoundNothing user (tr ++ rest) := by
  obtain ⟨time, source, he⟩ := h
  exact ⟨time, source, List.mem_append_left rest he⟩

theorem IsCompiling.snoc {e : Exchange} (h : IsCompiling user tr)
    (he : ∀ form, e.op ≠ .access (.save user form)) : IsCompiling user (tr ++ [e]) :=
  ⟨h.nothing.append, h.asked.append, not_saved_append h.notSaved (not_saved_singleton he)⟩

namespace UserContext

/-- Records that can be read name households, and those in which the user is a manager. -/
theorem exists_ofRecords (user : Id) {records : List RoleRecord}
    (h : ∀ r ∈ records, ∃ m, r.read = .ok m) :
    (∃ households, records.mapM RoleRecord.readHousehold = .ok households) ∧
      (∃ managing, managedHouseholds records = .ok managing) ∧
      ∀ managed aiUsers members, ∃ c, ofRecords user records managed aiUsers members = .ok c := by
  obtain ⟨memberships, hmemberships⟩ := exists_mapM_eq_ok h
  obtain ⟨named, hnamed⟩ := exists_mapM_eq_ok fun r hr => by
    obtain ⟨m, hm⟩ := h r hr
    exact ⟨(m.household, m.role), RoleRecord.named_eq_ok.2 hm⟩
  refine ⟨exists_mapM_eq_ok fun r hr => ?_, ⟨_, bind_eq_ok hnamed rfl⟩, fun _ _ _ =>
    ⟨_, bind_eq_ok hmemberships rfl⟩⟩
  obtain ⟨m, hm⟩ := h r hr
  obtain ⟨household, hhousehold, -⟩ := exists_of_bind_eq_ok hm
  exact ⟨household, hhousehold⟩

/-- The context of the user can be read. -/
theorem keeps_ask_answered (huser : o.user.isText = true) (hnothing : FoundNothing o.user tr)
    (hasked : ¬Asked o.user tr) (hsaved : ¬Saved o.user tr) :
    (ask o.user).Keeps (Exchange.Fits o) o.LoadDoes
      (fun tr' r => (∃ c, r = .ok c) ∧ IsCompiling o.user tr' ∧ ∀ c, r = .ok c → c.HasTextIds)
      tr := by
  refine keeps_bind (keeps_answered ⟨rfl, hnothing, hasked⟩ fun time source records hfits => ?_)
  obtain ⟨hread, hrecords⟩ := hfits
  obtain ⟨⟨households, hhouseholds⟩, ⟨managing, hmanaging⟩, hcontext⟩ :=
    exists_ofRecords o.user hread
  have h : IsCompiling o.user (tr ++ [⟨time, source, .access (.roles o.user), .ok records⟩]) :=
    ⟨hnothing.append, asked_snoc rfl, not_saved_append hsaved (not_saved_singleton (by simp))⟩
  refine keeps_bind (keeps_answered trivial fun time source managed hmanaged => ?_)
  replace h := h.snoc (e := ⟨time, source, .access (.managed o.user), .ok managed⟩) (by simp)
  refine keeps_bind (keeps_ofExcept_ok hhouseholds ?_)
  refine keeps_bind (keeps_ofExcept_ok hmanaging ?_)
  refine keeps_bind (keeps_perform _ (by simp [Outlook.LoadDoes])
    fun time source reply hmembers => ?_)
  cases reply with
  | error e => exact hmembers.elim
  | ok members =>
    replace h := h.snoc
      (e := ⟨time, source, .each .members (Policy.distinct households), .ok members⟩) (by simp)
    refine keeps_bind (keeps_perform _ (by simp [Outlook.LoadDoes])
      fun time source reply haiUsers => ?_)
    cases reply with
    | error e => exact haiUsers.elim
    | ok aiUsers =>
      replace h := h.snoc (e := ⟨time, source, .each .aiUsers managing, .ok aiUsers⟩) (by simp)
      obtain ⟨c, hc⟩ := hcontext managed (managing.zip aiUsers)
        ((Policy.distinct households).zip members)
      refine keeps_ofExcept_ok hc ⟨⟨c, rfl⟩, h, fun c' hc' => ?_⟩
      cases hc'
      exact hasTextIds_ofRecords huser hrecords hmanaged haiUsers hmembers hc

end UserContext

namespace Cache

variable {c : Cache} {load : Nat} {rules : RuleSet}

/-- A rule set that can be kept is compiled. -/
theorem keeps_compile_answered (huser : o.user.isText = true) (hnothing : FoundNothing o.user tr)
    (hasked : ¬Asked o.user tr) (hsaved : ¬Saved o.user tr) :
    (Cache.compile o.user).Keeps (Exchange.Fits o) o.LoadDoes
      (fun tr' r => IsCompiling o.user tr' ∧ ∃ rules, r = .ok rules ∧ rules.IsLasting) tr := by
  refine Keeps.bind (Keeps.recover_of_ok (Keeps.recover_of_ok
    (UserContext.keeps_ask_answered huser hnothing hasked hsaved))) ?_ ?_
  · rintro tr' context ⟨-, h, htexts⟩
    refine keeps_bind (keeps_step _ trivial fun time source reply _ => ?_)
    refine keeps_bind (keeps_step _ trivial fun time' source' reply' _ => ?_)
    exact keeps_pure ⟨(h.snoc (by simp)).snoc (by simp), _, rfl,
      UserContext.isLasting_compile (htexts context rfl)⟩
  · rintro _ _ ⟨⟨_, hr⟩, -⟩
    cases hr

/-- The text that is put into the cache is that of the rule set that has been found. -/
theorem keeps_populate_answered (ho : o.IsFair) (hfound : o.found = some rules) :
    (c.populate o.user (Packed.pack rules) load).Keeps (Exchange.Fits o) o.LoadDoes
      (fun _ r => r = .ok ()) tr := by
  obtain ⟨text, htext, hloads⟩ := (ho.lasting rules hfound).exists_dumps
  refine keeps_bind (keeps_step _ trivial fun time source overtaken hfits => ?_)
  obtain rfl : overtaken = false := hfits
  refine keeps_bind (keeps_ofExcept_ok htext ?_)
  exact keeps_bind (CacheKind.keeps_set_answered _ ⟨rfl, rules, hfound, hloads⟩
    fun time source => keeps_pure rfl)

/-- What is put into the cache is found, and is what a load comes to. -/
theorem keeps_populate_then (ho : o.IsFair) (hfound : o.found = some rules) :
    (do c.populate o.user (Packed.pack rules) load; return rules : Flow RuleSet).Keeps
      (Exchange.Fits o) o.LoadDoes (fun _ r => ∃ rules, o.found = some rules ∧ r = .ok rules) tr :=
  Keeps.bind (keeps_populate_answered ho hfound) (fun _ _ _ => keeps_pure ⟨rules, hfound, rfl⟩)
    fun _ _ hr => by cases hr

/-- Once a rule set has been written on the record, it has been found. -/
theorem keeps_keep_answered (ho : o.IsFair) (hstore : c.store = o.store)
    (h : IsCompiling o.user tr) (hlasting : rules.IsLasting) :
    (c.keep o.user load rules).Keeps (Exchange.Fits o) o.LoadDoes
      (fun _ r => ∃ rules, o.found = some rules ∧ r = .ok rules) tr := by
  refine keeps_bind (keeps_step _ trivial fun time source overtaken hfits => ?_)
  obtain rfl : overtaken = false := hfits
  replace h := h.snoc (e := ⟨time, source, .isOvertaken load, false⟩) (by simp)
  refine keeps_bind (StoreKind.keeps_save_answered c.store hlasting (fun form hsays =>
    ⟨rfl, h.nothing, h.asked, h.notSaved, rules, hlasting, hstore ▸ hsays⟩)
    fun time source form hsays hfits => ?_)
  obtain ⟨rules', hfound, hsays'⟩ := hfits
  obtain rfl := hsays'.unique (hstore ▸ hsays) (ho.lasting rules' hfound) hlasting
  refine keeps_bind (keeps_step _ trivial fun time source overtaken hfits => ?_)
  obtain rfl : overtaken = false := hfits
  exact keeps_populate_then ho hfound

theorem keeps_compileAndKeep_answered (ho : o.IsFair) (hstore : c.store = o.store)
    (hnothing : FoundNothing o.user tr) (hasked : ¬Asked o.user tr) (hsaved : ¬Saved o.user tr) :
    (c.compileAndKeep o.user load).Keeps (Exchange.Fits o) o.LoadDoes
      (fun _ r => ∃ rules, o.found = some rules ∧ r = .ok rules) tr := by
  refine keeps_bind (keeps_step _ trivial fun time source _ _ => ?_)
  have hasked' : ¬Asked o.user (tr ++ [⟨time, source, .count (.cacheLookup .miss), ()⟩]) := by
    rintro ⟨e, he, hop⟩
    rcases List.mem_append.1 he with he | he
    · exact hasked ⟨e, he, hop⟩
    · obtain rfl := List.mem_singleton.1 he
      cases hop
  refine Keeps.bind (keeps_compile_answered ho.user hnothing.append hasked'
    (not_saved_append hsaved (not_saved_singleton (by simp)))) ?_ ?_
  · rintro tr' rules ⟨h, _, hr, hlasting⟩
    cases hr
    exact keeps_keep_answered ho hstore h hlasting
  · rintro _ _ ⟨-, _, hr, -⟩
    cases hr

/-- A load that is not disturbed comes to the rule set that has been found then. -/
theorem keeps_load_answered (ho : o.IsFair) (hstore : c.store = o.store) :
    (c.load o.user load).Keeps (Exchange.Fits o) o.LoadDoes
      (fun _ r => ∃ rules, o.found = some rules ∧ r = .ok rules) [] := by
  rw [load_eq_bind]
  refine keeps_bind (StoreKind.keeps_load_answered c.store hstore.symm ⟨rfl, rfl⟩
    (fun time source => ?_) fun time source form rules hfound => ?_)
  · refine keeps_compileAndKeep_answered ho hstore ⟨time, source, List.mem_singleton.2 rfl⟩ ?_
      (not_saved_singleton (by simp))
    rintro ⟨e, he, hop⟩
    obtain rfl := List.mem_singleton.1 he
    cases hop
  · change (c.loadFrom o.user load (some (Packed.pack rules))).Keeps _ _ _ _
    rw [loadFrom, (ho.lasting rules hfound).unpackWithin (by decide)]
    exact keeps_bind (keeps_step _ trivial fun time source _ _ => keeps_populate_then ho hfound)

end Cache

/-! ## Lookups -/

/-- What a lookup that is not disturbed does next. -/
def Outlook.LookUpDoes (o : Outlook) (tr : List Exchange) : Operation → Prop
  | .access (.cacheGet v) | .access (.cacheDelete v) | .joinLoad v => v = o.user
  | .awaitLoad load => ∃ time source, ⟨time, source, .joinLoad o.user, load⟩ ∈ tr
  | .count _ => True
  | _ => False

/-- A lookup that is not disturbed comes to the rule set that has been found, unless an entry of the
    cache is too deep. -/
def Outlook.Ends {α : Type} (o : Outlook) (answer : RuleSet → α) (r : Except Interruption α) :
    Prop :=
  (∃ rules, o.found = some rules ∧ r = .ok (answer rules)) ∨
    ∃ x, o.IsTooDeep x ∧ r = .error (.failure (.tooDeep x))

namespace Cache

variable {c : Cache}

/-- What is read in the cache is what has been found, unless it is too deep. -/
theorem keeps_cached_answered (ho : o.IsFair) :
    (c.cached o.user).Keeps (Exchange.Fits o) o.LookUpDoes
      (fun _ r => r = .ok none ∨ o.Ends some r) tr := by
  refine keeps_bind (CacheKind.keeps_get_answered c.kind rfl fun time source found hfits => ?_)
  cases found with
  | none => exact keeps_pure (.inl rfl)
  | some text =>
    simp only [Before]
    split
    · next rules hloads =>
      exact keeps_pure (.inr (.inl ⟨rules, ho.found_of_tells hfits hloads, rfl⟩))
    · exact keeps_bind (CacheKind.keeps_delete_answered c.kind rfl fun time source found =>
        keeps_pure (.inl rfl))
    · next x hloads =>
      exact keeps_fail (.inr (.inr ⟨x, Outlook.isTooDeep_of_tells hfits hloads, rfl⟩))

theorem keeps_lookUp_answered (ho : o.IsFair) :
    (c.lookUp o.user).Keeps (Exchange.Fits o) o.LookUpDoes (fun _ r => o.Ends id r) tr := by
  refine Keeps.bind (keeps_cached_answered ho) ?_ ?_
  · rintro tr' found (hfound | ⟨rules, hfound, hr⟩ | ⟨_, -, hr⟩)
    · cases hfound
      refine keeps_bind (keeps_step (.joinLoad o.user) rfl fun time source load _ => ?_)
      refine keeps_perform (.awaitLoad load) ⟨time, source, ?_⟩
        fun time' source' outcome hfits => ?_
      · exact List.mem_append_right tr' (List.mem_singleton.2 rfl)
      · obtain ⟨rules, hfound, rfl⟩ := hfits
        exact .inl ⟨rules, hfound, rfl⟩
    · cases hr
      exact keeps_bind (keeps_step (.count _) trivial fun _ _ _ _ =>
        keeps_pure (.inl ⟨rules, hfound, rfl⟩))
    · cases hr
  · rintro tr' e (he | ⟨_, -, he⟩ | ⟨x, hdeep, he⟩)
    · cases he
    · cases he
    · cases he
      exact .inr ⟨x, hdeep, rfl⟩

/-- A caller who looks the rule set up answers that. -/
theorem keeps_get_answered (ho : o.IsFair) (service : Service) :
    ((Call.get o.user).flow service).Keeps (Exchange.Fits o) o.LookUpDoes
      (fun _ r => o.Ends .rules r) tr := by
  refine Keeps.bind (keeps_lookUp_answered ho) ?_ ?_
  · rintro tr' rules (⟨rules', hfound, hr⟩ | ⟨_, -, hr⟩)
    · cases hr
      exact keeps_pure (.inl ⟨_, hfound, rfl⟩)
    · cases hr
  · rintro tr' e (⟨_, -, he⟩ | ⟨x, hdeep, he⟩)
    · cases he
    · cases he
      exact .inr ⟨x, hdeep, rfl⟩

end Cache

end HouseholdAccess
