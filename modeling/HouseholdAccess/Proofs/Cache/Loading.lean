import HouseholdAccess.Proofs.Cache.Serving
import HouseholdAccess.Proofs.Trace

/-!
# What loads do, whoever else is at work

A load does not know what happens between its operations. What it does nonetheless
keeps to `LoadMay`, whatever fails, as long as names are texts
(`Exchange.IsSound`):

* it reads role data only before it asks whether it has been overtaken;
* it writes on the record and into the cache only when it has just been told that
  it has not been overtaken;
* what it writes on the record says a rule set that it has compiled, and what it
  puts into the cache says either that or what it has read on the record.

Once it has ended (`LoadEnds`), its answer comes from the same sources, and it has
asked again after it has written on the record, and has wiped the record if it has
been overtaken meanwhile (`Cache.keeps_load`).
-/

namespace HouseholdAccess

/-! ## Replies -/

/-- The names in an answer are texts. -/
def Access.NamesTexts : (a : Access) → a.Answer → Prop
  | .roles _, records => ∀ r ∈ records, ∀ household, r.household = some household →
      household.isText = true
  | .managed _, ids | .members _, ids | .aiUsers _, ids => ∀ id ∈ ids, id.isText = true
  | _, _ => True

/-- The names in the reply are texts, and what is refused is refused for a failure. -/
def Exchange.IsSound (e : Exchange) : Prop :=
  match e.op, e.reply with
  | .access a, .ok answer => a.NamesTexts answer
  | .access _, .error e => ∃ f, e = .failure f
  | .each .., .ok lists => ∀ ids ∈ lists, ∀ id ∈ ids, id.isText = true
  | _, _ => True

namespace Flow

variable {G : List Exchange → Operation → Prop} {tr : List Exchange} {a : Access}
  {Q : List Exchange → Except Interruption a.Answer → Prop}

/-- An access is answered or refused. -/
theorem keeps_access (hG : G tr (.access a))
    (hok : ∀ time source answer, a.NamesTexts answer →
      Q (tr ++ [⟨time, source, .access a, .ok answer⟩]) (.ok answer))
    (herror : ∀ time source f,
      Q (tr ++ [⟨time, source, .access a, .error (.failure f)⟩]) (.error (.failure f))) :
    (access a).Keeps Exchange.IsSound G Q tr := by
  refine ⟨hG, fun time source reply hsound => ?_⟩
  cases reply with
  | ok answer => exact hok time source answer hsound
  | error e =>
    obtain ⟨f, rfl⟩ := hsound
    exact herror time source f

/-- An access after which a refusal is dealt with. -/
theorem keeps_access_recover {handle : Failure → Flow a.Answer} (hG : G tr (.access a))
    (hok : ∀ time source answer, a.NamesTexts answer →
      Q (tr ++ [⟨time, source, .access a, .ok answer⟩]) (.ok answer))
    (herror : ∀ time source f, (handle f).Keeps Exchange.IsSound G Q
      (tr ++ [⟨time, source, .access a, .error (.failure f)⟩])) :
    ((access a).recover handle).Keeps Exchange.IsSound G Q tr := by
  refine ⟨hG, fun time source reply hsound => ?_⟩
  cases reply with
  | ok answer => exact hok time source answer hsound
  | error e =>
    obtain ⟨f, rfl⟩ := hsound
    exact herror time source f

end Flow

/-! ## What a load may do -/

/-- The roles of the user have been asked for. -/
def Asked (user : Id) (tr : List Exchange) : Prop := ∃ e ∈ tr, e.op = .access (.roles user)

/-- The load has been told that it has not been overtaken. -/
def Passed (load : Nat) (tr : List Exchange) : Prop :=
  ∃ time source, ⟨time, source, .isOvertaken load, false⟩ ∈ tr

/-- The last thing that the load has been told is that it has not been overtaken. -/
def JustPassed (load : Nat) (tr : List Exchange) : Prop :=
  ∃ before time source, tr = before ++ [⟨time, source, .isOvertaken load, false⟩]

/-- The load has written on the record of the user. -/
def Saved (user : Id) (tr : List Exchange) : Prop :=
  ∃ time source form, ⟨time, source, .access (.save user form), .ok ()⟩ ∈ tr

/-- After what it has written on the record, the load has been told that it has not been overtaken,
    or has wiped the record again. -/
def IsChecked (user : Id) (load : Nat) (tr : List Exchange) : Prop :=
  ∀ before time source form after,
    tr = before ++ ⟨time, source, .access (.save user form), .ok ()⟩ :: after →
      Passed load after ∨ ∃ e ∈ after, e.op = .access (.clear user)

/-- The rule set has been compiled: a part of the trace is a compilation that has come to it. -/
def Compiled (user : Id) (tr : List Exchange) (rules : RuleSet) : Prop :=
  ∃ part, part <:+: tr ∧ (Cache.compile user).run.Follows part (.ok rules)

/-- `P` holds of a rule set that has been compiled, or, if no roles have been asked for, of what a
    form says that has been read on the record. -/
def Known (kind : StoreKind) (user : Id) (tr : List Exchange) (P : RuleSet → Prop) : Prop :=
  (∃ rules, Compiled user tr rules ∧ rules.IsLasting ∧ P rules) ∨
  (¬Asked user tr ∧ ∃ time source form,
    ⟨time, source, .access (.load user), .ok (some form)⟩ ∈ tr ∧
      ∀ rules : RuleSet, rules.IsLasting → kind.Says form rules → P rules)

/-- What a load may do next. -/
def LoadMay (kind : StoreKind) (user : Id) (load : Nat) (tr : List Exchange) : Operation → Prop
  | .access (.load v) => v = user ∧ tr = []
  | .access (.roles v) => v = user ∧ ¬Passed load tr
  | .access (.managed _) => Asked user tr ∧ ¬Passed load tr
  | .each errand _ => errand ≠ .invalidate ∧ Asked user tr ∧ ¬Passed load tr
  | .isOvertaken n => n = load
  | .access (.save v form) => v = user ∧ JustPassed load tr ∧
      ∃ rules, Compiled user tr rules ∧ rules.IsLasting ∧ kind.Says form rules
  | .access (.cacheSet v text _) => v = user ∧ JustPassed load tr ∧
      Known kind user tr fun rules => Packed.dumps rules = .ok text
  | .access (.clear v) => v = user
  | .count _ => True
  | _ => False

/-- How a load may end. -/
structure LoadEnds (kind : StoreKind) (user : Id) (load : Nat) (tr : List Exchange)
    (r : Except Interruption RuleSet) : Prop where
  answers : ∀ answer, r = .ok answer → Known kind user tr fun rules => answer = rules
  checked : IsChecked user load tr

variable {kind : StoreKind} {user : Id} {load : Nat} {tr rest : List Exchange} {rules : RuleSet}

theorem Asked.append (h : Asked user tr) : Asked user (tr ++ rest) := by
  obtain ⟨e, he, hop⟩ := h
  exact ⟨e, List.mem_append_left rest he, hop⟩

theorem Compiled.append (h : Compiled user tr rules) : Compiled user (tr ++ rest) rules := by
  obtain ⟨part, hpart, hfollows⟩ := h
  exact ⟨part, hpart.trans (List.prefix_append tr rest).isInfix, hfollows⟩

/-- Whoever has compiled the rule set of the user has asked for the roles of the user. -/
theorem Compiled.asked (h : Compiled user tr rules) : Asked user tr := by
  obtain ⟨part, hpart, time, source, reply, others, rfl, -⟩ := h
  exact ⟨_, hpart.subset List.mem_cons_self, rfl⟩

theorem asked_snoc {e : Exchange} (he : e.op = .access (.roles user)) : Asked user (tr ++ [e]) :=
  ⟨e, List.mem_append_right tr (List.mem_singleton.2 rfl), he⟩

/-- Only the answer to the question whether it has been overtaken tells a load that it has not. -/
theorem not_passed_snoc {e : Exchange} (he : e.op ≠ .isOvertaken load) (h : ¬Passed load tr) :
    ¬Passed load (tr ++ [e]) := by
  rintro ⟨time, source, hmem⟩
  rcases List.mem_append.1 hmem with hmem | hmem
  · exact h ⟨time, source, hmem⟩
  · obtain rfl := List.mem_singleton.1 hmem
    exact he rfl

theorem not_saved_append (h : ¬Saved user tr) (h' : ¬Saved user rest) :
    ¬Saved user (tr ++ rest) := by
  rintro ⟨time, source, form, hmem⟩
  rcases List.mem_append.1 hmem with hmem | hmem
  · exact h ⟨time, source, form, hmem⟩
  · exact h' ⟨time, source, form, hmem⟩

theorem not_saved_singleton {e : Exchange} (he : ∀ form, e.op ≠ .access (.save user form)) :
    ¬Saved user [e] := by
  rintro ⟨time, source, form, hmem⟩
  obtain rfl := List.mem_singleton.1 hmem
  exact he form rfl

theorem isChecked_of_not_saved (h : ¬Saved user tr) : IsChecked user load tr := by
  intro before time source form after htr
  refine absurd ⟨time, source, form, ?_⟩ h
  rw [htr]
  exact List.mem_append_right before List.mem_cons_self

/-- A load that writes once is checked by what comes after that. -/
theorem isChecked_of_saved {e : Exchange} (h : ¬Saved user tr) (h' : ¬Saved user rest)
    (hrest : Passed load rest ∨ ∃ e ∈ rest, e.op = .access (.clear user)) :
    IsChecked user load (tr ++ e :: rest) := by
  intro before time source form after htr
  -- The write in question is `e`: there is none before it, and none after it.
  rcases List.append_eq_append_iff.1 htr with ⟨between, rfl, hafter⟩ | ⟨between, rfl, hafter⟩
  · cases between with
    | nil =>
      cases hafter
      exact hrest
    | cons e' between =>
      obtain ⟨-, rfl⟩ := List.cons.inj hafter
      exact absurd ⟨time, source, form, List.mem_append_right between List.mem_cons_self⟩ h'
  · cases between with
    | nil =>
      cases hafter
      exact hrest
    | cons e' between =>
      obtain ⟨rfl, -⟩ := List.cons.inj hafter
      exact absurd ⟨time, source, form, List.mem_append_right before List.mem_cons_self⟩ h

/-! ## Compiling -/

open HouseholdAccess.Flow

/-- The load has not been told that it has not been overtaken, and has not written anything. -/
structure IsEarly (user : Id) (load : Nat) (tr : List Exchange) : Prop where
  notPassed : ¬Passed load tr
  notSaved : ¬Saved user tr

theorem IsEarly.snoc {e : Exchange} (h : IsEarly user load tr)
    (he : e.op ≠ .isOvertaken load ∧ ∀ form, e.op ≠ .access (.save user form)) :
    IsEarly user load (tr ++ [e]) :=
  ⟨not_passed_snoc he.1 h.notPassed, not_saved_append h.notSaved (not_saved_singleton he.2)⟩

/-- The load has asked for the roles of the user, and is not any further. -/
structure IsReading (user : Id) (load : Nat) (tr : List Exchange) : Prop
    extends IsEarly user load tr where
  asked : Asked user tr

theorem IsReading.snoc {e : Exchange} (h : IsReading user load tr)
    (he : e.op ≠ .isOvertaken load ∧ ∀ form, e.op ≠ .access (.save user form)) :
    IsReading user load (tr ++ [e]) :=
  ⟨h.toIsEarly.snoc he, h.asked.append⟩

namespace UserContext

/-- The names in the context that records and lists of users state are texts. -/
theorem hasTextIds_ofRecords {records : List RoleRecord} {managed : List Id}
    {managing households : List Id} {aiUsers members : List (List Id)} {c : UserContext}
    (huser : user.isText = true)
    (hrecords : ∀ r ∈ records, ∀ household, r.household = some household →
      household.isText = true)
    (hmanaged : ∀ id ∈ managed, id.isText = true)
    (haiUsers : ∀ ids ∈ aiUsers, ∀ id ∈ ids, id.isText = true)
    (hmembers : ∀ ids ∈ members, ∀ id ∈ ids, id.isText = true)
    (hc : ofRecords user records managed (managing.zip aiUsers) (households.zip members) = .ok c) :
    c.HasTextIds := by
  obtain ⟨memberships, hmemberships, hc⟩ := exists_of_bind_eq_ok hc
  cases hc
  refine ⟨huser, fun m hm => ?_, hmanaged, fun entry hentry => ?_, fun entry hentry => ?_⟩
  · obtain ⟨r, hr, hread⟩ := exists_of_mapM_eq_ok hmemberships m hm
    obtain ⟨household, hhousehold, hread⟩ := exists_of_bind_eq_ok hread
    obtain ⟨role, -, hread⟩ := exists_of_bind_eq_ok hread
    cases hread
    exact hrecords r hr household (World.household_of_readHousehold hhousehold)
  · exact haiUsers entry.2 (List.of_mem_zip hentry).2
  · exact hmembers entry.2 (List.of_mem_zip hentry).2

/-- The load is still reading, and the names in the context that it has read are texts. -/
def Fetches (user : Id) (load : Nat) (tr : List Exchange) (r : Except Interruption UserContext) :
    Prop :=
  IsReading user load tr ∧ ∀ c, r = .ok c → c.HasTextIds

theorem keeps_ask (huser : user.isText = true) (htr : IsEarly user load tr) :
    (ask user).Keeps Exchange.IsSound (LoadMay kind user load) (Fetches user load) tr := by
  have hfail {tr : List Exchange} (h : IsReading user load tr) (e : Interruption) :
      Fetches user load tr (.error e) := ⟨h, fun _ hc => by cases hc⟩
  refine keeps_bind (keeps_access ⟨rfl, htr.notPassed⟩ (fun time source records hrecords => ?_)
    fun time source f => hfail ⟨htr.snoc (by simp), asked_snoc rfl⟩ _)
  -- From here on the load is reading, and what it is answered leaves it so.
  have h : IsReading user load (tr ++ [⟨time, source, .access (.roles user), .ok records⟩]) :=
    ⟨htr.snoc (by simp), asked_snoc rfl⟩
  refine keeps_bind (keeps_access ⟨h.asked, h.notPassed⟩ (fun time source managed hmanaged => ?_)
    fun time source f => hfail (h.snoc (by simp)) _)
  replace h := h.snoc (e := ⟨time, source, .access (.managed user), .ok managed⟩) (by simp)
  refine keeps_bind (keeps_ofExcept (fun households _ => ?_) fun e _ => hfail h (.failure e))
  refine keeps_bind (keeps_ofExcept (fun managing _ => ?_) fun e _ => hfail h (.failure e))
  refine keeps_bind (keeps_perform _ ⟨by simp, h.asked, h.notPassed⟩ fun time source reply hr => ?_)
  cases reply with
  | error e => exact hfail (h.snoc (by simp)) e
  | ok members =>
    replace h := h.snoc
      (e := ⟨time, source, .each .members (Policy.distinct households), .ok members⟩) (by simp)
    refine keeps_bind (keeps_perform _ ⟨by simp, h.asked, h.notPassed⟩
      fun time source reply hr' => ?_)
    cases reply with
    | error e => exact hfail (h.snoc (by simp)) e
    | ok aiUsers =>
      replace h := h.snoc (e := ⟨time, source, .each .aiUsers managing, .ok aiUsers⟩) (by simp)
      refine keeps_ofExcept (fun c hc => ⟨h, fun c' hc' => ?_⟩) fun e _ => hfail h (.failure e)
      -- The names in the context are those in the answers.
      cases hc'
      exact hasTextIds_ofRecords huser hrecords hmanaged hr' hr hc

theorem keeps_fetch (huser : user.isText = true) (htr : IsEarly user load tr) :
    (fetch user).Keeps Exchange.IsSound (LoadMay kind user load) (Fetches user load) tr :=
  Keeps.recover (keeps_ask huser htr) (fun _ _ => id)
    (fun _ _ hfetches => keeps_fail ⟨hfetches.1, fun _ hc => by cases hc⟩) fun _ => id

end UserContext

/-- The load is still reading, and the rule set that it has compiled can be kept. -/
def Cache.Compiles (user : Id) (load : Nat) (tr : List Exchange)
    (r : Except Interruption RuleSet) : Prop :=
  IsReading user load tr ∧ ∀ rules, r = .ok rules → rules.IsLasting

theorem Cache.keeps_compile (huser : user.isText = true) (htr : IsEarly user load tr) :
    (Cache.compile user).Keeps Exchange.IsSound (LoadMay kind user load)
      (Cache.Compiles user load) tr := by
  have hfail {tr : List Exchange} (h : IsReading user load tr) (e : Interruption) :
      Cache.Compiles user load tr (.error e) := ⟨h, fun _ hc => by cases hc⟩
  have hfetch : ((UserContext.fetch user).recover fun f => do
      if UserContext.saysUnavailable f then count (.compilation false)
      fail f).Keeps Exchange.IsSound (LoadMay kind user load)
        (UserContext.Fetches user load) tr := by
    refine Keeps.recover (UserContext.keeps_fetch huser htr) (fun _ _ => id) ?_ fun _ => id
    intro tr f hfetches
    split
    · refine keeps_bind (keeps_step _ trivial fun time source reply _ => ?_)
      exact keeps_fail ⟨hfetches.1.snoc (by simp), fun _ hc => by cases hc⟩
    · exact keeps_fail ⟨hfetches.1, fun _ hc => by cases hc⟩
  refine Keeps.bind hfetch ?_ fun tr e hfetches => hfail hfetches.1 e
  intro tr c hfetches
  refine keeps_bind (keeps_step _ trivial fun time source reply _ => ?_)
  refine keeps_bind (keeps_step _ trivial fun time' source' reply' _ => ?_)
  refine keeps_pure ⟨(hfetches.1.snoc (by simp)).snoc (by simp), fun rules hrules => ?_⟩
  cases hrules
  exact UserContext.isLasting_compile (hfetches.2 c rfl)

/-! ## The cache and the record -/

variable {G : List Exchange → Operation → Prop}

theorem CacheKind.keeps_set {text : String} {seconds : Binary64}
    {Q : List Exchange → Except Interruption Bool → Prop} (kind : CacheKind)
    (hG : G tr (.access (.cacheSet user text seconds)))
    (hQ : ∀ time source reply r,
      Q (tr ++ [⟨time, source, .access (.cacheSet user text seconds), reply⟩]) r) :
    (kind.set user text seconds).Keeps Exchange.IsSound G Q tr := by
  have hset : (do access (.cacheSet user text seconds); return true : Flow Bool).Keeps
      Exchange.IsSound G (fun tr' _ => ∀ r, Q tr' r) tr :=
    keeps_bind (keeps_access hG (fun time source _ _ => keeps_pure (hQ time source _))
      fun time source f => hQ time source _)
  match kind with
  | .local => exact hset.mono fun _ r h => h r
  | .shared =>
    exact Keeps.recover hset (fun _ _ h => h _) (fun _ _ h => keeps_pure (h _)) fun _ h => h _

namespace StoreKind

/-- What loading comes to, by what is on the record. -/
def reading (kind : StoreKind) : Option Value → Except Failure (Option Value)
  | none => .ok none
  | some form =>
    match kind with
    | .table => .ok (some form)
    | .database => decoded form

theorem Says.reading_eq {form : Value} (h : kind.Says form rules) :
    kind.reading (some form) = .ok (some (Packed.pack rules)) := by
  cases kind with
  | table => exact congrArg (fun form => Except.ok (some form)) h
  | database => exact h

/-- Loading comes to what the record says. A record that cannot be read says nothing, or fails the
    load. -/
theorem keeps_load {Q : List Exchange → Except Interruption (Option Value) → Prop}
    (kind : StoreKind) (hG : G tr (.access (.load user)))
    (hok : ∀ time source form, Q (tr ++ [⟨time, source, .access (.load user), .ok form⟩])
      ((kind.reading form).mapError .failure))
    (herror : ∀ time source f r, r = .ok none ∨ r = .error (.failure f) →
      Q (tr ++ [⟨time, source, .access (.load user), .error (.failure f)⟩]) r) :
    (kind.load user).Keeps Exchange.IsSound G Q tr := by
  cases kind with
  | table =>
    refine keeps_access hG (fun time source form _ => ?_) fun time source f =>
      herror time source f _ (.inr rfl)
    have hform := hok time source form
    cases form <;> exact hform
  | database =>
    refine keeps_bind (keeps_access_recover hG (fun time source form _ => ?_)
      fun time source f => keeps_pure (keeps_pure (herror time source f _ (.inl rfl))))
    have hform := hok time source form
    cases form with
    | none => exact hform
    | some v =>
      refine keeps_ofExcept (fun value hvalue => ?_) fun e he => ?_
      · rw [reading, hvalue] at hform
        exact hform
      · rw [reading, he] at hform
        exact hform

theorem keeps_clear {Q : List Exchange → Except Interruption Unit → Prop} (kind : StoreKind)
    (hG : G tr (.access (.clear user)))
    (hok : ∀ time source, Q (tr ++ [⟨time, source, .access (.clear user), .ok ()⟩]) (.ok ()))
    (herror : ∀ time source f f',
      Q (tr ++ [⟨time, source, .access (.clear user), .error (.failure f)⟩])
        (.error (.failure f'))) :
    (kind.clear user).Keeps Exchange.IsSound G Q tr := by
  cases kind with
  | table =>
    exact keeps_access hG (fun time source _ _ => hok time source)
      fun time source f => herror time source f f
  | database =>
    exact keeps_access_recover hG (fun time source _ _ => hok time source)
      fun time source f => keeps_fail (herror time source f _)

/-- What is saved of a lasting rule set says the rule set. A record that cannot be written fails the
    caller, or tells it so. -/
theorem keeps_save {Q : List Exchange → Except Interruption Bool → Prop} (kind : StoreKind)
    (hrules : rules.IsLasting)
    (hG : ∀ form, kind.Says form rules → G tr (.access (.save user form)))
    (hok : ∀ time source form, Q (tr ++ [⟨time, source, .access (.save user form), .ok ()⟩])
      (.ok true))
    (herror : ∀ time source form f r, r = .ok false ∨ r = .error (.failure f) →
      Q (tr ++ [⟨time, source, .access (.save user form), .error (.failure f)⟩]) r) :
    (kind.save user (Packed.pack rules)).Keeps Exchange.IsSound G Q tr := by
  cases kind with
  | table =>
    exact keeps_bind (keeps_access (hG _ rfl)
      (fun time source _ _ => keeps_pure (hok time source (Packed.pack rules)))
      fun time source f => herror time source (Packed.pack rules) f _ (.inr rfl))
  | database =>
    obtain ⟨text, htext, hread⟩ := hrules.exists_write Json.isStandard_spaced
    have hsaid : database.Says (.text text) rules := by
      change decoded (.text text) = _
      rw [decoded, hread]
      rfl
    -- A refusal is passed on here, and dealt with outside.
    have hput : (do
        access (.save user (.text text))
        return hasLength (Packed.pack rules) : Flow Bool).Keeps Exchange.IsSound G
        (fun tr' r => (r = .ok true ∧ Q tr' r) ∨
          ∃ f, r = .error (.failure f) ∧ Q tr' (.ok false)) tr :=
      keeps_bind (keeps_access (hG _ hsaid)
        (fun time source _ _ => keeps_pure (.inl ⟨rfl, hok time source (.text text)⟩))
        fun time source f => .inr ⟨f, rfl, herror time source (.text text) f _ (.inl rfl)⟩)
    refine Keeps.recover (P := fun tr' r => (r = .ok true ∧ Q tr' r) ∨
      ∃ f, r = .error (.failure f) ∧ Q tr' (.ok false)) ?_ (fun _ _ h => ?_) (fun _ _ h => ?_)
      fun _ h => ?_
    · rw [htext]
      exact hput
    · rcases h with ⟨-, h⟩ | ⟨f, h, -⟩
      · exact h
      · cases h
    · rcases h with ⟨h, -⟩ | ⟨f, -, h⟩
      · cases h
      · exact keeps_pure h
    · rcases h with ⟨h, -⟩ | ⟨f, h, -⟩ <;> cases h

end StoreKind

/-! ## Loading -/

/-- What is known stays known, unless the roles are asked for. -/
theorem Known.snoc {P : RuleSet → Prop} {e : Exchange} (he : e.op ≠ .access (.roles user))
    (h : Known kind user tr P) : Known kind user (tr ++ [e]) P := by
  rcases h with ⟨rules, hcompiled, hrules⟩ | ⟨hasked, time, source, form, hmem, hform⟩
  · exact .inl ⟨rules, hcompiled.append, hrules⟩
  · refine .inr ⟨?_, time, source, form, List.mem_append_left [e] hmem, hform⟩
    rintro ⟨e', he', hop⟩
    rcases List.mem_append.1 he' with he' | he'
    · exact hasked ⟨e', he', hop⟩
    · exact he (List.mem_singleton.1 he' ▸ hop)

/-- Since the trace was `tr`, no roles have been asked for, and nothing has been written on the
    record. -/
structure GoesOn (kind : StoreKind) (user : Id) (tr tr' : List Exchange) : Prop where
  rest : ∃ rest, tr' = tr ++ rest ∧ ¬Saved user rest
  known : ∀ P, Known kind user tr P → Known kind user tr' P

theorem GoesOn.refl (kind : StoreKind) (user : Id) (tr : List Exchange) : GoesOn kind user tr tr :=
  ⟨⟨[], (List.append_nil tr).symm, fun ⟨_, _, _, hmem⟩ => by cases hmem⟩, fun _ => id⟩

theorem GoesOn.snoc {tr' : List Exchange} {e : Exchange} (h : GoesOn kind user tr tr')
    (he : e.op ≠ .access (.roles user) ∧ ∀ form, e.op ≠ .access (.save user form)) :
    GoesOn kind user tr (tr' ++ [e]) := by
  obtain ⟨rest, rfl, hrest⟩ := h.rest
  exact ⟨⟨rest ++ [e], List.append_assoc .., not_saved_append hrest (not_saved_singleton he.2)⟩,
    fun P hP => (h.known P hP).snoc he.1⟩

theorem GoesOn.not_saved {tr' : List Exchange} (h : GoesOn kind user tr tr')
    (htr : ¬Saved user tr) : ¬Saved user tr' := by
  obtain ⟨rest, rfl, hrest⟩ := h.rest
  exact not_saved_append htr hrest

/-- A load that fails before it has written anything. -/
theorem loadEnds_error {e : Interruption} (htr : ¬Saved user tr) :
    LoadEnds kind user load tr (.error e) :=
  ⟨fun _ hanswer => (by cases hanswer), isChecked_of_not_saved htr⟩

namespace Cache

variable {c : Cache}

/-- What is put into the cache is known. -/
theorem keeps_populate {form : Value}
    (hform : ∀ text, Json.write Json.compact form = .ok text →
      Known c.store user tr fun rules => Packed.dumps rules = .ok text) :
    (c.populate user form load).Keeps Exchange.IsSound (LoadMay c.store user load)
      (fun tr' _ => GoesOn c.store user tr tr') tr := by
  have hrefl := GoesOn.refl c.store user tr
  refine keeps_bind (keeps_step _ rfl fun time source overtaken _ => ?_)
  cases overtaken with
  | true => exact keeps_pure (hrefl.snoc (by simp))
  | false =>
    have hpassed : JustPassed load (tr ++ [⟨time, source, .isOvertaken load, false⟩]) :=
      ⟨tr, time, source, rfl⟩
    refine keeps_bind (keeps_ofExcept (fun text htext => ?_) fun _ _ => hrefl.snoc (by simp))
    refine keeps_bind (CacheKind.keeps_set c.kind ⟨rfl, hpassed, (hform text htext).snoc (by simp)⟩
      fun time source reply r => ?_)
    cases r with
    | ok => exact keeps_pure ((hrefl.snoc (by simp)).snoc (by simp))
    | error => exact (hrefl.snoc (by simp)).snoc (by simp)

/-- How a load goes on after it has written on the record. -/
def settle (c : Cache) (user : Id) (load : Nat) (rules : RuleSet) : Flow RuleSet := do
  if ← step (.isOvertaken load) then
    c.store.clear user
    return rules
  c.populate user (Packed.pack rules) load
  return rules

/-- Whether or not the record has been written, the load asks again. -/
theorem keeps_settle (hcompiled : Compiled user tr rules) (hrules : rules.IsLasting)
    (hchecked : ∀ rest, ¬Saved user rest →
      (Passed load rest ∨ ∃ e ∈ rest, e.op = .access (.clear user)) →
      IsChecked user load (tr ++ rest)) :
    (c.settle user load rules).Keeps Exchange.IsSound (LoadMay c.store user load)
      (LoadEnds c.store user load) tr := by
  have hknown : Known c.store user tr fun r => rules = r := .inl ⟨rules, hcompiled, hrules, rfl⟩
  refine keeps_bind (keeps_step _ rfl fun time source overtaken _ => ?_)
  cases overtaken with
  | true =>
    -- The record is wiped whether or not that succeeds, as far as asking for it goes.
    have hclear {reply : Except Interruption Unit} (time' : Nat) (source' : Mark) :
        IsChecked user load (tr ++ [⟨time, source, .isOvertaken load, true⟩] ++
          [⟨time', source', .access (.clear user), reply⟩]) := by
      rw [List.append_assoc]
      refine hchecked _ (not_saved_append (not_saved_singleton (by simp))
        (not_saved_singleton (by simp))) (.inr ?_)
      exact ⟨_, List.mem_append_right _ (List.mem_singleton.2 rfl), rfl⟩
    refine keeps_bind (StoreKind.keeps_clear c.store rfl (fun time' source' => ?_)
      fun time' source' _ _ => ⟨fun _ hanswer => (by cases hanswer), hclear time' source'⟩)
    refine keeps_pure ⟨fun answer hanswer => ?_, hclear time' source'⟩
    cases hanswer
    exact (hknown.snoc (by simp)).snoc (by simp)
  | false =>
    -- Having been told again is enough, whatever becomes of the cache after that.
    have hpassed {tr' : List Exchange} (h : GoesOn c.store user
        (tr ++ [⟨time, source, .isOvertaken load, false⟩]) tr') : IsChecked user load tr' := by
      obtain ⟨rest, rfl, hrest⟩ := h.rest
      rw [List.append_assoc]
      refine hchecked _ (not_saved_append (not_saved_singleton (by simp)) hrest) (.inl ?_)
      exact ⟨time, source, List.mem_append_left rest (List.mem_singleton.2 rfl)⟩
    refine Keeps.bind (keeps_populate fun text htext => ?_) (fun tr' _ h => ?_)
      fun tr' _ h => ⟨fun _ hanswer => (by cases hanswer), hpassed h⟩
    · exact .inl ⟨rules, hcompiled.append, hrules, htext⟩
    · refine keeps_pure ⟨fun answer hanswer => ?_, hpassed h⟩
      cases hanswer
      exact h.known _ (hknown.snoc (by simp))

theorem keeps_keep (hcompiled : Compiled user tr rules) (hrules : rules.IsLasting)
    (htr : ¬Saved user tr) :
    (c.keep user load rules).Keeps Exchange.IsSound (LoadMay c.store user load)
      (LoadEnds c.store user load) tr := by
  refine keeps_bind (keeps_step _ rfl fun time source overtaken _ => ?_)
  have htr' {overtaken : Bool} :
      ¬Saved user (tr ++ [⟨time, source, .isOvertaken load, overtaken⟩]) :=
    not_saved_append htr (not_saved_singleton (by simp))
  cases overtaken with
  | true =>
    refine keeps_pure ⟨fun answer hanswer => ?_, isChecked_of_not_saved htr'⟩
    cases hanswer
    exact .inl ⟨rules, hcompiled.append, hrules, rfl⟩
  | false =>
    have hpassed : JustPassed load (tr ++ [⟨time, source, .isOvertaken load, false⟩]) :=
      ⟨tr, time, source, rfl⟩
    refine keeps_bind (StoreKind.keeps_save c.store hrules
      (fun form hsaid => ⟨rfl, hpassed, rules, hcompiled.append, hrules, hsaid⟩)
      (fun _ _ form => ?_) fun time' source' form f r hr => ?_)
    · refine keeps_settle hcompiled.append.append hrules fun rest hrest hafter => ?_
      rw [List.append_assoc]
      exact isChecked_of_saved htr' hrest hafter
    · -- Nothing has been written, so that there is nothing to be checked.
      have hnone : ¬Saved user (tr ++ [⟨time, source, .isOvertaken load, false⟩] ++
          [⟨time', source', .access (.save user form), .error (.failure f)⟩]) := by
        refine not_saved_append htr' ?_
        rintro ⟨_, _, _, hmem⟩
        cases List.mem_singleton.1 hmem
      rcases hr with rfl | rfl
      · exact keeps_settle hcompiled.append.append hrules fun rest hrest _ =>
          isChecked_of_not_saved (not_saved_append hnone hrest)
      · exact loadEnds_error hnone

theorem keeps_compileAndKeep (huser : user.isText = true) (htr : IsEarly user load tr) :
    (c.compileAndKeep user load).Keeps Exchange.IsSound (LoadMay c.store user load)
      (LoadEnds c.store user load) tr := by
  refine keeps_bind (keeps_step _ trivial fun time source _ _ => ?_)
  have hearly : IsEarly user load (tr ++ [⟨time, source, .count (.cacheLookup .miss), ()⟩]) :=
    htr.snoc (by simp)
  -- The compilation is cut out of the trace, which is what `Compiled` asks for.
  refine Keeps.bind (Program.Keeps.follows (keeps_compile huser hearly)) ?_
    fun tr' _ h => loadEnds_error h.1.1.notSaved
  rintro tr' rules ⟨hcompiles, part, rfl, hpart⟩
  exact keeps_keep ⟨part, (List.suffix_append _ part).isInfix, hpart⟩ (hcompiles.2 rules rfl)
    hcompiles.1.notSaved

/-- How a load goes on with what is on the record. -/
def loadFrom (c : Cache) (user : Id) (load : Nat) : Option Value → Flow RuleSet
  | none => c.compileAndKeep user load
  | some form =>
    match Packed.unpackWithin loadRoom form with
    | .error (.malformed _) => c.compileAndKeep user load
    | .error (.tooDeep o) => fail (.tooDeep o)
    | .ok rules => do
      count (.cacheLookup .persisted)
      c.populate user form load
      return rules

theorem load_eq_bind (c : Cache) (user : Id) (load : Nat) :
    c.load user load = c.store.load user >>= c.loadFrom user load := by
  refine congrArg (c.store.load user >>= ·) (funext fun value => ?_)
  cases value <;> rfl

/-- A load that reads a form which can be unpacked knows what the form says. -/
theorem keeps_loadFrom {time : Nat} {source : Mark} {form : Option Value} {v : Value}
    (hreading : c.store.reading form = .ok (some v))
    (hunpack : Packed.unpackWithin loadRoom v = .ok rules) :
    (c.loadFrom user load (some v)).Keeps Exchange.IsSound (LoadMay c.store user load)
      (LoadEnds c.store user load) [⟨time, source, .access (.load user), .ok form⟩] := by
  cases form with
  | none => cases hreading
  | some form =>
    -- A form that says a rule set is read as the packed form of that, which is `v` then.
    have hknown {P : RuleSet → Prop}
        (hP : ∀ rules : RuleSet, rules.IsLasting → v = Packed.pack rules → P rules) :
        Known c.store user [⟨time, source, .access (.load user), .ok (some form)⟩] P := by
      refine .inr ⟨?_, time, source, form, List.mem_singleton.2 rfl, fun rules' hrules' hsaid => ?_⟩
      · rintro ⟨e, he, hop⟩
        obtain rfl := List.mem_singleton.1 he
        cases hop
      · rw [hsaid.reading_eq] at hreading
        cases hreading
        exact hP rules' hrules' rfl
    rw [loadFrom, hunpack]
    refine keeps_bind (keeps_step _ trivial fun time' source' _ _ => ?_)
    have hsaved : ¬Saved user ([⟨time, source, .access (.load user), .ok (some form)⟩] ++
        [⟨time', source', .count (.cacheLookup .persisted), ()⟩]) :=
      not_saved_append (not_saved_singleton (by simp)) (not_saved_singleton (by simp))
    refine Keeps.bind (keeps_populate fun text htext => ?_) (fun tr _ h => ?_)
      fun _ _ h => loadEnds_error (h.not_saved hsaved)
    · refine Known.snoc (by simp) (hknown fun rules' _ hv => ?_)
      rwa [hv] at htext
    · refine keeps_pure ⟨fun answer hanswer => ?_, isChecked_of_not_saved (h.not_saved hsaved)⟩
      cases hanswer
      refine h.known _ (Known.snoc (by simp) (hknown fun rules' hrules' hv => ?_))
      rw [hv, hrules'.unpackWithin (by decide)] at hunpack
      cases hunpack
      rfl

/-- Whatever a load is replied, it does only what loads may do, and ends as loads may end. -/
theorem keeps_load (huser : user.isText = true) :
    (c.load user load).Keeps Exchange.IsSound (LoadMay c.store user load)
      (LoadEnds c.store user load) [] := by
  rw [load_eq_bind]
  have hearly {time : Nat} {source : Mark} {reply : Except Interruption (Option Value)} :
      IsEarly user load [⟨time, source, .access (.load user), reply⟩] := by
    refine ⟨?_, not_saved_singleton (by simp)⟩
    rintro ⟨time', source', hmem⟩
    cases List.mem_singleton.1 hmem
  refine keeps_bind (StoreKind.keeps_load c.store ⟨rfl, rfl⟩ (fun time source form => ?_)
    fun time source f r hr => ?_)
  · rw [List.nil_append]
    cases hreading : c.store.reading form with
    | error f => exact loadEnds_error hearly.notSaved
    | ok value =>
      cases value with
      | none => exact keeps_compileAndKeep huser hearly
      | some v =>
        change (c.loadFrom user load (some v)).Keeps _ _ _ _
        cases hunpack : Packed.unpackWithin loadRoom v with
        | ok rules => exact keeps_loadFrom hreading hunpack
        | error e =>
          rw [loadFrom, hunpack]
          cases e with
          | malformed => exact keeps_compileAndKeep huser hearly
          | tooDeep => exact loadEnds_error hearly.notSaved
  · -- A record that cannot be read is passed over by one kind of store, and fails the load with
    -- the other.
    rcases hr with rfl | rfl
    · exact keeps_compileAndKeep huser hearly
    · exact loadEnds_error hearly.notSaved

end Cache

end HouseholdAccess
