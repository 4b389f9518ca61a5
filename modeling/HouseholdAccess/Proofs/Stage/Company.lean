import HouseholdAccess.Proofs.Cache.Denied
import HouseholdAccess.Proofs.Independence.Turns

/-!
# Whoever is at work

On a stage callers may want anything of the service, and anything may become of the world.
Besides, others may be at work whose programs nobody follows, such as those who drop the
rule sets of a household, or errands whose load has given up: they may carry out any
operation at any time (`Stage.Happens`).

Loads keep to their programs in any company (`Stage.Orderly`). Each of them belongs to the
user for whom it was started, and what it does next is what its program does after the
replies that it has had (`Strand.IsLoad`). Whatever has come to an end stays as it is
(`Stage.Extends`), and a load that is let go on comes to an end (`Stage.Orderly.canEnd`).
-/

namespace HouseholdAccess

open HouseholdAccess.Flow

variable {α : Type} {user : Id} {c : Cache} {n i : Nat}

/-! ## Errands that ask for users -/

/-- The errand asks for the users of a household, or has been told them, or has been refused. -/
inductive ErrandAsks : ErrandProgram → Prop
  | members (household : Id) : ErrandAsks (access (.members household)).run
  | aiUsers (household : Id) : ErrandAsks (access (.aiUsers household)).run
  | told (ids : List Id) : ErrandAsks (.done (.ok ids))
  | refused (f : Failure) : ErrandAsks (.done (.error (.failure f)))

namespace ErrandAsks

variable {p : ErrandProgram}

/-- An errand that has not ended asks for something, and has ended then. -/
theorem exists_access {op : Operation} {next : op.Reply → ErrandProgram}
    (h : ErrandAsks (.call op next)) : op.AsksMembers ∧ (∃ a, op = .access a) ∧
      ∀ reply, Exchange.IsHonest ⟨0, {}, op, reply⟩ →
        ErrandAsks (next reply) ∧ (next reply).result?.isSome = true := by
  have hended {reply : Except Interruption (List Id)}
      (hhonest : ∀ x, reply = .error x → ∃ f, x = .failure f) :
      ErrandAsks (.done reply) ∧ (Program.done reply).result?.isSome = true := by
    cases reply with
    | ok ids => exact ⟨.told ids, rfl⟩
    | error x =>
      obtain ⟨f, rfl⟩ := hhonest x rfl
      exact ⟨.refused f, rfl⟩
  generalize hp : Program.call op next = p at h
  cases h with
  | members household =>
    cases hp
    refine ⟨trivial, ⟨_, rfl⟩, fun reply hhonest => hended ?_⟩
    rintro x rfl
    exact hhonest
  | aiUsers household =>
    cases hp
    refine ⟨trivial, ⟨_, rfl⟩, fun reply hhonest => hended ?_⟩
    rintro x rfl
    exact hhonest
  | told => cases hp
  | refused => cases hp

/-- Why an errand has failed is a failure. -/
theorem exists_failure (h : ErrandAsks p) {x : Interruption} (hx : p.failure? = some x) :
    ∃ f, x = .failure f := by
  cases h with
  | members | aiUsers | told => cases hx
  | refused f =>
    cases hx
    exact ⟨f, rfl⟩

end ErrandAsks

/-! ## Strands of loads -/

/-- What leads to a program that only does what is of a kind. -/
theorem Program.Only.of_leads {P : Operation → Prop} {p q : Program α} {tr : List Exchange}
    (hp : p.Only P) (hleads : p.Leads tr q) : q.Only P := by
  induction tr generalizing p with
  | nil =>
    obtain rfl : q = p := hleads
    exact hp
  | cons e tr ih =>
    cases p with
    | done => exact hleads.elim
    | call op next =>
      obtain ⟨time, source, reply, -, hleads⟩ := hleads
      exact ih (hp.2 reply) hleads

namespace Strand

/-- Errands that have all ended have come to something. -/
theorem isSome_gathered? {t : Strand α}
    (hended : t.parts.countP (fun p => p.result?.isNone) = 0) : t.gathered?.isSome = true := by
  rw [Strand.gathered?]
  split
  · rfl
  · have hresults : ∀ p ∈ t.parts, ∃ r, p.result? = some r := fun p hp => by
      have hp' := List.countP_eq_zero.1 hended p hp
      cases hr : p.result? with
      | some r => exact ⟨r, rfl⟩
      | none => exact absurd (by rw [hr]; rfl) hp'
    obtain ⟨rs, hrs⟩ := exists_mapM_eq_some hresults
    rw [hrs]
    rfl

/-- If an errand has failed, it is noted, and for which failure. -/
structure NotesFailures (t : Strand α) : Prop where
  failed : ∀ x, t.failed = some x → ∃ f, x = .failure f
  unfailed : t.failed = none → ∀ p ∈ t.parts, p.failure? = none

namespace NotesFailures

variable {t : Strand α} (h : t.NotesFailures)
include h

/-- If its errands have come to nothing, something has failed. -/
theorem exists_failure {x : Interruption} (hx : t.gathered? = some (.error x)) :
    ∃ f, x = .failure f := by
  rw [gathered?] at hx
  cases hfailed : t.failed with
  | some =>
    rw [hfailed] at hx
    cases hx
    exact h.failed x hfailed
  | none =>
    simp only [hfailed] at hx
    obtain ⟨rs, hrs, hx⟩ := Option.map_eq_some_iff.1 hx
    -- None of them has failed.
    have hok : ∀ r ∈ rs, ∃ ids, r = .ok ids := fun r hr => by
      obtain ⟨p, hp, hpr⟩ := exists_of_mapM_eq_some hrs r hr
      have hnone := h.unfailed hfailed p hp
      rw [Program.result?_eq_some hpr] at hnone
      cases r with
      | ok ids => exact ⟨ids, rfl⟩
      | error => cases hnone
    obtain ⟨lists, hlists⟩ := exists_mapM_eq_ok (f := id) hok
    rw [hlists] at hx
    cases hx

theorem goErrand (i time : Nat) (op : Operation) {p : ErrandProgram}
    (hp : ∀ x, p.failure? = some x → ∃ f, x = .failure f) :
    (t.goErrand i time op p).NotesFailures := by
  have hfailed : (t.goErrand i time op p).failed = (t.failed <|> p.failure?) := rfl
  cases hold : t.failed with
  | some x =>
    rw [hold] at hfailed
    refine ⟨fun y hy => ?_, fun hnone => ?_⟩
    · cases hfailed.symm.trans hy
      exact h.failed x hold
    · cases hfailed.symm.trans hnone
  | none =>
    rw [hold] at hfailed
    refine ⟨fun x hx => hp x (hfailed.symm.trans hx), fun hnone q hq => ?_⟩
    rcases List.mem_or_eq_of_mem_set hq with hq | rfl
    · exact h.unfailed hold q hq
    · exact hfailed.symm.trans hnone

end NotesFailures

/-- The strand is that of a load of the user, with the number. -/
structure IsLoad (c : Cache) (user : Id) (n : Nat) (t : Strand RuleSet) : Prop where
  leads : (c.load user n).run.Leads t.trace t.program
  honest : ∀ e ∈ t.trace, e.IsHonest
  asks : ∀ p ∈ t.parts, ErrandAsks p
  waiting : t.parts ≠ [] → ∃ errand ids next, t.program = .call (.each errand ids) next
  failed : ∀ x, t.failed = some x → t.parts ≠ [] ∧ ∃ f, x = .failure f
  unfailed : t.failed = none → ∀ p ∈ t.parts, p.failure? = none

variable {t : Strand RuleSet}

namespace IsLoad

/-- If it has been denied role data, it leaves no trace, and fails for want of role data. -/
theorem keeps (h : t.IsLoad c user n) :
    t.program.Keeps Exchange.IsHonest Abstains FailsDenied t.trace :=
  Program.Keeps.of_leads c.keeps_load_denied h.leads h.honest

theorem only (h : t.IsLoad c user n) : t.program.Only Operation.IsOfLoad :=
  Program.Only.of_leads (c.only_load user n) h.leads

/-- It has no errands unless it waits for them. -/
theorem parts_eq_nil (h : t.IsLoad c user n) {r : Except Interruption RuleSet}
    (hdone : t.program = .done r) : t.parts = [] := by
  by_contra hparts
  obtain ⟨errand, ids, next, hprogram⟩ := h.waiting hparts
  rw [hdone] at hprogram
  cases hprogram

theorem notesFailures (h : t.IsLoad c user n) : t.NotesFailures :=
  ⟨fun x hx => (h.failed x hx).2, h.unfailed⟩

end IsLoad

/-- The errands of a program that leaves no trace ask for users. -/
theorem asks_errandsOf {p : Program (Except Interruption RuleSet)} {tr : List Exchange}
    {R : Exchange → Prop} {Q : List Exchange → Except Interruption RuleSet → Prop}
    (hp : p.Keeps R Abstains Q tr) :
    ∀ q ∈ c.errandsOf p, ErrandAsks q ∧ q.failure? = none := by
  intro q hq
  obtain ⟨errand, ids, next, id, rfl, rfl⟩ := Cache.exists_of_mem_errandsOf hq
  have herrand : errand ≠ .invalidate := (hp.1 (.inr ⟨errand, ids, rfl⟩)).2
  cases errand with
  | invalidate => exact absurd rfl herrand
  | members => exact ⟨.members id, rfl⟩
  | aiUsers => exact ⟨.aiUsers id, rfl⟩

/-- A load that is started. -/
theorem isLoad_start (c : Cache) (begun : Nat) (user : Id) (n : Nat) :
    (start c begun (c.load user n).run).IsLoad c user n where
  leads := rfl
  honest := List.forall_mem_nil _
  asks := fun p hp => (asks_errandsOf c.keeps_load_denied p hp).1
  waiting := waiting_errandsOf
  failed := nofun
  unfailed := fun _ p hp => (asks_errandsOf c.keeps_load_denied p hp).2

theorem IsLoad.go (h : t.IsLoad c user n) {op : Operation}
    {next : op.Reply → Program (Except Interruption RuleSet)} (hprogram : t.program = .call op next)
    {time : Nat} {source : Mark} {reply : op.Reply}
    (hhonest : Exchange.IsHonest ⟨time, source, op, reply⟩) :
    (t.go c ⟨time, source, op, reply⟩ (next reply)).IsLoad c user n := by
  have hleads := h.leads
  rw [hprogram] at hleads
  have hkeeps := h.keeps
  rw [hprogram] at hkeeps
  have hnext := hkeeps.2 time source reply hhonest
  refine ⟨hleads.snoc time source reply, fun e he => ?_,
    fun p hp => (asks_errandsOf hnext p hp).1, waiting_errandsOf, nofun,
    fun _ p hp => (asks_errandsOf hnext p hp).2⟩
  rcases List.mem_append.1 he with he | he
  · exact h.honest e he
  · exact List.mem_singleton.1 he ▸ hhonest

theorem IsLoad.goErrand (h : t.IsLoad c user n) (time : Nat) (op : Operation)
    {q p : ErrandProgram} (hq : t.parts[i]? = some q) (hp : ErrandAsks p) :
    (t.goErrand i time op p).IsLoad c user n := by
  have hparts : t.parts ≠ [] := List.ne_nil_of_mem (List.mem_of_getElem? hq)
  have hset : t.parts.set i p ≠ [] := by
    rwa [Ne, List.set_eq_nil_iff]
  have hnotes := h.notesFailures.goErrand i time op fun _ => hp.exists_failure
  refine ⟨h.leads, h.honest, fun p' hp' => ?_, fun _ => h.waiting hparts,
    fun x hx => ⟨hset, hnotes.failed x hx⟩, hnotes.unfailed⟩
  rcases List.mem_or_eq_of_mem_set hp' with hp' | rfl
  · exact h.asks p' hp'
  · exact hp

/-- The load has been denied role data, or one of its errands has been. -/
def IsDenied (t : Strand RuleSet) : Prop := Denied t.trace ∨ t.failed.isSome = true

instance : DecidablePred IsDenied := fun _ => inferInstanceAs (Decidable (_ ∨ _))

theorem IsDenied.goErrand (h : t.IsDenied) (i time : Nat) (op : Operation) (p : ErrandProgram) :
    (t.goErrand i time op p).IsDenied := by
  refine h.imp_right fun hfailed => ?_
  obtain ⟨x, hx⟩ := Option.isSome_iff_exists.1 hfailed
  change (t.failed <|> p.failure?).isSome = true
  rw [hx]
  rfl

end Strand

/-! ## What may happen -/

namespace Stage

variable {s s' s'' start : Stage} {gathered : Option (Except Interruption (List (List Id)))}
  {op : Operation}

/-- One thing that may happen, whoever is at work. -/
inductive Happens (s : Stage) : Stage → Prop
  /-- A caller enters, whatever it wants, or somebody goes on, or the world changes in any way. -/
  | turn {turn : Turn} {s' : Stage} : s.take? turn = some s' → Happens s s'
  /-- Somebody else carries out an operation. -/
  | other {gathered : Option (Except Interruption (List (List Id)))} {op : Operation}
      {x : op.Reply × Solo × List (Strand RuleSet)} : s.carry gathered op = some x →
      Happens s (s.after none (s.exchange op x.1) x.2.1 x.2.2)

/-- What is come to from a stage, whoever is at work. -/
inductive Comes (start : Stage) : Stage → Prop
  | start : Comes start start
  | step {s s' : Stage} : Comes start s → Happens s s' → Comes start s'

/-- Those who have waited for a load have been told what it has come to. -/
def IsTold (loads : List (Strand RuleSet)) (e : Exchange) : Prop :=
  match e.op, e.reply with
  | .awaitLoad n, r => ∃ t, loads[n]? = some t ∧ t.program = .done r
  | _, _ => True

/-- Loads belong to users, and keep to their programs. -/
structure Orderly (s : Stage) : Prop where
  desk : s.place.desk.Belongs s.owners
  numbered : s.place.desk.loads.length = s.loads.length
  loads : ∀ (n : Nat) (t : Strand RuleSet), s.loads[n]? = some t →
    ∃ user, s.owners[n]? = some user ∧ t.IsLoad s.service.cache user n
  told : ∀ k ∈ s.callers, ∀ e ∈ k.trace, IsTold s.loads e

/-- What stays as it is, whatever happens. -/
structure Extends (s s' : Stage) : Prop where
  service : s'.service = s.service
  owners : s.owners <+: s'.owners
  ended : ∀ (n : Nat) (t : Strand RuleSet) (r : Except Interruption RuleSet),
    s.loads[n]? = some t → t.program = .done r → s'.loads[n]? = some t
  denied : ∀ (n : Nat) (t : Strand RuleSet), s.loads[n]? = some t → t.IsDenied →
    ∃ t', s'.loads[n]? = some t' ∧ t'.IsDenied
  released : ∀ (n : Nat) (user : Id), n < s.owners.length →
    s.place.desk.pendingOf user ≠ some n → s'.place.desk.pendingOf user ≠ some n
  overtaken : ∀ n, s.place.desk.isOvertaken n = true → s'.place.desk.isOvertaken n = true

namespace Extends

/-- A stage goes by its desk and its loads. -/
theorem of_eq (hservice : s'.service = s.service) (hdesk : s'.place.desk = s.place.desk)
    (hloads : s'.loads = s.loads) : s.Extends s' where
  service := hservice
  owners := by rw [Stage.owners, Stage.owners, hdesk]
  ended := fun n t r ht _ => by rwa [hloads]
  denied := fun n t ht hdenied => ⟨t, by rwa [hloads], hdenied⟩
  released := fun n user _ hpending => by rwa [hdesk]
  overtaken := fun n hn => by rwa [hdesk]

theorem trans (h : s.Extends s') (h' : s'.Extends s'') : s.Extends s'' where
  service := h'.service.trans h.service
  owners := h.owners.trans h'.owners
  ended := fun n t r ht hdone => h'.ended n t r (h.ended n t r ht hdone) hdone
  denied := fun n t ht hdenied => by
    obtain ⟨t', ht', hdenied'⟩ := h.denied n t ht hdenied
    exact h'.denied n t' ht' hdenied'
  released := fun n user hn hpending =>
    h'.released n user (hn.trans_le h.owners.length_le) (h.released n user hn hpending)
  overtaken := fun n hn => h'.overtaken n (h.overtaken n hn)

/-- Who has been told what a load has come to, has been told so for good. -/
theorem isTold (h : s.Extends s') {e : Exchange} (he : IsTold s.loads e) : IsTold s'.loads e := by
  unfold IsTold at he ⊢
  split at he
  · obtain ⟨t, ht, hdone⟩ := he
    exact ⟨t, h.ended _ t _ ht hdone, hdone⟩
  · trivial

theorem getElem?_owners (h : s.Extends s') (hn : s.owners[n]? = some user) :
    s'.owners[n]? = some user := by
  obtain ⟨more, hmore⟩ := h.owners
  rw [← hmore, List.getElem?_append_left (List.getElem?_eq_some_iff.1 hn).1]
  exact hn

end Extends

theorem length_owners (s : Stage) : s.owners.length = s.place.desk.loads.length := by
  simp [Stage.owners, Desk.owners]

/-! ### Operations -/

/-- What becomes of the desk when an operation is carried out, and the load that is started. -/
inductive Serving (s : Stage) (c : Cache) : Desk → List (Strand RuleSet) → Prop
  | same : Serving s c s.place.desk []
  | overtook (v : Id) : Serving s c (s.place.desk.overtake v) []
  | started {v : Id} : s.place.desk.pendingOf v = none → Serving s c (s.place.desk.start v).2
      [Strand.start c s.clock (c.load v s.place.desk.loads.length).run]

theorem serving_of_carry {x : op.Reply × Solo × List (Strand RuleSet)}
    (hx : s.carry gathered op = some x) : s.Serving s.service.cache x.2.1.desk x.2.2 := by
  cases op with
  | joinLoad v =>
    rcases joined_or_started hx with ⟨n, -, rfl⟩ | ⟨hnone, rfl⟩
    · exact .same
    · exact .started hnone
  | awaitLoad | each =>
    obtain ⟨r, -, rfl⟩ := Option.map_eq_some_iff.1 hx
    exact .same
  | overtake v =>
    cases hx
    exact .overtook v
  | _ =>
    cases hx
    exact .same

namespace Serving

variable {d : Desk} {started : List (Strand RuleSet)}

/-- What the desk has forgotten, it has forgotten for good. -/
theorem pendingOf_ne (h : s.Serving c d started) (hn : n < s.owners.length)
    (hpending : s.place.desk.pendingOf user ≠ some n) : d.pendingOf user ≠ some n := by
  cases h with
  | same => exact hpending
  | overtook v =>
    by_cases hv : user = v
    · rw [hv, Desk.pendingOf_overtake]
      nofun
    · rwa [Desk.pendingOf_overtake_ne _ hv]
  | @started v hnone =>
    by_cases hv : user = v
    · rw [hv, Desk.pendingOf_start hnone]
      intro heq
      rw [length_owners] at hn
      exact absurd (Option.some.inj heq) hn.ne'
    · rwa [Desk.pendingOf_start_ne _ hv]

/-- What has been overtaken is so for good. -/
theorem isOvertaken (h : s.Serving c d started) (hn : s.place.desk.isOvertaken n = true) :
    d.isOvertaken n = true := by
  have hlt := Desk.lt_of_isOvertaken hn
  cases h with
  | same => exact hn
  | overtook v => exact Desk.isOvertaken_overtake hlt (.inl hn)
  | started => exact (Desk.isOvertaken_start hlt).trans hn

theorem belongs (h : s.Serving c d started) (hdesk : s.place.desk.Belongs d.owners) :
    d.Belongs d.owners := by
  cases h with
  | same => exact hdesk
  | overtook v => exact hdesk.overtake v
  | started hnone => exact hdesk.start hnone (by rw [Desk.owners_start])

theorem length_loads (h : s.Serving c d started)
    (hnumbered : s.place.desk.loads.length = s.loads.length) :
    d.loads.length = (s.loads ++ started).length := by
  cases h with
  | same => rw [List.append_nil, hnumbered]
  | overtook v => rw [List.append_nil, Desk.length_loads_overtake, hnumbered]
  | started =>
    rw [List.length_append, ← hnumbered, Desk.start, List.length_append]
    rfl

/-- A load has been under way, or is one of the user for whom it has been started. -/
theorem isLoad_cases (h : s.Serving c d started)
    (hnumbered : s.place.desk.loads.length = s.loads.length) {t : Strand RuleSet}
    (ht : (s.loads ++ started)[n]? = some t) :
    s.loads[n]? = some t ∨ ∃ user, d.owners[n]? = some user ∧ t.IsLoad c user n := by
  cases h with
  | same | overtook =>
    rw [List.append_nil] at ht
    exact .inl ht
  | @started v hnone =>
    rcases getElem?_snoc_cases ht with ht | ⟨rfl, rfl⟩
    · exact .inl ht
    · -- The desk has given the load the number that it has on the stage.
      refine .inr ⟨v, ?_, hnumbered ▸ Strand.isLoad_start ..⟩
      rw [Desk.owners_start, ← hnumbered, ← length_owners]
      exact List.getElem?_concat_length

end Serving

/-- Who is told what a load has come to is told the truth. -/
theorem isTold_of_carry {x : op.Reply × Solo × List (Strand RuleSet)}
    (hx : s.carry gathered op = some x) : IsTold s.loads (s.exchange op x.1) := by
  cases op with
  | awaitLoad n =>
    obtain ⟨r, hr, rfl⟩ := Option.map_eq_some_iff.1 hx
    obtain ⟨t, ht, hr⟩ := Option.bind_eq_some_iff.1 hr
    exact ⟨t, ht, Program.result?_eq_some hr⟩
  | _ => trivial

/-- What is refused is refused for a failure. -/
theorem isHonest_of_plain? {x : op.Reply × Solo} (hx : s.place.plain? op = some x) (time : Nat)
    (source : Mark) : Exchange.IsHonest ⟨time, source, op, x.1⟩ := by
  cases op with
  | access a =>
    rcases s.place.plain?_access_cases a with h | ⟨f, h⟩
    · obtain rfl := Option.some.inj (h.symm.trans hx)
      trivial
    · obtain rfl := Option.some.inj (h.symm.trans hx)
      exact ⟨f, rfl⟩
  | joinLoad | awaitLoad | each => cases hx
  | _ => trivial

theorem isHonest_of_carry {x : op.Reply × Solo × List (Strand RuleSet)}
    (hgathered : ∀ y, gathered = some (.error y) → ∃ f, y = .failure f)
    (hx : s.carry gathered op = some x) : (s.exchange op x.1).IsHonest := by
  cases op with
  | joinLoad | awaitLoad => trivial
  | each errand ids =>
    obtain ⟨r, hr, rfl⟩ := Option.map_eq_some_iff.1 hx
    cases r with
    | ok lists => trivial
    | error y => exact hgathered y hr
  | access a =>
    obtain ⟨y, hy, rfl⟩ : ∃ y, s.place.plain? (.access a) = some y ∧ (y.1, y.2, []) = x :=
      Option.map_eq_some_iff.1 hx
    exact isHonest_of_plain? hy _ _
  | _ => trivial

/-- A load that goes on after one of its errands has been denied role data is denied it itself. -/
theorem isDenied_go {t : Strand RuleSet} (ht : t.IsLoad c user n)
    {next : op.Reply → Program (Except Interruption RuleSet)} (hprogram : t.program = .call op next)
    (hdenied : t.IsDenied) {x : op.Reply × Solo × List (Strand RuleSet)}
    (hx : s.carry t.gathered? op = some x) :
    (t.go c (s.exchange op x.1) (next x.1)).IsDenied := by
  refine .inl ?_
  rcases hdenied with ⟨e, he, hdenies⟩ | hfailed
  · exact ⟨e, List.mem_append_left _ he, hdenies⟩
  · obtain ⟨y, hy⟩ := Option.isSome_iff_exists.1 hfailed
    obtain ⟨errand, ids, next', hprogram'⟩ := ht.waiting (ht.failed y hy).1
    obtain ⟨rfl, -⟩ := Program.call.inj (hprogram.symm.trans hprogram')
    refine ⟨_, List.mem_append_right _ (List.mem_singleton.2 rfl), ?_⟩
    obtain ⟨r, hr, rfl⟩ := Option.map_eq_some_iff.1 hx
    rw [Strand.gathered?, hy] at hr
    cases hr
    rfl

/-! ### Loads keep to their programs -/

namespace Orderly

/-- Whatever is carried out, loads keep to their programs, and what has ended stays as it is. -/
theorem after (h : s.Orderly) {x : op.Reply × Solo × List (Strand RuleSet)}
    (hx : s.carry gathered op = some x) (load : Option Nat) (e : Exchange) :
    (s.after load e x.2.1 x.2.2).Orderly ∧ s.Extends (s.after load e x.2.1 x.2.2) := by
  have howners : s.owners <+: x.2.1.desk.owners := owners_le_of_carry hx
  have hserving := serving_of_carry hx
  obtain ⟨reply, place, started⟩ := x
  simp only at howners hserving ⊢
  have hold {n : Nat} {t : Strand RuleSet} (ht : s.loads[n]? = some t) :
      (s.loads ++ started)[n]? = some t :=
    (List.getElem?_append_left (List.getElem?_eq_some_iff.1 ht).1).trans ht
  have hextends : s.Extends (s.after load e place started) :=
    ⟨rfl, howners, fun n t r ht _ => hold ht, fun n t ht hdenied => ⟨t, hold ht, hdenied⟩,
      fun n user hn hpending => hserving.pendingOf_ne hn hpending, fun n => hserving.isOvertaken⟩
  refine ⟨⟨hserving.belongs ⟨howners, h.desk.pending⟩, hserving.length_loads h.numbered,
    fun n t ht => ?_, fun k hk e' he' => hextends.isTold (h.told k hk e' he')⟩, hextends⟩
  rcases hserving.isLoad_cases h.numbered ht with ht | hload
  · obtain ⟨user, hn, hload⟩ := h.loads n t ht
    exact ⟨user, hextends.getElem?_owners hn, hload⟩
  · exact hload

/-- A caller who has been told the truth takes the place of another. -/
theorem setCaller (h : s.Orderly) {k : Strand Answer} (hk : ∀ e ∈ k.trace, IsTold s.loads e)
    (n : Nat) : Orderly { s with callers := s.callers.set n k } where
  desk := h.desk
  numbered := h.numbered
  loads := h.loads
  told := fun k' hk' => by
    rcases List.mem_or_eq_of_mem_set hk' with hk' | rfl
    · exact h.told k' hk'
    · exact hk

/-- A load that has not ended goes on. -/
theorem setLoad (h : s.Orderly) {t t' : Strand RuleSet} (ht : s.loads[n]? = some t)
    (hgoes : t.program.result? = none) (hn : s.owners[n]? = some user)
    (ht' : t'.IsLoad s.service.cache user n) (hdenied : t.IsDenied → t'.IsDenied) :
    Orderly { s with loads := s.loads.set n t' } ∧
      s.Extends { s with loads := s.loads.set n t' } := by
  have hextends : s.Extends { s with loads := s.loads.set n t' } := by
    refine ⟨rfl, List.prefix_rfl, fun m u r hu hdone => ?_, fun m u hu hu' => ?_, fun _ _ _ => id,
      fun _ => id⟩
    · have hne : n ≠ m := by
        rintro rfl
        obtain rfl := Option.some.inj (ht.symm.trans hu)
        rw [hdone] at hgoes
        cases hgoes
      exact (List.getElem?_set_ne hne).trans hu
    · by_cases hne : n = m
      · subst hne
        obtain rfl := Option.some.inj (ht.symm.trans hu)
        exact ⟨t', List.getElem?_set_self (List.getElem?_eq_some_iff.1 ht).1, hdenied hu'⟩
      · exact ⟨u, (List.getElem?_set_ne hne).trans hu, hu'⟩
  refine ⟨⟨h.desk, by simpa using h.numbered, fun m u hu => ?_,
    fun k hk e he => hextends.isTold (h.told k hk e he)⟩, hextends⟩
  rcases getElem?_set_cases hu with ⟨rfl, rfl⟩ | ⟨-, hu⟩
  · exact ⟨user, hn, ht'⟩
  · exact h.loads m u hu

/-- An operation of a load does what its program does next. -/
theorem goLoad (h : s.Orderly) {t : Strand RuleSet} (ht : s.loads[n]? = some t)
    {op : Operation} {next : op.Reply → Program (Except Interruption RuleSet)}
    (hprogram : t.program = .call op next) {x : op.Reply × Solo × List (Strand RuleSet)}
    (hx : s.carry t.gathered? op = some x) :
    let t' := t.go s.service.cache (s.exchange op x.1) (next x.1)
    let s' := { s.after (some n) (s.exchange op x.1) x.2.1 x.2.2 with
      loads := (s.loads ++ x.2.2).set n t' }
    s'.Orderly ∧ s.Extends s' := by
  obtain ⟨user, hn, hload⟩ := h.loads n t ht
  obtain ⟨hafter, hextends⟩ := h.after hx (some n) (s.exchange op x.1)
  have hgoes : t.program.result? = none := by rw [hprogram]; rfl
  have hgo := hload.go hprogram (isHonest_of_carry (fun _ => hload.notesFailures.exists_failure) hx)
  have hold : (s.loads ++ x.2.2)[n]? = some t :=
    (List.getElem?_append_left (List.getElem?_eq_some_iff.1 ht).1).trans ht
  obtain ⟨hset, hextends'⟩ := hafter.setLoad hold hgoes (hextends.getElem?_owners hn) hgo
    fun hdenied => isDenied_go hload hprogram hdenied hx
  exact ⟨hset, hextends.trans hextends'⟩

/-- An errand does what it does next. -/
theorem goErrand (h : s.Orderly) {t : Strand RuleSet} (ht : s.loads[n]? = some t)
    {op : Operation} {next : op.Reply → ErrandProgram}
    (hp : t.parts[i]? = some (.call op next)) {x : op.Reply × Solo}
    (hx : s.place.plain? op = some x) :
    let s' := { s.after (some n) (s.exchange op x.1) x.2 [] with
      loads := s.loads.set n (t.goErrand i s.clock op (next x.1)) }
    s'.Orderly ∧ s.Extends s' := by
  obtain ⟨user, hn, hload⟩ := h.loads n t ht
  have hcarry : s.carry none op = some (x.1, x.2, []) := carry_of_plain? hx
  obtain ⟨hafter, hextends⟩ := h.after hcarry (some n) (s.exchange op x.1)
  obtain ⟨-, -, hasks⟩ := (hload.asks _ (List.mem_of_getElem? hp)).exists_access
  obtain ⟨errand, ids, rest, hprogram⟩ :=
    hload.waiting (List.ne_nil_of_mem (List.mem_of_getElem? hp))
  have hgoes : t.program.result? = none := by rw [hprogram]; rfl
  have hgo := hload.goErrand s.clock op hp (hasks x.1 (isHonest_of_plain? hx 0 {})).1
  have hold : (s.after (some n) (s.exchange op x.1) x.2 []).loads[n]? = some t := by
    rwa [loads_after_nil]
  obtain ⟨hset, hextends'⟩ := hafter.setLoad hold hgoes (hextends.getElem?_owners hn) hgo
    fun hdenied => hdenied.goErrand ..
  rw [loads_after_nil] at hset hextends'
  exact ⟨hset, hextends.trans hextends'⟩

/-- When the desk forgets a load, all loads are as before. -/
theorem forget (h : s.Orderly) (n : Nat) :
    let s' := { s with place := { s.place with desk := s.place.desk.forget n } }
    s'.Orderly ∧ s.Extends s' := by
  have howners : (s.place.desk.forget n).owners = s.owners := Desk.owners_forget _ n
  refine ⟨⟨?_, (Desk.length_loads_forget _ n).trans h.numbered, fun m t ht => ?_, h.told⟩,
    ⟨rfl, ?_, fun _ _ _ ht _ => ht, fun _ t ht hdenied => ⟨t, ht, hdenied⟩,
      fun m user _ hpending => ?_,
      fun m hm => (Desk.isOvertaken_forget s.place.desk n m).trans hm⟩⟩
  · change (s.place.desk.forget n).Belongs (s.place.desk.forget n).owners
    rw [howners]
    exact h.desk.forget n
  · change ∃ user, (s.place.desk.forget n).owners[m]? = some user ∧ _
    rw [howners]
    exact h.loads m t ht
  · change s.owners <+: (s.place.desk.forget n).owners
    rw [howners]
  · change (s.place.desk.forget n).pendingOf user ≠ some m
    rw [Desk.pendingOf_forget_eq h.desk.exists_pending]
    split
    · nofun
    · exact hpending

/-- Whatever happens, loads keep to their programs, and what has ended stays as it is. -/
theorem step (h : s.Orderly) (hstep : s.Happens s') : s'.Orderly ∧ s.Extends s' := by
  cases hstep with
  | @turn turn _ hturn =>
    cases turn with
    | enter call =>
      cases hturn
      refine ⟨⟨h.desk, h.numbered, h.loads, fun k hk => ?_⟩, .of_eq rfl rfl rfl⟩
      rcases List.mem_append.1 hk with hk | hk
      · exact h.told k hk
      · rw [List.mem_singleton.1 hk]
        exact List.forall_mem_nil _
    | caller n =>
      obtain ⟨k, x, hk, hact, rfl⟩ := exists_of_goCaller? hturn
      obtain ⟨op, next, hprogram, y, hy, hx₁, hx₂⟩ := exists_of_act hact
      obtain ⟨hafter, hextends⟩ := h.after hy none (s.exchange op y.1)
      rw [hx₁, hx₂]
      refine ⟨hafter.setCaller (fun e he => ?_) n, hextends.trans (.of_eq rfl rfl rfl)⟩
      rcases List.mem_append.1 he with he | he
      · exact hextends.isTold (h.told k (List.mem_of_getElem? hk) e he)
      · rw [List.mem_singleton.1 he]
        exact hextends.isTold (isTold_of_carry hy)
    | load n =>
      obtain ⟨t, x, ht, hact, rfl⟩ := exists_of_goLoad? hturn
      obtain ⟨op, next, hprogram, y, hy, hx₁, hx₂⟩ := exists_of_act hact
      rw [hx₁, hx₂]
      exact h.goLoad ht hprogram hy
    | errand n i =>
      obtain ⟨t, op, next, x, ht, hp, hx, rfl⟩ := exists_of_goErrand? hturn
      exact h.goErrand ht hp hx
    | forget n =>
      obtain ⟨r, -, rfl⟩ := exists_of_forget? hturn
      exact h.forget n
    | change c =>
      cases hturn
      exact ⟨⟨h.desk, h.numbered, h.loads, h.told⟩, .of_eq rfl rfl rfl⟩
  | other hx => exact h.after hx none _

end Orderly

theorem orderly_begin (service : Service) (world : World) (registry : Option Registry) :
    (begin service world registry).Orderly where
  desk := ⟨List.prefix_rfl, nofun⟩
  numbered := rfl
  loads := nofun
  told := List.forall_mem_nil _

/-- Loads keep to their programs in any company, and what has ended stays as it is. -/
theorem Comes.orderly (hs : Comes start s) (hstart : start.Orderly) :
    s.Orderly ∧ start.Extends s := by
  induction hs with
  | start => exact ⟨hstart, .of_eq rfl rfl rfl⟩
  | step _ hstep ih =>
    obtain ⟨h, hextends⟩ := ih.1.step hstep
    exact ⟨h, ih.2.trans hextends⟩

theorem Comes.trans (hs : Comes start s) (hs' : Comes s s') : Comes start s' := by
  induction hs' with
  | start => exact hs
  | step _ hstep ih => exact ih.step hstep

theorem Comes.play (hs : Comes start s) {turns : List Turn} (h : s.play turns = some s') :
    Comes start s' :=
  keeps_of_foldlM_eq_some (fun _ _ _ _ hs hturn => hs.step (.turn hturn)) hs h

/-! ### Loads come to an end -/

/-- The turn is one of the load, or of one of its errands. -/
def Turn.IsOf (n : Nat) : Turn → Prop
  | .load m | .errand m _ => m = n
  | _ => False

/-- What the load has come to, if it has ended. -/
def outcome? (s : Stage) (n : Nat) : Option (Except Interruption RuleSet) :=
  (s.loads[n]?).bind (·.program.result?)

theorem outcome?_eq_some_iff {r : Except Interruption RuleSet} :
    s.outcome? n = some r ↔ ∃ t, s.loads[n]? = some t ∧ t.program = .done r := by
  rw [outcome?, Option.bind_eq_some_iff]
  refine exists_congr fun t => and_congr_right fun _ => ⟨Program.result?_eq_some, fun h => ?_⟩
  rw [h]
  rfl

/-- The load comes to an end if it and its errands are let go on. -/
def CanEnd (s : Stage) (n : Nat) : Prop :=
  ∃ turns, (∀ turn ∈ turns, turn.IsOf n) ∧
    s.Plays turns fun s' => (s'.outcome? n).isSome = true

theorem canEnd_of_take? {turn : Turn} (h : s.take? turn = some s') (hturn : turn.IsOf n)
    (h' : s'.CanEnd n) : s.CanEnd n := by
  obtain ⟨turns, hturns, u, hu, hended⟩ := h'
  exact ⟨turn :: turns, List.forall_mem_cons.2 ⟨hturn, hturns⟩, u,
    Option.bind_eq_some_iff.2 ⟨s', h, hu⟩, hended⟩

theorem goCaller?_eq {k : Strand Answer} (hk : s.callers[n]? = some k)
    {next : op.Reply → Program (Except Interruption Answer)} (hprogram : k.program = .call op next)
    {x : op.Reply × Solo × List (Strand RuleSet)} (hx : s.carry k.gathered? op = some x) :
    s.goCaller? n = some { s.after none (s.exchange op x.1) x.2.1 x.2.2 with
      callers := s.callers.set n (k.go s.service.cache (s.exchange op x.1) (next x.1)) } := by
  simp only [goCaller?, hk, act, hprogram, hx, Option.bind_eq_bind, Option.bind_some,
    Option.map_some]
  rfl

theorem goLoad?_eq {t : Strand RuleSet} (ht : s.loads[n]? = some t)
    {next : op.Reply → Program (Except Interruption RuleSet)} (hprogram : t.program = .call op next)
    {x : op.Reply × Solo × List (Strand RuleSet)} (hx : s.carry t.gathered? op = some x) :
    s.goLoad? n = some { s.after (some n) (s.exchange op x.1) x.2.1 x.2.2 with
      loads := (s.loads ++ x.2.2).set n
        (t.go s.service.cache (s.exchange op x.1) (next x.1)) } := by
  simp only [goLoad?, ht, act, hprogram, hx, Option.bind_eq_bind, Option.bind_some,
    Option.map_some]
  rfl

theorem goErrand?_eq {t : Strand RuleSet} (ht : s.loads[n]? = some t)
    {next : op.Reply → ErrandProgram} (hp : t.parts[i]? = some (.call op next))
    {x : op.Reply × Solo} (hx : s.place.plain? op = some x) :
    s.goErrand? n i = some { s.after (some n) (s.exchange op x.1) x.2 [] with
      loads := s.loads.set n (t.goErrand i s.clock op (next x.1)) } := by
  simp only [goErrand?, ht, hp, hx, Option.bind_eq_bind, Option.bind_some, loads_after_nil]
  rfl

namespace Orderly

variable {t : Strand RuleSet}

/-- A load that waits for its errands comes to an end if it does so once they have come to
    something. -/
theorem canEnd_of_gathered (h : s.Orderly) (ht : s.loads[n]? = some t)
    {p : Program (Except Interruption RuleSet)} (hp : t.program = p)
    (hgathered : ∀ (s' : Stage) (t' : Strand RuleSet), s'.Orderly → s'.loads[n]? = some t' →
      t'.program = p → t'.gathered?.isSome = true → s'.CanEnd n) : s.CanEnd n := by
  -- One errand after the other is let go on, and has ended then.
  induction hcount : t.parts.countP (fun p => p.result?.isNone) generalizing s t with
  | zero => exact hgathered s t h ht hp (Strand.isSome_gathered? hcount)
  | succ k ih =>
    have hpos : 0 < t.parts.countP (fun p => p.result?.isNone) := by rw [hcount]; exact k.succ_pos
    obtain ⟨q, hq, hgoes⟩ := List.countP_pos_iff.1 hpos
    obtain ⟨i, hi⟩ := List.mem_iff_getElem?.1 hq
    obtain ⟨user, -, hload⟩ := h.loads n t ht
    cases q with
    | done => cases hgoes
    | call op next =>
      obtain ⟨-, ⟨a, rfl⟩, hasks⟩ := (hload.asks _ hq).exists_access
      obtain ⟨x, hx⟩ : ∃ x, s.place.plain? (.access a) = some x := ⟨_, rfl⟩
      have hended := (hasks _ (isHonest_of_plain? hx 0 {})).2
      obtain ⟨h', -⟩ := h.goErrand ht hi hx
      have hgo : s.take? (.errand n i) = _ := goErrand?_eq ht hi hx
      refine canEnd_of_take? hgo rfl (ih h' (List.getElem?_set_self
        (List.getElem?_eq_some_iff.1 ht).1) hp ?_)
      obtain ⟨hlt, hget⟩ := List.getElem?_eq_some_iff.1 hi
      have hnone : (next x.1).result?.isNone = false := by
        rw [Option.isNone_eq_false_iff, hended]
      rw [Strand.goErrand, List.countP_set hlt, hget, hcount]
      simp only [hgoes, hnone]
      rfl

/-- A load that is let go on comes to an end. -/
theorem canEnd (h : s.Orderly) (ht : s.loads[n]? = some t) : s.CanEnd n := by
  -- What is still to be done gets less with each operation.
  induction hprogram : t.program generalizing s t with
  | done r =>
    exact ⟨[], List.forall_mem_nil _, s, rfl, Option.isSome_iff_exists.2
      ⟨r, outcome?_eq_some_iff.2 ⟨t, ht, hprogram⟩⟩⟩
  | call op next ih =>
    have hgo {s : Stage} {t : Strand RuleSet} (h : s.Orderly) (ht : s.loads[n]? = some t)
        (hprogram : t.program = .call op next) {x : op.Reply × Solo × List (Strand RuleSet)}
        (hx : s.carry t.gathered? op = some x) : s.CanEnd n := by
      have hlength : n < (s.loads ++ x.2.2).length :=
        (List.getElem?_eq_some_iff.1 ht).1.trans_le (by simp)
      have hturn : s.take? (.load n) = _ := goLoad?_eq ht hprogram hx
      exact canEnd_of_take? hturn rfl
        (ih x.1 (h.goLoad ht hprogram hx).1 (List.getElem?_set_self hlength) rfl)
    obtain ⟨user, -, hload⟩ := h.loads n t ht
    have honly := hload.only
    rw [hprogram] at honly
    cases op with
    | access | isOvertaken | count => exact hgo h ht hprogram rfl
    | each errand ids =>
      refine h.canEnd_of_gathered ht hprogram fun s' t' h' ht' hp' hgathered => ?_
      obtain ⟨r, hr⟩ := Option.isSome_iff_exists.1 hgathered
      exact hgo h' ht' hp' (show s'.carry _ (.each errand ids) = some (r, s'.place, []) by
        rw [carry, hr]; rfl)
    | _ => exact honly.1.elim

end Orderly

end Stage

end HouseholdAccess
