import HouseholdAccess.Proofs.Stage

/-!
# Playing

Whose turn it is on a stage may be prescribed, turn by turn (`Stage.play`). What is
reached is what can be played (`Stage.reached_iff_exists_play`), so that a run is given
by its turns, and what it comes to can be worked out.

What a caller has done in a run can be read off its trace: when it has dropped a rule
set (`Cache.invalidation?`), and what a lookup has answered (`Cache.answer?`).
-/

namespace HouseholdAccess

namespace Stage

/-- Whose turn it is. -/
inductive Turn
  /-- A caller enters. -/
  | enter (call : Call)
  /-- A caller goes on. -/
  | caller (n : Nat)
  /-- A load goes on. -/
  | load (n : Nat)
  /-- An errand of a load goes on. -/
  | errand (n i : Nat)
  /-- The desk forgets a load. -/
  | forget (n : Nat)
  /-- The world changes. -/
  | change (c : Change)

/-- The turn may come while callers ask for the rule set of the user. -/
def Turn.IsAbout (user : Id) : Turn → Prop
  | .enter call => call.IsAbout user
  | .change c => c.IsUsual
  | _ => True

/-- The turns may come while callers ask for the rule set of the user. -/
def Turn.AreAbout (user : Id) (turns : List Turn) : Prop := ∀ turn ∈ turns, turn.IsAbout user

/-- What happens in a turn, if anything can. -/
def take? (s : Stage) : Turn → Option Stage
  | .enter call => some (s.enter call)
  | .caller n => s.goCaller? n
  | .load n => s.goLoad? n
  | .errand n i => s.goErrand? n i
  | .forget n => s.forget? n
  | .change c => some (s.change c)

/-- What happens in turns, if something can in each of them. -/
def play (s : Stage) (turns : List Turn) : Option Stage := turns.foldlM take? s

variable {user : Id} {s s' start : Stage}

theorem step_of_take? {turn : Turn} (hturn : turn.IsAbout user) (h : s.take? turn = some s') :
    Step user s s' := by
  cases turn with
  | enter call =>
    cases h
    exact .enter hturn
  | caller n => exact .caller h
  | load n => exact .load h
  | errand n i => exact .errand h
  | forget n => exact .forget h
  | change c =>
    cases h
    exact .change hturn

theorem Step.exists_take? (h : Step user s s') :
    ∃ turn : Turn, turn.IsAbout user ∧ s.take? turn = some s' := by
  cases h with
  | @enter call hcall => exact ⟨.enter call, hcall, rfl⟩
  | @caller n _ h => exact ⟨.caller n, trivial, h⟩
  | @load n _ h => exact ⟨.load n, trivial, h⟩
  | @errand n i _ h => exact ⟨.errand n i, trivial, h⟩
  | @forget n _ h => exact ⟨.forget n, trivial, h⟩
  | @change c hc => exact ⟨.change c, hc, rfl⟩

theorem Reached.play (hs : Reached user start s) {turns : List Turn}
    (hturns : Turn.AreAbout user turns) (h : s.play turns = some s') :
    Reached user start s' :=
  keeps_of_foldlM_eq_some (fun turn hturn _ _ hs hturn' =>
    hs.step (step_of_take? (hturns turn hturn) hturn')) hs h

/-- What is reached is what can be played. -/
theorem reached_iff_exists_play : Reached user start s ↔
    ∃ turns, Turn.AreAbout user turns ∧ start.play turns = some s := by
  refine ⟨fun hs => ?_, fun ⟨turns, hturns, h⟩ => Reached.start.play hturns h⟩
  induction hs with
  | start => exact ⟨[], List.forall_mem_nil _, rfl⟩
  | @step s s' _ hstep ih =>
    obtain ⟨turns, hturns, h⟩ := ih
    obtain ⟨turn, hturn, hs'⟩ := hstep.exists_take?
    refine ⟨turns ++ [turn], fun u hu => ?_, ?_⟩
    · rcases List.mem_append.1 hu with hu | hu
      · exact hturns u hu
      · exact List.mem_singleton.1 hu ▸ hturn
    · rw [Stage.play, List.foldlM_append]
      refine Option.bind_eq_some_iff.2 ⟨s, h, ?_⟩
      exact Option.bind_eq_some_iff.2 ⟨s', hs', rfl⟩

theorem play_cons {turn : Turn} {turns : List Turn} :
    s.play (turn :: turns) = (s.take? turn).bind (·.play turns) := rfl

theorem play_append {turns turns' : List Turn} :
    s.play (turns ++ turns') = (s.play turns).bind (·.play turns') := by
  rw [play, List.foldlM_append]
  rfl

/-- The turns can be played, and come to a stage of which `P` holds. -/
def Plays (start : Stage) (turns : List Turn) (P : Stage → Prop) : Prop :=
  ∃ s, start.play turns = some s ∧ P s

instance {turns : List Turn} {P : Stage → Prop} [DecidablePred P] :
    Decidable (start.Plays turns P) :=
  match h : start.play turns with
  | none => .isFalse fun ⟨_, hs, _⟩ => Option.some_ne_none _ (hs.symm.trans h)
  | some s => decidable_of_iff (P s)
      ⟨fun hP => ⟨s, h, hP⟩, fun ⟨_, hs, hP⟩ => Option.some.inj (h.symm.trans hs) ▸ hP⟩

theorem Plays.exists_reached {turns : List Turn} {P : Stage → Prop} (h : start.Plays turns P)
    (user : Id) (hturns : Turn.AreAbout user turns) : ∃ s, Reached user start s ∧ P s := by
  obtain ⟨s, hs, hP⟩ := h
  exact ⟨s, Reached.start.play hturns hs, hP⟩

/-- Nothing has been refused. -/
def Succeeds (s : Stage) : Prop :=
  (∀ t ∈ s.callers, ∀ e ∈ t.trace, e.tookEffect = true) ∧
    ∀ t ∈ s.loads, ∀ e ∈ t.trace, e.tookEffect = true

instance : DecidablePred Succeeds := fun _ => inferInstanceAs (Decidable (_ ∧ _))

namespace Turn

/-- The turns in which a caller enters who looks the rule set of a user up, finds nothing in the
    cache, and joins a load. -/
def miss (user : Id) (caller : Nat) : List Turn :=
  [.enter (.get user), .caller caller, .caller caller]

/-- The turns in which a caller enters who drops the rule set of a user, and does so. -/
def drop (user : Id) (caller : Nat) : List Turn :=
  [.enter (.invalidate user), .caller caller, .caller caller, .caller caller, .caller caller]

/-- The turns in which a load goes on, ends, tells the caller who waits for it, and is forgotten. -/
def finish (caller load steps : Nat) : List Turn :=
  List.replicate steps (.load load) ++ [.caller caller, .forget load]

variable {user : Id} {turns turns' : List Turn} {turn : Turn}

@[simp]
theorem areAbout_nil : AreAbout user [] := List.forall_mem_nil _

@[simp]
theorem areAbout_cons : AreAbout user (turn :: turns) ↔ turn.IsAbout user ∧ AreAbout user turns :=
  List.forall_mem_cons

@[simp]
theorem areAbout_append :
    AreAbout user (turns ++ turns') ↔ AreAbout user turns ∧ AreAbout user turns' :=
  List.forall_mem_append

@[simp]
theorem areAbout_replicate_load (n load : Nat) :
    AreAbout user (List.replicate n (.load load)) := by
  intro turn hturn
  rw [List.eq_of_mem_replicate hturn]
  trivial

@[simp]
theorem areAbout_miss (user : Id) (caller : Nat) : AreAbout user (miss user caller) := by
  simp [miss, IsAbout, Call.IsAbout]

@[simp]
theorem areAbout_drop (user : Id) (caller : Nat) : AreAbout user (drop user caller) := by
  simp [drop, IsAbout, Call.IsAbout]

@[simp]
theorem areAbout_finish (user : Id) (caller load steps : Nat) :
    AreAbout user (finish caller load steps) := by
  simp [finish, IsAbout]

end Turn

end Stage

/-! ## Reading traces -/

namespace Cache

variable {c : Cache} {user : Id} {tr : List Exchange}

/-- When the operations have been carried out of which dropping the rule set consists, if the trace
    is that of dropping it. -/
def invalidation? (user : Id) : List Exchange → Option Invalidation
  | [⟨began, _, .overtake u, _⟩, ⟨deleted, _, .access (.cacheDelete v), .ok _⟩,
      ⟨cleared, _, .access (.clear w), .ok _⟩, ⟨returned, _, .count .userInvalidation, _⟩] =>
    if u = user ∧ v = user ∧ w = user then some { began, deleted, cleared, returned } else none
  | _ => none

theorem isInvalidation_of_invalidation? {d : Invalidation} (h : invalidation? user tr = some d) :
    IsInvalidation user d tr := by
  unfold invalidation? at h
  split at h
  · split at h
    · next husers =>
      obtain ⟨rfl, rfl, rfl⟩ := husers
      cases h
      exact ⟨_, _, _, _, _, rfl⟩
    · cases h
  · cases h

theorem IsInvalidation.unique {d d' : Invalidation} (h : IsInvalidation user d tr)
    (h' : IsInvalidation user d' tr) : d = d' := by
  obtain ⟨began, deleted, cleared, returned⟩ := d
  obtain ⟨_, _, _, _, _, rfl⟩ := h
  obtain ⟨_, _, _, _, _, heq⟩ := h'
  simp only [List.cons.injEq, Exchange.mk.injEq] at heq
  obtain ⟨⟨rfl, -⟩, ⟨rfl, -⟩, ⟨rfl, -⟩, ⟨rfl, -⟩, -⟩ := heq
  rfl

/-- Dropping that goes well can go that way. -/
theorem IsInvalidation.follows {d : Invalidation} (h : IsInvalidation user d tr) :
    (c.invalidate user).run.Follows tr (.ok ()) := by
  obtain ⟨s₁, s₂, s₃, s₄, found, rfl⟩ := h
  obtain ⟨kind, store, seconds⟩ := c
  -- Each kind of cache and of store has a program of its own.
  cases kind <;> cases store <;>
    exact ⟨_, _, _, _, rfl, _, _, _, _, rfl, _, _, _, _, rfl, _, _, _, _, rfl, rfl, rfl⟩

/-- Who has overtaken loads, if the trace is that of dropping the rule set where the entry could not
    be taken out of the cache. -/
def refusal? (user : Id) : List Exchange → Option Exchange
  | [⟨time, source, .overtake u, reply⟩, ⟨_, _, .access (.cacheDelete v), .error (.failure _)⟩] =>
    if u = user ∧ v = user then some ⟨time, source, .overtake u, reply⟩ else none
  | _ => none

theorem of_refusal? {e : Exchange} (h : refusal? user tr = some e) :
    e ∈ tr ∧ e.op = .overtake user ∧ ∃ r, (c.invalidate user).run.Follows tr r := by
  unfold refusal? at h
  split at h
  · split at h
    · next husers =>
      obtain ⟨rfl, rfl⟩ := husers
      cases h
      obtain ⟨kind, store, seconds⟩ := c
      refine ⟨List.mem_cons_self, rfl, ?_⟩
      cases kind <;> exact ⟨_, _, _, _, _, rfl, _, _, _, _, rfl, rfl, rfl⟩
    · cases h
  · cases h

/-- Whether the caller has dropped the rule set, has failed to do so, or does not do so at all. -/
def isOver (user : Id) (tr : List Exchange) : Bool :=
  (invalidation? user tr).isSome || (refusal? user tr).isSome ||
    tr.all fun e => match e.op with
      | .overtake _ => false
      | _ => true

theorem exists_follows_of_isOver (h : isOver user tr = true) {e : Exchange} (he : e ∈ tr)
    (hop : e.op = .overtake user) : ∃ r, (c.invalidate user).run.Follows tr r := by
  rw [isOver, Bool.or_eq_true, Bool.or_eq_true] at h
  rcases h with (h | h) | h
  · obtain ⟨d, hd⟩ := Option.isSome_iff_exists.1 h
    exact ⟨_, (isInvalidation_of_invalidation? hd).follows⟩
  · obtain ⟨e', he'⟩ := Option.isSome_iff_exists.1 h
    exact (of_refusal? he').2.2
  · have hnot := List.all_eq_true.1 h e he
    rw [hop] at hnot
    cases hnot

/-- What a lookup has answered, if the trace is that of one. -/
def answer? (user : Id) : List Exchange → Option RuleSet
  | [⟨_, _, .access (.cacheGet u), .ok (some text)⟩, ⟨_, _, .count (.cacheLookup .hit), _⟩] =>
    if u = user then (Packed.loads (.text text)).toOption else none
  | [⟨_, _, .access (.cacheGet u), .ok none⟩, ⟨_, _, .joinLoad v, n⟩,
      ⟨_, _, .awaitLoad m, .ok rules⟩] =>
    if u = user ∧ v = user ∧ m = n then some rules else none
  | _ => none

/-- A lookup that is answered can be answered that way. -/
theorem follows_of_answer? {rules : RuleSet} (h : answer? user tr = some rules) :
    (c.lookUp user).run.Follows tr (.ok rules) := by
  obtain ⟨kind, store, seconds⟩ := c
  unfold answer? at h
  split at h
  · split at h
    · next huser =>
      subst huser
      have hloads := eq_ok_of_toOption h
      have hpure {α : Type} (a : α) : (pure a : Program α) = .done a := rfl
      -- What is found is loaded before it is counted.
      cases kind <;> refine ⟨_, _, _, _, rfl, ?_⟩ <;>
        simp only [hpure, Program.andThen, ExceptT.bindCont, hloads] <;>
        exact ⟨_, _, _, _, rfl, rfl, rfl⟩
    · cases h
  · split at h
    · next husers =>
      obtain ⟨rfl, rfl, rfl⟩ := husers
      cases h
      cases kind <;>
        exact ⟨_, _, _, _, rfl, _, _, _, _, rfl, _, _, _, _, rfl, rfl, rfl⟩
    · cases h
  · cases h

end Cache

end HouseholdAccess
