import HouseholdAccess.Proofs.Cache.Surrounded
import HouseholdAccess.Proofs.Stage.Denied

/-!
# Lookups among others

Whoever else is at work and whatever fails meanwhile, a lookup is answered the rule set that
it finds in the cache, else the one that its load finds on the record, else the one that
its load compiles, as long as that load is told the roles and is not overtaken, unless the
entry or the record slips (`Stage.lookUp_among`). It comes to an end if it and the loads
are let go on.

What has been replied on the way from one stage to another has been replied on a stage
between them (`Stage.Occurred`), so that it is what the world there performs. So a load is
overtaken only if the rule set of its user has been dropped (`Stage.Comes.exists_overtake`).
-/

namespace HouseholdAccess

open HouseholdAccess.Flow

variable {user : Id} {i n : Nat}

namespace Stage

variable {s s' start : Stage} {e : Exchange}

/-! ## What has been replied -/

/-- The world is one that there has been between the stages. -/
def Passes (start s : Stage) (w : World) : Prop :=
  ∃ s₁, Comes start s₁ ∧ Comes s₁ s ∧ s₁.place.world = w

/-- The operation has been carried out between the stages, and has been replied to like that. -/
def Occurred (start s : Stage) (e : Exchange) : Prop :=
  ∃ s₁ s₂ gathered x, Comes start s₁ ∧ s₁.carry gathered e.op = some x ∧ x.1 = e.reply ∧
    s₁.Happens s₂ ∧ s₂.place = x.2.1 ∧ Comes s₂ s

/-- A caller stays as it is in a step, or carries its next operation out. -/
theorem Happens.caller_cases (h : s.Happens s') {k : Strand Answer} (hk : s.callers[i]? = some k) :
    s'.callers[i]? = some k ∨ ∃ op next x, k.program = .call op next ∧
      s.carry k.gathered? op = some x ∧ s'.place = x.2.1 ∧
      s'.callers[i]? = some (k.go s.service.cache (s.exchange op x.1) (next x.1)) := by
  have hlt := (List.getElem?_eq_some_iff.1 hk).1
  cases h with
  | @turn turn _ hturn =>
    cases turn with
    | enter call =>
      cases hturn
      exact .inl ((List.getElem?_append_left hlt).trans hk)
    | caller m =>
      obtain ⟨k', x, hk', hact, rfl⟩ := exists_of_goCaller? hturn
      obtain ⟨op, next, hprogram, y, hy, hx₁, hx₂⟩ := exists_of_act hact
      rw [hx₁, hx₂]
      by_cases hm : m = i
      · subst hm
        obtain rfl := Option.some.inj (hk.symm.trans hk')
        exact .inr ⟨op, next, y, hprogram, hy, rfl, List.getElem?_set_self hlt⟩
      · exact .inl ((List.getElem?_set_ne hm).trans hk)
    | load m =>
      obtain ⟨t, x, -, hact, rfl⟩ := exists_of_goLoad? hturn
      obtain ⟨op, next, -, y, -, -, hx₂⟩ := exists_of_act hact
      rw [hx₂]
      exact .inl hk
    | errand m j =>
      obtain ⟨t, op, next, x, -, -, -, rfl⟩ := exists_of_goErrand? hturn
      exact .inl hk
    | forget m =>
      obtain ⟨r, -, rfl⟩ := exists_of_forget? hturn
      exact .inl hk
    | change c =>
      cases hturn
      exact .inl hk
  | other hx => exact .inl hk

/-- A load that is started has not done anything. -/
theorem trace_eq_nil_of_carry {op : Operation}
    {gathered : Option (Except Interruption (List (List Id)))}
    {x : op.Reply × Solo × List (Strand RuleSet)} (hx : s.carry gathered op = some x) :
    ∀ t ∈ x.2.2, t.trace = [] := by
  have hserving := serving_of_carry hx
  generalize x.2.1.desk = d, x.2.2 = started at hserving
  cases hserving with
  | same | overtook => exact List.forall_mem_nil _
  | started => exact fun t ht => List.mem_singleton.1 ht ▸ rfl

/-- The trace of a load stays as it is in a step, or grows by what has been carried out. -/
theorem Happens.trace_cases (h : s.Happens s') {t' : Strand RuleSet}
    (ht' : t' ∈ s'.loads) : t'.trace = [] ∨ ∃ t ∈ s.loads, t'.trace = t.trace ∨
      ∃ op gathered x, s.carry gathered op = some x ∧ s'.place = x.2.1 ∧
        t'.trace = t.trace ++ [s.exchange op x.1] := by
  have hafter {op : Operation} {gathered : Option (Except Interruption (List (List Id)))}
      {x : op.Reply × Solo × List (Strand RuleSet)} (hx : s.carry gathered op = some x)
      {t' : Strand RuleSet} (ht' : t' ∈ s.loads ++ x.2.2) :
      t'.trace = [] ∨ t' ∈ s.loads :=
    (List.mem_append.1 ht').symm.imp_left (trace_eq_nil_of_carry hx t')
  cases h with
  | @turn turn _ hturn =>
    cases turn with
    | enter call =>
      cases hturn
      exact .inr ⟨t', ht', .inl rfl⟩
    | caller m =>
      obtain ⟨k, x, -, hact, rfl⟩ := exists_of_goCaller? hturn
      obtain ⟨op, next, -, y, hy, -, hx₂⟩ := exists_of_act hact
      rw [hx₂] at ht'
      exact (hafter hy ht').imp_right fun ht => ⟨t', ht, .inl rfl⟩
    | load m =>
      obtain ⟨t, x, ht, hact, rfl⟩ := exists_of_goLoad? hturn
      obtain ⟨op, next, -, y, hy, hx₁, hx₂⟩ := exists_of_act hact
      rw [hx₁, hx₂] at ht'
      rcases List.mem_or_eq_of_mem_set ht' with ht' | rfl
      · exact (hafter hy ht').imp_right fun ht => ⟨t', ht, .inl rfl⟩
      · exact .inr ⟨t, List.mem_of_getElem? ht, .inr ⟨op, _, y, hy, congrArg Stage.place hx₂, rfl⟩⟩
    | errand m j =>
      obtain ⟨t, op, next, x, ht, -, -, rfl⟩ := exists_of_goErrand? hturn
      rcases List.mem_or_eq_of_mem_set ht' with ht' | rfl
      · exact .inr ⟨t', ht', .inl rfl⟩
      · exact .inr ⟨t, List.mem_of_getElem? ht, .inl rfl⟩
    | forget m =>
      obtain ⟨r, -, rfl⟩ := exists_of_forget? hturn
      exact .inr ⟨t', ht', .inl rfl⟩
    | change c =>
      cases hturn
      exact .inr ⟨t', ht', .inl rfl⟩
  | other hx => exact (hafter hx ht').imp_right fun ht => ⟨t', ht, .inl rfl⟩

/-- A load is overtaken by an operation only if that drops the rule set of a user for whom the load
    is under way. -/
theorem isOvertaken_or_overtake_of_carry {op : Operation}
    {gathered : Option (Except Interruption (List (List Id)))}
    {x : op.Reply × Solo × List (Strand RuleSet)} (hx : s.carry gathered op = some x)
    (hn : x.2.1.desk.isOvertaken n = true) : s.place.desk.isOvertaken n = true ∨
      ∃ user, op = .overtake user ∧ s.place.desk.pendingOf user = some n := by
  cases op with
  | joinLoad v =>
    rcases joined_or_started hx with ⟨m, -, rfl⟩ | ⟨-, rfl⟩
    · exact .inl hn
    · exact .inl (Desk.isOvertaken_of_start hn)
  | awaitLoad | each =>
    obtain ⟨r, -, rfl⟩ := Option.map_eq_some_iff.1 hx
    exact .inl hn
  | overtake v =>
    cases hx
    exact (Desk.isOvertaken_or_pendingOf_of_overtake hn).imp_right fun h => ⟨v, rfl, h⟩
  | _ =>
    cases hx
    exact .inl hn

/-- What the desk knows stays as it is in a step, but for a load that is forgotten, unless an
    operation is carried out. -/
theorem Happens.desk_cases (h : s.Happens s') : s'.place.desk = s.place.desk ∨
    (∃ m, s'.place.desk = s.place.desk.forget m) ∨ ∃ op gathered x,
      s.carry gathered op = some x ∧ s'.place = x.2.1 := by
  cases h with
  | @turn turn _ hturn =>
    cases turn with
    | enter call =>
      cases hturn
      exact .inl rfl
    | caller m =>
      obtain ⟨k, x, -, hact, rfl⟩ := exists_of_goCaller? hturn
      obtain ⟨op, next, -, y, hy, -, hx₂⟩ := exists_of_act hact
      exact .inr (.inr ⟨op, _, y, hy, congrArg Stage.place hx₂⟩)
    | load m =>
      obtain ⟨t, x, -, hact, rfl⟩ := exists_of_goLoad? hturn
      obtain ⟨op, next, -, y, hy, -, hx₂⟩ := exists_of_act hact
      exact .inr (.inr ⟨op, _, y, hy, congrArg Stage.place hx₂⟩)
    | errand m j =>
      obtain ⟨t, op, next, x, -, -, hx, rfl⟩ := exists_of_goErrand? hturn
      exact .inr (.inr ⟨op, none, _, carry_of_plain? hx, rfl⟩)
    | forget m =>
      obtain ⟨r, -, rfl⟩ := exists_of_forget? hturn
      exact .inr (.inl ⟨m, rfl⟩)
    | change c =>
      cases hturn
      exact .inl rfl
  | other hx => exact .inr (.inr ⟨_, _, _, hx, rfl⟩)

/-! ### On the way -/

theorem Occurred.step (h : Occurred start s e) (hstep : s.Happens s') : Occurred start s' e := by
  obtain ⟨s₁, s₂, gathered, x, hs₁, hx, hreply, hhappens, hplace, hs⟩ := h
  exact ⟨s₁, s₂, gathered, x, hs₁, hx, hreply, hhappens, hplace, hs.step hstep⟩

/-- What is carried out in a step has occurred. -/
theorem Comes.occurred (hs : Comes start s) (hstep : s.Happens s') {op : Operation}
    {gathered : Option (Except Interruption (List (List Id)))}
    {x : op.Reply × Solo × List (Strand RuleSet)} (hx : s.carry gathered op = some x)
    (hplace : s'.place = x.2.1) : Occurred start s' (s.exchange op x.1) :=
  ⟨s, s', gathered, x, hs, hx, rfl, hstep, hplace, .start⟩

/-- A caller keeps to its program, and what it has been replied has occurred since it entered. -/
theorem Comes.exists_caller (hs : Comes start s) {c : Cache} {begun : Nat}
    {p : Program (Except Interruption Answer)}
    (hstart : start.callers[i]? = some (Strand.start c begun p)) :
    ∃ k, s.callers[i]? = some k ∧ p.Leads k.trace k.program ∧
      ∀ e ∈ k.trace, Occurred start s e := by
  induction hs with
  | start => exact ⟨_, hstart, rfl, List.forall_mem_nil _⟩
  | step hs hstep ih =>
    obtain ⟨k, hk, hleads, hoccurred⟩ := ih
    rcases hstep.caller_cases hk with hk' | ⟨op, next, x, hprogram, hx, hplace, hk'⟩
    · exact ⟨k, hk', hleads, fun e he => (hoccurred e he).step hstep⟩
    · rw [hprogram] at hleads
      refine ⟨_, hk', hleads.snoc _ _ _, fun e he => ?_⟩
      rcases List.mem_append.1 he with he | he
      · exact (hoccurred e he).step hstep
      · exact List.mem_singleton.1 he ▸ hs.occurred hstep hx hplace

/-- What a load has been replied has occurred. -/
theorem Comes.occurred_of_mem_loads (hs : Comes start s) (hstart : start.loads = [])
    {t : Strand RuleSet} (ht : t ∈ s.loads) : ∀ e ∈ t.trace, Occurred start s e := by
  induction hs generalizing t with
  | start =>
    rw [hstart] at ht
    cases ht
  | step hs hstep ih =>
    rcases hstep.trace_cases ht with hnil | ⟨u, hu, hsame | ⟨op, gathered, x, hx, hplace, hsnoc⟩⟩
    · rw [hnil]
      exact List.forall_mem_nil _
    · rw [hsame]
      exact fun e he => (ih hu e he).step hstep
    · rw [hsnoc]
      intro e he
      rcases List.mem_append.1 he with he | he
      · exact (ih hu e he).step hstep
      · exact List.mem_singleton.1 he ▸ hs.occurred hstep hx hplace

/-- A load is overtaken only if the rule set of its user has been dropped on the way. -/
theorem Comes.exists_overtake (hs : Comes start s) (hstart : start.Orderly)
    (hfresh : start.place.desk.isOvertaken n = false) (hn : s.place.desk.isOvertaken n = true) :
    ∃ user time source, s.owners[n]? = some user ∧
      Occurred start s ⟨time, source, .overtake user, ()⟩ := by
  induction hs with
  | start =>
    rw [hfresh] at hn
    cases hn
  | @step s s' hs hstep ih =>
    obtain ⟨h, -⟩ := hs.orderly hstart
    obtain ⟨-, hextends⟩ := h.step hstep
    have hearlier (hn : s.place.desk.isOvertaken n = true) : ∃ user time source,
        s'.owners[n]? = some user ∧ Occurred start s' ⟨time, source, .overtake user, ()⟩ := by
      obtain ⟨user, time, source, howner, hoccurred⟩ := ih hn
      exact ⟨user, time, source, hextends.getElem?_owners howner, hoccurred.step hstep⟩
    rcases hstep.desk_cases with hdesk | ⟨m, hdesk⟩ | ⟨op, gathered, x, hx, hplace⟩
    · exact hearlier (hdesk ▸ hn)
    · rw [hdesk, Desk.isOvertaken_forget] at hn
      exact hearlier hn
    · rcases isOvertaken_or_overtake_of_carry hx (hplace ▸ hn) with hn | ⟨user, rfl, hpending⟩
      · exact hearlier hn
      · exact ⟨user, _, _, hextends.getElem?_owners (h.desk.pending user n hpending),
          hs.occurred hstep hx hplace⟩

/-! ### What it says -/

namespace Occurred

variable {time : Nat} {source : Mark}

/-- What an access is replied is what a world performs that there has been. -/
theorem isWithin (h : Occurred start s e) : e.IsWithin (Passes start s) := by
  obtain ⟨time, source, op, reply⟩ := e
  cases op with
  | access a =>
    obtain ⟨s₁, s₂, gathered, x, hs₁, hx, hreply, hhappens, -, hs⟩ := h
    refine ⟨s₁.place.world, ⟨s₁, hs₁, (Comes.start.step hhappens).trans hs, rfl⟩, ?_⟩
    obtain rfl := Option.some.inj hx
    exact hreply.symm
  | _ => trivial

/-- A load that is said to have been overtaken has been. -/
theorem isOvertaken (h : Occurred start s ⟨time, source, .isOvertaken n, true⟩)
    (hstart : start.Orderly) : s.place.desk.isOvertaken n = true := by
  obtain ⟨s₁, s₂, gathered, x, hs₁, hx, hreply, hhappens, -, hs⟩ := h
  obtain ⟨h₁, -⟩ := hs₁.orderly hstart
  obtain rfl := Option.some.inj hx
  exact (((Comes.start.step hhappens).trans hs).orderly h₁).2.overtaken n hreply

/-- A load that has been joined is one of the user. -/
theorem getElem?_owners (h : Occurred start s ⟨time, source, .joinLoad user, n⟩)
    (hstart : start.Orderly) : s.owners[n]? = some user := by
  obtain ⟨s₁, s₂, gathered, x, hs₁, hx, hreply, hhappens, hplace, hs⟩ := h
  obtain ⟨h₁, -⟩ := hs₁.orderly hstart
  obtain ⟨h₂, -⟩ := h₁.step hhappens
  refine (hs.orderly h₂).2.getElem?_owners ?_
  rw [owners, hplace]
  rcases joined_or_started hx with ⟨m, hm, rfl⟩ | ⟨-, rfl⟩
  · obtain rfl : m = n := hreply
    exact h₁.desk.pending user m hm
  · obtain rfl : s₁.place.desk.loads.length = n := hreply
    rw [Desk.owners_start, ← length_owners]
    exact List.getElem?_concat_length

/-- A load that has been waited for has come to what has been told. -/
theorem exists_done {r : Except Interruption RuleSet}
    (h : Occurred start s ⟨time, source, .awaitLoad n, r⟩) (hstart : start.Orderly) :
    ∃ t, s.loads[n]? = some t ∧ t.program = .done r := by
  obtain ⟨s₁, s₂, gathered, x, hs₁, hx, hreply, hhappens, -, hs⟩ := h
  obtain ⟨h₁, -⟩ := hs₁.orderly hstart
  obtain ⟨t, ht, hdone⟩ := isTold_of_carry hx
  replace hdone : t.program = .done r := hdone.trans (congrArg Program.done hreply)
  exact ⟨t, (((Comes.start.step hhappens).trans hs).orderly h₁).2.ended n t r ht hdone, hdone⟩

end Occurred

end Stage

/-! ## Coming to an end -/

/-- What is left of a program that joins a load and waits for it does so still, or waits for a load
    that has been joined. -/
theorem Program.Shares.cases_of_leads {α : Type} {f : Except Interruption RuleSet → α}
    {p q : Program α} {tr : List Exchange} (hp : p.Shares f) (hleads : p.Leads tr q) :
    q.Shares f ∨ ∃ time source user n,
      ⟨time, source, .joinLoad user, n⟩ ∈ tr ∧ q = Program.awaiting n f := by
  induction tr generalizing p with
  | nil =>
    obtain rfl : q = p := hleads
    exact .inl hp
  | cons e tr ih =>
    cases p with
    | done => exact hleads.elim
    | call op next =>
      obtain ⟨time, source, reply, rfl, hleads⟩ := hleads
      have hrest (hnext : (next reply).Shares f) : q.Shares f ∨ ∃ time' source' user n,
          ⟨time', source', .joinLoad user, n⟩ ∈ (⟨time, source, op, reply⟩ : Exchange) :: tr ∧
            q = Program.awaiting n f := by
        refine (ih hnext hleads).imp_right ?_
        rintro ⟨time', source', user, n, hmem, hq⟩
        exact ⟨time', source', user, n, List.mem_cons_of_mem _ hmem, hq⟩
      cases op with
      | joinLoad user =>
        rw [hp reply] at hleads
        cases tr with
        | nil => exact .inr ⟨time, source, user, reply, List.mem_singleton.2 rfl, hleads⟩
        | cons e tr =>
          -- Once the load has been waited for, nothing is left to be done.
          obtain ⟨_, _, _, rfl, hleads⟩ := hleads
          cases tr with
          | nil =>
            obtain rfl : q = .done _ := hleads
            exact .inl trivial
          | cons => exact hleads.elim
      | awaitLoad => exact hp.elim
      | _ => exact hrest (hp reply)

namespace Stage

variable {s s' start : Stage} {k : Strand Answer}

/-- The turn is one of the caller, or one of a load or of an errand of it. -/
def Turn.IsForCaller (i : Nat) : Turn → Prop
  | .caller j => j = i
  | .load _ | .errand .. => True
  | _ => False

/-- The caller comes to an end if it is let go on, and loads and their errands are. -/
def CallerCanEnd (s : Stage) (i : Nat) : Prop :=
  ∃ turns, (∀ turn ∈ turns, turn.IsForCaller i) ∧ s.Plays turns fun s' =>
    ∃ k ∈ s'.callers[i]?, k.program.result?.isSome = true

theorem callerCanEnd_of_take? {turn : Turn} (h : s.take? turn = some s')
    (hturn : turn.IsForCaller i) (h' : s'.CallerCanEnd i) : s.CallerCanEnd i := by
  obtain ⟨turns, hturns, u, hu, hended⟩ := h'
  exact ⟨turn :: turns, List.forall_mem_cons.2 ⟨hturn, hturns⟩, u,
    Option.bind_eq_some_iff.2 ⟨s', h, hu⟩, hended⟩

/-- A load that goes on, or an errand of it, leaves callers as they are. -/
theorem callers_of_take? {turn : Turn} (hturn : turn.IsOf n) (h : s.take? turn = some s') :
    s'.callers = s.callers := by
  cases turn with
  | load m =>
    obtain ⟨t, x, -, hact, rfl⟩ := exists_of_goLoad? h
    obtain ⟨op, next, -, y, -, -, hx⟩ := exists_of_act hact
    rw [hx]
    rfl
  | errand m j =>
    obtain ⟨t, op, next, x, -, -, -, rfl⟩ := exists_of_goErrand? h
    rfl
  | _ => exact hturn.elim

theorem callers_of_play {turns : List Turn} (hturns : ∀ turn ∈ turns, turn.IsOf n)
    (h : s.play turns = some s') : s'.callers = s.callers :=
  keeps_of_foldlM_eq_some (P := fun u => u.callers = s.callers)
    (fun turn hturn _ _ hu hu' => (callers_of_take? (hturns turn hturn) hu').trans hu) rfl h

namespace Orderly

/-- A load that belongs to a user is there. -/
theorem lt_loads (h : s.Orderly) (hn : s.owners[n]? = some user) : n < s.loads.length := by
  rw [← h.numbered, ← length_owners]
  exact (List.getElem?_eq_some_iff.1 hn).1

/-- A caller that has ended has come to an end. -/
theorem callerCanEnd_of_done (hk : s.callers[i]? = some k) {r : Except Interruption Answer}
    (hdone : k.program = .done r) : s.CallerCanEnd i :=
  ⟨[], List.forall_mem_nil _, s, rfl, k, hk, by rw [hdone]; rfl⟩

/-- A caller goes on whose next operation can be carried out. -/
theorem callerCanEnd_of_carry (hk : s.callers[i]? = some k) {op : Operation}
    {next : op.Reply → Program (Except Interruption Answer)} (hprogram : k.program = .call op next)
    {x : op.Reply × Solo × List (Strand RuleSet)} (hx : s.carry k.gathered? op = some x)
    (hnext : ∀ (s' : Stage) (k' : Strand Answer), s.Happens s' → s'.place = x.2.1 →
      s'.callers[i]? = some k' → k'.program = next x.1 → s'.CallerCanEnd i) : s.CallerCanEnd i :=
  have hgo : s.take? (.caller i) = _ := goCaller?_eq hk hprogram hx
  callerCanEnd_of_take? hgo rfl (hnext _ _ (.turn hgo) rfl
    (List.getElem?_set_self (List.getElem?_eq_some_iff.1 hk).1) rfl)

/-- A caller who waits for a load comes to an end once the load has. -/
theorem callerCanEnd_of_awaiting (h : s.Orderly) (hk : s.callers[i]? = some k)
    {f : Except Interruption RuleSet → Except Interruption Answer}
    (hprogram : k.program = Program.awaiting n f) (hn : n < s.loads.length) :
    s.CallerCanEnd i := by
  obtain ⟨turns, hturns, s', hs', hended⟩ := h.canEnd (List.getElem?_eq_getElem hn)
  obtain ⟨r, hr⟩ := Option.isSome_iff_exists.1 hended
  have hk' : s'.callers[i]? = some k := (callers_of_play hturns hs').symm ▸ hk
  have hcarry : s'.carry k.gathered? (.awaitLoad n) = some (r, s'.place, []) := by
    rw [carry]
    exact congrArg _ hr
  obtain ⟨turns', hturns', s'', hs'', hends⟩ := callerCanEnd_of_carry hk' hprogram hcarry
    fun _ _ _ _ hk'' hdone => callerCanEnd_of_done hk'' hdone
  refine ⟨turns ++ turns', fun turn hturn => ?_, s'', ?_, hends⟩
  · rcases List.mem_append.1 hturn with hturn | hturn
    · have hof := hturns turn hturn
      cases turn with
      | load | errand => trivial
      | _ => exact hof.elim
    · exact hturns' turn hturn
  · rw [play_append, hs', Option.bind_some, hs'']

/-- A caller who looks a rule set up comes to an end. -/
theorem callerCanEnd_of_shares (h : s.Orderly) (hk : s.callers[i]? = some k)
    {f : Except Interruption RuleSet → Except Interruption Answer} (hshares : k.program.Shares f)
    (honly : k.program.Only Operation.IsOfLookUp) : s.CallerCanEnd i := by
  induction hprogram : k.program generalizing s k with
  | done r => exact callerCanEnd_of_done hk hprogram
  | call op next ih =>
    rw [hprogram] at hshares honly
    have hgo (hshares : ∀ reply, (next reply).Shares f)
        {x : op.Reply × Solo × List (Strand RuleSet)} (hx : s.carry k.gathered? op = some x) :
        s.CallerCanEnd i :=
      callerCanEnd_of_carry hk hprogram hx fun s' k' hstep _ hk' hprogram' =>
        ih x.1 (h.step hstep).1 hk' (hprogram' ▸ hshares x.1) (hprogram' ▸ honly.2 x.1) hprogram'
    cases op with
    | access | count => exact hgo hshares rfl
    | joinLoad user =>
      obtain ⟨x, hx⟩ : ∃ x, s.carry k.gathered? (.joinLoad user) = some x := by
        simp only [carry]
        split <;> exact ⟨_, rfl⟩
      refine callerCanEnd_of_carry hk hprogram hx fun s' k' hstep hplace hk' hprogram' => ?_
      obtain ⟨h', -⟩ := h.step hstep
      have howner := (Comes.start.occurred hstep hx hplace).getElem?_owners h
      exact h'.callerCanEnd_of_awaiting hk' (hprogram'.trans (hshares x.1)) (h'.lt_loads howner)
    | awaitLoad => exact hshares.elim
    | _ => exact honly.1.elim

end Orderly

end Stage

/-! ## What a lookup comes to -/

/-- The load has been told role data, in which names are texts, whenever it has asked for some. -/
def Strand.IsToldRoles (t : Strand RuleSet) : Prop :=
  ∀ e ∈ t.trace, e.IsSound ∧ e.deniesRoles = false

instance : DecidablePred Strand.IsToldRoles := fun _ =>
  inferInstanceAs (Decidable (∀ _ ∈ _, _))

/-- With a shared cache, a caller who looks a rule set up comes to what the lookup comes to. -/
theorem Call.keeps_get_within {W : World → Prop} {R : Exchange → Prop}
    (hR : ∀ e, R e → e.IsWithin W) {service : Service} (hkind : service.cache.kind = .shared) :
    ((Call.get user).flow service).Keeps R AtWill (fun tr r => ∃ w w' found, W w ∧ W w' ∧
      service.cache.Finds w w' user found ∧
      ((∃ x, found = .error x ∧ r = .error x) ∨
        (∃ rules, found = .ok (some rules) ∧ r = .ok (.rules rules)) ∨
        found = .ok none ∧ ∃ n x time source time' source', ⟨time, source, .joinLoad user, n⟩ ∈ tr ∧
          ⟨time', source', .awaitLoad n, x⟩ ∈ tr ∧ r = Answer.ofLoad x)) [] := by
  refine Flow.Keeps.bind (Cache.keeps_lookUp_within hR hkind) ?_ ?_
  · rintro tr rules ⟨w, w', found, hw, hw', hfinds, hends⟩
    refine keeps_pure ⟨w, w', found, hw, hw', hfinds, ?_⟩
    rcases hends with ⟨x, -, hx⟩ | ⟨rules', hfound, hx⟩ |
      ⟨hfound, n, time, source, time', source', hjoined, hawaited⟩
    · cases hx
    · cases hx
      exact .inr (.inl ⟨rules, hfound, rfl⟩)
    · exact .inr (.inr ⟨hfound, n, _, time, source, time', source', hjoined, hawaited, rfl⟩)
  · rintro tr x ⟨w, w', found, hw, hw', hfinds, hends⟩
    refine ⟨w, w', found, hw, hw', hfinds, ?_⟩
    rcases hends with ⟨y, hfound, hx⟩ | ⟨rules', hfound, hx⟩ |
      ⟨hfound, n, time, source, time', source', hjoined, hawaited⟩
    · cases hx
      exact .inl ⟨x, hfound, rfl⟩
    · cases hx
    · exact .inr (.inr ⟨hfound, n, _, time, source, time', source', hjoined, hawaited, rfl⟩)

namespace Stage

variable {s s₀ start : Stage}

/-- How a lookup of the user has ended that has entered since `start`, where nobody had entered, on
    the stage `entered`. -/
inductive LookUpEnds (start entered s : Stage) (user : Id) : Except Interruption Answer → Prop
  /-- The cache offers a rule set. -/
  | cached {w : World} {rules : RuleSet} : entered.Passes s w → w.cachedRules? user = some rules →
    LookUpEnds start entered s user (.ok (.rules rules))
  /-- The cache offers nothing. The load that is joined then comes to what the record says, or else
      to what it has compiled, if it is told the roles and has not been overtaken. -/
  | loaded {w w' : World} {n : Nat} {t : Strand RuleSet} {x : Except Interruption RuleSet} :
    entered.Passes s w → entered.Passes s w' → (∀ f, ¬s.service.cache.EntrySlip w w' user f) →
    w.cachedRules? user = none → s.owners[n]? = some user → s.loads[n]? = some t →
    t.program = .done x → (t.IsToldRoles → s.place.desk.isOvertaken n = false →
      ∃ v, start.Passes s v ∧ s.service.cache.LoadsFrom v user t.trace x) →
    LookUpEnds start entered s user (Answer.ofLoad x)
  /-- The entry slips. -/
  | slipped {w w' : World} {f : Failure} : entered.Passes s w → entered.Passes s w' →
    s.service.cache.EntrySlip w w' user f → LookUpEnds start entered s user (.error (.failure f))

/-- A load that is told the roles and has not been overtaken comes to what the record says, or else
    to what it has compiled, unless the record slips. -/
theorem Comes.exists_loadsFrom {service : Service} {world : World} {registry : Option Registry}
    (hs : Comes (begin service world registry) s) (hkind : service.cache.kind = .shared)
    (hstore : service.cache.store = .database) (huser : user.isText = true) {t : Strand RuleSet}
    (ht : s.loads[n]? = some t) (hn : s.owners[n]? = some user) {x : Except Interruption RuleSet}
    (hdone : t.program = .done x) (htold : t.IsToldRoles)
    (hkept : s.place.desk.isOvertaken n = false) :
    ∃ v, (begin service world registry).Passes s v ∧
      s.service.cache.LoadsFrom v user t.trace x := by
  have hbegin := orderly_begin service world registry
  obtain ⟨h, hextends⟩ := hs.orderly hbegin
  have hcache : s.service.cache = service.cache := congrArg Service.cache hextends.service
  obtain ⟨v, hv, hload⟩ := h.loads n t ht
  obtain rfl := Option.some.inj (hn.symm.trans hv)
  let R (e : Exchange) : Prop := Occurred (begin service world registry) s e ∧ e.IsSound ∧
    e.deniesRoles = false
  have hoccurred : ∀ e ∈ t.trace, R e := fun e he =>
    ⟨hs.occurred_of_mem_loads rfl (List.mem_of_getElem? ht) e he, htold e he⟩
  have hkept' {time : Nat} {source : Mark} : ¬R ⟨time, source, .isOvertaken n, true⟩ :=
    fun hovertaken => by
      rw [hovertaken.1.isOvertaken hbegin] at hkept
      cases hkept
  have hkeeps := Program.Keeps.of_leads (Cache.keeps_load_within (fun e he => he.1.isWithin)
    (hcache ▸ hkind) (hcache ▸ hstore) huser (fun e he => he.2.1) (fun e he => he.2.2) hkept')
    hload.leads hoccurred
  rw [hdone] at hkeeps
  exact hkeeps

/-- With a shared cache and a database, whoever else is at work and whatever fails meanwhile, a
    lookup comes to an end if it and loads are let go on. It is answered the rule set that is in the
    cache, else the one that is on the record, else the one that its load compiles, as long as the
    load is told the roles and is not overtaken, unless the entry or the record slips. Loads of the
    user are not overtaken unless somebody drops the rule set of the user. -/
theorem lookUp_among {service : Service} {world : World} {registry : Option Registry}
    (hkind : service.cache.kind = .shared) (hstore : service.cache.store = .database)
    (huser : user.isText = true) (hs₀ : Comes (begin service world registry) s₀)
    (hs : Comes (s₀.enter (.get user)) s) :
    s.CallerCanEnd s₀.callers.length ∧
    (∃ k, s.callers[s₀.callers.length]? = some k ∧ ∀ r, k.program = .done r →
      LookUpEnds (begin service world registry) (s₀.enter (.get user)) s user r) ∧
    ∀ n, s.owners[n]? = some user → s.place.desk.isOvertaken n = true → ∃ time source,
      Occurred (begin service world registry) s ⟨time, source, .overtake user, ()⟩ := by
  have hbegin := orderly_begin service world registry
  have hentered : Comes (begin service world registry) (s₀.enter (.get user)) :=
    hs₀.step (.turn (show s₀.take? (.enter (.get user)) = some _ from rfl))
  obtain ⟨h₁, hextends₁⟩ := hentered.orderly hbegin
  obtain ⟨h, hextends⟩ := hs.orderly h₁
  have hservice : s₀.service = service := hextends₁.service
  have hservice' : s.service = service := hextends.service.trans hextends₁.service
  have hentrance : (s₀.enter (.get user)).callers[s₀.callers.length]? =
      some (Strand.start s₀.service.cache s₀.clock ((Call.get user).flow s₀.service).run) := by
    simp [enter]
  obtain ⟨k, hk, hleads, hoccurred⟩ := hs.exists_caller hentrance
  rw [hservice] at hleads
  refine ⟨?_, ⟨k, hk, fun r hdone => ?_⟩, fun n hn hovertaken => ?_⟩
  · have honly : ((Call.get user).flow service).run.Only Operation.IsOfLookUp :=
      Flow.Only.bind (service.cache.only_lookUp user) fun _ => only_pure _
    rcases ((Call.get user).shares_flow service trivial).cases_of_leads hleads with
      hshares | ⟨time, source, v, n, hmem, hprogram⟩
    · exact h.callerCanEnd_of_shares hk hshares (Program.Only.of_leads honly hleads)
    · exact h.callerCanEnd_of_awaiting hk hprogram
        (h.lt_loads ((hoccurred _ hmem).getElem?_owners h₁))
  · have hkeeps := Program.Keeps.of_leads
      (Call.keeps_get_within (fun e he => Occurred.isWithin he) hkind) hleads hoccurred
    rw [hdone] at hkeeps
    obtain ⟨w, w', found, hw, hw', hfinds, hends⟩ := hkeeps
    rw [← hservice'] at hfinds
    rcases hends with ⟨x, rfl, rfl⟩ | ⟨rules, rfl, rfl⟩ |
      ⟨rfl, n, x, time, source, time', source', hjoined, hawaited, rfl⟩
    · rcases hfinds with ⟨f, hslip, hx⟩ | ⟨-, hx⟩
      · cases hx
        exact .slipped hw hw' hslip
      · cases hx
    · rcases hfinds with ⟨f, -, hx⟩ | ⟨-, hx⟩
      · cases hx
      · exact .cached hw (Except.ok.inj hx).symm
    · rcases hfinds with ⟨f, -, hx⟩ | ⟨hslip, hx⟩
      · cases hx
      · have howner := (hoccurred _ hjoined).getElem?_owners h₁
        obtain ⟨t, ht, hdone'⟩ := (hoccurred _ hawaited).exists_done h₁
        exact .loaded hw hw' hslip (Except.ok.inj hx).symm howner ht hdone' fun htold hkept =>
          (hentered.trans hs).exists_loadsFrom hkind hstore huser ht howner hdone' htold hkept
  · obtain ⟨v, time, source, hv, hoccurred⟩ :=
      (hentered.trans hs).exists_overtake hbegin rfl hovertaken
    obtain rfl := Option.some.inj (hn.symm.trans hv)
    exact ⟨time, source, hoccurred⟩

/-! ### A lookup that is hardly served at all -/

/-- A world in which the entry of the reader cannot be read, and nothing of the cache and of the
    records works but asking the cache and taking out of it. -/
def awayWorld : World where
  storeKind := .database
  cacheKind := .shared
  entries := [⟨reader, "\x7b\x7d", .ofInt 1300⟩]
  failing := [.cacheSet, .load, .save].map fun p =>
    ⟨p, none, .outside .connection "connection lost"⟩

/-- A caller finds the entry, takes it out, and starts a load. -/
def firstTurns : List Turn := .enter (.get reader) :: List.replicate 3 (.caller 0)

/-- A second caller shares the load, which comes to its end. -/
def sharingTurns : List Turn :=
  List.replicate 2 (.caller 1) ++ List.replicate 13 (.load 0) ++ [.caller 1]

/-- The second caller is answered what the load has come to, which is told the roles. -/
theorem lookUp_among_away : ∃ service : Service, service.cache.kind = .shared ∧
    service.cache.store = .database ∧ reader.isText = true ∧ ∃ s₀ s k r,
      Comes (begin service awayWorld none) s₀ ∧ Comes (s₀.enter (.get reader)) s ∧
      s.CallerCanEnd s₀.callers.length ∧ s.callers[s₀.callers.length]? = some k ∧
      k.program = .done r ∧ r.isOk = true ∧
      LookUpEnds (begin service awayWorld none) (s₀.enter (.get reader)) s reader r ∧
      ∃ t ∈ s.loads[0]?, t.IsToldRoles ∧ s.place.desk.isOvertaken 0 = false := by
  let service : Service := { cache := { kind := .shared, store := .database } }
  have hfirst : (begin service awayWorld none).Plays firstTurns fun s => s.callers.length = 1 := by
    decide +kernel
  have hplays : (begin service awayWorld none).Plays
      (firstTurns ++ .enter (.get reader) :: sharingTurns) fun s =>
        (∃ k ∈ s.callers[1]?, ∃ r ∈ k.program.result?, r.isOk = true) ∧
        ∃ t ∈ s.loads[0]?, t.IsToldRoles ∧ s.place.desk.isOvertaken 0 = false := by
    decide +kernel
  obtain ⟨s₀, hs₀, hcallers⟩ := hfirst
  obtain ⟨s, hs, ⟨k, hk, r, hr, hok⟩, hload⟩ := hplays
  rw [play_append, hs₀, Option.bind_some, play_cons] at hs
  have hcomes : Comes (begin service awayWorld none) s₀ := Comes.start.play hs₀
  have hcomes' : Comes (s₀.enter (.get reader)) s := Comes.start.play hs
  obtain ⟨hcanEnd, ⟨k', hk', hends⟩, -⟩ := lookUp_among rfl rfl rfl hcomes hcomes'
  obtain rfl : k' = k := by
    rw [hcallers] at hk'
    exact Option.some.inj (hk'.symm.trans hk)
  have hdone := Program.result?_eq_some hr
  exact ⟨service, rfl, rfl, rfl, s₀, s, k', r, hcomes, hcomes', hcanEnd, hk', hdone, hok,
    hends r hdone, hload⟩

end Stage

end HouseholdAccess
