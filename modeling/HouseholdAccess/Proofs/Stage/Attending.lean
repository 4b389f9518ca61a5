import HouseholdAccess.Proofs.Stage.Reliable
import Mathlib.Logic.Relation

/-!
# A caller among others

On a stage the errands of loads take their turns, but those that a caller waits for do not.
Here they do (`Stage.goPart?`), so that a caller who drops the rule sets of a household can be
followed to the end. Next to the caller, its errands and the loads (`Stage.Serves`), others
may carry out any operation in which no event is counted, and the world may change in any way
(`Stage.Attends`).

* The caller keeps to its program, with replies that can be relied on, and what has been
  counted is told by what it has done (`Stage.Hosts.attends`).
* It comes to its end if it is served (`Stage.Hosts.canBeServed`): those that it waits for
  come to theirs first.
-/

namespace HouseholdAccess

open HouseholdAccess.Flow

namespace Stage

variable {user : Id} {n m i : Nat} {s s' start : Stage} {op : Operation}
  {gathered : Option (Except Interruption (List (List Id)))}

/-! ## What may happen -/

/-- Lets an errand of a caller do the next operation. -/
def goPart? (s : Stage) (n i : Nat) : Option Stage := do
  let t ← s.callers[n]?
  match ← t.parts[i]? with
  | .done _ => none
  | .call op next =>
    let x ← s.place.plain? op
    let s' := s.after none (s.exchange op x.1) x.2 []
    return { s' with callers := s'.callers.set n (t.goErrand i s.clock op (next x.1)) }

theorem exists_of_goPart? (hgo : s.goPart? n i = some s') :
    ∃ t op next x, s.callers[n]? = some t ∧ t.parts[i]? = some (.call op next) ∧
      s.place.plain? op = some x ∧
      s' = { s.after none (s.exchange op x.1) x.2 [] with
        callers := s.callers.set n (t.goErrand i s.clock op (next x.1)) } := by
  obtain ⟨t, ht, hgo⟩ := Option.bind_eq_some_iff.1 hgo
  obtain ⟨p, hp, hgo⟩ := Option.bind_eq_some_iff.1 hgo
  cases p with
  | done => cases hgo
  | call op next =>
    obtain ⟨x, hx, hgo⟩ := Option.bind_eq_some_iff.1 hgo
    cases hgo
    exact ⟨t, op, next, x, ht, hp, hx, rfl⟩

theorem goPart?_eq {t : Strand Answer} (ht : s.callers[n]? = some t)
    {next : op.Reply → ErrandProgram} (hp : t.parts[i]? = some (.call op next))
    {x : op.Reply × Solo} (hx : s.place.plain? op = some x) :
    s.goPart? n i = some { s.after none (s.exchange op x.1) x.2 [] with
      callers := s.callers.set n (t.goErrand i s.clock op (next x.1)) } := by
  simp only [goPart?, ht, hp, hx, Option.bind_eq_bind, Option.bind_some]
  rfl

/-- Something is done for a caller. -/
inductive Serves (n : Nat) (s : Stage) : Stage → Prop
  /-- The caller goes on. -/
  | caller {s' : Stage} : s.goCaller? n = some s' → Serves n s s'
  /-- One of its errands goes on. -/
  | part {i : Nat} {s' : Stage} : s.goPart? n i = some s' → Serves n s s'
  /-- A load goes on. -/
  | load {m : Nat} {s' : Stage} : s.goLoad? m = some s' → Serves n s s'
  /-- An errand of a load goes on. -/
  | errand {m i : Nat} {s' : Stage} : s.goErrand? m i = some s' → Serves n s s'

/-- One thing that may happen while a caller is at work and nobody else has to do with events. -/
inductive Attends (n : Nat) (s : Stage) : Stage → Prop
  /-- Something is done for the caller. -/
  | serves {s' : Stage} : Serves n s s' → Attends n s s'
  /-- The desk forgets a load. -/
  | forget {m : Nat} {s' : Stage} : s.forget? m = some s' → Attends n s s'
  /-- The world changes: a point begins to fail, or is in order again, or role data changes. -/
  | change (c : Change) : Attends n s (s.change c)
  /-- Somebody else carries out an operation, such as an errand whose caller has given up. Others
      have log lines of their own. -/
  | other {gathered : Option (Except Interruption (List (List Id)))} {op : Operation}
      {x : op.Reply × Solo × List (Strand RuleSet)} : op.IsUneventful →
      s.carry gathered op = some x →
      Attends n s (s.after none (s.exchange op x.1) x.2.1 x.2.2)

/-- What may be let happen while a caller is at work. -/
inductive Move
  /-- The caller goes on. -/
  | caller
  /-- One of its errands goes on. -/
  | part (i : Nat)
  /-- A load goes on. -/
  | load (m : Nat)
  /-- An errand of a load goes on. -/
  | errand (m i : Nat)
  /-- The desk forgets a load. -/
  | forget (m : Nat)
  /-- The world changes. -/
  | change (c : Change)

/-- What happens in a move, if anything can. -/
def move? (s : Stage) (n : Nat) : Move → Option Stage
  | .caller => s.goCaller? n
  | .part i => s.goPart? n i
  | .load m => s.goLoad? m
  | .errand m i => s.goErrand? m i
  | .forget m => s.forget? m
  | .change c => some (s.change c)

theorem attends_of_move? {move : Move} (h : s.move? n move = some s') : Attends n s s' := by
  cases move with
  | caller => exact .serves (.caller h)
  | part => exact .serves (.part h)
  | load => exact .serves (.load h)
  | errand => exact .serves (.errand h)
  | forget => exact .forget h
  | change c =>
    cases h
    exact .change c

/-- What happens in moves, if something can in each of them. -/
def proceed? (s : Stage) (n : Nat) (moves : List Move) : Option Stage :=
  moves.foldlM (fun s move => s.move? n move) s

theorem reflTransGen_of_proceed? {moves : List Move} (h : s.proceed? n moves = some s') :
    Relation.ReflTransGen (Attends n) s s' :=
  keeps_of_foldlM_eq_some (fun _ _ _ _ hs hmove => hs.tail (attends_of_move? hmove)) .refl h

/-- What the caller has come to, if it has ended. -/
def answerOf? (s : Stage) (n : Nat) : Option (Except Interruption Answer) :=
  (s.callers[n]?).bind (·.program.result?)

/-! ## Operations -/

/-- An operation that is not plain has to do with loads or errands, and counts and says nothing. -/
theorem plain?_of_carry {x : op.Reply × Solo × List (Strand RuleSet)}
    (hx : s.carry gathered op = some x) :
    (∃ y, s.place.plain? op = some y ∧ x = (y.1, y.2, [])) ∨
      (op.IsUneventful ∧ x.2.1.registry = s.place.registry ∧ x.2.1.fields = s.place.fields) := by
  cases op with
  | joinLoad v =>
    rcases joined_or_started hx with ⟨n, -, rfl⟩ | ⟨-, rfl⟩ <;>
      exact .inr ⟨⟨fun _ => rfl, fun _ => rfl⟩, rfl, rfl⟩
  | awaitLoad | each =>
    obtain ⟨r, -, rfl⟩ := Option.map_eq_some_iff.1 hx
    exact .inr ⟨⟨fun _ => rfl, fun _ => rfl⟩, rfl, rfl⟩
  | _ =>
    have hplain : (s.place.plain? _).map (fun y => (y.1, y.2, [])) = some x := hx
    obtain ⟨y, hy, rfl⟩ := Option.map_eq_some_iff.1 hplain
    exact .inl ⟨y, hy, rfl⟩

theorem reflects_of_carry {x : op.Reply × Solo × List (Strand RuleSet)}
    (hx : s.carry gathered op = some x) : s.place.Reflects [s.exchange op x.1] x.2.1 := by
  rcases plain?_of_carry hx with ⟨y, hy, rfl⟩ | ⟨hop, hregistry, hfields⟩
  · exact Solo.reflects_of_plain? hy ..
  · exact (Solo.reflects_singleton_iff hop).2 (Solo.reflects_of_eq hregistry hfields)

/-- A load that somebody joins is on the stage. -/
theorem lt_length_of_joins (h : s.Orderly) {x : op.Reply × Solo × List (Strand RuleSet)}
    (hx : s.carry gathered op = some x) (hjoins : (s.exchange op x.1).Joins m) :
    m < (s.loads ++ x.2.2).length := by
  cases op with
  | joinLoad v =>
    obtain rfl : x.1 = m := hjoins
    rcases joined_or_started hx with ⟨k, hk, rfl⟩ | ⟨-, rfl⟩
    · obtain ⟨l, hl, -⟩ := h.desk.exists_pending hk
      rw [List.append_nil, ← h.numbered]
      exact (List.getElem?_eq_some_iff.1 hl).1
    · rw [List.length_append, ← h.numbered]
      exact Nat.lt_succ_self _
  | _ => exact hjoins.elim

namespace Orderly

theorem take (h : s.Orderly) (turn : Turn) (hturn : s.take? turn = some s') : s'.Orderly :=
  (h.step (.turn hturn)).1

/-- Replies can be relied on: loads are not cancelled. -/
theorem isReliable_of_carry (h : s.Orderly) {x : op.Reply × Solo × List (Strand RuleSet)}
    (hgathered : ∀ y, gathered = some (.error y) → ∃ f, y = .failure f)
    (hx : s.carry gathered op = some x) : (s.exchange op x.1).IsReliable := by
  cases op with
  | awaitLoad m =>
    obtain ⟨t, ht, hdone⟩ := isTold_of_carry hx
    obtain ⟨user, -, hload⟩ := h.loads m t ht
    have hne := hload.ne_cancelled hdone
    change Exchange.IsReliable ⟨s.clock, s.source (.awaitLoad m), .awaitLoad m, x.1⟩
    generalize x.1 = r at hne
    match r with
    | .ok _ => trivial
    | .error (.failure f) => exact ⟨f, rfl⟩
    | .error .cancelled => exact absurd rfl hne
  | _ => exact (isHonest_of_carry hgathered hx).isReliable nofun

end Orderly

/-! ## A caller at work -/

variable {p : Program (Except Interruption Answer)} {t : Strand Answer}

/-- The caller keeps to its program, and what has been counted since the start and what log lines
    say is told by what it has done. -/
structure Hosts (start : Stage) (n : Nat) (p : Program (Except Interruption Answer)) (s : Stage)
    (t : Strand Answer) : Prop where
  orderly : s.Orderly
  here : s.callers[n]? = some t
  performs : t.Performs p
  joined : ∀ m, (∃ e ∈ t.trace, e.Joins m) → m < s.loads.length
  reflects : start.place.Reflects t.trace s.place

theorem Orderly.hosts_enter (h : s.Orderly) (call : Call) :
    Hosts s s.callers.length (call.flow s.service).run (s.enter call)
      (Strand.start s.service.cache s.clock (call.flow s.service).run) where
  orderly := h.take (.enter call) rfl
  here := List.getElem?_concat_length
  performs := Strand.performs_start ..
  joined := fun _ ⟨_, he, _⟩ => absurd he List.not_mem_nil
  reflects := Solo.reflects_of_eq rfl rfl

namespace Hosts

/-- While others are at work, the caller stays as it is. -/
theorem stays (h : Hosts start n p s t) (horderly : s'.Orderly) (hcallers : s'.callers = s.callers)
    (hloads : s.loads.length ≤ s'.loads.length) (hreflects : s.place.Reflects [] s'.place) :
    Hosts start n p s' t where
  orderly := horderly
  here := hcallers ▸ h.here
  performs := h.performs
  joined := fun m hm => (h.joined m hm).trans_le hloads
  reflects := List.append_nil t.trace ▸ h.reflects.trans hreflects

/-- The caller does what its program does next. -/
theorem goCaller (h : Hosts start n p s t) {next : op.Reply → Program (Except Interruption Answer)}
    (hprogram : t.program = .call op next) {x : op.Reply × Solo × List (Strand RuleSet)}
    (hx : s.carry t.gathered? op = some x) (hgo : s.goCaller? n = some s') :
    Hosts start n p s' (t.go s.service.cache (s.exchange op x.1) (next x.1)) := by
  have horderly := h.orderly.take (.caller n) hgo
  obtain rfl := Option.some.inj ((goCaller?_eq h.here hprogram hx).symm.trans hgo)
  refine ⟨horderly, List.getElem?_set_self (List.getElem?_eq_some_iff.1 h.here).1,
    h.performs.go hprogram (h.orderly.isReliable_of_carry
      (fun _ => h.performs.notes.exists_failure) hx), ?_, h.reflects.trans (reflects_of_carry hx)⟩
  rintro m ⟨e, he, hjoins⟩
  rcases List.mem_append.1 he with he | he
  · exact (h.joined m ⟨e, he, hjoins⟩).trans_le (by simp [Stage.after])
  · rw [List.mem_singleton.1 he] at hjoins
    exact lt_length_of_joins h.orderly hx hjoins

/-- An errand of the caller does what it does next. -/
theorem goPart (h : Hosts start n p s t) {next : op.Reply → ErrandProgram}
    (hp : t.parts[i]? = some (.call op next)) {x : op.Reply × Solo}
    (hx : s.place.plain? op = some x) (hgo : s.goPart? n i = some s') :
    Hosts start n p s' (t.goErrand i s.clock op (next x.1)) := by
  have herrand := h.performs.errands _ (List.mem_of_getElem? hp)
  have hcarry : s.carry none op = some (x.1, x.2, []) := carry_of_plain? hx
  obtain ⟨hafter, hextends⟩ := h.orderly.after hcarry none (s.exchange op x.1)
  obtain rfl := Option.some.inj ((goPart?_eq h.here hp hx).symm.trans hgo)
  refine ⟨?_, List.getElem?_set_self (List.getElem?_eq_some_iff.1 h.here).1,
    h.performs.goErrand i s.clock op (herrand.next_of_plain? hx), fun m hm => ?_, ?_⟩
  · have htold : ∀ e ∈ (t.goErrand i s.clock op (next x.1)).trace,
        IsTold (s.after none (s.exchange op x.1) x.2 []).loads e := fun e he =>
      hextends.isTold (h.orderly.told t (List.mem_of_getElem? h.here) e he)
    exact hafter.setCaller htold n
  · exact (h.joined m hm).trans_le (by simp [Stage.after])
  · have hreflects := (Solo.reflects_singleton_iff herrand.isUneventful).1
      (Solo.reflects_of_plain? hx s.clock (s.source op))
    exact List.append_nil t.trace ▸ h.reflects.trans hreflects

/-- A load goes on. -/
theorem goLoad (h : Hosts start n p s t) (hgo : s.goLoad? m = some s') :
    Hosts start n p s' t := by
  have horderly := h.orderly.take (.load m) hgo
  obtain ⟨l, x, hl, hact, rfl⟩ := exists_of_goLoad? hgo
  obtain ⟨op, next, hprogram, y, hy, -, hx⟩ := exists_of_act hact
  obtain ⟨user, -, hload⟩ := h.orderly.loads m l hl
  refine h.stays horderly (by rw [hx]; rfl) (by rw [hx]; simp [Stage.after]) ?_
  rw [hx]
  exact (Solo.reflects_singleton_iff (hload.isUneventful hprogram)).1 (reflects_of_carry hy)

/-- An errand of a load goes on. -/
theorem goErrand (h : Hosts start n p s t) (hgo : s.goErrand? m i = some s') :
    Hosts start n p s' t := by
  have horderly := h.orderly.take (.errand m i) hgo
  obtain ⟨l, op, next, x, hl, hp, hx, rfl⟩ := exists_of_goErrand? hgo
  obtain ⟨user, -, hload⟩ := h.orderly.loads m l hl
  obtain ⟨-, ⟨a, rfl⟩, -⟩ := (hload.asks _ (List.mem_of_getElem? hp)).exists_access
  have hreflects := (Solo.reflects_singleton_iff (Operation.isUneventful_access a)).1
    (Solo.reflects_of_plain? hx s.clock (s.source (.access a)))
  exact h.stays horderly rfl (by simp) hreflects

/-- What is done for the caller, it is there for. -/
theorem serves (h : Hosts start n p s t) (hserves : Serves n s s') :
    ∃ t', Hosts start n p s' t' := by
  cases hserves with
  | caller hgo =>
    obtain ⟨k, x, hk, hact, -⟩ := exists_of_goCaller? hgo
    obtain rfl := Option.some.inj (h.here.symm.trans hk)
    obtain ⟨op, next, hprogram, y, hy, -, -⟩ := exists_of_act hact
    exact ⟨_, h.goCaller hprogram hy hgo⟩
  | part hgo =>
    obtain ⟨k, op, next, x, hk, hp, hx, -⟩ := exists_of_goPart? hgo
    obtain rfl := Option.some.inj (h.here.symm.trans hk)
    exact ⟨_, h.goPart hp hx hgo⟩
  | load hgo => exact ⟨t, h.goLoad hgo⟩
  | errand hgo => exact ⟨t, h.goErrand hgo⟩

/-- Whatever happens, the caller keeps to its program. -/
theorem attends (h : Hosts start n p s t) (hstep : Attends n s s') :
    ∃ t', Hosts start n p s' t' := by
  cases hstep with
  | serves hserves => exact h.serves hserves
  | @forget m _ hgo =>
    have horderly := h.orderly.take (.forget m) hgo
    obtain ⟨r, -, rfl⟩ := exists_of_forget? hgo
    exact ⟨t, h.stays horderly rfl le_rfl (Solo.reflects_of_eq rfl rfl)⟩
  | change c =>
    have horderly := h.orderly.take (.change c) rfl
    exact ⟨t, h.stays horderly rfl le_rfl (Solo.reflects_of_eq rfl rfl)⟩
  | other hop hx =>
    have horderly := (h.orderly.step (.other hx)).1
    refine ⟨t, h.stays horderly rfl (by simp [Stage.after]) ?_⟩
    exact (Solo.reflects_singleton_iff hop).1 (reflects_of_carry hx)

theorem of_reflTransGen (h : Hosts start n p s t) (hs : Relation.ReflTransGen (Attends n) s s') :
    ∃ t', Hosts start n p s' t' := by
  induction hs with
  | refl => exact ⟨t, h⟩
  | tail _ hstep ih =>
    obtain ⟨t', h'⟩ := ih
    exact h'.attends hstep

end Hosts

/-! ## A caller who is served -/

/-- The caller comes to its end if it is served. -/
def CanBeServed (s : Stage) (n : Nat) : Prop :=
  ∃ s', Relation.ReflTransGen (Serves n) s s' ∧ (s'.answerOf? n).isSome = true

theorem canBeServed_of_reflTransGen (h : Relation.ReflTransGen (Serves n) s s')
    (h' : s'.CanBeServed n) : s.CanBeServed n := by
  obtain ⟨u, hu, hanswer⟩ := h'
  exact ⟨u, h.trans hu, hanswer⟩

namespace Hosts

/-- Loads that are let go on leave the caller as it is. -/
theorem play {turns : List Turn} (h : Hosts start n p s t) (hturns : ∀ turn ∈ turns, turn.IsOf m)
    (hplay : s.play turns = some s') :
    Relation.ReflTransGen (Serves n) s s' ∧ Hosts start n p s' t := by
  refine keeps_of_foldlM_eq_some
    (P := fun s' => Relation.ReflTransGen (Serves n) s s' ∧ Hosts start n p s' t)
    (fun turn hmem u u' hu hturn => ?_) ⟨.refl, h⟩ hplay
  obtain ⟨hserves, h⟩ := hu
  have hof := hturns turn hmem
  cases turn with
  | load => exact ⟨hserves.tail (.load hturn), h.goLoad hturn⟩
  | errand => exact ⟨hserves.tail (.errand hturn), h.goErrand hturn⟩
  | _ => exact hof.elim

/-- An errand of the caller comes to its end. -/
theorem exists_ended (h : Hosts start n p s t) {q : ErrandProgram} (hq : t.parts[i]? = some q) :
    ∃ s' t' r, Relation.ReflTransGen (Serves n) s s' ∧ Hosts start n p s' t' ∧
      t'.program = t.program ∧ t'.parts = t.parts.set i (.done r) := by
  induction q generalizing s t with
  | done r =>
    refine ⟨s, t, r, .refl, h, rfl, ?_⟩
    obtain ⟨hlt, hget⟩ := List.getElem?_eq_some_iff.1 hq
    rw [← hget, List.set_getElem_self]
  | call op next ih =>
    obtain ⟨x, hx⟩ := (h.performs.errands _ (List.mem_of_getElem? hq)).exists_plain? s.place
    have hgo := goPart?_eq h.here hq hx
    have hlt := (List.getElem?_eq_some_iff.1 hq).1
    obtain ⟨s', t', r, hserves, h', hprogram, hparts⟩ :=
      ih x.1 (h.goPart hq hx hgo) (List.getElem?_set_self hlt)
    refine ⟨s', t', r, .head (.part hgo) hserves, h', hprogram, ?_⟩
    rw [hparts]
    exact List.set_set ..

/-- The errands that the caller waits for come to something. -/
theorem exists_gathered (h : Hosts start n p s t) :
    ∃ s' t', Relation.ReflTransGen (Serves n) s s' ∧ Hosts start n p s' t' ∧
      t'.program = t.program ∧ t'.gathered?.isSome = true := by
  -- One errand after the other comes to its end.
  induction hcount : t.parts.countP (fun q => q.result?.isNone) generalizing s t with
  | zero => exact ⟨s, t, .refl, h, rfl, Strand.isSome_gathered? hcount⟩
  | succ k ih =>
    have hpos : 0 < t.parts.countP (fun q => q.result?.isNone) := by rw [hcount]; exact k.succ_pos
    obtain ⟨q, hq, hgoes⟩ := List.countP_pos_iff.1 hpos
    obtain ⟨i, hi⟩ := List.mem_iff_getElem?.1 hq
    obtain ⟨hlt, hget⟩ := List.getElem?_eq_some_iff.1 hi
    obtain ⟨s', t', r, hserves, h', hprogram, hparts⟩ := h.exists_ended hi
    have hless : t'.parts.countP (fun q => q.result?.isNone) = k := by
      rw [hparts, List.countP_set hlt, hget, hcount]
      simp only [hgoes]
      rfl
    obtain ⟨s'', t'', hserves', h'', hprogram', hgathered⟩ := ih h' hless
    exact ⟨s'', t'', hserves.trans hserves', h'', hprogram'.trans hprogram, hgathered⟩

/-- A caller who is served comes to its end. -/
theorem canBeServed (h : Hosts start n p s t)
    {Q : List Exchange → Except Interruption Answer → Prop}
    (hp : p.Keeps Exchange.IsReliable AwaitsJoined Q []) : s.CanBeServed n := by
  -- What is still to be done gets less with each operation of the caller.
  induction hprogram : t.program generalizing s t with
  | done r =>
    refine ⟨s, .refl, ?_⟩
    rw [answerOf?, h.here, Option.bind_some, hprogram]
    rfl
  | call op next ih =>
    have hgo {s : Stage} {t : Strand Answer} (h : Hosts start n p s t)
        (hprogram : t.program = .call op next) {x : op.Reply × Solo × List (Strand RuleSet)}
        (hx : s.carry t.gathered? op = some x) : s.CanBeServed n := by
      have hturn := goCaller?_eq h.here hprogram hx
      exact canBeServed_of_reflTransGen (.single (.caller hturn))
        (ih x.1 (h.goCaller hprogram hx hturn) rfl)
    cases op with
    | awaitLoad m =>
      have hkeeps := h.performs.keeps hp
      rw [hprogram] at hkeeps
      have hlt : m < s.loads.length := h.joined m hkeeps.1
      obtain ⟨turns, hturns, s', hplay, hended⟩ :=
        h.orderly.canEnd (List.getElem?_eq_getElem hlt)
      obtain ⟨hserves, h'⟩ := h.play hturns hplay
      obtain ⟨r, hr⟩ := Option.isSome_iff_exists.1 hended
      have hcarry : s'.carry t.gathered? (.awaitLoad m) = some (r, s'.place, []) :=
        Option.map_eq_some_iff.2 ⟨r, hr, rfl⟩
      exact canBeServed_of_reflTransGen hserves (hgo h' hprogram hcarry)
    | each errand ids =>
      obtain ⟨s', t', hserves, h', hprogram', hgathered⟩ := h.exists_gathered
      obtain ⟨r, hr⟩ := Option.isSome_iff_exists.1 hgathered
      have hcarry : s'.carry t'.gathered? (.each errand ids) = some (r, s'.place, []) :=
        Option.map_eq_some_iff.2 ⟨r, hr, rfl⟩
      exact canBeServed_of_reflTransGen hserves (hgo h' (hprogram'.trans hprogram) hcarry)
    | joinLoad v =>
      cases hpending : s.place.desk.pendingOf v with
      | some k => exact hgo h hprogram (by simp only [carry, hpending]; rfl)
      | none => exact hgo h hprogram (by simp only [carry, hpending]; rfl)
    | _ => exact hgo h hprogram rfl

end Hosts

end Stage

end HouseholdAccess
