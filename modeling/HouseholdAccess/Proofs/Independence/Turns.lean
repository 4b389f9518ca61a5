import HouseholdAccess.Proofs.Independence.Stages

/-!
# The turns of a user

Each turn is one of the user whose caller enters or whose caller or load goes on
(`Stage.Turn.owner?`), apart from those in which the world changes. If only the turns of one
user are left, callers and loads go by the numbers that they have among those of the user
(`Stage.Turn.seenBy`).

A turn is taken on one of two stages that look alike to the user, and on the other if it
is left there: they look alike after it (`Stage.LooksLike.take`).
-/

namespace HouseholdAccess

/-- The user whom the call is about, if it is a lookup of a rule set or drops it. -/
def Call.user? : Call → Option Id
  | .get user | .invalidate user | .recompute user => some user
  | _ => none

theorem Call.isAbout_iff {user : Id} {call : Call} :
    call.IsAbout user ↔ call.user? = some user := by
  cases call <;> simp [IsAbout, user?]

namespace Stage

/-! ## Whose turn it is -/

namespace Turn

/-- Whose turn it is; it is nobody's if the world changes. -/
def owner? (callers loads : List Id) : Turn → Option Id
  | .enter call => call.user?
  | .caller n => callers[n]?
  | .load n | .errand n _ | .forget n => loads[n]?
  | .change _ => none

/-- The turn when callers and loads go by the numbers that they have among those of a user. -/
def renumber (user : Id) (callers loads : List Id) : Turn → Turn
  | .caller n => .caller (rankOf user callers n)
  | .load n => .load (rankOf user loads n)
  | .errand n i => .errand (rankOf user loads n) i
  | .forget n => .forget (rankOf user loads n)
  | turn => turn

/-- The turn as it is if the turns of all others are left out. -/
def seenBy (user : Id) (callers loads : List Id) (turn : Turn) : Option Turn :=
  if (turn.owner? callers loads).all (· = user) then some (turn.renumber user callers loads)
  else none

example : [Turn.enter (.get (.text "u1")), .enter (.get (.text "u2")), .caller 0, .caller 1,
      .load 0, .load 1, .change (.mend .load), .caller 1].filterMap
        (seenBy (.text "u2") [.text "u1", .text "u2"] [.text "u1", .text "u2"]) =
    [.enter (.get (.text "u2")), .caller 0, .load 0, .change (.mend .load), .caller 0] := rfl

/-- The owner of the caller that enters, if one does. -/
def entrant? : Turn → Option Id
  | .enter call => call.user?
  | _ => none

/-- The owners of the callers that enter. -/
def callersOf (turns : List Turn) : List Id := turns.filterMap entrant?

/-- A user is looked up or dropped whose name is a text, or time passes, or something else changes,
    or someone goes on. -/
def IsPlain : Turn → Prop
  | .enter call => ∃ user, user.isText = true ∧ call.IsAbout user
  | .change c => c.Passes
  | _ => True

end Turn

variable {α : Type} {user other v : Id} {callers loads : List Id} {s s' t : Stage} {n i : Nat}
  {gathered : Option (Except Interruption (List (List Id)))} {u u' : Strand α}

/-! ## Strands that act -/

theorem owners_le_of_carry {op : Operation} {x : op.Reply × Solo × List (Strand RuleSet)}
    (hx : s.carry gathered op = some x) : s.owners <+: x.2.1.desk.owners := by
  cases op with
  | joinLoad v =>
    rcases joined_or_started hx with ⟨n, -, rfl⟩ | ⟨-, rfl⟩
    · exact List.prefix_refl _
    · exact Desk.owners_start _ _ ▸ List.prefix_append _ _
  | awaitLoad | each =>
    obtain ⟨r, hr, rfl⟩ := Option.map_eq_some_iff.1 hx
    exact List.prefix_refl _
  | overtake v =>
    cases hx
    exact (Desk.owners_overtake _ _).symm ▸ List.prefix_refl _
  | _ =>
    cases hx
    exact List.prefix_refl _

theorem owners_le_of_act {load : Option Nat} {x : Strand α × Stage} (hx : s.act load u = some x) :
    s.owners <+: x.2.owners := by
  obtain ⟨op, next, hprogram, y, hcarry, hx₁, hx₂⟩ := exists_of_act hx
  rw [hx₂]
  exact owners_le_of_carry hcarry

/-- What acts for a user belongs to that user afterwards, and leaves everything to its owner. -/
theorem Belongs.act (hs : s.Belongs callers loads) (hv : v.isText = true) (hu : u.BelongsTo v)
    {load : Option Nat} {x : Strand α × Stage} (hx : s.act load u = some x)
    (howners : x.2.owners <+: loads) : x.1.BelongsTo v ∧ x.2.Belongs callers loads := by
  obtain ⟨op, next, hprogram, y, hcarry, hx₁, hx₂⟩ := exists_of_act hx
  rw [hx₂] at howners ⊢
  rw [hx₁]
  have hop := hu.program
  rw [hprogram] at hop
  exact ⟨hu.go _ hprogram _, (carried_of_carry hop.1.1 hcarry).belongs hs hv hop.1.1 howners _ _⟩

/-- The user cannot tell that a strand of somebody else acts. -/
theorem LooksLike.act_other (h : s.LooksLike user callers loads t) (hs : s.Belongs callers loads)
    (huser : user.isText = true) (hother : other.isText = true) (hne : other ≠ user)
    (hu : u.BelongsTo other) {load : Option Nat} {x : Strand α × Stage}
    (hx : s.act load u = some x) (howners : x.2.owners <+: loads) :
    x.2.LooksLike user callers loads t := by
  obtain ⟨op, next, hprogram, y, hcarry, hx₁, hx₂⟩ := exists_of_act hx
  rw [hx₂] at howners ⊢
  have hop := hu.program
  rw [hprogram] at hop
  exact h.carried_other hs huser hother hne hop.1.1 (carried_of_carry hop.1.1 hcarry) howners _ _

/-! ## Strands that have acted -/

section Set

variable {a b : Strand Answer} {c d : Strand RuleSet}

theorem Belongs.setCaller (hs : s.Belongs callers loads) (hn : callers[n]? = some v)
    (hv : v.isText = true) (ha : a.BelongsTo v) :
    ({ s with callers := s.callers.set n a } : Stage).Belongs callers loads :=
  ⟨hs.desk, hs.numbered, hs.loads, hs.callers.set hn hv ha⟩

theorem Belongs.setLoad (hs : s.Belongs callers loads) (hn : loads[n]? = some v)
    (hv : v.isText = true) (hc : c.BelongsTo v) :
    ({ s with loads := s.loads.set n c } : Stage).Belongs callers loads :=
  ⟨hs.desk, hs.numbered.trans List.length_set.symm, hs.loads.set hn hv hc, hs.callers⟩

namespace LooksLike

variable (h : s.LooksLike user callers loads t)
include h

theorem setCaller (hn : callers[n]? = some user)
    (hab : a.LooksLike user (IsRanked user loads) b) :
    ({ s with callers := s.callers.set n a } : Stage).LooksLike user callers loads
      { t with callers := t.callers.set (rankOf user callers n) b } := by
  refine ⟨h.service, h.world, h.desk, ?_, h.loads⟩
  rw [ShowStrands, ownedBy_set, if_pos hn]
  exact forall₂_set h.callers hab _

theorem setCaller_other (hn : callers[n]? = some other) (hne : other ≠ user) (a : Strand Answer) :
    ({ s with callers := s.callers.set n a } : Stage).LooksLike user callers loads t := by
  refine ⟨h.service, h.world, h.desk, ?_, h.loads⟩
  rw [ShowStrands, ownedBy_set, hn, if_neg fun heq => hne (Option.some.inj heq)]
  exact h.callers

theorem setLoad (hn : loads[n]? = some user) (hcd : c.LooksLike user (IsRanked user loads) d) :
    ({ s with loads := s.loads.set n c } : Stage).LooksLike user callers loads
      { t with loads := t.loads.set (rankOf user loads n) d } := by
  refine ⟨h.service, h.world, h.desk, h.callers, ?_⟩
  rw [ShowStrands, ownedBy_set, if_pos hn]
  exact forall₂_set h.loads hcd _

theorem setLoad_other (hn : loads[n]? = some other) (hne : other ≠ user) (c : Strand RuleSet) :
    ({ s with loads := s.loads.set n c } : Stage).LooksLike user callers loads t := by
  refine ⟨h.service, h.world, h.desk, h.callers, ?_⟩
  rw [ShowStrands, ownedBy_set, hn, if_neg fun heq => hne (Option.some.inj heq)]
  exact h.loads

theorem exists_caller (hn : callers[n]? = some user) (ha : s.callers[n]? = some a) :
    ∃ b, t.callers[rankOf user callers n]? = some b ∧
      a.LooksLike user (IsRanked user loads) b :=
  exists_getElem?_of_forall₂ h.callers ((getElem?_ownedBy hn _).trans ha)

theorem exists_load (hn : loads[n]? = some user) (hc : s.loads[n]? = some c) :
    ∃ d, t.loads[rankOf user loads n]? = some d ∧ c.LooksLike user (IsRanked user loads) d :=
  exists_getElem?_of_forall₂ h.loads ((getElem?_ownedBy hn _).trans hc)

end LooksLike

end Set

/-! ## What happens in a turn -/

/-- Loads are never taken from their owners. -/
theorem owners_le_of_take {turn : Turn} (h : s.take? turn = some s') : s.owners <+: s'.owners := by
  cases turn with
  | enter call =>
    cases h
    exact List.prefix_refl _
  | caller n =>
    obtain ⟨a, x, -, hx, rfl⟩ := exists_of_goCaller? h
    exact owners_le_of_act hx
  | load n =>
    obtain ⟨c, x, -, hx, rfl⟩ := exists_of_goLoad? h
    exact owners_le_of_act hx
  | errand n i =>
    obtain ⟨c, op, next, x, -, -, hx, rfl⟩ := exists_of_goErrand? h
    have hcarry : s.carry none op = some (x.1, x.2, []) := carry_of_plain? hx
    exact owners_le_of_carry hcarry
  | forget n =>
    obtain ⟨r, -, rfl⟩ := exists_of_forget? h
    change s.owners <+: (s.place.desk.forget n).owners
    rw [Desk.owners_forget]
    exact List.prefix_refl _
  | change c =>
    cases h
    exact List.prefix_refl _

/-- After each turn, everything belongs to its owner. -/
theorem Belongs.take (hs : s.Belongs callers loads) {turn : Turn} (hturn : turn.IsPlain)
    (hcallers : ∀ call, turn = .enter call → callers[s.callers.length]? = call.user?)
    (howners : s'.owners <+: loads) (h : s.take? turn = some s') : s'.Belongs callers loads := by
  cases turn with
  | enter call =>
    cases h
    obtain ⟨v, hv, hcall⟩ := hturn
    have hn := (hcallers call rfl).trans (Call.isAbout_iff.1 hcall)
    exact ⟨hs.desk, hs.numbered, hs.loads,
      hs.callers.snoc hn hv (Strand.belongsTo_caller _ _ hcall)⟩
  | caller n =>
    obtain ⟨a, x, ha, hx, rfl⟩ := exists_of_goCaller? h
    obtain ⟨v, hn, hv, hbelongs⟩ := hs.callers n a ha
    obtain ⟨hx₁, hx₂⟩ := hs.act hv hbelongs hx howners
    exact hx₂.setCaller hn hv hx₁
  | load n =>
    obtain ⟨c, x, hc, hx, rfl⟩ := exists_of_goLoad? h
    obtain ⟨v, hn, hv, hbelongs⟩ := hs.loads n c hc
    obtain ⟨hx₁, hx₂⟩ := hs.act hv hbelongs hx howners
    exact hx₂.setLoad hn hv hx₁
  | errand n i =>
    obtain ⟨c, op, next, x, hc, hp, hx, rfl⟩ := exists_of_goErrand? h
    obtain ⟨v, hn, hv, hbelongs⟩ := hs.loads n c hc
    obtain ⟨hop, hgone⟩ := hbelongs.goErrand i s.clock hp x.1
    cases op with
    | access a =>
      have hcarried : s.Carried none (.access a) x.1 x.2 [] := carried_access hx
      have hafter := hcarried.belongs hs hv (hop.isAbout v) howners (some n)
        (s.exchange (.access a) x.1)
      rw [← s.loads_after_nil (some n) (s.exchange (.access a) x.1) x.2]
      exact hafter.setLoad hn hv hgone
    | _ => exact hop.elim
  | forget n =>
    obtain ⟨r, -, rfl⟩ := exists_of_forget? h
    exact ⟨hs.desk.forget n, (Desk.length_loads_forget _ _).trans hs.numbered, hs.loads, hs.callers⟩
  | change c =>
    cases h
    exact ⟨hs.desk, hs.numbered, hs.loads, hs.callers⟩

/-- A turn that is taken is some user's, unless the world changes. -/
theorem Belongs.exists_owner (hs : s.Belongs callers loads) {turn : Turn} (hturn : turn.IsPlain)
    (h : s.take? turn = some s') :
    (∃ c, turn = .change c) ∨ ∃ v, turn.owner? callers loads = some v := by
  cases turn with
  | enter call =>
    obtain ⟨v, -, hcall⟩ := hturn
    exact .inr ⟨v, Call.isAbout_iff.1 hcall⟩
  | caller n =>
    obtain ⟨a, -, ha, -, -⟩ := exists_of_goCaller? h
    obtain ⟨v, hn, -, -⟩ := hs.callers n a ha
    exact .inr ⟨v, hn⟩
  | load n =>
    obtain ⟨c, -, hc, -, -⟩ := exists_of_goLoad? h
    obtain ⟨v, hn, -, -⟩ := hs.loads n c hc
    exact .inr ⟨v, hn⟩
  | errand n i =>
    obtain ⟨c, -, -, -, hc, -, -, -⟩ := exists_of_goErrand? h
    obtain ⟨v, hn, -, -⟩ := hs.loads n c hc
    exact .inr ⟨v, hn⟩
  | forget n =>
    obtain ⟨r, hr, -⟩ := exists_of_forget? h
    obtain ⟨c, hc, -⟩ := Option.bind_eq_some_iff.1 hr
    obtain ⟨v, hn, -, -⟩ := hs.loads n c hc
    exact .inr ⟨v, hn⟩
  | change c => exact .inl ⟨c, rfl⟩

namespace LooksLike

variable (h : s.LooksLike user callers loads t) (hs : s.Belongs callers loads)
  (huser : user.isText = true)
include h hs huser

/-- An errand of the user that goes on on one stage can go on on the other. -/
theorem goErrand (hn : loads[n]? = some user) (howners : s'.owners <+: loads)
    (hgo : s.goErrand? n i = some s') :
    ∃ t', t.goErrand? (rankOf user loads n) i = some t' ∧ s'.LooksLike user callers loads t' := by
  obtain ⟨c, op, next, x, hc, hp, hx, rfl⟩ := exists_of_goErrand? hgo
  obtain ⟨v, -, -, hbelongs⟩ := hs.loads n c hc
  obtain ⟨hop, -⟩ := hbelongs.goErrand i s.clock hp x.1
  obtain ⟨d, hd, hcd⟩ := h.exists_load hn hc
  cases op with
  | access a =>
    obtain ⟨y, hy, hreply, hworld, hdesk⟩ := h.exists_plain? huser (hop.isAbout user) hx
    have hp' : d.parts[i]? = some (.call (.access a) next) := hcd.parts ▸ hp
    refine ⟨{ t.after (some (rankOf user loads n)) (t.exchange (.access a) y.1) y.2 [] with
      loads := t.loads.set (rankOf user loads n) (d.goErrand i t.clock (.access a) (next y.1)) },
      ?_, ?_⟩
    · simp only [goErrand?, hd, hp', hy, Option.bind_eq_bind, Option.bind_some, loads_after_nil]
      rfl
    · have hafter := h.after_same (some n) (some (rankOf user loads n)) (s.exchange (.access a) x.1)
        (t.exchange (.access a) y.1) hworld hdesk
      have hset := hafter.setLoad hn (hcd.goErrand i s.clock t.clock (.access a) (next y.1))
      rw [loads_after_nil, loads_after_nil] at hset
      rw [hreply] at hset ⊢
      exact hset
  | _ => exact hop.elim

/-- A turn of the user is taken on both stages. -/
theorem take_own {turn : Turn} (howner : turn.owner? callers loads = some user)
    (hcallers : ∀ call, turn = .enter call → callers[s.callers.length]? = call.user?)
    (howners : s'.owners <+: loads) (htake : s.take? turn = some s') :
    ∃ t', t.take? (turn.renumber user callers loads) = some t' ∧
      s'.LooksLike user callers loads t' := by
  cases turn with
  | enter call =>
    cases htake
    have hcall : call.user? = some user := howner
    refine ⟨t.enter call, rfl, h.service, h.world, h.desk, ?_, h.loads⟩
    have hn := (hcallers call rfl).trans hcall
    change ShowStrands user loads callers (s.callers ++ [_]) (t.callers ++ [_])
    rw [ShowStrands, ownedBy_append_singleton hn, if_pos rfl, h.service]
    exact List.rel_append h.callers
      (.cons (Strand.looksLike_caller _ _ _ (Call.isAbout_iff.2 hcall)) .nil)
  | caller n =>
    obtain ⟨a, x, ha, hx, rfl⟩ := exists_of_goCaller? htake
    obtain ⟨b, hb, hab⟩ := h.exists_caller howner ha
    obtain ⟨x', hx', hstrand, hstage⟩ := h.act hs huser hab hx howners none
    refine ⟨_, ?_, hstage.setCaller howner hstrand⟩
    simp only [Turn.renumber, take?, goCaller?, hb, hx', Option.bind_eq_bind, Option.bind_some]
    rfl
  | load n =>
    obtain ⟨c, x, hc, hx, rfl⟩ := exists_of_goLoad? htake
    obtain ⟨d, hd, hcd⟩ := h.exists_load howner hc
    obtain ⟨x', hx', hstrand, hstage⟩ := h.act hs huser hcd hx howners (some (rankOf user loads n))
    refine ⟨_, ?_, hstage.setLoad howner hstrand⟩
    simp only [Turn.renumber, take?, goLoad?, hd, hx', Option.bind_eq_bind, Option.bind_some]
    rfl
  | errand n i => exact h.goErrand hs huser howner howners htake
  | forget n =>
    obtain ⟨r, hr, rfl⟩ := exists_of_forget? htake
    rw [← h.bind_result?_eq ⟨howner, rfl⟩] at hr
    exact ⟨_, Option.map_eq_some_iff.2 ⟨r, hr, rfl⟩, h.service, h.world,
      h.desk.forget hs.desk howner, h.callers, h.loads⟩
  | change => cases howner

/-- A turn of somebody else makes no difference to the user. -/
theorem take_other {turn : Turn} (howner : turn.owner? callers loads = some other)
    (hne : other ≠ user)
    (hcallers : ∀ call, turn = .enter call → callers[s.callers.length]? = call.user?)
    (howners : s'.owners <+: loads) (htake : s.take? turn = some s') :
    s'.LooksLike user callers loads t := by
  cases turn with
  | enter call =>
    cases htake
    have hn := (hcallers call rfl).trans howner
    refine ⟨h.service, h.world, h.desk, ?_, h.loads⟩
    change ShowStrands user loads callers (s.callers ++ [_]) t.callers
    rw [ShowStrands, ownedBy_append_singleton hn, if_neg hne]
    exact h.callers
  | caller n =>
    obtain ⟨a, x, ha, hx, rfl⟩ := exists_of_goCaller? htake
    obtain ⟨v, hn, hv, hbelongs⟩ := hs.callers n a ha
    obtain rfl := Option.some.inj (hn.symm.trans howner)
    exact (h.act_other hs huser hv hne hbelongs hx howners).setCaller_other hn hne _
  | load n =>
    obtain ⟨c, x, hc, hx, rfl⟩ := exists_of_goLoad? htake
    obtain ⟨v, hn, hv, hbelongs⟩ := hs.loads n c hc
    obtain rfl := Option.some.inj (hn.symm.trans howner)
    exact (h.act_other hs huser hv hne hbelongs hx howners).setLoad_other hn hne _
  | errand n i =>
    obtain ⟨c, op, next, x, hc, hp, hx, rfl⟩ := exists_of_goErrand? htake
    obtain ⟨v, hn, hv, hbelongs⟩ := hs.loads n c hc
    obtain rfl := Option.some.inj (hn.symm.trans howner)
    obtain ⟨hop, -⟩ := hbelongs.goErrand i s.clock hp x.1
    cases op with
    | access a =>
      have hcarried : s.Carried none (.access a) x.1 x.2 [] := carried_access hx
      have hafter := h.carried_other hs huser hv hne (hop.isAbout v) hcarried howners (some n)
        (s.exchange (.access a) x.1)
      rw [← s.loads_after_nil (some n) (s.exchange (.access a) x.1) x.2]
      exact hafter.setLoad_other hn hne _
    | _ => exact hop.elim
  | forget n =>
    obtain ⟨r, -, rfl⟩ := exists_of_forget? htake
    have hn : loads[n]? ≠ some user := fun heq => hne (Option.some.inj (howner.symm.trans heq))
    exact ⟨h.service, h.world, h.desk.forget_other hs.desk hn, h.callers, h.loads⟩
  | change => cases howner

/-- What a turn does that is not left out is done on both stages, which look alike after it. -/
theorem take {turn : Turn} (hturn : turn.IsPlain)
    (hcallers : ∀ call, turn = .enter call → callers[s.callers.length]? = call.user?)
    (howners : s'.owners <+: loads) (htake : s.take? turn = some s') :
    ∃ t', t.play (turn.seenBy user callers loads).toList = some t' ∧
      s'.LooksLike user callers loads t' := by
  rcases hs.exists_owner hturn htake with ⟨c, rfl⟩ | ⟨v, howner⟩
  · cases htake
    exact ⟨t.change c, rfl, h.service, h.world.apply huser hturn, h.desk, h.callers, h.loads⟩
  · rw [Turn.seenBy, howner]
    by_cases hv : v = user
    · obtain rfl := hv
      obtain ⟨t', ht', hlooks⟩ := h.take_own hs huser howner hcallers howners htake
      exact ⟨t', by simpa [play] using ht', hlooks⟩
    · exact ⟨t, by simp [hv, play], h.take_other hs huser howner hv hcallers howners htake⟩

end LooksLike

end Stage

end HouseholdAccess
