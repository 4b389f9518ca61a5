import HouseholdAccess.Proofs.Independence.Strands
import HouseholdAccess.Proofs.Stage.Playing

/-!
# What a user can tell of a stage

On a stage every caller and every load belongs to some user (`Stage.Belongs`). Two stages
*look alike* to a user (`Stage.LooksLike`) if one has the callers and the loads of the user
alone, and the user can tell no difference between what is met on the two.

A strand of the user that acts on one stage can act on the other, and they look alike then
(`Stage.LooksLike.act`). If a strand of somebody else acts, the stages look alike without
anything happening on the other one (`Stage.LooksLike.act_other`).
-/

namespace HouseholdAccess

namespace Stage

variable {α : Type} {user other v : Id} {callers loads : List Id} {s s' t : Stage} {n : Nat}
  {gathered : Option (Except Interruption (List (List Id)))} {op : Operation} {reply : op.Reply}
  {place place' : Solo} {started started' : List (Strand RuleSet)}

/-! ## Whose callers and loads -/

/-- The owners of the loads. -/
def owners (s : Stage) : List Id := s.place.desk.owners

/-- The strand with the number belongs to the user to whom it is said to belong. -/
def AreOwned (owners : List Id) (strands : List (Strand α)) : Prop :=
  ∀ (n : Nat) (t : Strand α), strands[n]? = some t →
    ∃ v, owners[n]? = some v ∧ v.isText = true ∧ t.BelongsTo v

theorem AreOwned.set {strands : List (Strand α)} {owners : List Id} (h : AreOwned owners strands)
    (hn : owners[n]? = some v) (hv : v.isText = true) {t : Strand α} (ht : t.BelongsTo v) :
    AreOwned owners (strands.set n t) := by
  intro m u hu
  rcases getElem?_set_cases hu with ⟨rfl, rfl⟩ | ⟨-, hu⟩
  · exact ⟨v, hn, hv, ht⟩
  · exact h m u hu

theorem AreOwned.snoc {strands : List (Strand α)} {owners : List Id} (h : AreOwned owners strands)
    (hn : owners[strands.length]? = some v) (hv : v.isText = true) {t : Strand α}
    (ht : t.BelongsTo v) : AreOwned owners (strands ++ [t]) := by
  intro m u hu
  rcases getElem?_snoc_cases hu with hu | ⟨rfl, rfl⟩
  · exact h m u hu
  · exact ⟨v, hn, hv, ht⟩

/-- Callers and loads belong to users, and loads are numbered as at the desk. -/
structure Belongs (callers loads : List Id) (s : Stage) : Prop where
  desk : s.place.desk.Belongs loads
  numbered : s.place.desk.loads.length = s.loads.length
  loads : AreOwned loads s.loads
  callers : AreOwned callers s.callers

/-- What does not wait starts no load. -/
theorem carry_of_plain? {x : op.Reply × Solo} (hx : s.place.plain? op = some x) :
    s.carry gathered op = some (x.1, x.2, []) := by
  cases op with
  | joinLoad | awaitLoad | each => cases hx
  | _ =>
    cases hx
    rfl

/-- The owner of a load that is started. -/
theorem Belongs.owner_started (hs : s.Belongs callers loads)
    (howners : (s.place.desk.start v).2.owners <+: loads) :
    loads[s.place.desk.loads.length]? = some v := by
  rw [Desk.owners_start] at howners
  obtain ⟨more, rfl⟩ := howners
  have hlength : s.place.desk.loads.length = s.place.desk.owners.length := by simp [Desk.owners]
  rw [hlength, List.append_assoc, List.getElem?_append_right le_rfl, Nat.sub_self]
  rfl

/-- What is done for a user leaves everything to its owner. -/
theorem Carried.belongs (hc : s.Carried gathered op reply place started)
    (hs : s.Belongs callers loads) (hv : v.isText = true) (hop : op.IsAbout v)
    (howners : place.desk.owners <+: loads) (load : Option Nat) (e : Exchange) :
    (s.after load e place started).Belongs callers loads := by
  refine ⟨?_, hc.numbered hs.numbered, ?_, hs.callers⟩
  · cases hc with
    | started hpending =>
      exact hs.desk.start hpending (Desk.owners_start _ _ ▸ howners)
    | overtook v => exact hs.desk.overtake v
    | _ => exact hs.desk
  · cases hc with
    | started hpending =>
      obtain rfl := hop
      refine hs.loads.snoc ?_ hv (Strand.belongsTo_load ..)
      rw [← hs.numbered]
      exact hs.owner_started howners
    | _ =>
      rw [loads_after_nil]
      exact hs.loads

/-! ## Stages that look alike -/

/-- The strands of the user look alike. -/
abbrev ShowStrands (user : Id) (loads owners : List Id) (all own : List (Strand α)) : Prop :=
  List.Forall₂ (Strand.LooksLike user (IsRanked user loads)) (ownedBy user owners all) own

/-- One stage has the callers and loads of the user alone, and the user cannot tell what is met on
    it from what is met on the other. -/
structure LooksLike (user : Id) (callers loads : List Id) (s t : Stage) : Prop where
  service : t.service = s.service
  world : s.place.world.LooksLike user t.place.world
  desk : s.place.desk.LooksLike user loads t.place.desk
  callers : ShowStrands user loads callers s.callers t.callers
  loads : ShowStrands user loads loads s.loads t.loads

namespace LooksLike

variable (h : s.LooksLike user callers loads t)
include h

/-- What has been carried out for the user on both stages. -/
theorem after {place : Solo} {started : List (Strand RuleSet)}
    (hworld : place.world.LooksLike user place'.world)
    (hdesk : place.desk.LooksLike user loads place'.desk)
    (hloads : ShowStrands user loads loads (s.loads ++ started) (t.loads ++ started'))
    (load load' : Option Nat) (e e' : Exchange) :
    (s.after load e place started).LooksLike user callers loads
      (t.after load' e' place' started') :=
  ⟨h.service, hworld, hdesk, h.callers, hloads⟩

theorem after_same (load load' : Option Nat) (e e' : Exchange) {place place' : Solo}
    (hworld : place.world.LooksLike user place'.world)
    (hdesk : place.desk.LooksLike user loads place'.desk) :
    (s.after load e place []).LooksLike user callers loads (t.after load' e' place' []) :=
  h.after hworld hdesk (by simpa only [List.append_nil] using h.loads) load load' e e'

/-- The user cannot tell what is carried out for others. -/
theorem carried_other (hs : s.Belongs callers loads) (huser : user.isText = true)
    (hother : other.isText = true) (hne : other ≠ user) (hop : op.IsAbout other)
    (hc : s.Carried gathered op reply place started) (howners : place.desk.owners <+: loads)
    (load : Option Nat) (e : Exchange) :
    (s.after load e place started).LooksLike user callers loads t := by
  have hsame {place : Solo} (hworld : place.world.LooksLike user t.place.world)
      (hdesk : place.desk.LooksLike user loads t.place.desk) :
      (s.after load e place []).LooksLike user callers loads t :=
    ⟨h.service, hworld, hdesk, h.callers, (s.loads_after_nil load e place).symm ▸ h.loads⟩
  cases hc with
  | answered a => exact hsame (h.world.answer_other huser hother hne hop) h.desk
  | refused a f => exact hsame (h.world.begin_left a) h.desk
  | started =>
    obtain rfl := hop
    have hn := hs.owner_started howners
    refine ⟨h.service, h.world, h.desk.start_other hne hn, h.callers, ?_⟩
    change ShowStrands user loads loads (s.loads ++ [_]) t.loads
    rw [hs.numbered] at hn
    rw [ShowStrands, ownedBy_append_singleton hn, if_neg hne]
    exact h.loads
  | overtook v =>
    obtain rfl := hop
    exact hsame h.world (h.desk.overtake_other hs.desk hne)
  | _ => exact hsame h.world h.desk

/-- What one load has come to, the other has come to. -/
theorem bind_result?_eq {m : Nat} (hnm : IsRanked user loads n m) :
    (t.loads[m]?).bind (·.program.result?) = (s.loads[n]?).bind (·.program.result?) := by
  obtain ⟨hn, rfl⟩ := hnm
  rw [← getElem?_ownedBy hn]
  have hlength := h.loads.length_eq
  cases hstrand : (ownedBy user loads s.loads)[rankOf user loads n]? with
  | none =>
    rw [List.getElem?_eq_none_iff, hlength, ← List.getElem?_eq_none_iff] at hstrand
    rw [hstrand]
  | some strand =>
    obtain ⟨strand', hstrand', hlooks⟩ := exists_getElem?_of_forall₂ h.loads hstrand
    rw [hstrand']
    exact hlooks.result?_eq

/-- An access for the user comes to the same on both stages. -/
theorem exists_plain? (huser : user.isText = true) {a : Access}
    (ha : (Operation.access a).IsAbout user) {x : (Operation.access a).Reply × Solo}
    (hx : s.place.plain? (.access a) = some x) :
    ∃ y, t.place.plain? (.access a) = some y ∧ x.1 = y.1 ∧
      x.2.world.LooksLike user y.2.world ∧ x.2.desk.LooksLike user loads y.2.desk := by
  cases hx
  obtain ⟨hreply, hworld⟩ := h.world.perform huser ha
  exact ⟨_, rfl, congrArg (Except.mapError Interruption.failure) hreply.symm, hworld, h.desk⟩

/-- A load of the user that is joined on one stage can be joined on the other. -/
theorem carry_joined (hs : s.Belongs callers loads)
    (hpending : s.place.desk.pendingOf user = some n)
    (gathered : Option (Except Interruption (List (List Id)))) :
    IsRanked user loads n (rankOf user loads n) ∧
      t.carry gathered (.joinLoad user) = some (rankOf user loads n, t.place, []) := by
  have ht : t.place.desk.pendingOf user = some (rankOf user loads n) := by
    rw [h.desk.pending, hpending]
    rfl
  exact ⟨⟨hs.desk.getElem? (hs.desk.pending user n hpending), rfl⟩, by simp only [Stage.carry, ht]⟩

/-- If a load of the user has the next number on one stage, one is started on the other, and it has
    the next number there. -/
theorem carry_started (hs : s.Belongs callers loads)
    (hpending : s.place.desk.pendingOf user = none)
    (hn : loads[s.place.desk.loads.length]? = some user)
    (gathered : Option (Except Interruption (List (List Id)))) :
    IsRanked user loads s.place.desk.loads.length t.place.desk.loads.length ∧
      t.carry gathered (.joinLoad user) = some (t.place.desk.loads.length,
        { t.place with desk := (t.place.desk.start user).2 },
        [Strand.start t.service.cache t.clock
          (t.service.cache.load user t.place.desk.loads.length).run]) := by
  have ht : t.place.desk.pendingOf user = none := by
    rw [h.desk.pending, hpending]
    rfl
  refine ⟨⟨hn, h.desk.length hs.desk⟩, ?_⟩
  simp only [Stage.carry, ht]
  rfl

/-- The loads look alike when one has been started on both stages. -/
theorem loads_started (hs : s.Belongs callers loads)
    (hn : IsRanked user loads s.place.desk.loads.length t.place.desk.loads.length) :
    ShowStrands user loads loads
      (s.loads ++ [Strand.start s.service.cache s.clock
        (s.service.cache.load user s.place.desk.loads.length).run])
      (t.loads ++ [Strand.start t.service.cache t.clock
        (t.service.cache.load user t.place.desk.loads.length).run]) := by
  have howner : loads[s.loads.length]? = some user := hs.numbered ▸ hn.1
  rw [ShowStrands, ownedBy_append_singleton howner, if_pos rfl, h.service]
  exact List.rel_append h.loads (.cons (Strand.looksLike_load _ _ _ _ _ hn) .nil)

/-- What is carried out for the user on one stage can be carried out on the other, and is replied to
    alike. -/
theorem carry (hs : s.Belongs callers loads) (huser : user.isText = true)
    (hop : (Terms.ofUser user (IsRanked user loads)).allows op)
    (hc : s.carry gathered op = some (reply, place, started))
    (howners : place.desk.owners <+: loads) :
    ∃ reply' place' started', t.carry gathered op = some (reply', place', started') ∧
      (Terms.ofUser user (IsRanked user loads)).replies op reply reply' ∧
      ∀ load load' e e', (s.after load e place started).LooksLike user callers loads
        (t.after load' e' place' started') := by
  have habout := (Operation.isOwn_of_allows hop).1
  cases op with
  | access a =>
    cases hc
    obtain ⟨y, hy, hreply, hworld, hdesk⟩ := h.exists_plain? huser habout rfl
    exact ⟨y.1, y.2, [], carry_of_plain? hy, hreply, fun load load' e e' =>
      h.after_same load load' e e' hworld hdesk⟩
  | joinLoad v =>
    obtain rfl : v = user := hop
    rcases joined_or_started hc with ⟨n, hpending, hc⟩ | ⟨hpending, hc⟩
    · obtain ⟨hranked, hjoined⟩ := h.carry_joined hs hpending gathered
      cases hc
      exact ⟨_, _, _, hjoined, hranked, fun load load' e e' =>
        h.after_same load load' e e' h.world h.desk⟩
    · cases hc
      have hn := hs.owner_started howners
      obtain ⟨hranked, hstarted⟩ := h.carry_started hs hpending hn gathered
      have hdesk := h.desk.start hs.desk hpending hn
      refine ⟨_, _, _, hstarted, hranked, fun load load' e e' => ?_⟩
      refine h.after ?_ hdesk (h.loads_started hs hranked) load load' e e'
      exact h.world
  | overtake v =>
    obtain rfl : v = user := hop
    cases hc
    exact ⟨_, _, _, rfl, rfl, fun load load' e e' =>
      h.after_same load load' e e' h.world (h.desk.overtake hs.desk)⟩
  | each errand ids =>
    obtain ⟨r, hr, hrest⟩ := Option.map_eq_some_iff.1 hc
    cases hrest
    exact ⟨_, _, _, Option.map_eq_some_iff.2 ⟨_, hr, rfl⟩, rfl, fun load load' e e' =>
      h.after_same load load' e e' h.world h.desk⟩
  | count series =>
    cases hc
    exact ⟨_, _, _, rfl, rfl, fun load load' e e' =>
      h.after_same load load' e e' h.world h.desk⟩
  | _ => exact hop.elim

/-- A strand of the user that acts on one stage can act on the other. -/
theorem act (hs : s.Belongs callers loads) (huser : user.isText = true) {u u' : Strand α}
    (hu : u.LooksLike user (IsRanked user loads) u') {load : Option Nat} {x : Strand α × Stage}
    (hx : s.act load u = some x) (howners : x.2.owners <+: loads) (load' : Option Nat) :
    ∃ x', t.act load' u' = some x' ∧ x.1.LooksLike user (IsRanked user loads) x'.1 ∧
      x.2.LooksLike user callers loads x'.2 := by
  obtain ⟨op, next, hprogram, ⟨reply, place, started⟩, hcarry, hx₁, hx₂⟩ := exists_of_act hx
  simp only at hx₁ hx₂
  rw [hx₂] at howners ⊢
  rw [hx₁]
  -- The other strand goes on with what corresponds.
  have hgo {op' : Operation} {next' : op'.Reply → Program (Except Interruption α)}
      (hp : u'.program = .call op' next') {reply' : op'.Reply} {place' : Solo}
      {started' : List (Strand RuleSet)}
      (hcarry' : t.carry u'.gathered? op' = some (reply', place', started'))
      (hnext : (next reply).Twins (.ofUser user (IsRanked user loads)) (next' reply'))
      (hafter : ∀ load load' e e', (s.after load e place started).LooksLike user callers loads
        (t.after load' e' place' started')) :
      ∃ x', t.act load' u' = some x' ∧
        (u.go s.service.cache (s.exchange op reply) (next reply)).LooksLike user
          (IsRanked user loads) x'.1 ∧
        (s.after load (s.exchange op reply) place started).LooksLike user callers loads x'.2 := by
    refine ⟨(u'.go t.service.cache (t.exchange op' reply') (next' reply'),
      t.after load' (t.exchange op' reply') place' started'), ?_, ?_, hafter ..⟩
    · simp only [Stage.act, hp, hcarry', Option.map_some]
    · rw [h.service]
      exact Strand.LooksLike.go _ _ hnext
  have htwins := hu.program
  rw [hprogram] at htwins
  generalize hp : u'.program = p at htwins
  cases htwins with
  | call hop hnext =>
    obtain ⟨reply', place', started', hcarry', hreply, hafter⟩ :=
      h.carry hs huser hop hcarry howners
    rw [← hu.gathered?_eq] at hcarry'
    exact hgo hp hcarry' (hnext _ _ hreply) hafter
  | asks hn hnext =>
    cases hcarry
    refine hgo hp rfl ?_ fun load load' e e' => h.after_same load load' e e' h.world h.desk
    obtain ⟨hn, rfl⟩ := hn
    rw [h.desk.isOvertaken hn]
    exact hnext _
  | waits hn hnext =>
    obtain ⟨r, hr, hrest⟩ := Option.map_eq_some_iff.1 hcarry
    cases hrest
    rw [← h.bind_result?_eq hn] at hr
    exact hgo hp (Option.map_eq_some_iff.2 ⟨_, hr, rfl⟩) (hnext _) fun load load' e e' =>
      h.after_same load load' e e' h.world h.desk

end LooksLike

end Stage

end HouseholdAccess
