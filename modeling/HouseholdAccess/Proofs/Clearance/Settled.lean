import HouseholdAccess.Proofs.Clearance

/-!
# When a clearance has ended

The caller of a clearance asks for the members, waits for an errand for each of them,
and counts. While the caller is on the way (`Clearance.Stands`), the errands are those
of the members, and what is kept under other names stays as it was
(`Clearance.IsAbout`). That every turn keeps to this is shown turn by turn
(`Clearance.IsOf.take`).

So the failure of one errand shields nobody (`Clearance.settled_of_play`): once all have
ended, nothing is kept of a member whose errand has not been refused anything. The
caller is told of one of the failures if there is any, and otherwise that all is done,
which is counted then. Until all have ended somebody goes on
(`Clearance.isSettled_or_goesOn`).
-/

namespace HouseholdAccess

namespace Clearance

/-! ## What the caller is told -/

/-- The caller is still to count. -/
def reporting (members : List Id) : Program (Except Interruption (List Id)) :=
  .call (.count .householdInvalidation) fun _ => .done (.ok members)

/-- The caller waits for the errands. -/
def awaiting (members : List Id) : Program (Except Interruption (List Id)) :=
  .call (.each .invalidate members) fun
    | .ok _ => reporting members
    | .error x => .done (.error x)

/-- The caller asks for the members, and then waits for an errand for each of them. -/
theorem exists_invalidateHousehold (c : Cache) (household : Id) : ∃ next,
    (c.invalidateHousehold household).run = .call (.access (.members household)) next ∧
      (∀ members, next (.ok members) = awaiting members) ∧
      ∀ x, ∃ x', next (.error x) = .done (.error x') := by
  refine ⟨_, rfl, fun members => ?_, fun x => ?_⟩
  · refine congrArg (Program.call (.each .invalidate members)) (funext fun reply => ?_)
    cases reply <;> rfl
  · cases x with
    | failure f => exact ⟨_, rfl⟩
    | cancelled => exact ⟨_, rfl⟩

/-- How far the caller is who has been told the members. -/
inductive Stands (start : Solo) (members : List Id) (t : Clearance) : Prop
  /-- The caller waits for the errands. -/
  | waits : t.caller.program = awaiting members → counted t.place = counted start →
    Stands start members t
  /-- All errands have succeeded, which is still to be counted. -/
  | reports : t.caller.program = reporting members →
    (∀ e ∈ t.errands, ∃ ids, e.program = .done (.ok ids)) → counted t.place = counted start →
    Stands start members t
  /-- All errands have succeeded, and so has the caller. -/
  | succeeded : t.caller.program = .done (.ok members) →
    (∀ e ∈ t.errands, ∃ ids, e.program = .done (.ok ids)) →
    counted t.place = (counted start).map (· + 1) → Stands start members t
  /-- An errand has failed, and so has the caller. -/
  | failed {i : Nat} {e : Strand (List Id)} {x : Interruption} :
    t.caller.program = .done (.error x) → t.errands[i]? = some e →
    e.program = .done (.error x) → counted t.place = counted start → Stands start members t

theorem Stands.congr {start : Solo} {members : List Id} {t t' : Clearance}
    (h : Stands start members t) (hprogram : t'.caller.program = t.caller.program)
    (herrands : t'.errands = t.errands) (hcounted : counted t'.place = counted t.place) :
    Stands start members t' := by
  cases h with
  | waits hp hc => exact .waits (hprogram.trans hp) (hcounted.trans hc)
  | reports hp hdone hc =>
    exact .reports (hprogram.trans hp) (herrands ▸ hdone) (hcounted.trans hc)
  | succeeded hp hdone hc =>
    exact .succeeded (hprogram.trans hp) (herrands ▸ hdone) (hcounted.trans hc)
  | failed hp he hdone hc =>
    exact .failed (hprogram.trans hp) (herrands ▸ he) hdone (hcounted.trans hc)

/-- What is not lost is kept, and the systems are of the same kinds as at the start. -/
structure Spares (w : World) (members : List Id) (w' : World) : Prop where
  kinds : w'.cacheKind = w.cacheKind ∧ w'.storeKind = w.storeKind
  entries : ∀ user, (∀ m ∈ members, w.cacheName m ≠ w.cacheName user) →
    w'.entryOf user = w.entryOf user
  forms : ∀ user, (∀ m ∈ members, w.storeName m ≠ w.storeName user) →
    w'.formOf user = w.formOf user

theorem Spares.refl (w : World) (members : List Id) : Spares w members w :=
  ⟨⟨rfl, rfl⟩, fun _ _ => rfl, fun _ _ => rfl⟩

theorem Spares.of_loses {w w₁ w₂ : World} {members : List Id} (h : Spares w members w₁)
    {member : Id} (hmember : member ∈ members) (hw : w₁.Loses member w₂) :
    Spares w members w₂ where
  kinds := ⟨hw.kinds.1.trans h.kinds.1, hw.kinds.2.trans h.kinds.2⟩
  entries := fun user hne => by
    rw [← h.entries user hne]
    refine hw.entryOf_eq ?_
    rw [World.cacheName_congr h.kinds.1]
    exact hne member hmember
  forms := fun user hne => by
    rw [← h.forms user hne]
    refine hw.formOf_eq ?_
    rw [World.storeName_congr h.kinds.2]
    exact hne member hmember

theorem failure?_eq_some {p : ErrandProgram} {x : Interruption} (h : p.failure? = some x) :
    p = .done (.error x) := by
  unfold ErrandProgram.failure? at h
  split at h
  · cases h
    rfl
  · cases h

/-- What errands have come to stays when another one goes on. -/
theorem getElem?_set_of_done {errands : List (Strand (List Id))} {i j : Nat}
    {e f e' : Strand (List Id)} {op : Operation}
    {next : op.Reply → Program (Except Interruption (List Id))}
    {r : Except Interruption (List Id)} (he : errands[i]? = some e)
    (hprogram : e.program = .call op next) (hf : errands[j]? = some f)
    (hdone : f.program = .done r) : (errands.set i e')[j]? = some f := by
  rw [List.getElem?_set_ne, hf]
  rintro rfl
  obtain rfl := Option.some.inj (he.symm.trans hf)
  rw [hprogram] at hdone
  cases hdone

/-- What is noted is the failure of one of the errands, if any of them has failed. -/
structure Notes (errands : List (Strand (List Id))) (failed : Option Interruption) : Prop where
  first : ∀ x, failed = some x →
    ∃ (i : Nat) (e : Strand (List Id)), errands[i]? = some e ∧ e.program = .done (.error x)
  sound : failed = none → ∀ e ∈ errands, ∀ x, e.program ≠ .done (.error x)

/-- An errand goes on. If it fails, that is noted unless another one has failed before. -/
theorem Notes.set {errands : List (Strand (List Id))} {failed : Option Interruption}
    (h : Notes errands failed) {i : Nat} {e : Strand (List Id)} {op : Operation}
    {next : op.Reply → Program (Except Interruption (List Id))} (he : errands[i]? = some e)
    (hprogram : e.program = .call op next) (e' : Strand (List Id)) :
    Notes (errands.set i e') (failed <|> ErrandProgram.failure? e'.program) := by
  cases failed with
  | some y =>
    refine ⟨fun x hx => ?_, nofun⟩
    obtain ⟨j, f, hf, hdone⟩ := h.first x hx
    exact ⟨j, f, getElem?_set_of_done he hprogram hf hdone, hdone⟩
  | none =>
    refine ⟨fun x hx => ⟨i, e', ?_, failure?_eq_some hx⟩, fun hnone f hf x hdone => ?_⟩
    · exact List.getElem?_set_self (List.getElem?_eq_some_iff.1 he).1
    · rcases List.mem_or_eq_of_mem_set hf with hf | rfl
      · exact h.sound rfl f hf x hdone
      · rw [hdone] at hnone
        cases hnone

/-- What holds once the caller has been told the members. -/
structure IsAbout (start : Solo) (members : List Id) (t : Clearance) : Prop where
  told : t.members? = some members
  length : t.errands.length = members.length
  drops : ∀ (i : Nat) (member : Id) (e : Strand (List Id)),
    members[i]? = some member → t.errands[i]? = some e →
    Drops t.place.world member e
  notes : Notes t.errands t.failed
  spares : Spares start.world members t.place.world
  stands : Stands start members t

/-- What holds at any time. -/
inductive IsOf (start : Solo) (household : Id) (t : Clearance) : Prop
  /-- The caller has not asked for the members yet. -/
  | asks : t.caller.program = (start.cache.invalidateHousehold household).run →
    t.caller.trace = [] → t.errands = [] → t.failed = none →
    (∀ members, Spares start.world members t.place.world) → counted t.place = counted start →
    IsOf start household t
  /-- The caller has not been told the members. -/
  | denied : t.caller.program.result?.isSome = true → t.members? = none → t.errands = [] →
    IsOf start household t
  /-- The caller has been told the members. -/
  | told {members : List Id} : IsAbout start members t → IsOf start household t

variable {start : Solo} {household : Id} {members : List Id} {t t' : Clearance}

/-! ## Turns -/

theorem isOf_begin (start : Solo) (household : Id) : IsOf start household (begin start household) :=
  .asks rfl rfl rfl rfl (fun members => Spares.refl start.world members) rfl

/-- Points that fail leave everything where it is. -/
theorem IsOf.outage (h : IsOf start household t) (failing : List Outage) :
    IsOf start household
      { t with place := { t.place with world := { t.place.world with failing } } } := by
  cases h with
  | asks hprogram htrace herrands hfailed hspares hcounted =>
    exact .asks hprogram htrace herrands hfailed
      (fun members => ⟨(hspares members).kinds, (hspares members).entries, (hspares members).forms⟩)
      hcounted
  | denied hdone htrace herrands => exact .denied hdone htrace herrands
  | told h =>
    refine .told ⟨h.told, h.length, fun i member e hm he => ?_, h.notes,
      ⟨h.spares.kinds, h.spares.entries, h.spares.forms⟩, h.stands.congr rfl rfl rfl⟩
    exact (h.drops i member e hm he).of_loses (v := member) (.nothing failing)

/-- What the caller is told of the errands: the failure of one of them, or that all have
    succeeded. -/
theorem IsAbout.gathered (h : IsAbout start members t)
    {r : Except Interruption (List (List Id))} (hr : t.gathered? = some r) :
    (∃ (x : Interruption) (i : Nat) (e : Strand (List Id)), r = .error x ∧
      t.errands[i]? = some e ∧ e.program = .done (.error x)) ∨
    ∃ lists, r = .ok lists ∧ ∀ e ∈ t.errands, ∃ ids, e.program = .done (.ok ids) := by
  rw [gathered?] at hr
  split at hr
  · next x hfailed =>
    cases hr
    obtain ⟨i, e, he, hdone⟩ := h.notes.first x hfailed
    exact .inl ⟨x, i, e, rfl, he, hdone⟩
  · next hfailed =>
    obtain ⟨rs, hrs, rfl⟩ := Option.map_eq_some_iff.1 hr
    -- All have ended, and none has failed.
    have hok (e : Strand (List Id)) (he : e ∈ t.errands) {b : Except Interruption (List Id)}
        (hb : e.program.result? = some b) : ∃ ids, b = .ok ids := by
      cases b with
      | ok ids => exact ⟨ids, rfl⟩
      | error x => exact absurd (Program.result?_eq_some hb) (h.notes.sound hfailed e he x)
    obtain ⟨lists, hlists⟩ : ∃ lists, rs.mapM id = .ok lists := by
      refine exists_mapM_eq_ok fun b hb => ?_
      obtain ⟨e, he, hresult⟩ := exists_of_mapM_eq_some hrs b hb
      exact hok e he hresult
    refine .inr ⟨lists, hlists, fun e he => ?_⟩
    obtain ⟨b, -, hb⟩ := exists_mem_of_mapM_eq_some hrs e he
    obtain ⟨ids, rfl⟩ := hok e he hb
    exact ⟨ids, Program.result?_eq_some hb⟩

/-- The caller goes on with the members. -/
theorem isAbout_told (hspares : ∀ members, Spares start.world members t.place.world)
    (hcounted : counted t.place = counted start) (htrace : t.caller.trace = [])
    (herrands : t.errands = []) (hfailed : t.failed = none) (members : List Id) :
    IsAbout start members
      { t with
        clock := t.clock + 1
        caller := t.caller.go t.place.cache
          ⟨t.clock, {}, .access (.members household), .ok members⟩ (awaiting members)
        errands := t.errands ++ (t.place.cache.errandsOf (awaiting members)).map
          (Strand.start t.place.cache t.clock) } where
  told := by simp [members?, Strand.go, htrace, membersIn?]
  length := by simp [herrands, awaiting, Cache.errandsOf]
  drops := fun i member e hm he => by
    simp only [herrands, awaiting, Cache.errandsOf, List.nil_append, List.getElem?_map, hm,
      Option.map_some, Option.some.injEq] at he
    rw [← he]
    exact drops_start _ _ _ _
  notes := by
    refine ⟨fun x hx => ?_, fun _ e he x hx => ?_⟩
    · rw [hfailed] at hx
      cases hx
    · simp only [herrands, awaiting, Cache.errandsOf, List.nil_append, List.map_map,
        List.mem_map] at he
      obtain ⟨member, -, rfl⟩ := he
      cases hx
  spares := hspares members
  stands := .waits rfl hcounted

theorem exists_of_goCaller? (h : t.goCaller? = some t') :
    ∃ (op : Operation) (next : op.Reply → Program (Except Interruption (List Id)))
      (x : op.Reply × Solo), t.caller.program = .call op next ∧ t.carry op = some x ∧
        t' = { t with
          place := x.2
          clock := t.clock + 1
          caller := t.caller.go t.place.cache ⟨t.clock, {}, op, x.1⟩ (next x.1)
          errands := t.errands ++
            (t.place.cache.errandsOf (next x.1)).map (Strand.start t.place.cache t.clock) } := by
  rw [goCaller?] at h
  split at h
  · cases h
  · next op next hprogram =>
    obtain ⟨x, hx, rfl⟩ := Option.map_eq_some_iff.1 h
    exact ⟨op, next, x, hprogram, hx, rfl⟩

/-- The caller goes on without any more errands. -/
theorem IsAbout.go (h : IsAbout start members t) (place : Solo)
    (hworld : place.world = t.place.world) {op : Operation} (reply : op.Reply)
    {rest : Program (Except Interruption (List Id))} (hrest : t.place.cache.errandsOf rest = [])
    (hstands : Stands start members { t with
      place
      caller := t.caller.go t.place.cache ⟨t.clock, {}, op, reply⟩ rest }) :
    IsAbout start members { t with
      place
      clock := t.clock + 1
      caller := t.caller.go t.place.cache ⟨t.clock, {}, op, reply⟩ rest
      errands := t.errands ++
        (t.place.cache.errandsOf rest).map (Strand.start t.place.cache t.clock) } := by
  rw [hrest, List.map_nil, List.append_nil]
  have htold := h.told
  refine ⟨?_, h.length, fun i member e hm he => ?_, h.notes, ?_,
    hstands.congr rfl rfl rfl⟩
  · rw [members?] at htold ⊢
    change (t.caller.trace ++ [_]).findSome? membersIn? = _
    rw [List.findSome?_append, htold]
    rfl
  · exact hworld ▸ h.drops i member e hm he
  · exact hworld ▸ h.spares

theorem IsAbout.goCaller (h : IsAbout start members t) (hgo : t.goCaller? = some t') :
    IsAbout start members t' := by
  obtain ⟨op, next, x, hprogram, hx, rfl⟩ := exists_of_goCaller? hgo
  cases h.stands with
  | waits hwaits hcounted =>
    rw [hwaits] at hprogram
    cases hprogram
    obtain ⟨r, hr, rfl⟩ := Option.map_eq_some_iff.1 hx
    rcases h.gathered hr with ⟨x, i, e, rfl, he, hdone⟩ | ⟨lists, rfl, hdone⟩
    · exact h.go t.place rfl _ rfl (.failed rfl he hdone hcounted)
    · exact h.go t.place rfl _ rfl (.reports rfl hdone hcounted)
  | reports hreports hdone hcounted =>
    rw [hreports] at hprogram
    cases hprogram
    cases hx
    refine h.go { t.place with registry := t.place.registry.map (·.count .householdInvalidation) }
      rfl _ rfl (.succeeded rfl hdone ?_)
    rw [← hcounted, counted, counted, Option.map_map, Option.map_map]
    refine congrArg (fun f => Option.map f _) (funext fun r => ?_)
    exact (r.countOf_count _ _).trans (if_pos rfl)
  | succeeded hdone =>
    rw [hdone] at hprogram
    cases hprogram
  | failed hdone =>
    rw [hdone] at hprogram
    cases hprogram

theorem IsOf.goCaller (h : IsOf start household t) (hgo : t.goCaller? = some t') :
    IsOf start household t' := by
  cases h with
  | asks hrun htrace herrands hfailed hspares hcounted =>
    obtain ⟨op, next, x, hprogram, hx, rfl⟩ := exists_of_goCaller? hgo
    obtain ⟨next', hrun', hok, herror⟩ := exists_invalidateHousehold start.cache household
    rw [hrun, hrun'] at hprogram
    cases hprogram
    rcases t.place.plain?_access_cases (.members household) with hplain | ⟨f, hplain⟩
    · obtain rfl := Option.some.inj (hplain.symm.trans hx)
      simp only [hok]
      exact .told (isAbout_told hspares hcounted htrace herrands hfailed _)
    · obtain rfl := Option.some.inj (hplain.symm.trans hx)
      obtain ⟨e, he⟩ := herror (.failure f)
      simp only [he]
      refine .denied rfl ?_ ?_
      · simp [members?, Strand.go, htrace, membersIn?]
      · simp [herrands, Cache.errandsOf]
  | denied hdone =>
    obtain ⟨op, next, x, hprogram, -⟩ := exists_of_goCaller? hgo
    rw [hprogram] at hdone
    cases hdone
  | told h => exact .told (h.goCaller hgo)

theorem exists_of_goErrand? {i : Nat} (h : t.goErrand? i = some t') :
    ∃ (e : Strand (List Id)) (op : Operation)
      (next : op.Reply → Program (Except Interruption (List Id))) (x : op.Reply × Solo),
      t.errands[i]? = some e ∧ e.program = .call op next ∧ t.place.plain? op = some x ∧
        t' = { t with
          place := x.2
          clock := t.clock + 1
          errands := t.errands.set i (e.go t.place.cache ⟨t.clock, {}, op, x.1⟩ (next x.1))
          failed := t.failed <|> ErrandProgram.failure? (next x.1) } := by
  obtain ⟨e, he, h⟩ := Option.bind_eq_some_iff.1 h
  cases hprogram : e.program with
  | done r =>
    rw [hprogram] at h
    cases h
  | call op next =>
    rw [hprogram] at h
    obtain ⟨x, hx, h⟩ := Option.bind_eq_some_iff.1 h
    cases h
    exact ⟨e, op, next, x, he, hprogram, hx, rfl⟩

/-- Errands are not counted as the dropping of the rule sets of a household. -/
theorem counted_of_did {s s' : Solo} {member : Id} {op : Operation} {reply : op.Reply}
    (h : s.Did member op reply s') : counted s' = counted s := by
  cases h with
  | counted =>
    rw [counted, counted, Option.map_map]
    refine congrArg (fun f => Option.map f _) (funext fun r => ?_)
    exact (r.countOf_count _ _).trans (if_neg (by decide))
  | _ => rfl

theorem IsAbout.goErrand (h : IsAbout start members t) {i : Nat}
    (hgo : t.goErrand? i = some t') : IsAbout start members t' := by
  obtain ⟨e, op, next, ⟨reply, place⟩, he, hprogram, hx, rfl⟩ := exists_of_goErrand? hgo
  have hi := (List.getElem?_eq_some_iff.1 he).1
  obtain ⟨member, hmember⟩ : ∃ member, members[i]? = some member :=
    ⟨_, List.getElem?_eq_getElem (h.length ▸ hi)⟩
  have hdrops := h.drops i member e hmember he
  have honly := hdrops.only
  rw [hprogram] at honly
  have hdid := Solo.did_of_plain? honly.1 hx
  refine ⟨h.told, ?_, fun j m e' hm he' => ?_, h.notes.set he hprogram _,
    h.spares.of_loses (List.mem_of_getElem? hmember) hdid.loses, ?_⟩
  · rw [List.length_set, h.length]
  · rcases Stage.getElem?_set_cases he' with ⟨rfl, rfl⟩ | ⟨-, he'⟩
    · obtain rfl := Option.some.inj (hmember.symm.trans hm)
      exact hdrops.go hprogram hdid t.clock
    · exact (h.drops j m e' hm he').of_loses hdid.loses
  · cases h.stands with
    | waits hwaits hcounted =>
      exact .waits hwaits ((counted_of_did hdid).trans hcounted)
    | reports _ hdone | succeeded _ hdone =>
      obtain ⟨ids, hids⟩ := hdone e (List.mem_of_getElem? he)
      rw [hprogram] at hids
      cases hids
    | failed hfailed hf hdone hcounted =>
      exact .failed hfailed (getElem?_set_of_done he hprogram hf hdone) hdone
        ((counted_of_did hdid).trans hcounted)

theorem IsOf.take (h : IsOf start household t) {turn : Turn} (hturn : t.take? turn = some t') :
    IsOf start household t' := by
  cases turn with
  | caller => exact h.goCaller hturn
  | errand i =>
    cases h with
    | asks _ _ herrands | denied _ _ herrands =>
      obtain ⟨e, op, next, x, he, -⟩ := exists_of_goErrand? hturn
      rw [herrands] at he
      cases he
    | told h => exact .told (h.goErrand hturn)
  | fail p f =>
    cases hturn
    exact h.outage _
  | mend p =>
    cases hturn
    exact h.outage _

theorem IsOf.play (h : IsOf start household t) {turns : List Turn}
    (hturns : t.play turns = some t') : IsOf start household t' :=
  keeps_of_foldlM_eq_some (fun _ _ _ _ h hturn => h.take hturn) h hturns

/-! ## When all have ended -/

/-- An errand that has ended. -/
theorem IsAbout.ended (h : IsAbout start members t) {i : Nat} {e : Strand (List Id)}
    (he : t.errands[i]? = some e) {r : Except Interruption (List Id)}
    (hdone : e.program = .done r) :
    (Unrefused e ∧ r = .ok []) ∨ (¬Unrefused e ∧ ∃ f, r = .error (.failure f)) := by
  have hi := (List.getElem?_eq_some_iff.1 he).1
  have hmember := List.getElem?_eq_getElem (h.length ▸ hi)
  rcases (h.drops i _ e hmember he).ended hdone with ⟨hall, hok, -⟩ | hrefused
  · exact .inl ⟨hall, hok⟩
  · exact .inr hrefused

/-- The caller can do an operation that can be carried out. -/
theorem goCaller?_isSome {op : Operation}
    {next : op.Reply → Program (Except Interruption (List Id))}
    (hprogram : t.caller.program = .call op next) (hx : (t.carry op).isSome = true) :
    t.goCaller?.isSome = true := by
  rw [goCaller?, hprogram]
  exact Option.isSome_map.trans hx

/-- An errand that has not ended goes on. -/
theorem IsAbout.goErrand?_isSome (h : IsAbout start members t) {i : Nat} {e : Strand (List Id)}
    (he : t.errands[i]? = some e) (hactive : e.program.result? = none) :
    (t.goErrand? i).isSome = true := by
  have hi := (List.getElem?_eq_some_iff.1 he).1
  have honly := (h.drops i _ e (List.getElem?_eq_getElem (h.length ▸ hi)) he).only
  cases hprogram : e.program with
  | done r =>
    rw [hprogram] at hactive
    cases hactive
  | call op next =>
    rw [hprogram] at honly
    obtain ⟨x, hx⟩ : ∃ x, t.place.plain? op = some x := by
      cases op with
      | access | overtake | count => exact ⟨_, rfl⟩
      | _ => exact honly.1.elim
    simp [goErrand?, he, hprogram, hx]

/-- Unless the caller and all errands have ended, one of them goes on. -/
theorem isSettled_or_goesOn {turns : List Turn}
    (hplay : (begin start household).play turns = some t) :
    t.IsSettled ∨ t.goCaller?.isSome = true ∨ ∃ i, (t.goErrand? i).isSome = true := by
  cases (isOf_begin start household).play hplay with
  | asks hrun =>
    obtain ⟨next, hrun', -⟩ := exists_invalidateHousehold start.cache household
    exact .inr (.inl (goCaller?_isSome (hrun.trans hrun') rfl))
  | denied hdone _ herrands => exact .inl ⟨hdone, by simp [herrands]⟩
  | told h =>
    by_cases hactive : ∃ e ∈ t.errands, e.program.result? = none
    · obtain ⟨e, he, hactive⟩ := hactive
      obtain ⟨i, hi⟩ := List.mem_iff_getElem?.1 he
      exact .inr (.inr ⟨i, h.goErrand?_isSome hi hactive⟩)
    · have hended (e : Strand (List Id)) (he : e ∈ t.errands) : ∃ r, e.program.result? = some r :=
        Option.ne_none_iff_exists'.1 fun hnone => hactive ⟨e, he, hnone⟩
      cases h.stands with
      | waits hwaits =>
        refine .inr (.inl (goCaller?_isSome hwaits ?_))
        obtain ⟨rs, hrs⟩ := exists_mapM_eq_some hended
        simp only [carry, gathered?, Option.isSome_map]
        split
        · rfl
        · rw [hrs]
          rfl
      | reports hreports => exact .inr (.inl (goCaller?_isSome hreports rfl))
      | succeeded hdone | failed hdone =>
        refine .inl ⟨by rw [hdone]; rfl, fun e he => ?_⟩
        obtain ⟨r, hr⟩ := hended e he
        rw [hr]
        rfl

/-- Whoever has been told the members drops what is kept of them. -/
theorem isAbout_of_play {turns : List Turn} (hplay : (begin start household).play turns = some t)
    (htold : t.members? = some members) : IsAbout start members t := by
  cases (isOf_begin start household).play hplay with
  | asks _ htrace =>
    rw [members?, htrace] at htold
    cases htold
  | denied _ hdenied =>
    rw [hdenied] at htold
    cases htold
  | told h =>
    obtain rfl := Option.some.inj (h.told.symm.trans htold)
    exact h

/-- A caller that has ended has succeeded if no errand has been refused anything, which has been
    counted, and otherwise has failed as one of these errands has. -/
theorem IsAbout.outcome (h : IsAbout start members t)
    (hended : t.caller.program.result?.isSome = true) :
    ((∀ e ∈ t.errands, Unrefused e) →
      t.caller.program = .done (.ok members) ∧ counted t.place = (counted start).map (· + 1)) ∧
    ((∃ e ∈ t.errands, ¬Unrefused e) → counted t.place = counted start ∧
      ∃ e ∈ t.errands, ¬Unrefused e ∧ ∃ f, e.program = .done (.error (.failure f)) ∧
        t.caller.program = .done (.error (.failure f))) := by
  cases h.stands with
  | waits hwaits =>
    rw [hwaits] at hended
    cases hended
  | reports hreports =>
    rw [hreports] at hended
    cases hended
  | succeeded hcaller hall hcounted =>
    refine ⟨fun _ => ⟨hcaller, hcounted⟩, fun ⟨e, he, hrefused⟩ => ?_⟩
    obtain ⟨i, hi⟩ := List.mem_iff_getElem?.1 he
    obtain ⟨ids, hids⟩ := hall e he
    rcases h.ended hi hids with ⟨hunrefused, -⟩ | ⟨-, f, hf⟩
    · exact absurd hunrefused hrefused
    · cases hf
  | @failed i e x hcaller he hx hcounted =>
    rcases h.ended he hx with ⟨-, hok⟩ | ⟨hrefused, f, hf⟩
    · cases hok
    · cases hf
      have hmem := List.mem_of_getElem? he
      exact ⟨fun hall => absurd (hall e hmem) hrefused,
        fun _ => ⟨hcounted, e, hmem, hrefused, f, hx, hcaller⟩⟩

/-- The caller and the errands work in any order, and any of them may be refused anything. Once all
    of them have ended:

    * nothing is kept of a member whose errand has not been refused anything;
    * what is kept under other names than those of the members is as it was;
    * if no errand has been refused anything, the caller has succeeded, which has been counted;
    * otherwise the caller has failed as one of these errands has, and nothing has been counted. -/
theorem settled_of_play {turns : List Turn} (hplay : (begin start household).play turns = some t)
    (hsettled : t.IsSettled) (htold : t.members? = some members) :
    t.errands.length = members.length ∧
    (∀ (i : Nat) (member : Id) (e : Strand (List Id)), members[i]? = some member →
      t.errands[i]? = some e → Unrefused e →
      t.place.world.entryOf member = none ∧ t.place.world.formOf member = none) ∧
    (∀ user, (∀ m ∈ members, start.world.cacheName m ≠ start.world.cacheName user) →
      t.place.world.entryOf user = start.world.entryOf user) ∧
    (∀ user, (∀ m ∈ members, start.world.storeName m ≠ start.world.storeName user) →
      t.place.world.formOf user = start.world.formOf user) ∧
    ((∀ e ∈ t.errands, Unrefused e) →
      t.caller.program = .done (.ok members) ∧ counted t.place = (counted start).map (· + 1)) ∧
    ((∃ e ∈ t.errands, ¬Unrefused e) → counted t.place = counted start ∧
      ∃ e ∈ t.errands, ¬Unrefused e ∧ ∃ f, e.program = .done (.error (.failure f)) ∧
        t.caller.program = .done (.error (.failure f))) := by
  have h := isAbout_of_play hplay htold
  refine ⟨h.length, fun i member e hm he hall => ?_, h.spares.entries, h.spares.forms,
    h.outcome hsettled.1⟩
  obtain ⟨r, hr⟩ := Option.isSome_iff_exists.1 (hsettled.2 e (List.mem_of_getElem? he))
  rcases (h.drops i member e hm he).ended (Program.result?_eq_some hr) with
    ⟨-, -, hnone⟩ | ⟨hrefused, -⟩
  · exact hnone
  · exact absurd hall hrefused

/-! ### A failure in the middle -/

/-- A household in which somebody is listed twice. All members have an entry and a form, and so has
    somebody else. -/
def partWorld : World where
  rows := [⟨.text "h1", .text "u1", .text "member"⟩, ⟨.text "h1", .text "u2", .text "member"⟩,
    ⟨.text "h1", .text "u1", .text "manager"⟩]
  entries := [⟨.text "u1", "[]", .ofInt 1300⟩, ⟨.text "u2", "[]", .ofInt 1300⟩,
    ⟨.text "u3", "[]", .ofInt 1300⟩]
  forms := [(.text "u1", .list []), (.text "u2", .list []), (.text "u3", .list [])]

/-- What is met in that world. -/
def partPlace : Solo where
  cache := {}
  world := partWorld
  desk := {}
  registry := some (.ofService "permissions")
  consuming := false
  fields := []

/-- The entry of the second member cannot be taken out. The caller is told so while the other
    errands are still at work. -/
def partTurns : List Turn :=
  [.caller, .errand 1, .errand 0, .fail .cacheDelete (.outside .connection "down"), .errand 1,
    .mend .cacheDelete, .caller, .errand 0, .errand 2, .errand 0, .errand 2, .errand 0, .errand 2,
    .errand 2]

/-- The others are dropped nonetheless, and the caller fails. -/
theorem settled_of_play_partly :
    ∃ t, (begin partPlace (.text "h1")).play partTurns = some t ∧ t.IsSettled ∧
      t.members? = some [.text "u1", .text "u2", .text "u1"] ∧
      t.place.world.entryOf (.text "u1") = none ∧ t.place.world.formOf (.text "u1") = none ∧
      t.place.world.entryOf (.text "u3") = partWorld.entryOf (.text "u3") ∧
      t.place.world.formOf (.text "u3") = partWorld.formOf (.text "u3") ∧
      counted t.place = counted partPlace ∧
      ∃ f, t.caller.program = .done (.error (.failure f)) := by
  obtain ⟨t, hplay, hsettled, htold, ⟨e, he, hunrefused⟩, hrefused⟩ :
      ∃ t ∈ (begin partPlace (.text "h1")).play partTurns, t.IsSettled ∧
        t.members? = some [.text "u1", .text "u2", .text "u1"] ∧
        (∃ e ∈ t.errands[0]?, Unrefused e) ∧ ∃ e ∈ t.errands, ¬Unrefused e := by
    decide +kernel
  obtain ⟨-, hdropped, hentries, hforms, -, hfailed⟩ := settled_of_play hplay hsettled htold
  obtain ⟨hentry, hform⟩ := hdropped 0 (.text "u1") e rfl he hunrefused
  obtain ⟨hcounted, -, -, -, f, -, hcaller⟩ := hfailed hrefused
  exact ⟨t, hplay, hsettled, htold, hentry, hform, hentries (.text "u3") (by decide),
    hforms (.text "u3") (by decide), hcounted, f, hcaller⟩

end Clearance

end HouseholdAccess
