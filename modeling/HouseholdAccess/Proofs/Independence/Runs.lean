import HouseholdAccess.Proofs.Independence.Turns

/-!
# Users are independent

What a user can tell of a stage is a view of it (`Stage.View`): what the calls of the user
have come to, what is kept of the user, and how the loads of the user are getting on. If the
turns of all others are left out of a run, what is left can be played, and the user has the
same view at every point (`Stage.viewOf_seenBy`). So the turn of anybody else leaves the view
as it is.
-/

namespace HouseholdAccess

namespace Stage

variable {user v : Id} {callers loads own mine : List Id} {s s' t : Stage} {turn : Turn}
  {turns turns' : List Turn}

/-! ## Runs -/

theorem owners_le_of_play (h : s.play turns = some s') : s.owners <+: s'.owners :=
  keeps_of_foldlM_eq_some (P := fun u => s.owners <+: u.owners)
    (fun _ _ _ _ hs hturn => hs.trans (owners_le_of_take hturn)) (List.prefix_refl _) h

/-- Callers enter in order, and stay. -/
theorem length_callers_of_take (hturn : turn.IsPlain) (h : s.take? turn = some s') :
    s'.callers.length = s.callers.length + turn.entrant?.toList.length := by
  have hact {α : Type} {load : Option Nat} {u : Strand α} {x : Strand α × Stage}
      (hx : s.act load u = some x) : x.2.callers = s.callers := by
    obtain ⟨op, next, -, y, -, -, hx₂⟩ := exists_of_act hx
    rw [hx₂]
    rfl
  cases turn with
  | enter call =>
    cases h
    obtain ⟨v, -, hcall⟩ := hturn
    simp [enter, Turn.entrant?, Call.isAbout_iff.1 hcall]
  | caller n =>
    obtain ⟨a, x, -, hx, rfl⟩ := exists_of_goCaller? h
    simp [hact hx, Turn.entrant?]
  | load n =>
    obtain ⟨c, x, -, hx, rfl⟩ := exists_of_goLoad? h
    simp [hact hx, Turn.entrant?]
  | errand n i =>
    obtain ⟨c, op, next, x, -, -, -, rfl⟩ := exists_of_goErrand? h
    rfl
  | forget n =>
    obtain ⟨r, -, rfl⟩ := exists_of_forget? h
    rfl
  | change c =>
    cases h
    rfl

theorem length_callers_of_play (hturns : ∀ turn ∈ turns, turn.IsPlain)
    (h : s.play turns = some s') :
    s'.callers.length = s.callers.length + (Turn.callersOf turns).length := by
  induction turns generalizing s with
  | nil =>
    cases h
    rfl
  | cons turn turns ih =>
    rw [List.forall_mem_cons] at hturns
    obtain ⟨u, hu, h⟩ := Option.bind_eq_some_iff.1 h
    rw [ih hturns.2 h, length_callers_of_take hturns.1 hu, Turn.callersOf, Turn.callersOf,
      List.filterMap_cons]
    cases turn.entrant? with
    | none => rfl
    | some v => simp [Nat.add_comm 1, Nat.add_assoc]

/-- The callers that enter in turn are those that come next. -/
theorem Turn.callersOf_cons {k : Nat} (hturn : turn.IsPlain)
    (h : callersOf (turn :: turns) <+: callers.drop k) :
    (∀ call, turn = .enter call → callers[k]? = call.user?) ∧
      callersOf turns <+: callers.drop (k + turn.entrant?.toList.length) := by
  rw [callersOf, List.filterMap_cons] at h
  cases hentrant : turn.entrant? with
  | none =>
    rw [hentrant] at h
    refine ⟨?_, h⟩
    rintro call rfl
    obtain ⟨v, -, hcall⟩ := hturn
    exact absurd (hentrant.symm.trans (Call.isAbout_iff.1 hcall)) (by simp)
  | some v =>
    rw [hentrant] at h
    obtain ⟨more, hmore⟩ := h
    have hk : callers[k]? = some v := by
      rw [← Nat.add_zero k, ← List.getElem?_drop, ← hmore]
      rfl
    refine ⟨?_, more, ?_⟩
    · rintro call rfl
      exact hk.trans hentrant.symm
    · change _ = callers.drop (k + 1)
      rw [← List.drop_drop, ← hmore]
      rfl

/-- What is left of a run that is played on one of two stages is played on the other, and they look
    alike after it. -/
theorem LooksLike.play (h : s.LooksLike user callers loads t) (hs : s.Belongs callers loads)
    (huser : user.isText = true) (hturns : ∀ turn ∈ turns, turn.IsPlain)
    (hcallers : Turn.callersOf turns <+: callers.drop s.callers.length)
    (howners : s'.owners <+: loads) (hplay : s.play turns = some s') :
    ∃ t', t.play (turns.filterMap (Turn.seenBy user callers loads)) = some t' ∧
      s'.LooksLike user callers loads t' ∧ s'.Belongs callers loads := by
  induction turns generalizing s t with
  | nil =>
    cases hplay
    exact ⟨t, rfl, h, hs⟩
  | cons turn turns ih =>
    rw [List.forall_mem_cons] at hturns
    obtain ⟨u, hu, hplay⟩ := Option.bind_eq_some_iff.1 hplay
    obtain ⟨henters, hrest⟩ := Turn.callersOf_cons hturns.1 hcallers
    have hprefix := (owners_le_of_play hplay).trans howners
    obtain ⟨t', ht', hlooks⟩ := h.take hs huser hturns.1 henters hprefix hu
    have hbelongs := hs.take hturns.1 henters hprefix hu
    rw [← length_callers_of_take hturns.1 hu] at hrest
    obtain ⟨t'', ht'', hend⟩ := ih hlooks hbelongs hturns.2 hrest hplay
    refine ⟨t'', ?_, hend⟩
    have happend : (turn :: turns).filterMap (Turn.seenBy user callers loads) =
        (turn.seenBy user callers loads).toList ++
          turns.filterMap (Turn.seenBy user callers loads) := by
      rw [List.filterMap_cons]
      cases turn.seenBy user callers loads <;> rfl
    rw [happend, play_append, ht']
    exact ht''

/-! ## Views -/

/-- What a user can tell of a stage. -/
@[ext]
structure View where
  /-- What the calls of the user have come to so far. -/
  results : List (Option (Except Interruption Answer))
  /-- The entry of the cache. -/
  entry : Option CacheEntry
  /-- What is written on the record of the user. -/
  form : Option Value
  /-- The load that new callers join, by its number among the loads of the user. -/
  pending : Option Nat
  /-- Which loads of the user have been overtaken. -/
  overtaken : List Bool
  /-- What the loads of the user have come to so far. -/
  outcomes : List (Option (Except Interruption RuleSet))

/-- What a user can tell of a stage to which callers of the owners have come. -/
def viewOf (user : Id) (callers : List Id) (s : Stage) : View where
  results := (ownedBy user callers s.callers).map (·.program.result?)
  entry := s.place.world.entryOf user
  form := s.place.world.formOf user
  pending := (s.place.desk.pendingOf user).map (rankOf user s.owners)
  overtaken := (ownedBy user s.owners s.place.desk.loads).map (·.overtaken)
  outcomes := (ownedBy user s.owners s.loads).map (·.program.result?)

/-- Strands of the user have come to the same. -/
theorem map_result?_eq {α : Type} {all own : List (Strand α)}
    (h : ShowStrands user loads callers all own) :
    own.map (·.program.result?) = (ownedBy user callers all).map (·.program.result?) := by
  rw [← List.forall₂_eq_eq_eq, List.forall₂_map_left_iff, List.forall₂_map_right_iff]
  exact h.flip.imp fun _ _ hlooks => hlooks.result?_eq

/-- Only the user has loads on the second stage. -/
theorem LooksLike.owner_eq (h : s.LooksLike user callers loads t) (hs : s.Belongs callers loads) :
    ∀ owner ∈ t.owners, owner = user := by
  intro owner howner
  obtain ⟨load, hload, rfl⟩ := List.mem_map.1 howner
  rw [h.desk.loads] at hload
  obtain ⟨n, hn, hload⟩ := mem_of_mem_ownedBy hload
  have hsame : s.owners[n]? = some load.user := by
    rw [owners, Desk.owners, List.getElem?_map, hload]
    rfl
  exact Option.some.inj ((hs.desk.getElem? hsame).symm.trans hn)

/-- The user has the same view of stages that look alike. -/
theorem LooksLike.viewOf_eq (h : s.LooksLike user callers loads t) (hs : s.Belongs callers loads)
    (huser : user.isText = true) (hown : own <+: callers) (hlength : s.callers.length = own.length)
    (hmine : ∀ owner ∈ mine, owner = user) (hlength' : t.callers.length = mine.length) :
    t.viewOf user mine = s.viewOf user own := by
  obtain ⟨more, rfl⟩ := hown
  obtain ⟨others, hothers⟩ : ∃ others, s.owners ++ others = loads := hs.desk.listed
  have howners : s.place.desk.loads.length = s.owners.length := by simp [owners, Desk.owners]
  have howners' : t.place.desk.loads.length = t.owners.length := by simp [owners, Desk.owners]
  have hown := h.owner_eq hs
  have hcount : t.loads.length = t.place.desk.loads.length := by
    rw [h.desk.length hs.desk, ← h.loads.length_eq, hs.numbered,
      length_ownedBy (hs.numbered ▸ hs.desk.length_le)]
  have hresults : (t.viewOf user mine).results = (s.viewOf user own).results := by
    simp only [viewOf]
    rw [ownedBy_eq_self hlength'.le hmine, map_result?_eq h.callers,
      ownedBy_append hlength.le]
  have hform : (t.viewOf user mine).form = (s.viewOf user own).form := by
    simp only [viewOf, World.formOf, World.storeName_of_isText huser, h.world.form]
  have hpending : (t.viewOf user mine).pending = (s.viewOf user own).pending := by
    simp only [viewOf, h.desk.pending]
    cases hn : s.place.desk.pendingOf user with
    | none => rfl
    | some n =>
      have hlt : n < s.owners.length :=
        (List.getElem?_eq_some_iff.1 (hs.desk.pending user n hn)).1
      have hload := h.desk.getElem? (hs.desk.getElem? (hs.desk.pending user n hn))
      obtain ⟨load, hn', -⟩ := hs.desk.exists_pending hn
      have hlt' := (List.getElem?_eq_some_iff.1 (hload.trans hn')).1
      simp only [Option.map_some]
      rw [rankOf_eq_self (howners' ▸ hlt'.le) hown, ← hothers, rankOf_append hlt.le]
  have hovertaken : (t.viewOf user mine).overtaken = (s.viewOf user own).overtaken := by
    simp only [viewOf]
    rw [ownedBy_eq_self howners'.le hown, h.desk.loads, ← hothers, ownedBy_append howners.le]
  have houtcomes : (t.viewOf user mine).outcomes = (s.viewOf user own).outcomes := by
    simp only [viewOf]
    rw [ownedBy_eq_self (hcount.trans howners').le hown, map_result?_eq h.loads, ← hothers,
      ownedBy_append (hs.numbered.symm.trans howners).le]
  exact View.ext hresults h.world.entry hform hpending hovertaken houtcomes

/-! ## Users among each other -/

theorem looksLike_begin (service : Service) {world : World} (registry : Option Registry)
    (hworld : world.IsTimely) (user : Id) (callers loads : List Id) :
    (begin service world registry).LooksLike user callers loads (begin service world registry) where
  service := rfl
  world := World.LooksLike.refl hworld
  desk := ⟨(ownedBy_nil user loads).symm, rfl⟩
  callers := by
    change ShowStrands user loads callers [] []
    rw [ShowStrands, ownedBy_nil]
    exact .nil
  loads := by
    change ShowStrands user loads loads [] []
    rw [ShowStrands, ownedBy_nil]
    exact .nil

theorem belongs_begin (service : Service) (world : World) (registry : Option Registry)
    (callers loads : List Id) : (begin service world registry).Belongs callers loads where
  desk := ⟨List.nil_prefix, fun _ _ h => by cases h⟩
  numbered := rfl
  loads := fun _ _ h => by cases h
  callers := fun _ _ h => by cases h

theorem Turn.isPlain_renumber (hturn : turn.IsPlain) :
    (turn.renumber user callers loads).IsPlain := by
  cases turn <;> exact hturn

/-- What is left of turns are turns of the user. -/
theorem Turn.of_mem_seen (hturns : ∀ turn ∈ turns, turn.IsPlain) :
    (∀ turn ∈ turns.filterMap (seenBy user callers loads), turn.IsPlain) ∧
      ∀ owner ∈ callersOf (turns.filterMap (seenBy user callers loads)), owner = user := by
  have hseen {turn : Turn} (h : turn ∈ turns.filterMap (seenBy user callers loads)) :
      turn.IsPlain ∧ ∀ owner, turn.entrant? = some owner → owner = user := by
    obtain ⟨turn', hmem, hseen⟩ := List.mem_filterMap.1 h
    rw [seenBy] at hseen
    split at hseen
    · next howner =>
      cases hseen
      refine ⟨isPlain_renumber (hturns _ hmem), fun owner hentrant => ?_⟩
      cases turn' with
      | enter call =>
        have hcall : call.user? = some owner := hentrant
        simpa [owner?, hcall] using howner
      | _ => cases hentrant
    · cases hseen
  refine ⟨fun turn hmem => (hseen hmem).1, fun owner howner => ?_⟩
  obtain ⟨turn, hmem, hentrant⟩ := List.mem_filterMap.1 howner
  exact (hseen hmem).2 owner hentrant

/-- The owners of callers at some point of a run are among those of the whole run. -/
theorem Turn.callersOf_append (turns turns' : List Turn) :
    callersOf (turns ++ turns') = callersOf turns ++ callersOf turns' :=
  List.filterMap_append

/-- If the turns of all others are left out of a run, what is left can be played, and the user has
    the same view. -/
theorem viewOf_seenBy_of_play (service : Service) {world : World} (registry : Option Registry)
    (huser : user.isText = true) (hworld : world.IsTimely)
    (hturns : ∀ turn ∈ turns, turn.IsPlain) (hcallers : Turn.callersOf turns <+: callers)
    (hplay : (begin service world registry).play turns = some s) (hloads : s.owners <+: loads) :
    let seen := turns.filterMap (Turn.seenBy user callers loads)
    ∃ t, (begin service world registry).play seen = some t ∧
      t.viewOf user (Turn.callersOf seen) = s.viewOf user (Turn.callersOf turns) := by
  obtain ⟨t, ht, hlooks, hbelongs⟩ :=
    (looksLike_begin service registry hworld user callers loads).play
      (belongs_begin service world registry callers loads) huser hturns hcallers hloads hplay
  obtain ⟨hplain, howners⟩ := @Turn.of_mem_seen user callers loads turns hturns
  -- Nobody has come at the beginning.
  have hlength := (length_callers_of_play hturns hplay).trans (Nat.zero_add _)
  have hlength' := (length_callers_of_play hplain ht).trans (Nat.zero_add _)
  exact ⟨t, ht, hlooks.viewOf_eq hbelongs huser hcallers hlength howners hlength'⟩

/-- Users are independent. If the turns of all others are left out of a run of lookups and drops,
    what is left can be played, and the user has the same view at every point of it: of what the
    calls of the user come to, of the entry of the cache, of the record and of the loads. The turn
    of anybody else leaves the view as it is. -/
theorem viewOf_seenBy (service : Service) {world : World} (registry : Option Registry) {user : Id}
    {before after : List Turn} {s : Stage} (huser : user.isText = true) (hworld : world.IsTimely)
    (hturns : ∀ turn ∈ before ++ after, turn.IsPlain)
    (hplay : (begin service world registry).play (before ++ after) = some s) :
    let start := begin service world registry
    let seenBy := Turn.seenBy user (Turn.callersOf (before ++ after)) s.owners
    let seen := before.filterMap seenBy
    ∃ u t, start.play before = some u ∧ start.play seen = some t ∧
      t.viewOf user (Turn.callersOf seen) = u.viewOf user (Turn.callersOf before) ∧
      ∀ turn rest, after = turn :: rest → seenBy turn = none → ∃ u', u.take? turn = some u' ∧
        u'.viewOf user (Turn.callersOf (before ++ [turn])) =
          u.viewOf user (Turn.callersOf before) := by
  intro start seenBy seen
  obtain ⟨u, hu, hafter⟩ := Option.bind_eq_some_iff.1 (play_append.symm.trans hplay)
  have hcallers {turns turns' : List Turn} (h : turns ++ turns' = before ++ after) :
      Turn.callersOf turns <+: Turn.callersOf (before ++ after) :=
    ⟨Turn.callersOf turns', by rw [← Turn.callersOf_append, h]⟩
  obtain ⟨t, ht, hview⟩ := viewOf_seenBy_of_play service registry huser hworld
    (fun turn hmem => hturns turn (List.mem_append_left _ hmem)) (hcallers rfl) hu
    (owners_le_of_play hafter)
  refine ⟨u, t, hu, ht, hview, ?_⟩
  rintro turn rest rfl hother
  rw [play_cons] at hafter
  obtain ⟨u', hu', hrest⟩ := Option.bind_eq_some_iff.1 hafter
  refine ⟨u', hu', ?_⟩
  -- What is left of the run is the same after the turn, and so is the view.
  have hnext : start.play (before ++ [turn]) = some u' := by
    rw [play_append, hu, Option.bind_some, play_cons, hu']
    rfl
  have hplain : ∀ turn' ∈ before ++ [turn], turn'.IsPlain := fun turn' hmem =>
    hturns turn' (List.append_cons before turn rest ▸ List.mem_append_left _ hmem)
  obtain ⟨t', ht', hview'⟩ := viewOf_seenBy_of_play service registry huser hworld hplain
    (hcallers (List.append_cons before turn rest).symm) hnext (owners_le_of_play hrest)
  have hsame : (before ++ [turn]).filterMap seenBy = seen := by
    rw [List.filterMap_append, List.filterMap_cons, hother]
    exact List.append_nil seen
  rw [hsame] at ht' hview'
  obtain rfl := Option.some.inj (ht'.symm.trans ht)
  exact hview'.symm.trans hview

/-- Two users are looked up at the same time. -/
def mixedTurns : List Turn :=
  Turn.miss (.text "u1") 0 ++ Turn.miss (.text "u2") 1 ++ List.replicate 3 (.load 0) ++
    List.replicate 5 (.load 1)

/-- One of them is dropped, and the other is told what the load has come to. -/
def mixedEnd : List Turn := Turn.drop (.text "u1") 2 ++ Turn.finish 1 1 8

theorem viewOf_seenBy_mixedTurns : (Id.text "u2").isText = true ∧ World.IsTimely {} ∧
    (∀ turn ∈ mixedTurns ++ mixedEnd, turn.IsPlain) ∧
    ∃ s, (begin {} {} none).play (mixedTurns ++ mixedEnd) = some s ∧
      (s.callers[1]?).any (·.program.result?.isSome) = true ∧
      let seenBy := Turn.seenBy (.text "u2") (Turn.callersOf (mixedTurns ++ mixedEnd)) s.owners
      let seen := mixedTurns.filterMap seenBy
      ∃ u t, (begin {} {} none).play mixedTurns = some u ∧ (begin {} {} none).play seen = some t ∧
        t.viewOf (.text "u2") (Turn.callersOf seen) =
          u.viewOf (.text "u2") (Turn.callersOf mixedTurns) ∧
        ∀ turn rest, mixedEnd = turn :: rest → seenBy turn = none →
          ∃ u', u.take? turn = some u' ∧
            u'.viewOf (.text "u2") (Turn.callersOf (mixedTurns ++ [turn])) =
              u.viewOf (.text "u2") (Turn.callersOf mixedTurns) := by
  have hworld : World.IsTimely {} := by
    refine ⟨?_, List.Pairwise.nil⟩
    dsimp only
    exact Binary64.isTime_ofInt (by decide)
  have hturns : ∀ turn ∈ mixedTurns ++ mixedEnd, turn.IsPlain := by
    simp [mixedTurns, mixedEnd, Turn.miss, Turn.drop, Turn.finish, Turn.IsPlain, Call.IsAbout,
      or_imp, forall_and, Id.isText]
  have hplays : (begin {} {} none).Plays (mixedTurns ++ mixedEnd) fun s =>
      (s.callers[1]?).any (·.program.result?.isSome) = true := by decide +kernel
  obtain ⟨s, hs, hresult⟩ := hplays
  exact ⟨rfl, hworld, hturns, s, hs, hresult, viewOf_seenBy {} none rfl hworld hturns hs⟩

end Stage

end HouseholdAccess
