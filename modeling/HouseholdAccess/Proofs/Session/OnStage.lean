import HouseholdAccess.Proofs.Stage.Settling

/-!
# Sessions on a stage

Whatever happens in a session to callers who want something that is about one user
can happen on a stage. Meanwhile points are held up and released, the world changes,
and callers wait for each other, but no caller is sent away (`Session.Runs`). The stage
has come as far as the session (`Stage.Enacts`): a caller who has an answer has come to it
there, by what it has done there (`Session.Runs.exists_enacts`). So what is shown of
every stage that can be reached is shown of sessions.
-/

namespace HouseholdAccess

variable {user : Id}

namespace Stage

variable {s₀ s s' : Stage} {cast : Cast} {m : Machine Answer}

/-! ## From outside -/

/-- One more caller is played, by the task with the number. -/
def Cast.withCaller (cast : Cast) (n : Nat) (call : Call) : Cast :=
  { cast with callers := cast.callers ++ [(n, call)] }

theorem Cast.grows_withCaller (cast : Cast) (n : Nat) (call : Call) :
    cast.Grows (cast.withCaller n call) :=
  ⟨fun _ _ hi => (List.getElem?_append_left (List.getElem?_eq_some_iff.1 hi).1).trans hi,
    fun _ _ => id⟩

theorem Cast.perm_withCaller (cast : Cast) (n : Nat) (call : Call) :
    (cast.withCaller n call).tasks.Perm (cast.tasks ++ [n]) := by
  rw [Cast.tasks, Cast.withCaller, Cast.tasks, List.map_append, List.append_assoc,
    List.append_assoc]
  exact List.perm_append_comm.append_left _

/-- A caller who comes has done nothing, and has all to do that is wanted. -/
theorem ShowsCalls.enter {m' : Machine Answer} (h : ShowsCalls cast s m)
    (hcallers : cast.callers.length = s.callers.length) (n : Nat) (call : Call)
    (houtcomes : m'.outcomes = m.outcomes) :
    ShowsCalls (cast.withCaller n call) (s.enter call) m' := by
  refine ⟨fun i k other u hi hu rest result hfollows => ?_, fun k result hk => ?_⟩
  · rcases getElem?_snoc_cases hi with hi' | ⟨hi', heq⟩
    · have hlt := hcallers ▸ (List.getElem?_eq_some_iff.1 hi').1
      exact h.calls i k other u hi' ((List.getElem?_append_left hlt).symm.trans hu) rest result
        hfollows
    · -- The caller who has come has done nothing yet.
      cases heq
      rw [hi', hcallers] at hu
      cases List.getElem?_concat_length.symm.trans hu
      exact hfollows
  · obtain ⟨i, other, u, hi, hu, hdone⟩ := h.outcomes k result (houtcomes ▸ hk)
    exact ⟨i, other, u, (cast.grows_withCaller n call).callers i _ hi,
      (List.getElem?_append_left (List.getElem?_eq_some_iff.1 hu).1).trans hu, hdone⟩

/-- A caller comes. -/
theorem Mirrors.enter (huser : user.isText = true) (h : Mirrors user s₀ none cast s m)
    {call : Call} (hcall : call.IsAbout user) :
    Mirrors user s₀ none (cast.withCaller m.tasks.length call) (s.enter call)
      (m.submit (call.flow s.service)).2 := by
  have hstep : Step user s (s.enter call) := .enter hcall
  have hstays : Stays none s (s.enter call) := ⟨rfl, fun i t ht _ =>
    (List.getElem?_append_left (List.getElem?_eq_some_iff.1 ht).1).trans ht, fun _ _ ht _ => ht⟩
  have hcast := cast.grows_withCaller m.tasks.length call
  let t := Strand.start s.service.cache s.clock (call.flow s.service).run
  have hcallers : (s.enter call).callers = s.callers ++ [t] := rfl
  exact {
    reached := h.reached.step hstep
    behaves := h.behaves.of_moves huser (h.behaves.moves hstep)
    place := ⟨h.place.cache, h.place.world, h.place.desk, h.place.registry⟩
    isCast := by
      refine h.isCast.join (cast.perm_withCaller _ _) ?_ h.isCast.loads h.isCast.running
        List.length_append
      rw [Cast.withCaller, List.length_append, h.isCast.callers, hcallers, List.length_append]
      rfl
    tasks := by
      refine h.tasks.startOne rfl rfl (fun _ hnone => (by cases hnone)) (fun k task hk hne =>
        (h.tasks.tasks k task hk hne).rests hstays hcast (GroupsStay.refl k _)) ?_
      refine .strand (r := .caller cast.callers.length) (t := t) ?_ ?_ rfl
        (.next (.start ⟨rfl, rfl⟩))
      · rw [Role.task?, Cast.withCaller, List.getElem?_concat_length]
        rfl
      · rw [Role.strand?, h.isCast.callers, hcallers, List.getElem?_concat_length]
    groups := h.groups.startOne hstays hcast rfl rfl rfl
      fun _ _ _ _ _ _ => (Option.some_ne_none _).symm
    loads := h.loads.stays hstays rfl fun _ hl =>
      (List.mem_append.1 hl).resolve_right fun hl => Job.noConfusion (List.mem_singleton.1 hl)
    calls := h.calls.enter h.isCast.callers _ call rfl }

/-- The world changes. -/
theorem Mirrors.change (huser : user.isText = true) (h : Mirrors user s₀ none cast s m)
    {c : Change} (hc : c.IsUsual) :
    Mirrors user s₀ none cast (s.change c) { m with world := c.apply m.world } := by
  have hstep : Step user s (s.change c) := .change hc
  refine h.rests (h.reached.step hstep) (h.behaves.of_moves huser (h.behaves.moves hstep))
    ⟨rfl, fun _ _ ht _ => ht, fun _ _ ht _ => ht⟩ rfl rfl rfl
    ⟨h.place.cache, ?_, h.place.desk, h.place.registry⟩
  rw [Change.visible_apply, h.place.world]
  exact (Change.visible_apply c s.place.world).symm

/-- A point is held up. -/
theorem Mirrors.hold (h : Mirrors user s₀ none cast s m) (p : Point) :
    Mirrors user s₀ none cast s (m.hold p) :=
  h.withWorld (show (m.hold p).world.visible = m.world.visible from rfl) m.queue

/-- A point is released, and whoever waits there is to go on. -/
theorem Mirrors.release (h : Mirrors user s₀ none cast s m) (p : Point) :
    Mirrors user s₀ none cast s (m.release p) := by
  have hfoldl (waiting : List Nat) {m : Machine Answer} (h : Mirrors user s₀ none cast s m) :
      Mirrors user s₀ none cast s (waiting.foldl
        (fun m n => (m.stopWaiting n (.point p)).elim m (·.push (.resume n .released))) m) := by
    induction waiting generalizing m with
    | nil => exact h
    | cons n rest ih => exact ih (h.releaseTask n p)
  let world : World := { m.world with held := m.world.held.filter (· ≠ p) }
  have hfreed : Mirrors user s₀ none cast s
      { m with world, queue := m.queue.filter fun w => w.1 ≠ p } :=
    h.withWorld (show world.visible = m.world.visible from rfl) _
  exact hfoldl _ hfreed

/-! ## The start -/

theorem Moves.service_eq (h : s.Moves user s') : s'.service = s.service := by
  cases h <;> rfl

/-- The service is the same all the time. -/
theorem Reached.service_eq (huser : user.isText = true) (hs₀ : s₀.Behaves user)
    (h : Reached user s₀ s) : s.service = s₀.service := by
  have hboth : s.Behaves user ∧ s.service = s₀.service := by
    induction h with
    | start => exact ⟨hs₀, rfl⟩
    | step _ hstep ih =>
      have hmoves := ih.1.moves hstep
      exact ⟨ih.1.of_moves huser hmoves, hmoves.service_eq.trans ih.2⟩
  exact hboth.2

/-- Before anybody comes, nobody is there. -/
theorem mirrors_begin {service : Service} {world : World} {registry : Option Registry}
    (hworld : world.HasTextNames) :
    Mirrors user (begin service world registry) none {} (begin service world registry)
      { cache := service.cache, world, registry } where
  reached := .start
  behaves := behaves_begin hworld
  place := ⟨rfl, rfl, rfl, rfl⟩
  isCast := ⟨rfl, rfl, rfl, List.nodup_nil, List.forall_mem_nil _⟩
  tasks := ⟨fun _ _ htask => (by cases htask), fun _ _ => rfl⟩
  groups := ⟨fun _ _ hgroup => (by cases hgroup), fun _ _ _ hmem => (by cases hmem)⟩
  loads := ⟨fun _ _ _ hl => (by cases hl), fun _ hl => (by cases hl)⟩
  calls := ⟨fun _ _ _ _ hi => (by cases hi), fun _ _ hmem => (by cases hmem)⟩

/-- The stage has come as far as the session, with the same callers. -/
structure Enacts (calls : List (Nat × Call)) (s : Stage) (session : Session) : Prop where
  service : s.service = session.service
  world : session.machine.world.visible = s.place.world.visible
  desk : session.machine.desk = s.place.desk
  registry : session.machine.registry = s.place.registry
  callers : s.callers.length = calls.length
  /-- A caller who has an answer has come to it on the stage. -/
  answers : ∀ (i n : Nat) (call : Call) (result : Except Interruption Answer),
    calls[i]? = some (n, call) → session.machine.outcome? n = some result →
    ∃ t, s.callers[i]? = some t ∧ t.program = .done result ∧
      (call.flow session.service).run.Follows t.trace result

theorem Mirrors.enacts {session : Session} (h : Mirrors user s₀ none cast s session.machine)
    (hservice : s.service = session.service) : Enacts cast.callers s session where
  service := hservice
  world := h.place.world
  desk := h.place.desk
  registry := h.place.registry
  callers := h.isCast.callers.symm
  answers := fun i n call result hi hresult => by
    obtain ⟨l₁, l₂, houtcomes, -⟩ := List.lookup_eq_some_iff.1 hresult
    have hmem : (n, result) ∈ session.machine.outcomes := by
      rw [houtcomes]
      exact List.mem_append_right _ List.mem_cons_self
    obtain ⟨j, other, t, hj, ht, hdone⟩ := h.calls.outcomes n result hmem
    -- No other caller has been given the same task.
    obtain rfl := h.isCast.eq_of_caller hi hj
    cases hi.symm.trans hj
    refine ⟨t, ht, hdone, ?_⟩
    have hfollows := h.calls.calls i n call t hi ht [] result (by rw [hdone]; exact ⟨rfl, rfl⟩)
    rw [List.append_nil, hservice] at hfollows
    exact hfollows

end Stage

namespace Session

/-! ## Runs -/

/-- A run of a session with callers who want something that is about the user, and the tasks that
    they have been given. -/
inductive Runs (user : Id) (start : Session) : Session → List (Nat × Call) → Prop
  | refl : Runs user start start []
  /-- A caller comes, and everybody goes on. -/
  | call {s : Session} {callers : List (Nat × Call)} (name : Option String) {c : Call} :
    Runs user start s callers → c.IsAbout user →
    Runs user start (s.call name c).2 (callers ++ [(s.machine.tasks.length, c)])
  /-- Role data changes, time passes, or something fails or is in order again. -/
  | change {s : Session} {callers : List (Nat × Call)} {c : Change} :
    Runs user start s callers → c.IsUsual → Runs user start (s.change c) callers
  /-- A point is held up. -/
  | hold {s : Session} {callers : List (Nat × Call)} (p : Point) :
    Runs user start s callers → Runs user start (s.hold p) callers
  /-- A point is released, and everybody goes on. -/
  | release {s : Session} {callers : List (Nat × Call)} (p : Point) :
    Runs user start s callers → Runs user start (s.release p) callers

variable {service : Service} {world : World} {counts : Bool} {s : Session}
  {callers : List (Nat × Call)}

theorem Runs.service_eq {start : Session} (h : Runs user start s callers) :
    s.service = start.service := by
  induction h with
  | refl => rfl
  | call _ _ _ ih => exact ih
  | change _ _ ih => exact ih
  | hold _ _ ih => exact ih
  | release _ _ ih => exact ih

/-- Whatever happens in a session, there is a stage where the same has happened. -/
theorem Runs.exists_mirrors (huser : user.isText = true) (hworld : world.HasTextNames)
    (h : Runs user (begin service world counts) s callers) :
    ∃ cast stage, cast.callers = callers ∧ stage.service = s.service ∧
      Stage.Mirrors user (Stage.begin service world (begin service world counts).machine.registry)
        none cast stage s.machine := by
  have hservice {cast : Stage.Cast} {stage : Stage} {m : Machine Answer}
      (h : Stage.Mirrors user
        (Stage.begin service world (begin service world counts).machine.registry) none cast stage
        m) : stage.service = service :=
    h.reached.service_eq huser (Stage.behaves_begin hworld)
  rw [h.service_eq]
  induction h with
  | refl => exact ⟨{}, _, rfl, rfl, Stage.mirrors_begin hworld⟩
  -- The caller enters the stage with the number of the next task.
  | @call s callers name c hs hc ih =>
    obtain ⟨cast, stage, rfl, hstage, hmirrors⟩ := ih
    have henter := hmirrors.enter huser hc
    obtain ⟨cast', stage', hcast, hsettle⟩ := henter.settle huser
    rw [hstage, ← hs.service_eq] at hsettle
    exact ⟨cast', stage', hcast, hservice hsettle, hsettle⟩
  | change _ hc ih =>
    obtain ⟨cast, stage, hcast, -, hmirrors⟩ := ih
    have hchange := hmirrors.change huser hc
    exact ⟨cast, _, hcast, hservice hchange, hchange⟩
  | hold p _ ih =>
    obtain ⟨cast, stage, hcast, hstage, hmirrors⟩ := ih
    exact ⟨cast, stage, hcast, hstage, hmirrors.hold p⟩
  | release p _ ih =>
    obtain ⟨cast, stage, rfl, -, hmirrors⟩ := ih
    obtain ⟨cast', stage', hcast, hsettle⟩ := (hmirrors.release p).settle huser
    exact ⟨cast', stage', hcast, hservice hsettle, hsettle⟩

/-- Whatever happens in a session to callers about one user can happen on a stage. -/
theorem Runs.exists_enacts (huser : user.isText = true) (hworld : world.HasTextNames)
    (h : Runs user (begin service world counts) s callers) :
    ∃ stage, Stage.Reached user
        (Stage.begin service world (begin service world counts).machine.registry) stage ∧
      Stage.Enacts callers stage s := by
  obtain ⟨cast, stage, rfl, hservice, hmirrors⟩ := h.exists_mirrors huser hworld
  exact ⟨stage, hmirrors.reached, hmirrors.enacts hservice⟩

end Session

end HouseholdAccess
