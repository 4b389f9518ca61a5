import HouseholdAccess.Cache

/-!
# Work that is done alone

While nobody else is at work and nothing is held up, a program never has to wait
for others: an access is answered at once, and the loads and errands that it waits
for are done by then (`Program.solo`). What it meets on the way is a `Solo`.

How operations are carried out depends on who works (`Helper`). An errand waits
for nobody; a load may have errands done; a caller may also join a load, which is
done when the caller waits for it (`Helper.errand`, `Helper.load`, `Helper.call`).
Where a program would wait for something that nobody does, nothing is said.

The equations for the parts of a `Flow` (`solo_bind`, `solo_access` and so on) run
it symbolically. That the machine does the same is shown in
`HouseholdAccess.Proofs.Solo.Machine`.
-/

namespace HouseholdAccess

/-- A load that has been joined but not begun. -/
structure Joined where
  /-- The load. -/
  load : Nat
  /-- Whose permissions it loads. -/
  user : Id
  /-- What its log lines say. -/
  fields : Entries

/-- What a program meets while nobody else is at work. -/
structure Solo where
  /-- How permissions are kept. -/
  cache : Cache
  /-- The systems around the service. -/
  world : World
  /-- What is known about loads. -/
  desk : Desk
  /-- What has been counted, if anything is counted. -/
  registry : Option Registry
  /-- Whether events are being consumed. -/
  consuming : Bool
  /-- What log lines say. -/
  fields : Entries
  /-- The load that the program has joined. -/
  joined : Option Joined := none

namespace Solo

/-- Carries out an operation that does not wait. -/
def plain? (s : Solo) : (op : Operation) → Option (op.Reply × Solo)
  | .access a =>
    let (r, world) := (s.world.begin a).perform a
    some (r.mapError .failure, { s with world })
  | .overtake user => some ((), { s with desk := s.desk.overtake user })
  | .isOvertaken load => some (s.desk.isOvertaken load, s)
  | .count series => some ((), { s with registry := s.registry.map (·.count series) })
  | .counted => some (s.registry, s)
  | .bind fields =>
    some ((), { s with fields := fields.foldl (fun es (key, v) => Entries.put es key v) s.fields })
  | .unbind => some ((), { s with fields := [] })
  | .bound => some (s.fields, s)
  | .time => some (s.world.now, s)
  | .setConsuming b => some ((), { s with consuming := b })
  | .isConsuming => some (s.consuming, s)
  | .joinLoad _ | .awaitLoad _ | .each .. => none

end Solo

/-- How operations are carried out. Those that do not wait are carried out at once. -/
structure Helper where
  /-- The reply to an operation, and what is met after it. -/
  carry : Solo → (op : Operation) → Option (op.Reply × Solo)
  carry_of_plain? : ∀ {s op x}, Solo.plain? s op = some x → carry s op = some x

variable {α β : Type} {h : Helper} {s : Solo}

/-- The result of a program, and what is met after it. -/
def Program.solo (h : Helper) : Program β → Solo → Option (β × Solo)
  | .done b, s => some (b, s)
  | .call op next, s => (h.carry s op).bind fun (reply, s) => (next reply).solo h s

/-- The result of a flow, and what is met after it. -/
def Flow.solo (h : Helper) (flow : Flow β) (s : Solo) : Option (Except Interruption β × Solo) :=
  Program.solo h flow.run s

theorem Program.solo_bind (p : Program α) (f : α → Program β) (s : Solo) :
    (p >>= f).solo h s = (p.solo h s).bind fun (a, s) => (f a).solo h s := by
  induction p generalizing s with
  | done a => rfl
  | call op next ih =>
    change (h.carry s op).bind (fun (reply, s) => ((next reply) >>= f).solo h s) =
      ((h.carry s op).bind fun (reply, s) => (next reply).solo h s).bind _
    simp only [ih, Option.bind_assoc]

namespace Flow

theorem solo_bind (flow : Flow α) (f : α → Flow β) :
    (flow >>= f).solo h s = (flow.solo h s).bind fun
      | (.ok a, s) => (f a).solo h s
      | (.error e, s) => some (.error e, s) := by
  refine (Program.solo_bind _ _ s).trans (congrArg (Option.bind _) (funext fun (r, s) => ?_))
  cases r <;> rfl

/-- What comes after a part that succeeds. -/
theorem solo_bind_ok {flow : Flow α} {a : α} {s' : Solo} (ha : flow.solo h s = some (.ok a, s'))
    (f : α → Flow β) : (flow >>= f).solo h s = (f a).solo h s' := by
  rw [solo_bind, ha]
  rfl

/-- Nothing comes after a part that is interrupted. -/
theorem solo_bind_error {flow : Flow α} {e : Interruption} {s' : Solo}
    (he : flow.solo h s = some (.error e, s')) (f : α → Flow β) :
    (flow >>= f).solo h s = some (.error e, s') := by
  rw [solo_bind, he]
  rfl

theorem solo_perform {op : Operation} {x : op.Reply × Solo} (hx : h.carry s op = some x) :
    (Program.perform op).solo h s = some x := by
  rw [Program.perform, Program.solo, hx]
  rfl

theorem solo_access (a : Access) :
    (access a).solo h s = some (((s.world.begin a).perform a).1.mapError .failure,
      { s with world := ((s.world.begin a).perform a).2 }) :=
  solo_perform (h.carry_of_plain? rfl)

theorem solo_step {op : Operation} {x : op.Reply × Solo} (hx : h.carry s op = some x) :
    (step op).solo h s = some (.ok x.1, x.2) := by
  change ((Program.perform op) >>= fun a => Program.done (Except.ok a)).solo h s = _
  rw [Program.solo_bind, solo_perform hx]
  rfl

theorem solo_count (series : Series) :
    (count series).solo h s =
      some (.ok (), { s with registry := s.registry.map (·.count series) }) := by
  have hcount : h.carry s (.count series) =
      some ((), { s with registry := s.registry.map (·.count series) }) :=
    h.carry_of_plain? rfl
  exact solo_step hcount

theorem solo_recover (flow : Flow α) (handle : Failure → Flow α) :
    (flow.recover handle).solo h s = (flow.solo h s).bind fun
      | (.error (.failure f), s) => (handle f).solo h s
      | x => some x := by
  refine (Program.solo_bind _ _ s).trans (congrArg (Option.bind _) (funext fun (r, s) => ?_))
  match r with
  | .ok a => rfl
  | .error (.failure f) => rfl
  | .error .cancelled => rfl

/-- Nothing is recovered from unless something fails. -/
theorem solo_recover_ok {flow : Flow α} {a : α} {s' : Solo}
    (ha : flow.solo h s = some (.ok a, s')) (handle : Failure → Flow α) :
    (flow.recover handle).solo h s = some (.ok a, s') := by
  rw [solo_recover, ha]
  rfl

/-- A failure is handled. -/
theorem solo_recover_failure {flow : Flow α} {f : Failure} {s' : Solo}
    (hf : flow.solo h s = some (.error (.failure f), s')) (handle : Failure → Flow α) :
    (flow.recover handle).solo h s = (handle f).solo h s' := by
  rw [solo_recover, hf]
  rfl

theorem solo_atLast (flow : Flow α) (last : Program Unit) :
    (flow.atLast last).solo h s = (flow.solo h s).bind fun (r, s) =>
      (last.solo h s).map fun (_, s) => (r, s) := by
  refine (Program.solo_bind _ _ s).trans (congrArg (Option.bind _) (funext fun (r, s) => ?_))
  refine (Program.solo_bind _ _ s).trans ?_
  change _ = Option.map _ (last.solo h s)
  cases last.solo h s <;> rfl

theorem solo_ofExcept {ε : Type} (toFailure : ε → Failure) (x : Except ε α) :
    (ofExcept toFailure x).solo h s = some (x.mapError fun e => .failure (toFailure e), s) := by
  cases x <;> rfl

end Flow

/-! ## Who works -/

/-- An errand waits for nobody. -/
def Helper.errand : Helper where
  carry := Solo.plain?
  carry_of_plain? := id

namespace Solo

/-- Does an errand for one name. What log lines say during the errand is forgotten after it. -/
def runErrand (s : Solo) (errand : Errand) (id : Id) :
    Option (Except Interruption (List Id) × Solo) :=
  ((s.cache.errand errand id).solo .errand s).map fun (r, t) => (r, { t with fields := s.fields })

/-- Does errands for names, one after the other. -/
def runErrands (errand : Errand) :
    List Id → Solo → Option (List (Except Interruption (List Id)) × Solo)
  | [], s => some ([], s)
  | id :: rest, s => do
    let (r, s) ← s.runErrand errand id
    let (rs, s) ← runErrands errand rest s
    return (r :: rs, s)

/-- Does errands for names, and brings back what they bring back, unless one is interrupted. -/
def gather (s : Solo) (errand : Errand) (ids : List Id) :
    Option (Except Interruption (List (List Id)) × Solo) :=
  (runErrands errand ids s).map fun (rs, s) => (rs.mapM id, s)

variable {s' : Solo} {errand : Errand} {name : Id} {ids : List Id}

theorem runErrand_eq_some_iff {r : Except Interruption (List Id)} :
    s.runErrand errand name = some (r, s') ↔
      ∃ t, (s.cache.errand errand name).solo .errand s = some (r, t) ∧
        s' = { t with fields := s.fields } := by
  rw [runErrand, Option.map_eq_some_iff]
  constructor
  · rintro ⟨⟨r, t⟩, ht, heq⟩
    cases heq
    exact ⟨t, ht, rfl⟩
  · rintro ⟨t, ht, rfl⟩
    exact ⟨(r, t), ht, rfl⟩

theorem runErrands_cons_eq_some_iff {rs : List (Except Interruption (List Id))} :
    runErrands errand (name :: ids) s = some (rs, s') ↔
      ∃ r t others, s.runErrand errand name = some (r, t) ∧
        runErrands errand ids t = some (others, s') ∧ rs = r :: others := by
  rw [runErrands]
  constructor
  · intro h
    obtain ⟨⟨r, t⟩, hr, h⟩ := Option.bind_eq_some_iff.1 h
    obtain ⟨⟨others, u⟩, hothers, h⟩ := Option.bind_eq_some_iff.1 h
    cases h
    exact ⟨r, t, others, hr, hothers, rfl⟩
  · rintro ⟨r, t, others, hr, hothers, rfl⟩
    exact Option.bind_eq_some_iff.2 ⟨_, hr, Option.bind_eq_some_iff.2 ⟨_, hothers, rfl⟩⟩

theorem gather_eq_some_iff {r : Except Interruption (List (List Id))} :
    s.gather errand ids = some (r, s') ↔
      ∃ rs, runErrands errand ids s = some (rs, s') ∧ r = rs.mapM id := by
  rw [gather, Option.map_eq_some_iff]
  constructor
  · rintro ⟨⟨rs, t⟩, hrs, heq⟩
    cases heq
    exact ⟨rs, hrs, rfl⟩
  · rintro ⟨rs, hrs, rfl⟩
    exact ⟨(rs, s'), hrs, rfl⟩

end Solo

/-- A load may have errands done. -/
def Helper.load : Helper where
  carry s op :=
    match op with
    | .each errand ids => if s.joined.isNone then s.gather errand ids else none
    | op => s.plain? op
  carry_of_plain? := by
    intro s op x hx
    cases op with
    | each => cases hx
    | _ => exact hx

/-- Errands are done while no load has been joined. -/
theorem Helper.carry_load_each {s' : Solo} {errand : Errand} {ids : List Id}
    {r : Except Interruption (List (List Id))} :
    Helper.load.carry s (.each errand ids) = some (r, s') ↔
      s.joined = none ∧ s.gather errand ids = some (r, s') := by
  rw [← Option.isNone_iff_eq_none]
  exact Option.ite_none_right_eq_some

namespace Solo

/-- Joins a load of a user's permissions, which is a new one. -/
def join (s : Solo) (user : Id) : Option (Nat × Solo) :=
  if s.joined.isNone && (s.desk.pendingOf user).isNone then
    let (load, desk) := s.desk.start user
    some (load, { s with desk, joined := some { load, user, fields := s.fields } })
  else none

/-- Does the load that has been joined, which the desk forgets then. -/
def await (s : Solo) (load : Nat) : Option (Except Interruption RuleSet × Solo) :=
  match s.joined with
  | none => none
  | some j =>
    if j.load = load then
      ((s.cache.load j.user load).solo .load { s with joined := none, fields := j.fields }).map
        fun (r, t) => (r, { t with desk := t.desk.forget load, fields := s.fields })
    else none

/-- A load is joined by somebody who has joined none, if none of the user is under way. -/
theorem join_eq_some_iff {s s' : Solo} {user : Id} {load : Nat} :
    s.join user = some (load, s') ↔ s.joined = none ∧ s.desk.pendingOf user = none ∧
      load = s.desk.loads.length ∧ s' = { s with
        desk := (s.desk.start user).2,
        joined := some { load := s.desk.loads.length, user, fields := s.fields } } := by
  rw [join, Option.ite_none_right_eq_some, Bool.and_eq_true, Option.isNone_iff_eq_none,
    Option.isNone_iff_eq_none, and_assoc, Option.some.injEq, Prod.mk.injEq]
  exact and_congr_right' (and_congr_right' (and_congr eq_comm eq_comm))

/-- Nobody waits for a load but the one that has been joined. -/
theorem await_eq_some_iff {s s' : Solo} {load : Nat} {r : Except Interruption RuleSet} :
    s.await load = some (r, s') ↔ ∃ j u, s.joined = some j ∧ j.load = load ∧
      (s.cache.load j.user load).solo .load { s with joined := none, fields := j.fields } =
        some (r, u) ∧ s' = { u with desk := u.desk.forget load, fields := s.fields } := by
  rw [await]
  cases s.joined with
  | none => simp
  | some j =>
    simp only [Option.ite_none_right_eq_some, Option.map_eq_some_iff, Prod.mk.injEq, Prod.exists,
      Option.some.injEq, exists_eq_left', exists_and_left]
    refine and_congr_right' ⟨?_, ?_⟩
    · rintro ⟨r', u, hu, rfl, rfl⟩
      exact ⟨u, hu, rfl⟩
    · rintro ⟨u, hu, rfl⟩
      exact ⟨r, u, hu, rfl, rfl⟩

end Solo

/-- A caller may have errands done, and wait for a load that it has joined. -/
def Helper.call : Helper where
  carry s op :=
    match op with
    | .joinLoad user => s.join user
    | .awaitLoad load => s.await load
    | op => Helper.load.carry s op
  carry_of_plain? := by
    intro s op x hx
    cases op with
    | joinLoad | awaitLoad => cases hx
    | _ => exact Helper.load.carry_of_plain? hx

/-! ## What stays as it is -/

/-- What every step of a program keeps is kept by the program. -/
theorem Program.solo_induction {R : Solo → Solo → Prop} (hrefl : ∀ s, R s s)
    (htrans : ∀ {s₁ s₂ s₃}, R s₁ s₂ → R s₂ s₃ → R s₁ s₃)
    (hcarry : ∀ {s : Solo} {op : Operation} {reply : op.Reply} {s' : Solo},
      h.carry s op = some (reply, s') → R s s')
    {p : Program β} {b : β} {s s' : Solo} (hp : p.solo h s = some (b, s')) : R s s' := by
  induction p generalizing s with
  | done a =>
    cases hp
    exact hrefl _
  | call op next ih =>
    obtain ⟨⟨reply, u⟩, hop, hnext⟩ := Option.bind_eq_some_iff.1 hp
    exact htrans (hcarry hop) (ih reply hnext)

theorem World.held_answer (w : World) (a : Access) : (w.answer a).2.held = w.held := by
  cases a with
  | cacheGet user =>
    simp only [World.answer, World.lookUp]
    split
    · rfl
    · split <;> rfl
  | cacheClose =>
    simp only [World.answer]
    split <;> rfl
  | _ => rfl

theorem World.held_perform (w : World) (a : Access) : ((w.begin a).perform a).2.held = w.held := by
  have hbegin : (w.begin a).held = w.held := by cases a <;> rfl
  simp only [World.perform]
  split
  · exact hbegin
  · split
    · exact hbegin
    · rw [World.held_answer, hbegin]

theorem Desk.length_loads_overtake (d : Desk) (user : Id) :
    (d.overtake user).loads.length = d.loads.length := by
  rw [Desk.overtake]
  split
  · rfl
  · simp

theorem Desk.length_loads_forget (d : Desk) (load : Nat) :
    (d.forget load).loads.length = d.loads.length := by
  rw [Desk.forget]
  split
  · rfl
  · split <;> rfl

namespace Solo

/-- What an operation that does not wait leaves as it is. -/
structure Rests (s s' : Solo) : Prop where
  cache : s'.cache = s.cache
  held : s'.world.held = s.world.held
  joined : s'.joined = s.joined
  loads : s'.desk.loads.length = s.desk.loads.length

theorem Rests.refl (s : Solo) : s.Rests s := ⟨rfl, rfl, rfl, rfl⟩

theorem Rests.trans {s₁ s₂ s₃ : Solo} (h : s₁.Rests s₂) (h' : s₂.Rests s₃) : s₁.Rests s₃ :=
  ⟨h'.cache.trans h.cache, h'.held.trans h.held, h'.joined.trans h.joined, h'.loads.trans h.loads⟩

theorem rests_of_plain? {s s' : Solo} {op : Operation} {reply : op.Reply}
    (h : s.plain? op = some (reply, s')) : s.Rests s' := by
  cases op with
  | access a =>
    cases h
    exact ⟨rfl, World.held_perform s.world a, rfl, rfl⟩
  | overtake user =>
    cases h
    exact ⟨rfl, rfl, rfl, Desk.length_loads_overtake s.desk user⟩
  | joinLoad | awaitLoad | each => cases h
  | _ =>
    cases h
    exact ⟨rfl, rfl, rfl, rfl⟩

theorem rests_of_runErrand {s s' : Solo} {errand : Errand} {id : Id}
    {r : Except Interruption (List Id)} (hr : s.runErrand errand id = some (r, s')) :
    s.Rests s' ∧ s'.fields = s.fields := by
  obtain ⟨u, hu, rfl⟩ := runErrand_eq_some_iff.1 hr
  have hrests : s.Rests u := Program.solo_induction Rests.refl Rests.trans rests_of_plain? hu
  exact ⟨⟨hrests.cache, hrests.held, hrests.joined, hrests.loads⟩, rfl⟩

theorem rests_of_runErrands {s s' : Solo} {errand : Errand} {ids : List Id}
    {rs : List (Except Interruption (List Id))} (hrs : runErrands errand ids s = some (rs, s')) :
    s.Rests s' ∧ s'.fields = s.fields ∧ rs.length = ids.length := by
  induction ids generalizing s rs with
  | nil =>
    cases hrs
    exact ⟨Rests.refl _, rfl, rfl⟩
  | cons id rest ih =>
    obtain ⟨r, u, others, hr, hothers, rfl⟩ := runErrands_cons_eq_some_iff.1 hrs
    obtain ⟨hrests, hfields⟩ := rests_of_runErrand hr
    obtain ⟨hrest, hfields', hlength⟩ := ih hothers
    exact ⟨hrests.trans hrest, hfields'.trans hfields, congrArg (· + 1) hlength⟩

theorem rests_of_carry_load {s s' : Solo} {op : Operation} {reply : op.Reply}
    (hop : Helper.load.carry s op = some (reply, s')) : s.Rests s' := by
  cases op with
  | each errand ids =>
    obtain ⟨rs, hrs, -⟩ := gather_eq_some_iff.1 (Helper.carry_load_each.1 hop).2
    exact (rests_of_runErrands hrs).1
  | _ => exact rests_of_plain? (show s.plain? _ = some (reply, s') from hop)

theorem rests_of_solo_load {s s' : Solo} {p : Program β} {b : β}
    (hp : p.solo .load s = some (b, s')) : s.Rests s' :=
  Program.solo_induction Rests.refl Rests.trans rests_of_carry_load hp

end Solo

end HouseholdAccess
