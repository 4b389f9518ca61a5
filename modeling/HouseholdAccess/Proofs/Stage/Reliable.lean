import HouseholdAccess.Proofs.Event.Accounting
import HouseholdAccess.Proofs.Stage.Company

/-!
# Strands that can be relied on

Loads and errands are steady, so that on a stage they are not cancelled and count no events,
whoever is at work (`Strand.IsLoad.keeps_steady`, `ErrandRuns`). A caller that is replied to
by them keeps to its program, with replies that can be relied on (`Strand.Performs`).

How many events have been counted, and what log lines say, is told by the operations that have
been carried out (`Solo.Reflects`).
-/

namespace HouseholdAccess

open HouseholdAccess.Flow

variable {α : Type} {c : Cache} {user : Id} {n i : Nat}

/-! ## What is counted -/

namespace Registry

/-- How many events have been counted that end so, whatever their type. -/
def events (r : Registry) (ok : Bool) : Nat :=
  ((r.counts.filter fun c => c.1.isOfEvents ok).map Prod.snd).sum

theorem events_count (r : Registry) (s : Series) (ok : Bool) :
    (r.count s).events ok = r.events ok + if s.isOfEvents ok then 1 else 0 := by
  obtain ⟨service, counts⟩ := r
  change (((addTo s 1 counts).filter fun c => c.1.isOfEvents ok).map Prod.snd).sum =
    ((counts.filter fun c => c.1.isOfEvents ok).map Prod.snd).sum + _
  induction counts with
  | nil => by_cases h : s.isOfEvents ok = true <;> simp [addTo, h]
  | cons c rest ih =>
    obtain ⟨t, m⟩ := c
    rw [addTo]
    by_cases hts : t = s
    · subst hts
      by_cases h : t.isOfEvents ok = true <;> simp [h, Nat.add_right_comm]
    · rw [if_neg hts]
      by_cases h : t.isOfEvents ok = true
      · simp [h, ih, Nat.add_assoc]
      · simp [h, ih]

end Registry

namespace Solo

/-- How many events have been counted that end so, if anything is counted. -/
def events (s : Solo) (ok : Bool) : Option Nat := s.registry.map (·.events ok)

/-- The number of events and what log lines say are as the trace tells. -/
structure Reflects (start : Solo) (tr : List Exchange) (s : Solo) : Prop where
  events : ∀ ok, s.events ok = (start.events ok).map (· + eventsIn ok tr)
  fields : s.fields = boundAfter start.fields tr

variable {start s s' : Solo} {tr tr' : List Exchange}

/-- If nothing is counted and nothing said, the trace tells nothing. -/
theorem reflects_of_eq (hregistry : s'.registry = s.registry) (hfields : s'.fields = s.fields) :
    s.Reflects [] s' := by
  refine ⟨fun ok => ?_, hfields⟩
  rw [Solo.events, Solo.events, hregistry]
  cases s.registry <;> rfl

theorem Reflects.trans (h : start.Reflects tr s) (h' : s.Reflects tr' s') :
    start.Reflects (tr ++ tr') s' := by
  refine ⟨fun ok => ?_, by rw [h'.fields, h.fields, boundAfter_append]⟩
  rw [h'.events, h.events, Option.map_map, eventsIn_append]
  simp [Function.comp_def, Nat.add_assoc]

/-- An operation in which nothing happens that is told makes no difference. -/
theorem reflects_singleton_iff {e : Exchange} (he : e.op.IsUneventful) :
    s.Reflects [e] s' ↔ s.Reflects [] s' := by
  have hevents (ok : Bool) : eventsIn ok [e] = eventsIn ok [] :=
    eventsIn_eq_zero (List.forall_mem_singleton.2 he.counts) ok
  have hfields : boundAfter s.fields [e] = boundAfter s.fields [] := he.fields s.fields
  refine ⟨fun h => ⟨fun ok => ?_, ?_⟩, fun h => ⟨fun ok => ?_, ?_⟩⟩
  · rw [← hevents, h.events]
  · rw [← hfields, h.fields]
  · rw [hevents, h.events]
  · rw [hfields, h.fields]

theorem reflects_of_plain? {op : Operation} {x : op.Reply × Solo} (hx : s.plain? op = some x)
    (time : Nat) (source : Mark) : s.Reflects [⟨time, source, op, x.1⟩] x.2 := by
  cases op with
  | count series =>
    cases hx
    refine ⟨fun ok => ?_, rfl⟩
    have hcount (r : Registry) :
        (r.count series).events ok = r.events ok + eventsIn ok
          [⟨time, source, .count series, ()⟩] := by
      rw [Registry.events_count, eventsIn, List.countP_singleton]
      rfl
    rw [Solo.events, Solo.events, Option.map_map, Option.map_map]
    exact congrArg (Option.map · s.registry) (funext hcount)
  | bind | unbind =>
    cases hx
    refine ⟨fun ok => ?_, rfl⟩
    change s.registry.map _ = (s.registry.map _).map _
    rw [Option.map_map]
    rfl
  | joinLoad | awaitLoad | each => cases hx
  | _ =>
    cases hx
    exact ⟨(reflects_of_eq rfl rfl).events, rfl⟩

end Solo

/-! ## Errands -/

/-- The errand keeps to its program: it waits for nobody, counts no events, and is not cancelled. -/
structure ErrandRuns (p : ErrandProgram) : Prop where
  only : p.Only Operation.IsOfErrand
  steady : ∃ tr, p.Keeps Exchange.IsReliable (fun tr op => op.IsUneventful ∧ AwaitsJoined tr op)
    (fun _ r => r ≠ .error .cancelled) tr

theorem Cache.errandRuns (c : Cache) (e : Errand) (id : Id) : ErrandRuns (c.errand e id).run :=
  ⟨c.only_errand e id, [], c.steady_errand e id []⟩

namespace ErrandRuns

variable {p : ErrandProgram} {op : Operation} {next : op.Reply → ErrandProgram}

theorem isUneventful (h : ErrandRuns (.call op next)) : op.IsUneventful := by
  obtain ⟨tr, hsteady⟩ := h.steady
  exact hsteady.1.1

/-- The next operation of an errand does not wait. -/
theorem exists_plain? (h : ErrandRuns (.call op next)) (place : Solo) :
    ∃ x, place.plain? op = some x := by
  have hop := h.only.1
  cases op with
  | access | overtake | count => exact ⟨_, rfl⟩
  | _ => exact hop.elim

theorem next_of_plain? (h : ErrandRuns (.call op next)) {s : Stage} {x : op.Reply × Solo}
    (hx : s.place.plain? op = some x) : ErrandRuns (next x.1) := by
  obtain ⟨tr, hsteady⟩ := h.steady
  have hop := h.only.1
  have hreliable : Exchange.IsReliable ⟨0, {}, op, x.1⟩ := by
    refine (Stage.isHonest_of_plain? hx 0 {}).isReliable ?_
    rintro n rfl
    exact hop
  exact ⟨h.only.2 x.1, _, hsteady.2 0 {} x.1 hreliable⟩

/-- Why an errand has failed is a failure. -/
theorem exists_failure (h : ErrandRuns p) {x : Interruption} (hx : p.failure? = some x) :
    ∃ f, x = .failure f := by
  obtain ⟨tr, hsteady⟩ := h.steady
  cases p with
  | call => cases hx
  | done r =>
    cases r with
    | ok => cases hx
    | error =>
      cases hx
      cases x with
      | failure f => exact ⟨f, rfl⟩
      | cancelled => exact absurd rfl hsteady

end ErrandRuns

theorem errandRuns_errandsOf {p : Program (Except Interruption α)} :
    ∀ q ∈ c.errandsOf p, ErrandRuns q ∧ q.failure? = none := by
  intro q hq
  obtain ⟨errand, ids, next, id, rfl, rfl⟩ := Cache.exists_of_mem_errandsOf hq
  exact ⟨c.errandRuns errand id, by cases errand <;> rfl⟩

/-! ## Loads -/

/-- What is done on the way to a program is of the kind that the whole is of. -/
theorem Program.Only.forall_of_leads {P : Operation → Prop} {p q : Program α} {tr : List Exchange}
    (hp : p.Only P) (hleads : p.Leads tr q) : ∀ e ∈ tr, P e.op := by
  induction tr generalizing p with
  | nil => exact List.forall_mem_nil _
  | cons e tr ih =>
    cases p with
    | done => exact hleads.elim
    | call op next =>
      obtain ⟨time, source, reply, rfl, hleads⟩ := hleads
      exact List.forall_mem_cons.2 ⟨hp.1, ih (hp.2 reply) hleads⟩

namespace Strand

namespace IsLoad

variable {t : Strand RuleSet}

/-- A load counts no events and is not cancelled. -/
theorem keeps_steady (h : t.IsLoad c user n) :
    t.program.Keeps Exchange.IsReliable (fun tr op => op.IsUneventful ∧ AwaitsJoined tr op)
      (fun _ r => r ≠ .error .cancelled) t.trace := by
  refine Program.Keeps.of_leads (c.steady_load user n []) h.leads fun e he => ?_
  refine (h.honest e he).isReliable fun m hm => ?_
  have hop := (c.only_load user n).forall_of_leads h.leads e he
  rw [hm] at hop
  exact hop

theorem ne_cancelled (h : t.IsLoad c user n) {r : Except Interruption RuleSet}
    (hdone : t.program = .done r) : r ≠ .error .cancelled := by
  have hkeeps := h.keeps_steady
  rw [hdone] at hkeeps
  exact hkeeps

theorem isUneventful (h : t.IsLoad c user n) {op : Operation}
    {next : op.Reply → Program (Except Interruption RuleSet)}
    (hprogram : t.program = .call op next) : op.IsUneventful := by
  have hkeeps := h.keeps_steady
  rw [hprogram] at hkeeps
  exact hkeeps.1.1

end IsLoad

/-! ## Strands of callers -/

/-- The strand has come to where it is from the program, by replies that can be relied on. -/
structure Performs (t : Strand α) (p : Program (Except Interruption α)) : Prop where
  leads : p.Leads t.trace t.program
  reliable : ∀ e ∈ t.trace, e.IsReliable
  errands : ∀ q ∈ t.parts, ErrandRuns q
  notes : t.NotesFailures

variable {t : Strand α} {p : Program (Except Interruption α)}

theorem notesFailures_of_errandsOf {rest : Program (Except Interruption α)}
    (hparts : t.parts = c.errandsOf rest) (hfailed : t.failed = none) : t.NotesFailures := by
  refine ⟨fun x hx => ?_, fun _ q hq => ?_⟩
  · cases hfailed.symm.trans hx
  · rw [hparts] at hq
    exact (errandRuns_errandsOf q hq).2

theorem performs_start (c : Cache) (begun : Nat) (p : Program (Except Interruption α)) :
    (start c begun p).Performs p where
  leads := rfl
  reliable := List.forall_mem_nil _
  errands := fun q hq => (errandRuns_errandsOf q hq).1
  notes := notesFailures_of_errandsOf rfl rfl

namespace Performs

variable (h : t.Performs p)
include h

theorem go {op : Operation} {next : op.Reply → Program (Except Interruption α)}
    (hprogram : t.program = .call op next) {time : Nat} {source : Mark} {reply : op.Reply}
    (hreliable : Exchange.IsReliable ⟨time, source, op, reply⟩) :
    (t.go c ⟨time, source, op, reply⟩ (next reply)).Performs p where
  leads := (hprogram ▸ h.leads).snoc time source reply
  reliable := List.forall_mem_append.2 ⟨h.reliable, List.forall_mem_singleton.2 hreliable⟩
  errands := fun q hq => (errandRuns_errandsOf q hq).1
  notes := notesFailures_of_errandsOf rfl rfl

theorem goErrand (i time : Nat) (op : Operation) {q : ErrandProgram} (hq : ErrandRuns q) :
    (t.goErrand i time op q).Performs p where
  leads := h.leads
  reliable := h.reliable
  errands := fun q' hq' => (List.mem_or_eq_of_mem_set hq').elim (h.errands q') (· ▸ hq)
  notes := h.notes.goErrand i time op fun _ => hq.exists_failure

/-- What the whole program keeps to, the rest of it keeps to. -/
theorem keeps {G : List Exchange → Operation → Prop}
    {Q : List Exchange → Except Interruption α → Prop} (hp : p.Keeps Exchange.IsReliable G Q []) :
    t.program.Keeps Exchange.IsReliable G Q t.trace :=
  hp.of_leads h.leads h.reliable

end Performs

end Strand

end HouseholdAccess
