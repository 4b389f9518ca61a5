import HouseholdAccess.Proofs.Stage.Behaviour

/-!
# The times on a stage

Everything on a stage has happened before now (`Stage.Timed`), and what a strand has
done is in order, after the strand was begun (`Strand.Timed`).
-/

namespace HouseholdAccess

variable {α : Type}

/-- What the strand has done is in order, and between its beginning and now. -/
structure Strand.Timed (now : Nat) (t : Strand α) : Prop where
  begun : t.begun < now
  times : ∀ e ∈ t.trace, t.begun < e.time ∧ e.time < now
  increasing : t.trace.Pairwise fun e e' => e.time < e'.time
  reads : ∀ r ∈ t.reads, t.begun < r ∧ r < now
  noted : ∀ e ∈ t.trace, e.op.readsRoles = true → e.time ∈ t.reads

namespace Strand

variable {t : Strand α} {now now' : Nat}

theorem Timed.mono (h : t.Timed now) (hnow : now ≤ now') : t.Timed now' where
  begun := h.begun.trans_le hnow
  times := fun e he => ⟨(h.times e he).1, (h.times e he).2.trans_le hnow⟩
  increasing := h.increasing
  reads := fun r hr => ⟨(h.reads r hr).1, (h.reads r hr).2.trans_le hnow⟩
  noted := h.noted

theorem timed_start {c : Cache} {p : Program (Except Interruption α)} :
    (start c now p).Timed (now + 1) where
  begun := Nat.lt_succ_self now
  times := List.forall_mem_nil _
  increasing := List.Pairwise.nil
  reads := List.forall_mem_nil _
  noted := List.forall_mem_nil _

theorem mem_readsAfter {r time : Nat} {op : Operation} :
    r ∈ t.readsAfter time op ↔ r ∈ t.reads ∨ op.readsRoles = true ∧ r = time := by
  rw [readsAfter]
  split
  · next h => simp [h]
  · next h => simp [h]

theorem Timed.readsAfter (h : t.Timed now) (op : Operation) :
    ∀ r ∈ t.readsAfter now op, t.begun < r ∧ r < now + 1 := by
  intro r hr
  rcases mem_readsAfter.1 hr with hr | ⟨-, rfl⟩
  · exact ⟨(h.reads r hr).1, (h.reads r hr).2.trans (Nat.lt_succ_self now)⟩
  · exact ⟨h.begun, Nat.lt_succ_self r⟩

theorem Timed.go (h : t.Timed now) {c : Cache} {source : Mark} {op : Operation} {reply : op.Reply}
    {rest : Program (Except Interruption α)} :
    (t.go c ⟨now, source, op, reply⟩ rest).Timed (now + 1) where
  begun := h.begun.trans (Nat.lt_succ_self now)
  times := fun e he => by
    rcases List.mem_append.1 he with he | he
    · exact ⟨(h.times e he).1, (h.times e he).2.trans (Nat.lt_succ_self now)⟩
    · obtain rfl := List.mem_singleton.1 he
      exact ⟨h.begun, Nat.lt_succ_self now⟩
  increasing := by
    refine List.pairwise_append.2 ⟨h.increasing, List.pairwise_singleton _ _, fun e he e' he' => ?_⟩
    obtain rfl := List.mem_singleton.1 he'
    exact (h.times e he).2
  reads := h.readsAfter op
  noted := fun e he hreads => by
    rcases List.mem_append.1 he with he | he
    · exact mem_readsAfter.2 (.inl (h.noted e he hreads))
    · obtain rfl := List.mem_singleton.1 he
      exact mem_readsAfter.2 (.inr ⟨hreads, rfl⟩)

theorem Timed.goErrand (h : t.Timed now) {i : Nat} {op : Operation} {p : ErrandProgram} :
    (t.goErrand i now op p).Timed (now + 1) where
  begun := h.begun.trans (Nat.lt_succ_self now)
  times := fun e he => ⟨(h.times e he).1, (h.times e he).2.trans (Nat.lt_succ_self now)⟩
  increasing := h.increasing
  reads := h.readsAfter op
  noted := fun e he hreads => mem_readsAfter.2 (.inl (h.noted e he hreads))

end Strand

namespace Stage

variable {s s' : Stage} {gathered : Option (Except Interruption (List (List Id)))}

/-- What the strand has done has been noted, unless it has had no effect. -/
def Logged (s : Stage) (t : Strand α) : Prop :=
  ∀ e ∈ t.trace, e.tookEffect = true → (e.time, e.op) ∈ s.log

/-- Everything has happened before now, and what has taken effect has been noted. -/
structure Timed (s : Stage) : Prop where
  callers : ∀ t ∈ s.callers, t.Timed s.clock ∧ s.Logged t
  loads : ∀ t ∈ s.loads, t.Timed s.clock ∧ s.Logged t
  log : ∀ x ∈ s.log, x.1 < s.clock
  entry : s.entry.time < s.clock
  form : s.form.time < s.clock

/-- What is noted after an operation was noted before it, or is the operation. -/
theorem mem_noted {e : Exchange} {x : Nat × Operation} (hx : x ∈ s.noted e) :
    x ∈ s.log ∨ x = (s.clock, e.op) ∧ e.tookEffect = true := by
  rw [noted] at hx
  split at hx
  · next heffect =>
    rcases List.mem_append.1 hx with hx | hx
    · exact .inl hx
    · exact .inr ⟨List.mem_singleton.1 hx, heffect⟩
  · exact .inl hx

theorem mem_noted_of_tookEffect {e : Exchange} (he : e.tookEffect = true) :
    (s.clock, e.op) ∈ s.noted e := by
  rw [noted, if_pos he]
  exact List.mem_append_right _ (List.mem_singleton.2 rfl)

theorem subset_noted (s : Stage) (e : Exchange) : s.log ⊆ s.noted e := by
  rw [noted]
  split
  · exact List.subset_append_left _ _
  · exact List.Subset.refl _

theorem Logged.mono {t : Strand α} (h : s.Logged t) (hlog : s.log ⊆ s'.log) : s'.Logged t :=
  fun e he heffect => hlog (h e he heffect)

/-- A strand that goes on is noted. -/
theorem Logged.go {t : Strand α} (h : s.Logged t) {e : Exchange} {c : Cache}
    {rest : Program (Except Interruption α)} (hlog : s.log ⊆ s'.log)
    (he : e.tookEffect = true → (e.time, e.op) ∈ s'.log) : s'.Logged (t.go c e rest) := by
  intro e' he' heffect
  rcases List.mem_append.1 he' with he' | he'
  · exact hlog (h e' he' heffect)
  · obtain rfl := List.mem_singleton.1 he'
    exact he heffect

theorem Carried.timed_started {op : Operation} {reply : op.Reply} {place : Solo}
    {started : List (Strand RuleSet)} (hc : s.Carried gathered op reply place started)
    (s' : Stage) : ∀ t ∈ started, t.Timed (s.clock + 1) ∧ s'.Logged t := by
  cases hc with
  | started => exact List.forall_mem_singleton.2 ⟨Strand.timed_start, List.forall_mem_nil _⟩
  | _ => exact List.forall_mem_nil _

/-- An operation takes effect now. -/
theorem Timed.after (h : s.Timed) {op : Operation} {place : Solo} {reply : op.Reply}
    {started : List (Strand RuleSet)} (hc : s.Carried gathered op reply place started)
    (load : Option Nat) : (s.after load (s.exchange op reply) place started).Timed where
  callers := fun t ht =>
    ⟨(h.callers t ht).1.mono (Nat.le_succ _), (h.callers t ht).2.mono (s.subset_noted _)⟩
  loads := fun t ht => by
    rcases List.mem_append.1 ht with ht | ht
    · exact ⟨(h.loads t ht).1.mono (Nat.le_succ _), (h.loads t ht).2.mono (s.subset_noted _)⟩
    · exact hc.timed_started _ t ht
  log := fun x hx => by
    rcases mem_noted hx with hx | ⟨rfl, -⟩
    · exact (h.log x hx).trans (Nat.lt_succ_self _)
    · exact Nat.lt_succ_self s.clock
  entry := by
    simp only [Stage.after]
    split
    · exact Nat.lt_succ_self s.clock
    · exact h.entry.trans (Nat.lt_succ_self s.clock)
  form := by
    simp only [Stage.after]
    split
    · exact Nat.lt_succ_self s.clock
    · exact h.form.trans (Nat.lt_succ_self s.clock)

theorem Timed.of_moves {user : Id} (hs : s.Timed) (h : s.Moves user s') : s'.Timed := by
  cases h with
  -- Who enters begins now, and has done nothing. The clock goes on for everybody.
  | entered hcall =>
    refine ⟨fun t ht => ?_, fun t ht => ?_, fun x hx => (hs.log x hx).trans (Nat.lt_succ_self _),
      hs.entry.trans (Nat.lt_succ_self _), hs.form.trans (Nat.lt_succ_self _)⟩
    · rcases List.mem_append.1 ht with ht | ht
      · exact ⟨(hs.callers t ht).1.mono (Nat.le_succ _), (hs.callers t ht).2⟩
      · obtain rfl := List.mem_singleton.1 ht
        exact ⟨Strand.timed_start, List.forall_mem_nil _⟩
    · exact ⟨(hs.loads t ht).1.mono (Nat.le_succ _), (hs.loads t ht).2⟩
  | caller ht hprogram hmay hc =>
    have hafter := hs.after hc none
    refine ⟨fun t' ht' => ?_, hafter.loads, hafter.log, hafter.entry, hafter.form⟩
    rcases List.mem_or_eq_of_mem_set ht' with ht' | rfl
    · exact hafter.callers t' ht'
    · have htimed := hs.callers _ (List.mem_of_getElem? ht)
      exact ⟨htimed.1.go, htimed.2.go (s.subset_noted _) mem_noted_of_tookEffect⟩
  | @load n t _ _ _ _ ht hprogram hmay hc =>
    have hafter := hs.after hc (some n)
    refine ⟨hafter.callers, fun t' ht' => ?_, hafter.log, hafter.entry, hafter.form⟩
    rcases List.mem_or_eq_of_mem_set ht' with ht' | rfl
    · exact hafter.loads t' (List.mem_append_left _ ht')
    · have htimed := hs.loads _ (List.mem_of_getElem? ht)
      exact ⟨htimed.1.go, htimed.2.go (s.subset_noted _) mem_noted_of_tookEffect⟩
  -- An errand adds to the times at which its load has read role data, not to its trace.
  | @errand n i t a reply place p ht hpassed hactive hreads hroles hp hc =>
    have hafter := hs.after hc (some n)
    refine ⟨hafter.callers, fun t' ht' => ?_, hafter.log, hafter.entry, hafter.form⟩
    rcases List.mem_or_eq_of_mem_set ht' with ht' | rfl
    · exact hafter.loads t' (List.mem_append_left _ ht')
    · have htimed := hs.loads _ (List.mem_of_getElem? ht)
      exact ⟨htimed.1.goErrand, htimed.2.mono (s.subset_noted _)⟩
  | forgot => exact ⟨hs.callers, hs.loads, hs.log, hs.entry, hs.form⟩
  | changed => exact ⟨hs.callers, hs.loads, hs.log, hs.entry, hs.form⟩

theorem timed_begin {service : Service} {world : World} {registry : Option Registry} :
    (begin service world registry).Timed where
  callers := List.forall_mem_nil _
  loads := List.forall_mem_nil _
  log := List.forall_mem_nil _
  entry := Nat.one_pos
  form := Nat.one_pos

end Stage

end HouseholdAccess
