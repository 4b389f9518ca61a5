import HouseholdAccess.Event.Handling
import HouseholdAccess.Proofs.Cache.Steady

/-!
# Accounting for messages

Whatever a message says and whatever fails while it is handled, it is handled to the end,
which is counted once: among the events that are applied if it has been handled, and among
those that fail otherwise. What log lines say about it is dropped (`Cache.keeps_handleMessage`).

The messages of a batch are handled one after the other, each of them once
(`Cache.Dispatches`), no matter what has become of those before (`Cache.keeps_handleBatch`).
So the events that a batch counts add up (`Cache.Dispatches.eventsIn_eq`).
-/

namespace HouseholdAccess

open HouseholdAccess.Flow

variable {tr tr' : List Exchange}

/-! ## Traces -/

/-- How many events that end so are counted. -/
def eventsIn (ok : Bool) (tr : List Exchange) : Nat := tr.countP fun e => e.op.countsEvent ok

/-- What log lines say in the end. -/
def boundAfter (fields : Entries) (tr : List Exchange) : Entries :=
  tr.foldl (fun fields e => e.op.boundAfter fields) fields

theorem eventsIn_append (ok : Bool) (tr tr' : List Exchange) :
    eventsIn ok (tr ++ tr') = eventsIn ok tr + eventsIn ok tr' := List.countP_append

theorem boundAfter_append (fields : Entries) (tr tr' : List Exchange) :
    boundAfter fields (tr ++ tr') = boundAfter (boundAfter fields tr) tr' := List.foldl_append

theorem eventsIn_eq_zero (h : ∀ e ∈ tr, e.op.CountsNoEvent) (ok : Bool) : eventsIn ok tr = 0 :=
  List.countP_eq_zero.2 fun e he => by rw [h e he ok]; exact Bool.false_ne_true

theorem eventsIn_count_event (type : String) (b ok : Bool) (time : Nat) (source : Mark) (u : Unit) :
    eventsIn ok [⟨time, source, .count (.event type b), u⟩] = [b].count ok := by
  rw [eventsIn, List.countP_singleton, List.count_singleton, Operation.countsEvent,
    Series.isOfEvents_event]

/-- A load that has been joined before stays joined. -/
theorem awaitsJoined_append (before : List Exchange) {op : Operation} (h : AwaitsJoined tr op) :
    AwaitsJoined (before ++ tr) op := by
  cases op with
  | awaitLoad n =>
    obtain ⟨e, he, hjoins⟩ := h
    exact ⟨e, List.mem_append_right _ he, hjoins⟩
  | _ => trivial

namespace Flow

variable {α β : Type} {R : Exchange → Prop} {flow : Flow α}

/-- A steady flow comes to a result or to a failure, by operations of its kind. -/
theorem Steady.keeps {P : Operation → Prop} (h : flow.Steady P) :
    flow.Keeps Exchange.IsReliable AwaitsJoined
      (fun tr r => ((∃ a, r = .ok a) ∨ ∃ f, r = .error (.failure f)) ∧ ∀ e ∈ tr, P e.op) [] := by
  refine Keeps.mono (Program.Keeps.forall_op (h []) (List.forall_mem_nil _)) ?_
  rintro tr r ⟨hr, hall⟩
  refine ⟨?_, hall⟩
  match r with
  | .ok a => exact .inl ⟨a, rfl⟩
  | .error (.failure f) => exact .inr ⟨f, rfl⟩
  | .error .cancelled => exact absurd rfl hr

/-- Two flows that are never interrupted, one after the other. -/
theorem Keeps.then {f : α → Flow β} {P : List Exchange → α → Prop} {Q : List Exchange → β → Prop}
    (hflow : flow.Keeps R AwaitsJoined (fun tr r => ∃ a, r = .ok a ∧ P tr a) [])
    (hf : ∀ tr a, P tr a →
      (f a).Keeps R AwaitsJoined (fun rest r => ∃ b, r = .ok b ∧ Q (tr ++ rest) b) []) :
    (flow >>= f).Keeps R AwaitsJoined (fun tr r => ∃ b, r = .ok b ∧ Q tr b) [] := by
  refine Keeps.bind hflow ?_ ?_
  · rintro tr a ⟨_, hr, ha⟩
    cases hr
    have hshift : Program.Keeps R AwaitsJoined _ (f a).run (tr ++ []) :=
      Program.Keeps.shift tr (hf tr a ha) fun _ _ => awaitsJoined_append tr
    rw [List.append_nil] at hshift
    refine Keeps.mono hshift ?_
    rintro _ r ⟨rest, rfl, hrest⟩
    exact hrest
  · rintro tr e ⟨a, hr, -⟩
    cases hr

end Flow

/-! ## One message -/

/-- A message is accounted for: it is counted once, as one that has been handled or has not, and log
    lines say nothing of it any more. -/
structure Accounts (b : Bool) (tr : List Exchange) : Prop where
  counted : ∀ ok, eventsIn ok tr = [b].count ok
  unbound : ∀ fields, boundAfter fields tr = []

namespace Cache

variable (c : Cache)

theorem steady_dropHousehold (e : RoleChangeEvent) :
    (c.dropHousehold e).Steady Operation.IsUneventful := by
  rw [dropHousehold]
  cases e.household with
  | none => exact steady_pure _
  | some household =>
    by_cases h : (e.type.isMembership && household.isTruthy) = true
    · simp only [h]
      exact c.steady_invalidateHousehold household
    · simp only [h]
      exact steady_pure _

theorem steady_refreshUser (e : RoleChangeEvent) :
    (c.refreshUser e).Steady Operation.IsUneventful := by
  rw [refreshUser]
  cases e.user with
  | none => exact steady_pure _
  | some user =>
    by_cases h : user.isTruthy = true
    · simp only [h]
      exact (c.steady_recompute user).bind fun _ => steady_pure _
    · simp only [h]
      exact steady_pure _

/-- An event is handled without counting events; that is done by who has it handled. -/
theorem steady_handle (e : RoleChangeEvent) : (c.handle e).Steady Operation.CountsNoEvent := by
  have hbind : (step (.bind (logFields e))).Steady Operation.CountsNoEvent :=
    steady_step (fun _ => rfl) nofun
  have hdrop := (c.steady_dropHousehold e).mono fun _ => Operation.IsUneventful.counts
  have hrefresh := (c.steady_refreshUser e).mono fun _ => Operation.IsUneventful.counts
  exact hbind.bind fun _ => hdrop.bind fun _ => hrefresh.bind fun _ => steady_pure _

theorem steady_applyPayload (topic : String) (payload : Value) :
    (c.applyPayload topic payload).Steady Operation.CountsNoEvent :=
  (steady_ofExcept _).bind fun e => (c.steady_handle e).bind fun _ => steady_pure _

/-- What becomes of a message: its event is handled, and said of which type it is, or its failure is
    counted. -/
def tried (topic : String) (payload : Value) : Flow (Option EventType) :=
  (do let type ← c.applyPayload topic payload; return some type : Flow (Option EventType)).recover
    fun _ => do
      count (.event topic false)
      return none

/-- What has been counted when it is known what has become of a message: its failure. -/
def CountsFailure (tr : List Exchange) (outcome : Option EventType) : Prop :=
  ∀ ok, eventsIn ok tr = if outcome.isSome then 0 else [false].count ok

theorem keeps_tried (topic : String) (payload : Value) :
    (c.tried topic payload).Keeps Exchange.IsReliable AwaitsJoined
      (fun tr r => ∃ outcome, r = .ok outcome ∧ CountsFailure tr outcome) [] := by
  have hhandled : (do let type ← c.applyPayload topic payload; return some type :
      Flow (Option EventType)).Keeps Exchange.IsReliable AwaitsJoined
        (fun tr r => ((∃ type, r = .ok (some type)) ∨ ∃ f, r = .error (.failure f)) ∧
          ∀ ok, eventsIn ok tr = 0) [] := by
    refine Keeps.bind (c.steady_applyPayload topic payload).keeps ?_ ?_
    · rintro tr type ⟨-, hall⟩
      exact keeps_pure ⟨.inl ⟨type, rfl⟩, eventsIn_eq_zero hall⟩
    · rintro tr e ⟨⟨type, hr⟩ | ⟨f, hr⟩, hall⟩
      · cases hr
      · cases hr
        exact ⟨.inr ⟨f, rfl⟩, eventsIn_eq_zero hall⟩
  refine Keeps.recover hhandled ?_ ?_ ?_
  · rintro tr outcome ⟨⟨type, hr⟩ | ⟨f, hr⟩, hzero⟩
    · cases hr
      exact ⟨some type, rfl, hzero⟩
    · cases hr
  · rintro tr f ⟨-, hzero⟩
    refine keeps_bind (keeps_step _ trivial fun time source reply _ => keeps_pure ?_)
    refine ⟨none, rfl, fun ok => ?_⟩
    rw [eventsIn_append, hzero, eventsIn_count_event, Nat.zero_add]
    rfl
  · rintro tr ⟨⟨type, hr⟩ | ⟨f, hr⟩, -⟩ <;> cases hr

/-- A message is handled to the end, and accounted for. -/
theorem keeps_handleMessage (topic : String) (payload : Value) :
    (c.handleMessage topic payload).Keeps Exchange.IsReliable AwaitsJoined
      (fun tr r => ∃ b, r = .ok b ∧ Accounts b tr) [] := by
  -- The fields are dropped when it is known what has become of the message.
  have hclosed : ((c.tried topic payload).atLast (Program.perform .unbind)).Keeps
      Exchange.IsReliable AwaitsJoined (fun tr r => ∃ outcome, r = .ok outcome ∧
        CountsFailure tr outcome ∧ ∀ fields, boundAfter fields tr = []) [] := by
    refine Keeps.atLast (c.keeps_tried topic payload) ?_
    rintro tr _ ⟨outcome, rfl, hcounts⟩
    refine ⟨trivial, fun time source reply _ => ⟨outcome, rfl, fun ok => ?_, fun fields => ?_⟩⟩
    · rw [eventsIn_append, hcounts]
      rfl
    · rw [boundAfter_append]
      rfl
  refine Keeps.then hclosed fun tr outcome ⟨hcounts, hunbound⟩ => ?_
  cases outcome with
  | none =>
    refine keeps_pure ⟨false, rfl, fun ok => ?_, fun fields => ?_⟩
    · rw [List.append_nil, hcounts]
      rfl
    · rw [List.append_nil, hunbound]
  | some type =>
    refine keeps_bind (keeps_step _ trivial fun time source reply _ => keeps_pure ?_)
    refine ⟨true, rfl, fun ok => ?_, fun fields => ?_⟩
    · rw [eventsIn_append, hcounts, List.nil_append, eventsIn_count_event]
      exact Nat.zero_add _
    · rw [boundAfter_append, hunbound]
      rfl

/-! ## Batches -/

/-- The messages of a batch, in order, each with its topic. -/
def Batch.messages (b : Batch) : List (String × Value) :=
  b.flatMap fun (topic, payloads) => payloads.map (topic, ·)

/-- The messages are handled one after the other, each of them once, and have been applied or
    not. -/
inductive Dispatches (c : Cache) : List (String × Value) → List Exchange → List Bool → Prop
  | nil : Dispatches c [] [] []
  | cons {topic : String} {payload : Value} {rest : List (String × Value)}
      {tr tr' : List Exchange} {b : Bool} {applied : List Bool} :
    (c.handleMessage topic payload).run.Follows tr (.ok b) → Dispatches c rest tr' applied →
      Dispatches c ((topic, payload) :: rest) (tr ++ tr') (b :: applied)

namespace Dispatches

variable {c} {messages messages' : List (String × Value)} {applied applied' : List Bool}

theorem append (h : Dispatches c messages tr applied) (h' : Dispatches c messages' tr' applied') :
    Dispatches c (messages ++ messages') (tr ++ tr') (applied ++ applied') := by
  induction h with
  | nil => exact h'
  | cons hfirst _ ih =>
    rw [List.append_assoc]
    exact .cons hfirst ih

theorem length_eq (h : Dispatches c messages tr applied) : applied.length = messages.length := by
  induction h with
  | nil => rfl
  | cons _ _ ih => rw [List.length_cons, List.length_cons, ih]

/-- As many events are counted as have been applied, and as many failures as have not. -/
theorem eventsIn_eq (h : Dispatches c messages tr applied) (hreliable : ∀ e ∈ tr, e.IsReliable)
    (ok : Bool) : eventsIn ok tr = applied.count ok := by
  induction h with
  | nil => rfl
  | @cons topic payload rest tr tr' b applied hfirst _ ih =>
    obtain ⟨hmessage, hrest⟩ := List.forall_mem_append.1 hreliable
    obtain ⟨_, hb, hcounts⟩ :=
      Program.Keeps.of_follows (c.keeps_handleMessage topic payload) hfirst hmessage
    cases hb
    rw [eventsIn_append, ih hrest, ← List.singleton_append, List.count_append]
    exact congrArg (· + _) (hcounts.counted ok)

/-- After the last message, log lines say nothing of any. -/
theorem boundAfter_eq (h : Dispatches c messages tr applied) (hreliable : ∀ e ∈ tr, e.IsReliable)
    (hmessages : messages ≠ []) (fields : Entries) : boundAfter fields tr = [] := by
  induction h generalizing fields with
  | nil => exact absurd rfl hmessages
  | @cons topic payload rest tr tr' b applied hfirst hrest ih =>
    obtain ⟨hmessage, hreliable⟩ := List.forall_mem_append.1 hreliable
    obtain ⟨_, hb, haccounts⟩ :=
      Program.Keeps.of_follows (c.keeps_handleMessage topic payload) hfirst hmessage
    have hunbound : boundAfter fields tr = [] := haccounts.unbound fields
    rw [boundAfter_append, hunbound]
    cases hrest with
    | nil => rfl
    | cons hsecond hrest => exact ih hreliable (List.cons_ne_nil _ _) []

end Dispatches

/-- Messages under one topic are handled one after the other. -/
theorem keeps_handleMessages (topic : String) (payloads : List Value) :
    (c.handleMessages topic payloads).Keeps Exchange.IsReliable AwaitsJoined (fun tr r =>
      ∃ n, r = .ok n ∧ ∃ applied, Dispatches c (payloads.map (topic, ·)) tr applied ∧
        n = applied.count true) [] := by
  induction payloads with
  | nil => exact keeps_pure ⟨0, rfl, [], .nil, rfl⟩
  | cons payload rest ih =>
    have hfirst : (c.handleMessage topic payload).Keeps Exchange.IsReliable AwaitsJoined
        (fun tr r => ∃ b, r = .ok b ∧
          (c.handleMessage topic payload).run.Follows tr (.ok b)) [] := by
      refine Keeps.mono (Program.Keeps.follows (c.keeps_handleMessage topic payload)) ?_
      rintro _ _ ⟨⟨b, rfl, -⟩, tr, rfl, hfollows⟩
      exact ⟨b, rfl, hfollows⟩
    refine Keeps.then hfirst fun tr b hb => ?_
    refine Keeps.then ih fun tr' n ⟨applied, hrest, hn⟩ => ?_
    refine keeps_pure ⟨_, rfl, b :: applied, ?_, ?_⟩
    · rw [List.append_nil]
      exact .cons hb hrest
    · rw [hn, List.count_cons, Nat.add_comm]
      cases b <;> rfl

/-- The messages of a batch are handled one after the other, whatever becomes of them, and the batch
    comes to the number of those that have been applied. -/
theorem keeps_handleBatch (b : Batch) :
    (c.handleBatch b).Keeps Exchange.IsReliable AwaitsJoined (fun tr r =>
      ∃ n, r = .ok n ∧ ∃ applied, Dispatches c (Batch.messages b) tr applied ∧
        n = applied.count true) [] := by
  induction b with
  | nil => exact keeps_pure ⟨0, rfl, [], .nil, rfl⟩
  | cons part rest ih =>
    obtain ⟨topic, payloads⟩ := part
    refine Keeps.then (c.keeps_handleMessages topic payloads) fun tr n ⟨applied, hfirst, hn⟩ => ?_
    refine Keeps.then ih fun tr' n' ⟨applied', hrest, hn'⟩ => ?_
    refine keeps_pure ⟨_, rfl, applied ++ applied', ?_, ?_⟩
    · rw [List.append_nil]
      exact hfirst.append hrest
    · rw [hn, hn', List.count_append]

end Cache

end HouseholdAccess
