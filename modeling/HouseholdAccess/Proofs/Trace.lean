import HouseholdAccess.Program

/-!
# Traces

What a program has done is told by its *trace*: the operations that it has carried
out, in order, each with the time and with the reply (`Exchange`).

* `Program.Follows`: the program comes to its end along a trace.
* `Program.Keeps`: whatever is replied, as long as the replies are such as `R`
  says, the program carries out only operations that `G` allows after the trace so
  far, and `Q` holds of the trace and the result at the end. The rules for the
  parts of a `Flow` carry this from the parts to the whole.
* `Program.Leads`: the program comes to another one along a trace. What the whole
  keeps to, the rest of it keeps to then (`Program.Keeps.of_leads`).

The time says when an operation took effect, and the source who had put there what
was read; a program does not see either.
-/

namespace HouseholdAccess

/-- Who has put something where it is, and when. -/
structure Mark where
  /-- The load that has put it there, if it has not been there from the start. -/
  load : Option Nat := none
  /-- When it was put there. -/
  time : Nat := 0
  deriving DecidableEq

/-- An operation that has been carried out. -/
structure Exchange where
  /-- When it took effect. -/
  time : Nat
  /-- Where what it has read comes from. -/
  source : Mark
  /-- The operation. -/
  op : Operation
  /-- The reply. -/
  reply : op.Reply

variable {α β : Type} {R : Exchange → Prop} {G : List Exchange → Operation → Prop}
  {tr : List Exchange}

namespace Program

/-- The program ends with the result if it is replied to as in the trace. -/
def Follows : Program α → List Exchange → α → Prop
  | .done a, tr, b => tr = [] ∧ b = a
  | .call op next, tr, b => ∃ time source reply rest,
      tr = ⟨time, source, op, reply⟩ :: rest ∧ (next reply).Follows rest b

/-- The program comes to what is still to be done if it is replied to as in the trace. -/
def Leads : Program α → List Exchange → Program α → Prop
  | p, [], q => q = p
  | .done _, _ :: _, _ => False
  | .call op next, e :: tr, q => ∃ time source reply,
      e = ⟨time, source, op, reply⟩ ∧ (next reply).Leads tr q
termination_by structural _ tr _ => tr

/-- Whatever is replied in the way of `R`, the program does only what `G` allows, and ends in the
    way of `Q`. -/
def Keeps (R : Exchange → Prop) (G : List Exchange → Operation → Prop)
    (Q : List Exchange → α → Prop) : Program α → List Exchange → Prop
  | .done a, tr => Q tr a
  | .call op next, tr => G tr op ∧ ∀ time source reply, R ⟨time, source, op, reply⟩ →
      (next reply).Keeps R G Q (tr ++ [⟨time, source, op, reply⟩])

variable {p : Program α} {P Q : List Exchange → α → Prop}

theorem Keeps.mono {G' : List Exchange → Operation → Prop} (hp : p.Keeps R G P tr)
    (hG : ∀ tr op, G tr op → G' tr op) (hQ : ∀ tr a, P tr a → Q tr a) : p.Keeps R G' Q tr := by
  induction p generalizing tr with
  | done a => exact hQ tr a hp
  | call op next ih =>
    exact ⟨hG tr op hp.1, fun time source reply hR => ih reply (hp.2 time source reply hR)⟩

theorem Keeps.bind {f : α → Program β} {Q : List Exchange → β → Prop} (hp : p.Keeps R G P tr)
    (hf : ∀ tr a, P tr a → (f a).Keeps R G Q tr) : (p >>= f).Keeps R G Q tr := by
  induction p generalizing tr with
  | done a => exact hf tr a hp
  | call op next ih =>
    exact ⟨hp.1, fun time source reply hR => ih reply (hp.2 time source reply hR)⟩

/-- Along the trace of a program that ends, `Q` holds at the end. -/
theorem Keeps.of_follows (hp : p.Keeps R G Q tr) {rest : List Exchange} {a : α}
    (hfollows : p.Follows rest a) (hrest : ∀ e ∈ rest, R e) : Q (tr ++ rest) a := by
  induction p generalizing tr rest with
  | done b =>
    obtain ⟨rfl, rfl⟩ := hfollows
    rw [List.append_nil]
    exact hp
  | call op next ih =>
    obtain ⟨time, source, reply, others, rfl, hothers⟩ := hfollows
    rw [List.forall_mem_cons] at hrest
    rw [List.append_cons]
    exact ih reply (hp.2 time source reply hrest.1) hothers hrest.2

theorem Leads.snoc {op : Operation} {next : op.Reply → Program α}
    (h : p.Leads tr (.call op next)) (time : Nat) (source : Mark) (reply : op.Reply) :
    p.Leads (tr ++ [⟨time, source, op, reply⟩]) (next reply) := by
  induction tr generalizing p with
  | nil =>
    obtain rfl : .call op next = p := h
    exact ⟨time, source, reply, rfl, rfl⟩
  | cons e tr ih =>
    cases p with
    | done => exact h.elim
    | call op' next' =>
      obtain ⟨time', source', reply', rfl, h⟩ := h
      exact ⟨time', source', reply', rfl, ih h⟩

/-- What the whole program keeps to, the rest of it keeps to. -/
theorem Keeps.of_leads (hp : p.Keeps R G Q tr) {rest : List Exchange} {q : Program α}
    (hleads : p.Leads rest q) (hrest : ∀ e ∈ rest, R e) : q.Keeps R G Q (tr ++ rest) := by
  induction rest generalizing p tr with
  | nil =>
    obtain rfl : q = p := hleads
    rwa [List.append_nil]
  | cons e rest ih =>
    cases p with
    | done => exact hleads.elim
    | call op next =>
      obtain ⟨time, source, reply, rfl, hleads⟩ := hleads
      rw [List.forall_mem_cons] at hrest
      rw [List.append_cons]
      exact ih (hp.2 time source reply hrest.1) hleads hrest.2

/-- What has been done before does not matter if it takes nothing away from what is allowed. -/
theorem Keeps.shift {G' : List Exchange → Operation → Prop} (before : List Exchange)
    (hp : p.Keeps R G Q tr) (hG : ∀ tr op, G tr op → G' (before ++ tr) op) :
    p.Keeps R G' (fun tr' a => ∃ rest, tr' = before ++ rest ∧ Q rest a) (before ++ tr) := by
  induction p generalizing tr with
  | done a => exact ⟨tr, rfl, hp⟩
  | call op next ih =>
    refine ⟨hG tr op hp.1, fun time source reply hR => ?_⟩
    rw [List.append_assoc]
    exact ih reply (hp.2 time source reply hR)

/-- If only operations of a kind are allowed, all that have been carried out are of the kind. -/
theorem Keeps.forall_op {A : Operation → Prop} (hp : p.Keeps R (fun tr op => A op ∧ G tr op) Q tr)
    (htr : ∀ e ∈ tr, A e.op) : p.Keeps R G (fun tr' a => Q tr' a ∧ ∀ e ∈ tr', A e.op) tr := by
  induction p generalizing tr with
  | done a => exact ⟨hp, htr⟩
  | call op next ih =>
    refine ⟨hp.1.2, fun time source reply hR => ih reply (hp.2 time source reply hR) ?_⟩
    exact List.forall_mem_append.2 ⟨htr, List.forall_mem_singleton.2 hp.1.1⟩

/-- A program that ends has followed its trace. -/
theorem Keeps.follows (hp : p.Keeps R G Q tr) :
    p.Keeps R G (fun tr' a => Q tr' a ∧ ∃ rest, tr' = tr ++ rest ∧ p.Follows rest a) tr := by
  induction p generalizing tr with
  | done a => exact ⟨hp, [], (List.append_nil tr).symm, rfl, rfl⟩
  | call op next ih =>
    refine ⟨hp.1, fun time source reply hR => ?_⟩
    refine (ih reply (hp.2 time source reply hR)).mono (fun _ _ => id) ?_
    rintro tr' a ⟨hQ, rest, rfl, hrest⟩
    exact ⟨hQ, ⟨time, source, op, reply⟩ :: rest, (List.append_cons tr _ rest).symm,
      time, source, reply, rest, rfl, hrest⟩

end Program

/-! ## Flows -/

namespace Flow

variable {flow : Flow α} {P Q : List Exchange → Except Interruption α → Prop}

/-- The program of the flow keeps to `G` and `Q`. -/
def Keeps (R : Exchange → Prop) (G : List Exchange → Operation → Prop)
    (Q : List Exchange → Except Interruption α → Prop) (flow : Flow α)
    (tr : List Exchange) : Prop :=
  Program.Keeps R G Q flow.run tr

theorem Keeps.mono (hflow : flow.Keeps R G P tr) (hQ : ∀ tr r, P tr r → Q tr r) :
    flow.Keeps R G Q tr :=
  Program.Keeps.mono hflow (fun _ _ => id) hQ

theorem keeps_pure {a : α} (hQ : Q tr (.ok a)) : (pure a : Flow α).Keeps R G Q tr := hQ

theorem keeps_fail {f : Failure} (hQ : Q tr (.error (.failure f))) :
    (fail f : Flow α).Keeps R G Q tr := hQ

/-- What the first part keeps to, the second part goes on with, unless the first is interrupted. -/
theorem Keeps.bind {f : α → Flow β} {Q : List Exchange → Except Interruption β → Prop}
    (hflow : flow.Keeps R G P tr) (hok : ∀ tr a, P tr (.ok a) → (f a).Keeps R G Q tr)
    (herror : ∀ tr e, P tr (.error e) → Q tr (.error e)) : (flow >>= f).Keeps R G Q tr := by
  refine Program.Keeps.bind hflow fun tr r hr => ?_
  cases r with
  | ok a => exact hok tr a hr
  | error e => exact herror tr e hr

/-- What is to hold before a flow goes on. -/
def Before (R : Exchange → Prop) (G : List Exchange → Operation → Prop) (f : α → Flow β)
    (Q : List Exchange → Except Interruption β → Prop) (tr : List Exchange) :
    Except Interruption α → Prop
  | .ok a => (f a).Keeps R G Q tr
  | .error e => Q tr (.error e)

theorem keeps_bind {f : α → Flow β} {Q : List Exchange → Except Interruption β → Prop}
    (hflow : flow.Keeps R G (Before R G f Q) tr) : (flow >>= f).Keeps R G Q tr :=
  Keeps.bind hflow (fun _ _ => id) fun _ _ => id

theorem Keeps.recover {handle : Failure → Flow α} (hflow : flow.Keeps R G P tr)
    (hok : ∀ tr a, P tr (.ok a) → Q tr (.ok a))
    (hfailure : ∀ tr f, P tr (.error (.failure f)) → (handle f).Keeps R G Q tr)
    (hcancelled : ∀ tr, P tr (.error .cancelled) → Q tr (.error .cancelled)) :
    (flow.recover handle).Keeps R G Q tr := by
  refine Program.Keeps.bind hflow fun tr r hr => ?_
  match r with
  | .ok a => exact hok tr a hr
  | .error (.failure f) => exact hfailure tr f hr
  | .error .cancelled => exact hcancelled tr hr

/-- What is done at the end is done however the flow ends. -/
theorem Keeps.atLast {last : Program Unit} (hflow : flow.Keeps R G P tr)
    (hlast : ∀ tr r, P tr r → Program.Keeps R G (fun tr' _ => Q tr' r) last tr) :
    (flow.atLast last).Keeps R G Q tr :=
  Program.Keeps.bind hflow fun tr r hr => Program.Keeps.bind (hlast tr r hr) fun _ _ => id

/-- What would be done after a failure does not matter to a flow that is not interrupted. -/
theorem Keeps.recover_of_ok {handle : Failure → Flow α}
    (hflow : flow.Keeps R G (fun tr r => (∃ a, r = .ok a) ∧ Q tr r) tr) :
    (flow.recover handle).Keeps R G (fun tr r => (∃ a, r = .ok a) ∧ Q tr r) tr := by
  refine Keeps.recover hflow (fun _ _ => id) ?_ fun _ => id
  rintro _ _ ⟨⟨_, hr⟩, -⟩
  cases hr

/-- A flow of one operation. -/
theorem keeps_perform (op : Operation) {f : op.Reply → Except Interruption α} (hG : G tr op)
    (hQ : ∀ time source reply, R ⟨time, source, op, reply⟩ →
      Q (tr ++ [⟨time, source, op, reply⟩]) (f reply)) :
    Program.Keeps R G Q (.call op fun reply => .done (f reply)) tr :=
  ⟨hG, hQ⟩

theorem keeps_step (op : Operation) {Q : List Exchange → Except Interruption op.Reply → Prop}
    (hG : G tr op) (hQ : ∀ time source reply, R ⟨time, source, op, reply⟩ →
      Q (tr ++ [⟨time, source, op, reply⟩]) (.ok reply)) : (step op).Keeps R G Q tr :=
  keeps_perform op hG hQ

/-- A part that does nothing but work out a value. -/
theorem keeps_ofExcept {ε : Type} {toFailure : ε → Failure} {x : Except ε α}
    (hok : ∀ a, x = .ok a → Q tr (.ok a))
    (herror : ∀ e, x = .error e → Q tr (.error (.failure (toFailure e)))) :
    (ofExcept toFailure x).Keeps R G Q tr := by
  cases x with
  | ok a => exact hok a rfl
  | error e => exact herror e rfl

theorem keeps_ofExcept_ok {ε : Type} {toFailure : ε → Failure} {x : Except ε α} {a : α}
    (hx : x = .ok a) (hQ : Q tr (.ok a)) : (ofExcept toFailure x).Keeps R G Q tr := by
  rw [hx]
  exact hQ

end Flow

end HouseholdAccess
