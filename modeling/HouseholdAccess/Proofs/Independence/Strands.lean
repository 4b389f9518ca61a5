import HouseholdAccess.Proofs.Cache.Twins
import HouseholdAccess.Proofs.Independence.Places

/-!
# Strands of a user

Whatever is replied, callers and loads of a user carry out operations about that user only
(`Strand.BelongsTo`). Two strands of a user *look alike* (`Strand.LooksLike`) if they do the
same while loads go by other numbers for one than for the other: so it is with two callers
who have made the same call, and with two loads (`Strand.looksLike_caller`,
`Strand.looksLike_load`).
-/

namespace HouseholdAccess

open HouseholdAccess.Flow

variable {α : Type} {user : Id} {R : Nat → Nat → Prop} {c : Cache} {n m : Nat}

/-! ## What is done for a user -/

/-- The operation is about the user, and has no rule sets dropped by errands. -/
def Operation.IsOwn (user : Id) (op : Operation) : Prop :=
  op.IsAbout user ∧ ∀ ids, op ≠ .each .invalidate ids

/-- The operation asks for the users of a household. -/
def Operation.AsksMembers : Operation → Prop
  | .access (.members _) | .access (.aiUsers _) => True
  | _ => False

theorem Operation.AsksMembers.isAbout {op : Operation} (h : op.AsksMembers) (user : Id) :
    op.IsAbout user := by
  cases op with
  | access a =>
    cases a with
    | members | aiUsers => trivial
    | _ => exact h.elim
  | _ => exact h.elim

/-- What a user has done is replied to alike, but loads may go by other numbers. -/
def Terms.ofUser (user : Id) (R : Nat → Nat → Prop) : Terms where
  allows
    | .access (.cacheGet v) | .access (.cacheSet v _ _) | .access (.cacheDelete v)
    | .joinLoad v => v = user
    | op => op.IsBesideCache user
  replies
    | .joinLoad _, n, m => R n m
    | _, r, r' => r = r'
  asks := R
  waits := R

theorem Terms.ofUser_passes {op : Operation} (hop : op.IsBesideCache user) :
    (Terms.ofUser user R).Passes op := by
  cases op with
  | access a =>
    cases a with
    | cacheGet | cacheSet | cacheDelete => exact hop.elim
    | _ => exact ⟨hop, id⟩
  | joinLoad => exact hop.elim
  | _ => exact ⟨hop, id⟩

theorem Operation.isOwn_of_allows {op : Operation} (hop : (Terms.ofUser user R).allows op) :
    op.IsOwn user := by
  cases op with
  | access a =>
    refine ⟨?_, by simp⟩
    cases a with
    | cacheSize | cacheInfo | cachePing | cacheOpen | cacheClose | storeStart | storeStop
    | storePing | brokerConnect | brokerSubscribe => exact hop.elim
    | _ => exact hop
  | each errand ids => exact ⟨trivial, fun _ h => hop (Operation.each.inj h).1⟩
  | joinLoad | overtake | count => exact ⟨hop, by simp⟩
  | _ => exact hop.elim

/-- A cache is used in the same way, whatever the numbers of loads. -/
theorem Cache.twins_ofUser (c : Cache) (user : Id) : c.Twins (.ofUser user R) user c where
  store := rfl
  timeToLive := rfl
  get := by
    have hget : (Terms.ofUser user R).Passes (.access (.cacheGet user)) := ⟨rfl, id⟩
    cases c.kind with
    | «local» => exact twins_access hget
    | shared => exact (twins_access hget).recover fun _ => twins_pure none
  set text := by
    have hset : (Terms.ofUser user R).Passes
        (.access (.cacheSet user text (.ofInt c.timeToLive))) := ⟨rfl, id⟩
    have hput := (twins_access hset).bind fun _ => twins_pure true
    cases c.kind with
    | «local» => exact hput
    | shared => exact hput.recover fun _ => twins_pure false
  delete hflow := by
    have hdelete : (Terms.ofUser user R).Passes (.access (.cacheDelete user)) := ⟨rfl, id⟩
    cases c.kind with
    | «local» => exact (twins_access hdelete).bind fun _ => hflow
    | shared => exact ((twins_access hdelete).recover fun _ => twins_fail _).bind fun _ => hflow

/-- Loads do the same under corresponding numbers. -/
theorem Cache.twins_load (c : Cache) (user : Id) (h : R n m) :
    (c.load user n).Twins (.ofUser user R) (c.load user m) :=
  (c.twins_ofUser user).load (fun _ => Terms.ofUser_passes) h

/-- Those who make the same call do the same. -/
theorem Call.twins_flow (s : Service) {call : Call} (hcall : call.IsAbout user) :
    (call.flow s).Twins (.ofUser user R) (call.flow s) :=
  Cache.Twins.flow (fun _ => Terms.ofUser_passes) rfl (fun _ _ => id)
    (s.cache.twins_ofUser user) hcall

/-- What does the same as itself is about the user. -/
theorem Program.Twins.only_isOwn {p : Program α} (h : p.Twins (.ofUser user Eq) p) :
    p.Only (Operation.IsOwn user) := by
  refine h.only (fun op r => ?_) (fun _ => Operation.isOwn_of_allows)
    (fun _ => ⟨trivial, by simp⟩) fun _ => ⟨trivial, by simp⟩
  cases op <;> rfl

theorem Program.Twins.result?_eq {T : Terms} {p q : Program α} (h : p.Twins T q) :
    q.result? = p.result? := by
  cases h <;> rfl

/-! ## Errands -/

/-- The errands of a user ask for the users of households. -/
theorem Cache.only_errandsOf {p : Program α} (h : p.Only (Operation.IsOwn user)) :
    ∀ q ∈ c.errandsOf p, q.Only Operation.AsksMembers := by
  intro q hq
  obtain ⟨errand, ids, next, id, rfl, rfl⟩ := exists_of_mem_errandsOf hq
  cases errand with
  | invalidate => exact absurd rfl (h.1.2 ids)
  | members | aiUsers => exact only_access trivial

/-- Those who do the same have the same errands. -/
theorem Cache.errandsOf_eq {p q : Program α} (h : p.Twins (.ofUser user R) q) :
    c.errandsOf q = c.errandsOf p := by
  cases h with
  | @call op _ _ _ _ => cases op <;> rfl
  | _ => rfl

/-! ## Strands -/

namespace Strand

/-- What is still to be done is about the user. -/
structure BelongsTo (user : Id) (t : Strand α) : Prop where
  program : t.program.Only (Operation.IsOwn user)
  parts : ∀ p ∈ t.parts, p.Only Operation.AsksMembers

/-- What is still to be done for the user is the same, but loads go by other numbers. -/
structure LooksLike (user : Id) (R : Nat → Nat → Prop) (t u : Strand α) : Prop where
  program : t.program.Twins (.ofUser user R) u.program
  parts : u.parts = t.parts
  failed : u.failed = t.failed

theorem belongsTo_start (begun : Nat) {p : Program (Except Interruption α)}
    (hp : p.Only (Operation.IsOwn user)) : (start c begun p).BelongsTo user :=
  ⟨hp, Cache.only_errandsOf hp⟩

theorem looksLike_start (begun begun' : Nat) {p q : Program (Except Interruption α)}
    (h : p.Twins (.ofUser user R) q) : (start c begun p).LooksLike user R (start c begun' q) :=
  ⟨h, Cache.errandsOf_eq h, rfl⟩

theorem belongsTo_load (begun : Nat) (c d : Cache) (user : Id) (n : Nat) :
    (start d begun (c.load user n).run).BelongsTo user :=
  belongsTo_start begun (Program.Twins.only_isOwn (c.twins_load user rfl))

/-- Loads of the user look alike. -/
theorem looksLike_load (begun begun' : Nat) (c d : Cache) (user : Id) (h : R n m) :
    (start d begun (c.load user n).run).LooksLike user R (start d begun' (c.load user m).run) :=
  looksLike_start begun begun' (c.twins_load user h)

theorem belongsTo_caller (begun : Nat) (s : Service) {call : Call} (hcall : call.IsAbout user) :
    (start c begun (call.flow s).run).BelongsTo user :=
  belongsTo_start begun (Program.Twins.only_isOwn (call.twins_flow s hcall))

/-- Callers who have made the same call look alike. -/
theorem looksLike_caller (begun begun' : Nat) (s : Service) {call : Call}
    (hcall : call.IsAbout user) :
    (start c begun (call.flow s).run).LooksLike user R (start c begun' (call.flow s).run) :=
  looksLike_start begun begun' (call.twins_flow s hcall)

variable {t u : Strand α}

theorem BelongsTo.go (h : t.BelongsTo user) (e : Exchange) {op : Operation}
    {next : op.Reply → Program (Except Interruption α)} (hp : t.program = .call op next)
    (reply : op.Reply) : (t.go c e (next reply)).BelongsTo user := by
  have hprogram := h.program
  rw [hp] at hprogram
  exact ⟨hprogram.2 reply, Cache.only_errandsOf (hprogram.2 reply)⟩

/-- An errand that goes on belongs to the same user. -/
theorem BelongsTo.goErrand (h : t.BelongsTo user) (i time : Nat) {op : Operation}
    {next : op.Reply → ErrandProgram} (hp : t.parts[i]? = some (.call op next)) (reply : op.Reply) :
    op.AsksMembers ∧ (t.goErrand i time op (next reply)).BelongsTo user := by
  have hpart := h.parts _ (List.mem_of_getElem? hp)
  refine ⟨hpart.1, h.program, fun q hq => ?_⟩
  rcases List.mem_or_eq_of_mem_set hq with hq | rfl
  · exact h.parts q hq
  · exact hpart.2 reply

namespace LooksLike

variable (h : t.LooksLike user R u)
include h

/-- What one has come to the other has come to. -/
theorem result?_eq : u.program.result? = t.program.result? := h.program.result?_eq

theorem gathered?_eq : u.gathered? = t.gathered? := by
  rw [gathered?, gathered?, h.parts, h.failed]

omit h in
theorem go (e e' : Exchange) {p q : Program (Except Interruption α)}
    (hpq : p.Twins (.ofUser user R) q) : (t.go c e p).LooksLike user R (u.go c e' q) :=
  ⟨hpq, Cache.errandsOf_eq hpq, rfl⟩

theorem goErrand (i time time' : Nat) (op : Operation) (rest : ErrandProgram) :
    (t.goErrand i time op rest).LooksLike user R (u.goErrand i time' op rest) :=
  ⟨h.program, by rw [Strand.goErrand, Strand.goErrand, h.parts],
    by rw [Strand.goErrand, Strand.goErrand, h.failed]⟩

end LooksLike

end Strand

end HouseholdAccess
