import HouseholdAccess.Cache
import HouseholdAccess.Proofs.Role.Kept
import HouseholdAccess.Proofs.Solo.Reading

/-!
# Systems in order

While nothing but reads of role data may fail (`World.Serves`), the uses of the
cache and of the records come to what the world answers. A *form* on a record says
a rule set (`StoreKind.Says`) if loading it gives the packed form of the rule set:
a table holds the packed form itself, a database a text of it.
-/

namespace HouseholdAccess

/-- The points that reads of role data pass. -/
def Point.isRead : Point → Bool
  | .roles | .managed | .aiUsers | .members => true
  | _ => false

/-- Nothing fails but reads of role data. -/
structure World.Serves (w : World) : Prop extends w.IsConnected where
  sound : ∀ o ∈ w.failing, o.point.isRead = true

theorem World.Serves.failureOf_eq_none {w : World} (h : w.Serves) {p : Point}
    (hp : p.isRead = false) (name : Option Id) : w.failureOf p name = none := by
  refine World.failureOf_eq_none_iff.2 fun o ho => ?_
  have hne : o.point ≠ p := by
    rintro rfl
    rw [h.sound o ho] at hp
    cases hp
  rw [Outage.isFor, decide_eq_false hne, Bool.false_and]

variable {h : Helper} {s : Solo} {user : Id}

namespace Flow

/-- A use of the cache or of a record comes to what the world answers. -/
theorem solo_use (hs : s.world.Serves) {a : Access} {p : Point} (hbegin : s.world.begin a = s.world)
    (hpoint : s.world.pointOf? a = some p) (hp : p.isRead = false) :
    (access a).solo h s =
      some (.ok (s.world.answer a).1, { s with world := (s.world.answer a).2 }) := by
  rw [solo_access, hbegin, World.perform, hs.notConnected?_eq_none, World.failureAt?, hpoint,
    Option.bind_some, hs.failureOf_eq_none hp]
  rfl

end Flow

namespace CacheKind

variable (hs : s.world.Serves) (kind : CacheKind)
include hs

theorem solo_get : (kind.get user).solo h s =
    some (.ok (s.world.lookUp user).1, { s with world := (s.world.lookUp user).2 }) := by
  have hget := Flow.solo_use (h := h) hs (a := .cacheGet user) rfl rfl rfl
  match kind with
  | .local => exact hget
  | .shared => exact Flow.solo_recover_ok hget _

theorem solo_set (text : String) (seconds : Binary64) : (kind.set user text seconds).solo h s =
    some (.ok true, { s with world := s.world.setEntry user text seconds }) := by
  have hset : (do Flow.access (.cacheSet user text seconds); return true : Flow Bool).solo h s =
      some (.ok true, { s with world := s.world.setEntry user text seconds }) :=
    Flow.solo_bind_ok (Flow.solo_use hs rfl rfl rfl) _
  match kind with
  | .local => exact hset
  | .shared => exact Flow.solo_recover_ok hset _

theorem solo_delete : (kind.delete user).solo h s =
    some (.ok (s.world.entryOf user).isSome, { s with world := s.world.dropEntry user }) := by
  have hdelete := Flow.solo_use (h := h) hs (a := .cacheDelete user) rfl rfl rfl
  match kind with
  | .local => exact hdelete
  | .shared => exact Flow.solo_recover_ok hdelete _

end CacheKind

namespace StoreKind

/-- Loading the form gives the packed form of the rule set. -/
def Says (kind : StoreKind) (form : Value) (rules : RuleSet) : Prop :=
  match kind with
  | .table => form = Packed.pack rules
  | .database => decoded form = .ok (some (Packed.pack rules))

variable (hs : s.world.Serves) (kind : StoreKind)
include hs

theorem solo_clear : (kind.clear user).solo h s =
    some (.ok (), { s with world := s.world.clearForm user }) := by
  have hclear := Flow.solo_use (h := h) hs (a := .clear user) rfl rfl rfl
  cases kind with
  | table => exact hclear
  | database => exact Flow.solo_recover_ok hclear _

theorem solo_load_none (hform : s.world.formOf user = none) :
    (kind.load user).solo h s = some (.ok none, s) := by
  have hload : (Flow.access (.load user)).solo h s = some (.ok none, s) := by
    refine (Flow.solo_use hs rfl rfl rfl).trans ?_
    rw [← hform]
    rfl
  cases kind with
  | table => exact hload
  | database => exact Flow.solo_bind_ok (Flow.solo_recover_ok hload _) _

/-- Loading a form that says a rule set gives its packed form. -/
theorem solo_load_some {form : Value} {rules : RuleSet} (hform : s.world.formOf user = some form)
    (hholds : kind.Says form rules) :
    (kind.load user).solo h s = some (.ok (some (Packed.pack rules)), s) := by
  have hload : (Flow.access (.load user)).solo h s = some (.ok (some form), s) := by
    refine (Flow.solo_use hs rfl rfl rfl).trans ?_
    rw [← hform]
    rfl
  cases kind with
  | table =>
    obtain rfl : form = Packed.pack rules := hholds
    exact hload
  | database =>
    have hdecoded : decoded form = .ok (some (Packed.pack rules)) := hholds
    refine (Flow.solo_bind_ok (Flow.solo_recover_ok hload _) _).trans ?_
    simp only [hdecoded]
    rfl

/-- What is saved of a lasting rule set says the rule set. -/
theorem exists_solo_save {rules : RuleSet} (hrules : rules.IsLasting) :
    ∃ form, kind.Says form rules ∧ (kind.save user (Packed.pack rules)).solo h s =
      some (.ok true, { s with world := s.world.setForm user form }) := by
  cases kind with
  | table =>
    exact ⟨Packed.pack rules, rfl, Flow.solo_bind_ok (Flow.solo_use hs rfl rfl rfl) _⟩
  | database =>
    obtain ⟨text, htext, hread⟩ := hrules.exists_write Json.isStandard_spaced
    refine ⟨.text text, ?_, Flow.solo_recover_ok ?_ _⟩
    · change decoded (.text text) = _
      rw [decoded, hread]
      rfl
    · rw [htext]
      refine (Flow.solo_bind_ok (a := text) rfl _).trans ?_
      exact Flow.solo_bind_ok (Flow.solo_use hs rfl rfl rfl) _

end StoreKind

end HouseholdAccess
