import HouseholdAccess.Proofs.Number.Rounding
import HouseholdAccess.Proofs.Stage.Places
import HouseholdAccess.Proofs.Value.Order

/-!
# Entries of the cache and their time

What is there for a user after something is done to the cache can be told from what was
there before, and what is done for another user makes no difference:

* `World.entryOf_dropEntry`, `World.entryOf_setEntry` and `World.entryOf_lookUp` say what
  becomes of the entry for a user;
* `World.entryOf_apply` says the same of changes of the world, among them that time passes
  (`Change.Passes`), after which an entry that has expired has still done so.

The same holds of the entry if it has not expired (`World.lasting`). Here the kinds of cache
agree: it does not matter when an entry that has expired is taken out.
-/

namespace HouseholdAccess

/-! ## Times -/

namespace Extended

theorem lt_or_eq_eq_not_lt (a b : Extended) : (a.lt b || a == b) = !b.lt a := by
  rw [Bool.eq_iff_iff, Bool.or_eq_true, beq_iff_eq, Bool.not_eq_true', ← Bool.not_eq_true,
    lt_iff_place_lt, lt_iff_place_lt, ← place_injective.eq_iff, not_lt, le_iff_lt_or_eq]

theorem lt_of_not_lt_of_lt {a b c : Extended} (hab : b.lt a = false) (hbc : b.lt c = true) :
    a.lt c = true := by
  rw [← Bool.not_eq_true, lt_iff_place_lt, not_lt] at hab
  exact lt_iff_place_lt.2 (hab.trans_lt (lt_iff_place_lt.1 hbc))

end Extended

theorem Binary64.IsTime.exists_extended {x : Binary64} (h : x.IsTime) :
    ∃ a, (Value.float x).toExtended? = some a := by
  cases h with
  | finite => exact ⟨_, rfl⟩
  | infinity => exact ⟨_, rfl⟩

namespace Value

/-- What comes after a time comes after every time before that. -/
theorem numberBelow_of_le {x y : Binary64} {v : Value} (hx : x.IsTime) (hy : y.IsTime)
    (hxy : numberBelow (.float y) (.float x) = false) (hyv : numberBelow (.float y) v = true) :
    numberBelow (.float x) v = true := by
  obtain ⟨a, ha⟩ := hx.exists_extended
  obtain ⟨b, hb⟩ := hy.exists_extended
  cases hc : v.toExtended? with
  | none =>
    rw [numberBelow, hc] at hyv
    cases h : (Value.float y).toExtended? <;> rw [h] at hyv <;> cases hyv
  | some c =>
    simp only [numberBelow, ha, hb, hc] at hxy hyv ⊢
    exact Extended.lt_of_not_lt_of_lt hxy hyv

end Value

/-- The change is not one of the time, or time passes. -/
def Change.Passes : Change → Prop
  | .advance seconds => seconds.IsSpan
  | _ => True

namespace World

variable {w : World} {user v : Id}

/-- The time is one, and each key has one entry. -/
structure IsTimely (w : World) : Prop where
  now : w.now.IsTime
  keys : w.entries.Pairwise fun e f => e.key ≠ f.key

/-- An entry that has expired is gone when it has been looked up. -/
theorem lookUp_snd (w : World) (user : Id) :
    (w.lookUp user).2 = if (w.entryOf user).any w.expired then w.dropEntry user else w := by
  rw [lookUp]
  cases w.entryOf user with
  | none => rfl
  | some e => cases h : w.expired e <;> simp [h]

theorem now_answer (w : World) (a : Access) : ((w.begin a).answer a).2.now = w.now := by
  cases a with
  | cacheGet user =>
    simp only [begin, answer, lookUp_snd]
    split <;> rfl
  | cacheClose =>
    simp only [begin, answer]
    split <;> rfl
  | _ => rfl

theorem IsTimely.answer (h : w.IsTimely) (a : Access) : ((w.begin a).answer a).2.IsTimely :=
  ⟨(w.now_answer a).symm ▸ h.now, pairwise_answer h.keys a⟩

theorem entries_apply (w : World) (c : Change) : (c.apply w).entries = w.entries := by
  cases c <;> rfl

theorem IsTimely.apply (h : w.IsTimely) {c : Change} (hc : c.Passes) : (c.apply w).IsTimely := by
  refine ⟨?_, (w.entries_apply c).symm ▸ h.keys⟩
  cases c with
  | advance seconds => exact (h.now.add hc).1
  | _ => exact h.now

/-! ## The entry for a user -/

/-- Whether an entry is there: one of a shared cache that has expired is not. -/
def presents (w : World) (e : CacheEntry) : Bool :=
  match w.cacheKind with
  | .local => true
  | .shared => !w.expired e

theorem presentEntries_eq (w : World) : w.presentEntries = w.entries.filter w.presents := by
  rw [presentEntries, show w.presents = fun e => w.presents e from rfl]
  simp only [presents]
  cases w.cacheKind with
  | «local» => exact (List.filter_true w.entries).symm
  | shared => rfl

/-- With one entry for each key, the entry for a key is looked for before it is tested. -/
theorem find?_filter_key {entries : List CacheEntry} (p : CacheEntry → Bool) (key : Id)
    (h : entries.Pairwise fun e f => e.key ≠ f.key) :
    (entries.filter p).find? (fun e => e.key = key) =
      (entries.find? fun e => e.key = key).filter p := by
  induction entries with
  | nil => rfl
  | cons e rest ih =>
    obtain ⟨hne, hrest⟩ := List.pairwise_cons.1 h
    rw [List.filter_cons, List.find?_cons]
    by_cases hkey : e.key = key
    · have hnone : rest.find? (fun e => e.key = key) = none :=
        List.find?_eq_none.2 fun f hf heq => hne f hf (hkey.trans (of_decide_eq_true heq).symm)
      cases hp : p e with
      | true => simp [Option.filter, hkey, hp]
      | false => simp [Option.filter, hkey, hp, ih hrest, hnone]
    · cases p e <;> simp [hkey, ih hrest]

theorem find?_putEntry (e : CacheEntry) (entries : List CacheEntry) (key : Id) :
    (putEntry e entries).find? (fun f => f.key = key) =
      if e.key = key then some e else entries.find? fun f => f.key = key := by
  induction entries with
  | nil => by_cases h : e.key = key <;> simp [putEntry, h]
  | cons f rest ih =>
    rw [putEntry]
    split
    · next hf => by_cases h : e.key = key <;> simp [hf, h]
    · next hf =>
      rw [List.find?_cons, List.find?_cons, ih]
      by_cases h : e.key = key
      · have hne : f.key ≠ key := fun heq => hf (heq.trans h.symm)
        simp [h, hne]
      · by_cases heq : f.key = key <;> simp [h, heq]

/-- The entry for a user, if it is there. -/
theorem IsTimely.entryOf_eq (h : w.IsTimely) (huser : user.isText = true) :
    w.entryOf user = (w.entries.find? fun e => e.key = user).filter w.presents := by
  rw [entryOf, presentEntries_eq, cacheName_of_isText huser, find?_filter_key _ _ h.keys]

/-- What is there for a user when entries for the others have been taken out. -/
theorem entryOf_dropEntry (h : w.IsTimely) (huser : user.isText = true) (hv : v.isText = true) :
    (w.dropEntry v).entryOf user = if v = user then none else w.entryOf user := by
  have hdrop : (w.dropEntry v).IsTimely := ⟨h.now, h.keys.filter _⟩
  rw [hdrop.entryOf_eq huser, h.entryOf_eq huser,
    show (w.dropEntry v).presents = w.presents from rfl, dropEntry, cacheName_of_isText hv,
    find?_filter_key _ _ h.keys]
  cases hfind : w.entries.find? fun e => e.key = user with
  | none => simp
  | some e =>
    have hkey : e.key = user := by simpa using List.find?_some hfind
    by_cases hvu : v = user
    · simp [Option.filter, hkey, hvu]
    · simp [Option.filter, hkey, hvu, Ne.symm hvu]

/-- What is there for a user when an entry has been put into the cache. -/
theorem entryOf_setEntry (h : w.IsTimely) (huser : user.isText = true) (hv : v.isText = true)
    (text : String) (seconds : Binary64) :
    (w.setEntry v text seconds).entryOf user =
      if v = user then
        (some ({ key := v, text, expires := w.now.add seconds } : CacheEntry)).filter w.presents
      else w.entryOf user := by
  have hset : (w.setEntry v text seconds).IsTimely :=
    ⟨h.now, pairwise_putEntry (pairwise_presentEntries h.keys)⟩
  rw [hset.entryOf_eq huser, h.entryOf_eq huser,
    show (w.setEntry v text seconds).presents = w.presents from rfl, setEntry,
    cacheName_of_isText hv, find?_putEntry, presentEntries_eq, find?_filter_key _ _ h.keys]
  split
  · rfl
  · simp [Option.filter_filter]

/-- What is there for a user if it has not expired. -/
def lasting (w : World) (user : Id) : Option CacheEntry :=
  (w.entryOf user).filter fun e => !w.expired e

/-- What is looked up is what has not expired. -/
theorem lookUp_fst (w : World) (user : Id) :
    (w.lookUp user).1 = (w.lasting user).map (·.text) := by
  rw [lookUp, lasting]
  cases w.entryOf user with
  | none => rfl
  | some e =>
    simp only
    cases hexpired : w.expired e <;> simp [hexpired]

/-- What is there for a user when an entry has been looked up. -/
theorem entryOf_lookUp (h : w.IsTimely) (huser : user.isText = true) (hv : v.isText = true) :
    (w.lookUp v).2.entryOf user = if v = user then w.lasting user else w.entryOf user := by
  rw [lookUp_snd]
  by_cases heq : v = user
  · subst heq
    rw [if_pos rfl, lasting]
    cases he : w.entryOf v with
    | none => simp [he]
    | some e =>
      cases hexpired : w.expired e with
      | true => simp [hexpired, Option.filter, entryOf_dropEntry h hv hv]
      | false => simp [hexpired, Option.filter, he]
  · rw [if_neg heq]
    split
    · rw [entryOf_dropEntry h huser hv, if_neg heq]
    · rfl

/-- What has expired in a shared cache is not there later either. -/
theorem presents_of_apply (h : w.IsTimely) {c : Change} (hc : c.Passes) {e : CacheEntry}
    (he : (c.apply w).presents e = true) : w.presents e = true := by
  cases c with
  | advance seconds =>
    obtain ⟨hnow, hlater⟩ := h.now.add hc
    simp only [presents, expired, Change.apply] at he ⊢
    cases hkind : w.cacheKind with
    | «local» => rfl
    | shared =>
      simp only [hkind, Bool.not_not] at he ⊢
      exact Value.numberBelow_of_le h.now hnow hlater he
  | _ => exact he

/-- What is there for a user when the world has changed. -/
theorem entryOf_apply (h : w.IsTimely) (huser : user.isText = true) {c : Change} (hc : c.Passes) :
    (c.apply w).entryOf user = (w.entryOf user).filter (c.apply w).presents := by
  rw [(h.apply hc).entryOf_eq huser, h.entryOf_eq huser, entries_apply, Option.filter_filter]
  refine congrArg (Option.filter · _) (funext fun e => ?_)
  cases he : (c.apply w).presents e with
  | true => rw [presents_of_apply h hc he, Bool.and_self]
  | false => rw [Bool.and_false]

/-! ## Entries that have not expired -/

/-- The entries expire at times. -/
def HasTimes (w : World) : Prop := ∀ e ∈ w.entries, e.expires.IsTime

/-- The kinds of cache agree on whether an entry has expired. -/
theorem expired_eq (hnow : w.now.IsTime) {e : CacheEntry} (he : e.expires.IsTime) :
    w.expired e = !Value.numberBelow (.float w.now) (.float e.expires) := by
  rw [expired]
  cases w.cacheKind with
  | shared => rfl
  | «local» =>
    obtain ⟨a, ha⟩ := hnow.exists_extended
    obtain ⟨b, hb⟩ := he.exists_extended
    simp only [Value.numberBelow, Value.sameNumber, ha, hb]
    exact Extended.lt_or_eq_eq_not_lt b a

theorem IsTimely.lasting_eq (h : w.IsTimely) (huser : user.isText = true) :
    w.lasting user = (w.entries.find? fun e => e.key = user).filter fun e => !w.expired e := by
  rw [lasting, h.entryOf_eq huser, Option.filter_filter]
  refine congrArg (Option.filter · _) (funext fun e => ?_)
  rw [presents]
  cases w.cacheKind <;> cases w.expired e <;> rfl

theorem lasting_dropEntry (h : w.IsTimely) (huser : user.isText = true) (hv : v.isText = true) :
    (w.dropEntry v).lasting user = if v = user then none else w.lasting user := by
  rw [lasting, entryOf_dropEntry h huser hv]
  split <;> rfl

/-- Looking an entry up makes no difference to what has not expired. -/
theorem lasting_lookUp (h : w.IsTimely) (huser : user.isText = true) (hv : v.isText = true) :
    (w.lookUp v).2.lasting user = w.lasting user := by
  have hexpired : (w.lookUp v).2.expired = w.expired := by
    rw [lookUp_snd]
    split <;> rfl
  rw [lasting, hexpired, entryOf_lookUp h huser hv]
  split
  · simp [lasting, Option.filter_filter]
  · rfl

theorem lasting_setEntry (h : w.IsTimely) (huser : user.isText = true) (hv : v.isText = true)
    (text : String) (seconds : Binary64) :
    (w.setEntry v text seconds).lasting user =
      if v = user then
        (some ({ key := v, text, expires := w.now.add seconds } : CacheEntry)).filter
          fun e => !w.expired e
      else w.lasting user := by
  rw [lasting, entryOf_setEntry h huser hv]
  split
  · rw [Option.filter_filter]
    refine congrArg (Option.filter · _) (funext fun e => ?_)
    change (w.presents e && !w.expired e) = !w.expired e
    rw [presents]
    cases w.cacheKind <;> cases w.expired e <;> rfl
  · rfl

/-- What lasts when the world has changed has lasted before. -/
theorem lasting_apply (h : w.IsTimely) (htimes : w.HasTimes) (huser : user.isText = true)
    {c : Change} (hc : c.Passes) :
    (c.apply w).lasting user = (w.lasting user).filter fun e => !(c.apply w).expired e := by
  rw [(h.apply hc).lasting_eq huser, h.lasting_eq huser, entries_apply, Option.filter_filter]
  cases hfind : w.entries.find? fun e => e.key = user with
  | none => rfl
  | some e =>
    have he := htimes e (List.mem_of_find?_eq_some hfind)
    simp only [Option.filter_some, expired_eq h.now he, expired_eq (h.apply hc).now he,
      Bool.not_not]
    refine if_congr ?_ rfl rfl
    rw [Bool.and_eq_true, iff_and_self]
    intro hlater
    cases c with
    | advance seconds =>
      obtain ⟨hnow, hle⟩ := h.now.add hc
      exact Value.numberBelow_of_le h.now hnow hle hlater
    | _ => exact hlater

end World

end HouseholdAccess
