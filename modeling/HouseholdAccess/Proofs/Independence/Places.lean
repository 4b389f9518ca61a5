import HouseholdAccess.Proofs.Cache.Expiry
import HouseholdAccess.Proofs.Independence.Owners
import HouseholdAccess.Proofs.Machine.Registers

/-!
# What a user can tell of what is met

Two worlds *look alike* to a user (`World.LooksLike`) if they differ only in what is kept,
and what is kept of the user is the same. Two desks look alike if one has the loads of the
user alone (`Desk.LooksLike`), which go by other numbers there.

* What is done for the user in places that look alike is answered alike, and they look alike
  then (`World.LooksLike.perform`, `Desk.LooksLike.overtake`).
* The user cannot tell what is done for others (`World.LooksLike.answer_other`,
  `Desk.LooksLike.overtake_other`).
-/

namespace HouseholdAccess

variable {user other : Id}

/-! ## Worlds -/

namespace World

variable {w v : World} {a : Access}

theorem Agrees.symm (h : w.Agrees v) : v.Agrees w := by
  obtain ⟨entries, forms, reads, rfl⟩ := h
  exact ⟨w.entries, w.forms, w.reads, rfl⟩

theorem agrees_begin (w : World) (a : Access) : w.Agrees (w.begin a) := by
  cases a with
  | roles => exact ⟨_, _, _, rfl⟩
  | _ => exact Agrees.refl w

theorem agrees_answer (w : World) (ha : (Operation.access a).IsAbout other) :
    w.Agrees ((w.begin a).answer a).2 := by
  cases a with
  | cacheGet user =>
    simp only [begin, answer, lookUp_snd]
    split
    · exact w.agrees_dropEntry user
    · exact Agrees.refl w
  | cacheSet user text seconds => exact w.agrees_setEntry user text seconds
  | cacheDelete user => exact w.agrees_dropEntry user
  | roles | managed | members | aiUsers | load | save | clear => exact ⟨_, _, _, rfl⟩
  | _ => exact ha.elim

/-- Worlds that differ in what is kept still do so when both change. -/
theorem Agrees.apply (h : w.Agrees v) (c : Change) : (c.apply w).Agrees (c.apply v) := by
  obtain ⟨entries, forms, reads, rfl⟩ := h
  cases c <;> exact ⟨_, _, _, rfl⟩

theorem lookup_putForm_eq (name : Id) (form : Value) (forms : List (Id × Value)) (user : Id) :
    (putForm name form forms).lookup user =
      if name = user then some form else forms.lookup user := by
  by_cases h : name = user
  · rw [if_pos h, ← h, lookup_putForm]
  rw [if_neg h]
  have hname : (user == name) = false := by simpa using Ne.symm h
  induction forms with
  | nil => simp [putForm, List.lookup_cons, hname]
  | cons f rest ih =>
    obtain ⟨u, form'⟩ := f
    rw [putForm]
    split
    · next hu => simp [List.lookup_cons, hu, hname]
    · rw [List.lookup_cons, List.lookup_cons, ih]

theorem lookup_filter_forms (name : Id) (forms : List (Id × Value)) (user : Id) :
    (forms.filter fun f => f.1 ≠ name).lookup user =
      if name = user then none else forms.lookup user := by
  induction forms with
  | nil => simp
  | cons f rest ih =>
    obtain ⟨u, form⟩ := f
    by_cases hu : u = name
    · have hrest : ((u, form) :: rest).filter (fun f => f.1 ≠ name) =
          rest.filter fun f => f.1 ≠ name := by simp [hu]
      rw [hrest, ih]
      by_cases h : name = user
      · simp [h]
      · have hne : (user == u) = false := by simpa [hu] using Ne.symm h
        simp [h, List.lookup_cons, hne]
    · have hrest : ((u, form) :: rest).filter (fun f => f.1 ≠ name) =
          (u, form) :: rest.filter fun f => f.1 ≠ name := by simp [hu]
      rw [hrest, List.lookup_cons, List.lookup_cons, ih]
      by_cases h : name = user
      · have hne : (user == u) = false := by simpa [← h] using Ne.symm hu
        simp [h, hne]
      · simp [h]

/-- The worlds differ only in what is kept of others, and in the count of reads. -/
structure LooksLike (user : Id) (w v : World) : Prop where
  agrees : w.Agrees v
  timely : w.IsTimely
  timely' : v.IsTimely
  entry : v.entryOf user = w.entryOf user
  form : v.forms.lookup user = w.forms.lookup user

theorem LooksLike.refl (h : w.IsTimely) : w.LooksLike user w := ⟨Agrees.refl w, h, h, rfl, rfl⟩

/-- What is done for others leaves the entry for a user. -/
theorem entryOf_answer (h : w.IsTimely) (huser : user.isText = true) (hother : other.isText = true)
    (hne : other ≠ user) (ha : (Operation.access a).IsAbout other) :
    ((w.begin a).answer a).2.entryOf user = w.entryOf user := by
  cases a with
  | cacheGet v =>
    obtain rfl : v = other := ha
    exact (entryOf_lookUp h huser hother).trans (if_neg hne)
  | cacheSet v text seconds =>
    obtain rfl : v = other := ha
    exact (entryOf_setEntry h huser hother text seconds).trans (if_neg hne)
  | cacheDelete v =>
    obtain rfl : v = other := ha
    exact (entryOf_dropEntry h huser hother).trans (if_neg hne)
  | roles | managed | members | aiUsers | load | save | clear => rfl
  | _ => exact ha.elim

theorem forms_lookUp (w : World) (user : Id) : (w.lookUp user).2.forms = w.forms := by
  rw [lookUp_snd]
  split <;> rfl

/-- What is done for others leaves what is written on the record of a user. -/
theorem lookup_answer (hother : other.isText = true) (hne : other ≠ user)
    (ha : (Operation.access a).IsAbout other) :
    ((w.begin a).answer a).2.forms.lookup user = w.forms.lookup user := by
  cases a with
  | save v form =>
    obtain rfl : v = other := ha
    simp only [begin, answer, setForm, storeName_of_isText hother, lookup_putForm_eq, if_neg hne]
  | clear v =>
    obtain rfl : v = other := ha
    simp only [begin, answer, clearForm, storeName_of_isText hother, lookup_filter_forms,
      if_neg hne]
  | cacheGet v => exact congrArg _ (w.forms_lookUp v)
  | roles | managed | members | aiUsers | load | cacheSet | cacheDelete => rfl
  | _ => exact ha.elim

namespace LooksLike

theorem agrees_of_agrees {w' v' : World} (h : w.LooksLike user v) (hw : w.Agrees w')
    (hv : v.Agrees v') : w'.Agrees v' :=
  hw.symm.trans (h.agrees.trans hv)

theorem presents_eq (h : w.LooksLike user v) : v.presents = w.presents := by
  obtain ⟨entries, forms, reads, rfl⟩ := h.agrees
  rfl

theorem expired_eq (h : w.LooksLike user v) : v.expired = w.expired := by
  obtain ⟨entries, forms, reads, rfl⟩ := h.agrees
  rfl

theorem lasting_eq (h : w.LooksLike user v) : v.lasting user = w.lasting user := by
  rw [lasting, lasting, h.entry, h.expired_eq]

/-- Nothing else is asked about a user than what looks alike. -/
theorem answer_fst (h : w.LooksLike user v) (huser : user.isText = true)
    (ha : (Operation.access a).IsAbout user) :
    ((v.begin a).answer a).1 = ((w.begin a).answer a).1 := by
  cases a with
  | cacheGet u =>
    obtain rfl : u = user := ha
    simp only [begin, answer, lookUp_fst, h.lasting_eq]
  | cacheDelete u =>
    obtain rfl : u = user := ha
    simp only [begin, answer, h.entry]
  | load u =>
    obtain rfl : u = user := ha
    simp only [begin, answer, formOf, storeName_of_isText huser, h.form]
  | roles | managed | members | aiUsers =>
    obtain ⟨entries, forms, reads, rfl⟩ := h.agrees
    rfl
  | save | clear | cacheSet => rfl
  | _ => exact ha.elim

/-- What is done for the user is done in both worlds. -/
theorem answer_snd (h : w.LooksLike user v) (huser : user.isText = true)
    (ha : (Operation.access a).IsAbout user) :
    ((w.begin a).answer a).2.LooksLike user ((v.begin a).answer a).2 := by
  refine ⟨h.agrees_of_agrees (w.agrees_answer ha) (v.agrees_answer ha), h.timely.answer a,
    h.timely'.answer a, ?_, ?_⟩
  · cases a with
    | cacheGet u =>
      obtain rfl : u = user := ha
      simp only [begin, answer, entryOf_lookUp h.timely huser huser,
        entryOf_lookUp h.timely' huser huser, if_pos, h.lasting_eq]
    | cacheSet u text seconds =>
      obtain rfl : u = user := ha
      have hnow : v.now = w.now := by
        obtain ⟨entries, forms, reads, rfl⟩ := h.agrees
        rfl
      simp only [begin, answer, entryOf_setEntry h.timely huser huser,
        entryOf_setEntry h.timely' huser huser, if_pos, h.presents_eq, hnow]
    | cacheDelete u =>
      obtain rfl : u = user := ha
      simp only [begin, answer, entryOf_dropEntry h.timely huser huser,
        entryOf_dropEntry h.timely' huser huser, if_pos]
    | roles | managed | members | aiUsers | load | save | clear => exact h.entry
    | _ => exact ha.elim
  · cases a with
    | save u form =>
      obtain rfl : u = user := ha
      simp only [begin, answer, setForm, storeName_of_isText huser, lookup_putForm]
    | clear u =>
      obtain rfl : u = user := ha
      simp only [begin, answer, clearForm, storeName_of_isText huser, lookup_filter_forms, if_pos]
    | cacheGet u => simp only [begin, answer, forms_lookUp, h.form]
    | roles | managed | members | aiUsers | load | cacheSet | cacheDelete => exact h.form
    | _ => exact ha.elim

theorem begin_left (h : w.LooksLike user v) (a : Access) : (w.begin a).LooksLike user v := by
  have hagrees := h.agrees_of_agrees (w.agrees_begin a) (Agrees.refl v)
  cases a <;> exact ⟨hagrees, ⟨h.timely.now, h.timely.keys⟩, h.timely', h.entry, h.form⟩

theorem begin_right (h : w.LooksLike user v) (a : Access) : w.LooksLike user (v.begin a) := by
  have hagrees := h.agrees_of_agrees (Agrees.refl w) (v.agrees_begin a)
  cases a <;> exact ⟨hagrees, h.timely, ⟨h.timely'.now, h.timely'.keys⟩, h.entry, h.form⟩

/-- What is done for the user comes to the same in worlds that look alike. -/
theorem perform (h : w.LooksLike user v) (huser : user.isText = true)
    (ha : (Operation.access a).IsAbout user) :
    ((v.begin a).perform a).1 = ((w.begin a).perform a).1 ∧
      ((w.begin a).perform a).2.LooksLike user ((v.begin a).perform a).2 := by
  have hbegin := (h.begin_left a).begin_right a
  -- Whether it can be done has nothing to do with what is kept.
  have hconnected : (v.begin a).notConnected? a = (w.begin a).notConnected? a := by
    obtain ⟨entries, forms, reads, hv⟩ := hbegin.agrees
    rw [hv]
    rfl
  have hfailure : (v.begin a).failureAt? a = (w.begin a).failureAt? a := by
    obtain ⟨entries, forms, reads, hv⟩ := hbegin.agrees
    rw [hv]
    cases a <;> rfl
  rw [World.perform, World.perform, hconnected, hfailure]
  split
  · exact ⟨rfl, hbegin⟩
  · split
    · exact ⟨rfl, hbegin⟩
    · exact ⟨congrArg Except.ok (h.answer_fst huser ha), h.answer_snd huser ha⟩

/-- The user cannot tell what is done for others. -/
theorem answer_other (h : w.LooksLike user v) (huser : user.isText = true)
    (hother : other.isText = true) (hne : other ≠ user)
    (ha : (Operation.access a).IsAbout other) :
    ((w.begin a).answer a).2.LooksLike user v :=
  ⟨h.agrees_of_agrees (w.agrees_answer ha) (Agrees.refl v), h.timely.answer a, h.timely',
    h.entry.trans (entryOf_answer h.timely huser hother hne ha).symm,
    h.form.trans (lookup_answer hother hne ha).symm⟩

/-- Worlds that look alike still do so when both change. -/
theorem apply (h : w.LooksLike user v) (huser : user.isText = true) {c : Change}
    (hc : c.Passes) : (c.apply w).LooksLike user (c.apply v) := by
  have hagrees := h.agrees.apply c
  have hname (name : Id) : v.storeName name = w.storeName name := by
    obtain ⟨entries, forms, reads, rfl⟩ := h.agrees
    rfl
  refine ⟨hagrees, h.timely.apply hc, h.timely'.apply hc, ?_, ?_⟩
  · have hpresents : (c.apply v).presents = (c.apply w).presents := by
      obtain ⟨entries, forms, reads, hv⟩ := hagrees
      rw [hv]
      rfl
    rw [entryOf_apply h.timely huser hc, entryOf_apply h.timely' huser hc, h.entry, hpresents]
  · cases c with
    | setForm name form =>
      simp only [Change.apply, World.setForm, lookup_putForm_eq, hname, h.form]
    | dropForm name => simp only [Change.apply, World.clearForm, lookup_filter_forms, hname, h.form]
    | _ => exact h.form

end LooksLike

end World

/-! ## Desks -/

namespace Desk

/-- The owners of the loads. -/
def owners (d : Desk) : List Id := d.loads.map (·.user)

theorem owners_overtake (d : Desk) (user : Id) : (d.overtake user).owners = d.owners := by
  refine List.ext_getElem? fun n => ?_
  rw [owners, owners, List.getElem?_map, List.getElem?_map]
  exact (d.shrinks_overtake user).users n

theorem owners_start (d : Desk) (user : Id) : (d.start user).2.owners = d.owners ++ [user] := by
  simp [Desk.owners, start]

theorem owners_forget (d : Desk) (n : Nat) : (d.forget n).owners = d.owners := by
  rw [owners, loads_forget, owners]

variable {d e : Desk} {owners : List Id} {n : Nat}

/-- The load that callers of a user join belongs to the user, and all loads belong to whom they are
    said to belong to. -/
structure Belongs (owners : List Id) (d : Desk) : Prop where
  listed : d.owners <+: owners
  pending : ∀ user n, d.pendingOf user = some n → d.owners[n]? = some user

namespace Belongs

theorem getElem? (h : d.Belongs owners) {v : Id} (hn : d.owners[n]? = some v) :
    owners[n]? = some v := by
  obtain ⟨more, rfl⟩ := h.listed
  rwa [List.getElem?_append_left (List.getElem?_eq_some_iff.1 hn).1]

theorem exists_pending (h : d.Belongs owners) (hn : d.pendingOf user = some n) :
    ∃ load, d.loads[n]? = some load ∧ load.user = user := by
  have huser := h.pending user n hn
  rw [Desk.owners, List.getElem?_map] at huser
  exact Option.map_eq_some_iff.1 huser

theorem length_le (h : d.Belongs owners) : d.loads.length ≤ owners.length := by
  have hlength := h.listed.length_le
  rwa [Desk.owners, List.length_map] at hlength

theorem release (h : d.Belongs owners) (user : Id) : (d.release user).Belongs owners := by
  refine ⟨h.listed, fun v n hn => h.pending v n ?_⟩
  by_cases hv : v = user
  · rw [hv, pendingOf_release] at hn
    cases hn
  · rwa [pendingOf_release_ne d hv] at hn

theorem overtake (h : d.Belongs owners) (user : Id) : (d.overtake user).Belongs owners := by
  refine ⟨d.owners_overtake user ▸ h.listed, fun v n hn => ?_⟩
  rw [owners_overtake]
  by_cases hv : v = user
  · rw [hv, pendingOf_overtake] at hn
    cases hn
  · exact h.pending v n (d.pendingOf_overtake_ne hv ▸ hn)

theorem start (h : d.Belongs owners) (hpending : d.pendingOf user = none)
    (hloads : d.owners ++ [user] <+: owners) : (d.start user).2.Belongs owners := by
  refine ⟨d.owners_start user ▸ hloads, fun v n hn => ?_⟩
  rw [owners_start]
  by_cases hv : v = user
  · rw [hv, pendingOf_start hpending] at hn
    obtain rfl := Option.some.inj hn
    have hlength : d.loads.length = d.owners.length := by simp [Desk.owners]
    rw [hlength, List.getElem?_concat_length, hv]
  · rw [pendingOf_start_ne d hv] at hn
    have hold := h.pending v n hn
    rwa [List.getElem?_append_left (List.getElem?_eq_some_iff.1 hold).1]

theorem forget (h : d.Belongs owners) (n : Nat) : (d.forget n).Belongs owners := by
  rw [Desk.forget]
  split
  · exact h
  · split
    · exact h.release _
    · exact h

end Belongs

/-- One desk has the loads of a user alone. -/
structure LooksLike (user : Id) (owners : List Id) (d e : Desk) : Prop where
  loads : e.loads = ownedBy user owners d.loads
  pending : e.pendingOf user = (d.pendingOf user).map (rankOf user owners)

namespace LooksLike

variable (h : d.LooksLike user owners e) (hd : d.Belongs owners)
include h

theorem getElem? (hn : owners[n]? = some user) : e.loads[rankOf user owners n]? = d.loads[n]? := by
  rw [h.loads, getElem?_ownedBy hn]

theorem isOvertaken (hn : owners[n]? = some user) :
    e.isOvertaken (rankOf user owners n) = d.isOvertaken n := by
  rw [Desk.isOvertaken, Desk.isOvertaken, h.getElem? hn]

include hd

theorem length : e.loads.length = rankOf user owners d.loads.length := by
  rw [h.loads, length_ownedBy hd.length_le]

/-- The load that is overtaken is the same one. -/
theorem overtake : (d.overtake user).LooksLike user owners (e.overtake user) := by
  refine ⟨?_, by rw [pendingOf_overtake, pendingOf_overtake]; rfl⟩
  cases hpending : d.pendingOf user with
  | none =>
    have he : e.pendingOf user = none := by rw [h.pending, hpending]; rfl
    simp only [Desk.overtake, hpending, he, h.loads]
  | some n =>
    have he : e.pendingOf user = some (rankOf user owners n) := by rw [h.pending, hpending]; rfl
    have hn := hd.getElem? (hd.pending user n hpending)
    simp only [Desk.overtake, hpending, he, Desk.release, ownedBy_modify, hn, if_pos, h.loads]

theorem overtake_other (hne : other ≠ user) : (d.overtake other).LooksLike user owners e := by
  refine ⟨?_, by rw [pendingOf_overtake_ne d hne.symm, h.pending]⟩
  cases hpending : d.pendingOf other with
  | none => simp only [Desk.overtake, hpending, h.loads]
  | some n =>
    have hn : owners[n]? ≠ some user := fun heq =>
      hne (Option.some.inj ((hd.getElem? (hd.pending other n hpending)).symm.trans heq))
    simp only [Desk.overtake, hpending, Desk.release, ownedBy_modify, hn, if_neg, h.loads,
      not_false_eq_true]

/-- The user's next load is started at both desks. -/
theorem start (hpending : d.pendingOf user = none) (hn : owners[d.loads.length]? = some user) :
    (d.start user).2.LooksLike user owners (e.start user).2 := by
  have he : e.pendingOf user = none := by rw [h.pending, hpending]; rfl
  refine ⟨?_, ?_⟩
  · simp only [Desk.start, ownedBy_append_singleton hn, if_pos, h.loads]
  · rw [pendingOf_start hpending, pendingOf_start he, h.length hd]
    rfl

omit hd in
theorem start_other (hne : other ≠ user) (hn : owners[d.loads.length]? = some other) :
    (d.start other).2.LooksLike user owners e := by
  refine ⟨?_, by rw [pendingOf_start_ne d hne.symm, h.pending]⟩
  simp only [Desk.start, ownedBy_append_singleton hn, if_neg hne, h.loads]

/-- The load that is forgotten is the same one. -/
theorem forget (hn : owners[n]? = some user) :
    (d.forget n).LooksLike user owners (e.forget (rankOf user owners n)) := by
  have hpending (m : Nat) : d.pendingOf user = some m → owners[m]? = some user :=
    fun hm => hd.getElem? (hd.pending user m hm)
  refine ⟨by rw [loads_forget, loads_forget, h.loads], ?_⟩
  have he : e.pendingOf user = some (rankOf user owners n) →
      ∃ load, e.loads[rankOf user owners n]? = some load ∧ load.user = user := by
    intro heq
    rw [h.pending] at heq
    obtain ⟨m, hm, hrank⟩ := Option.map_eq_some_iff.1 heq
    obtain rfl := (rankOf_inj (hpending m hm) hn).1 hrank
    rw [h.getElem? hn]
    exact hd.exists_pending hm
  rw [pendingOf_forget_eq hd.exists_pending, pendingOf_forget_eq he, h.pending]
  cases hm : d.pendingOf user with
  | none => rfl
  | some m =>
    simp only [Option.map_some, Option.some.injEq, rankOf_inj (hpending m hm) hn]
    split <;> rfl

theorem forget_other (hn : owners[n]? ≠ some user) : (d.forget n).LooksLike user owners e := by
  refine ⟨by rw [loads_forget, h.loads], ?_⟩
  rw [pendingOf_forget_eq hd.exists_pending, if_neg, h.pending]
  exact fun hm => hn (hd.getElem? (hd.pending user n hm))

end LooksLike

end Desk

end HouseholdAccess
