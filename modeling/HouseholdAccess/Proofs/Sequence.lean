/-!
# Sequences that may fail

A sequence succeeds if each of its parts does, and so does a list that is gone through item by
item (`exists_mapM_eq_ok`, `exists_mapM_eq_some`). What each of some steps keeps, all of
them keep (`keeps_of_foldlM_eq_some`).
-/

namespace HouseholdAccess

variable {ε α β : Type} {x : Except ε α} {f : α → Except ε β} {b : β}

/-- What comes first in a sequence that succeeds succeeds. -/
theorem exists_of_bind_eq_ok (h : x >>= f = .ok b) : ∃ a, x = .ok a ∧ f a = .ok b := by
  cases x with
  | error e => cases h
  | ok a => exact ⟨a, rfl, h⟩

/-- A sequence goes on from what comes first. -/
theorem bind_eq_ok {a : α} (hx : x = .ok a) (hf : f a = .ok b) : x >>= f = .ok b := by
  rw [hx]
  exact hf

theorem bind_eq_ok_iff : x >>= f = .ok b ↔ ∃ a, x = .ok a ∧ f a = .ok b :=
  ⟨exists_of_bind_eq_ok, fun ⟨_, ha, hb⟩ => bind_eq_ok ha hb⟩

theorem pure_eq_ok_iff {b' : β} : (pure b : Except ε β) = .ok b' ↔ b' = b :=
  ⟨fun h => (Except.ok.inj h).symm, fun h => congrArg Except.ok h.symm⟩

theorem isOk_eq_true_iff : x.isOk = true ↔ ∃ a, x = .ok a := by
  cases x with
  | ok a => exact iff_of_true rfl ⟨a, rfl⟩
  | error e => exact iff_of_false (by simp [Except.isOk, Except.toBool]) (by simp)

theorem toOption_eq_some_iff {a : α} : x.toOption = some a ↔ x = .ok a := by
  cases x <;> simp [Except.toOption]

theorem eq_ok_of_toOption {a : α} (h : x.toOption = some a) : x = .ok a := toOption_eq_some_iff.1 h

/-- A sequence succeeds if what comes first does and it then goes on to succeed. -/
theorem exists_bind_eq_ok_iff :
    (∃ b, x >>= f = .ok b) ↔ ∃ a, x = .ok a ∧ ∃ b, f a = .ok b := by
  simp only [bind_eq_ok_iff, exists_and_left, exists_comm (α := β)]

/-- What is done with the outcome of a sequence does not make it fail. -/
theorem exists_bind_pure_eq_ok_iff {g : α → β} :
    (∃ b, (x >>= fun a => pure (g a)) = .ok b) ↔ ∃ a, x = .ok a := by
  rw [exists_bind_eq_ok_iff]
  exact exists_congr fun a => and_iff_left ⟨g a, rfl⟩

/-- How a sequence goes on matters only if what comes first succeeds. -/
theorem bind_congr_ok {g : α → Except ε β} (h : ∀ a, x = .ok a → f a = g a) :
    x >>= f = x >>= g := by
  cases x with
  | error e => rfl
  | ok a => exact h a rfl

/-- Renaming failures does not keep anything from failing. -/
theorem mapError_eq_ok_iff {ε' : Type} {g : ε → ε'} {a : α} {x : Except ε α} :
    x.mapError g = .ok a ↔ x = .ok a := by
  cases x with
  | ok b => exact ⟨fun h => congrArg _ (Except.ok.inj h), fun h => congrArg _ (Except.ok.inj h)⟩
  | error e => exact iff_of_false (fun h => by cases h) (fun h => by cases h)

/-! ## Lists -/

section Lists

variable {γ : Type} {g : α → Option β} {a : α} {as : List α} {bs : List β}

theorem mapM_cons_eq_some_iff : (a :: as).mapM g = some bs ↔
    ∃ b, g a = some b ∧ ∃ others, as.mapM g = some others ∧ bs = b :: others := by
  simp only [List.mapM_cons, Option.bind_eq_bind, Option.bind_eq_some_iff, Option.pure_def,
    Option.some.injEq, eq_comm (b := bs)]

/-- Each item of the outcome comes from one of the list. -/
theorem exists_of_mapM_eq_some (hbs : as.mapM g = some bs) : ∀ b ∈ bs, ∃ a ∈ as, g a = some b := by
  induction as generalizing bs with
  | nil =>
    cases hbs
    exact List.forall_mem_nil _
  | cons a rest ih =>
    obtain ⟨b, hb, others, hothers, rfl⟩ := mapM_cons_eq_some_iff.1 hbs
    refine List.forall_mem_cons.2 ⟨⟨a, List.mem_cons_self, hb⟩, fun b' hb' => ?_⟩
    exact (ih hothers b' hb').imp fun _ h => h.imp_left (List.mem_cons_of_mem a)

/-- Each item of the list has an outcome among the others. -/
theorem exists_mem_of_mapM_eq_some (hbs : as.mapM g = some bs) :
    ∀ a ∈ as, ∃ b ∈ bs, g a = some b := by
  induction as generalizing bs with
  | nil => exact List.forall_mem_nil _
  | cons a rest ih =>
    obtain ⟨b, hb, others, hothers, rfl⟩ := mapM_cons_eq_some_iff.1 hbs
    refine List.forall_mem_cons.2 ⟨⟨b, List.mem_cons_self, hb⟩, fun a' ha' => ?_⟩
    exact (ih hothers a' ha').imp fun _ h => h.imp_left (List.mem_cons_of_mem b)

/-- What items and their outcomes have in common, the list and its outcome have. -/
theorem map_eq_map_of_mapM_eq_some {k : α → γ} {l : β → γ} (h : ∀ a b, g a = some b → k a = l b)
    (hbs : as.mapM g = some bs) : as.map k = bs.map l := by
  induction as generalizing bs with
  | nil =>
    cases hbs
    rfl
  | cons a rest ih =>
    obtain ⟨b, hb, others, hothers, rfl⟩ := mapM_cons_eq_some_iff.1 hbs
    rw [List.map_cons, List.map_cons, h a b hb, ih hothers]

/-- A list of which every item succeeds succeeds. -/
theorem exists_mapM_eq_some (h : ∀ a ∈ as, ∃ b, g a = some b) : ∃ bs, as.mapM g = some bs := by
  induction as with
  | nil => exact ⟨[], rfl⟩
  | cons a rest ih =>
    rw [List.forall_mem_cons] at h
    obtain ⟨b, hb⟩ := h.1
    obtain ⟨bs, hbs⟩ := ih h.2
    exact ⟨b :: bs, mapM_cons_eq_some_iff.2 ⟨b, hb, bs, hbs, rfl⟩⟩

/-- Whether a list succeeds, and with what, does not depend on how items fail. -/
theorem mapM_eq_ok_iff : as.mapM f = .ok bs ↔ as.mapM (fun a => (f a).toOption) = some bs := by
  induction as generalizing bs with
  | nil =>
    exact ⟨fun h => congrArg some (Except.ok.inj h),
      fun h => congrArg Except.ok (Option.some.inj h)⟩
  | cons a rest ih =>
    rw [mapM_cons_eq_some_iff, List.mapM_cons]
    simp only [bind_eq_ok_iff, pure_eq_ok_iff, ih, toOption_eq_some_iff]

/-- What a list becomes, if each of its items becomes the given. -/
theorem eq_map_of_mapM_eq_ok {k : α → β} (h : ∀ a b, f a = .ok b → b = k a)
    (hbs : as.mapM f = .ok bs) : bs = as.map k := by
  have hmap : as.map k = bs.map id := map_eq_map_of_mapM_eq_some
    (fun a b hb => (h a b (eq_ok_of_toOption hb)).symm) (mapM_eq_ok_iff.1 hbs)
  rw [hmap, List.map_id]

/-- Each item of the outcome comes from one of the list. -/
theorem exists_of_mapM_eq_ok (hbs : as.mapM f = .ok bs) : ∀ b ∈ bs, ∃ a ∈ as, f a = .ok b := by
  simpa only [toOption_eq_some_iff] using exists_of_mapM_eq_some (mapM_eq_ok_iff.1 hbs)

/-- Each item of the list has an outcome among the others. -/
theorem exists_mem_of_mapM_eq_ok (hbs : as.mapM f = .ok bs) : ∀ a ∈ as, ∃ b ∈ bs, f a = .ok b := by
  simpa only [toOption_eq_some_iff] using exists_mem_of_mapM_eq_some (mapM_eq_ok_iff.1 hbs)

/-- A list of which every item succeeds succeeds. -/
theorem exists_mapM_eq_ok (h : ∀ a ∈ as, ∃ b, f a = .ok b) : ∃ bs, as.mapM f = .ok bs := by
  simp only [← toOption_eq_some_iff] at h
  exact (exists_mapM_eq_some h).imp fun _ => mapM_eq_ok_iff.2

/-- Failures may be renamed before or after a list is gone through. -/
theorem mapM_map_mapError {ε' : Type} (k : ε → ε') (as : List α) :
    (as.map fun a => (f a).mapError k).mapM id = (as.mapM f).mapError k := by
  induction as with
  | nil => rfl
  | cons a rest ih =>
    rw [List.map_cons, List.mapM_cons, List.mapM_cons, ih]
    cases f a with
    | error e => rfl
    | ok b =>
      change (rest.mapM f).mapError k >>= _ = ((rest.mapM f) >>= _).mapError k
      cases rest.mapM f <;> rfl

/-- A list of which every item has a known outcome has these outcomes. -/
theorem mapM_eq_ok_map {k : α → β} (h : ∀ a ∈ as, f a = .ok (k a)) :
    as.mapM f = .ok (as.map k) := by
  induction as with
  | nil => rfl
  | cons a rest ih =>
    rw [List.forall_mem_cons] at h
    rw [List.mapM_cons, h.1, ih h.2]
    rfl

/-- What each step keeps, all steps keep. -/
theorem keeps_of_foldlM_eq_some {σ : Type} {step : σ → α → Option σ} {P : σ → Prop}
    (hstep : ∀ a ∈ as, ∀ s s', P s → step s a = some s' → P s') {s s' : σ} (hs : P s)
    (h : as.foldlM step s = some s') : P s' := by
  induction as generalizing s with
  | nil =>
    cases h
    exact hs
  | cons a rest ih =>
    rw [List.forall_mem_cons] at hstep
    obtain ⟨t, ht, h⟩ := Option.bind_eq_some_iff.1 h
    exact ih hstep.2 (hstep.1 s t hs ht) h

end Lists

end HouseholdAccess
