import HouseholdAccess.Proofs.Cache.Serving

/-!
# Coherence of what is kept

The rule set of a user is *current* (`World.Current`) if it is compiled from the
rows of the store as they are. What is kept is coherent (`World.Coherent`) up to
some users who are *due*: every entry of the cache and every form on a record says
a lasting rule set, and a current one unless its user is due.

Dropping what is kept of a user leaves the user not due (`World.Coherent.drop`); an
entry that is put, and a form that is written, keep coherence if they say what may
be kept (`World.Coherent.setEntry`, `World.Coherent.setForm`). What the service does
with this is in `HouseholdAccess.Proofs.Cache.Keeping`.
-/

namespace HouseholdAccess

/-! ## What is kept -/

namespace World

variable {w w' w'' : World} {due due' : Id → Prop} {kind : StoreKind} {user : Id}

/-- The rule set is compiled from the rows of the store as they are. -/
def Current (w : World) (user : Id) (rules : RuleSet) : Prop :=
  ∃ c, w.contextOf user = .ok c ∧ rules = c.compile

/-- An entry says a rule set, a current one unless its user is due. -/
def EntryHolds (w : World) (due : Id → Prop) (e : CacheEntry) : Prop :=
  e.key.isText = true ∧ ∃ rules : RuleSet, Packed.loads (.text e.text) = .ok rules ∧
    (¬due e.key → w.Current e.key rules)

/-- A form says a lasting rule set, a current one unless its user is due. -/
def FormHolds (w : World) (kind : StoreKind) (due : Id → Prop) (f : Id × Value) : Prop :=
  f.1.isText = true ∧ ∃ rules : RuleSet, rules.IsLasting ∧ kind.Says f.2 rules ∧
    (¬due f.1 → w.Current f.1 rules)

/-- What is kept is current, unless its user is due. -/
structure Coherent (w : World) (kind : StoreKind) (due : Id → Prop) : Prop where
  entries : ∀ e ∈ w.entries, w.EntryHolds due e
  forms : ∀ f ∈ w.forms, w.FormHolds kind due f

/-- The worlds differ only in what is kept, and in the count of reads. -/
def Agrees (w w' : World) : Prop :=
  ∃ entries forms reads, w' = { w with entries, forms, reads }

theorem Agrees.refl (w : World) : w.Agrees w := ⟨w.entries, w.forms, w.reads, rfl⟩

theorem Agrees.trans (h : w.Agrees w') (h' : w'.Agrees w'') : w.Agrees w'' := by
  obtain ⟨entries, forms, reads, rfl⟩ := h
  obtain ⟨entries', forms', reads', rfl⟩ := h'
  exact ⟨entries', forms', reads', rfl⟩

theorem Agrees.contextOf_eq (h : w.Agrees w') (user : Id) :
    w'.contextOf user = w.contextOf user := by
  obtain ⟨entries, forms, reads, rfl⟩ := h
  rfl

theorem Agrees.readContext_eq (h : w.Agrees w') (user : Id) :
    w'.readContext user = w.readContext user := by
  obtain ⟨entries, forms, reads, rfl⟩ := h
  rfl

theorem Agrees.membersOf_eq (h : w.Agrees w') (household : Id) :
    w'.membersOf household = w.membersOf household := by
  obtain ⟨entries, forms, reads, rfl⟩ := h
  rfl

theorem Agrees.serves (h : w.Agrees w') (hw : w.Serves) : w'.Serves := by
  obtain ⟨entries, forms, reads, rfl⟩ := h
  exact ⟨⟨hw.store, hw.cache⟩, hw.sound⟩

theorem Agrees.hasTextNames (h : w.Agrees w') (hw : w.HasTextNames) : w'.HasTextNames := by
  obtain ⟨entries, forms, reads, rfl⟩ := h
  exact ⟨hw.rows, hw.managers⟩

theorem Agrees.current (h : w.Agrees w') {rules : RuleSet} (hrules : w.Current user rules) :
    w'.Current user rules := by
  rwa [Current, h.contextOf_eq]

/-- A user has one current rule set. -/
theorem Current.unique {rules rules' : RuleSet} (h : w.Current user rules)
    (h' : w.Current user rules') : rules = rules' := by
  obtain ⟨c, hc, rfl⟩ := h
  obtain ⟨c', hc', rfl⟩ := h'
  rw [hc] at hc'
  cases hc'
  rfl

theorem EntryHolds.mono (hdue : ∀ u, due u → due' u) {e : CacheEntry} (h : w.EntryHolds due e) :
    w.EntryHolds due' e := by
  obtain ⟨hkey, rules, hloads, hcurrent⟩ := h
  exact ⟨hkey, rules, hloads, fun hnot => hcurrent fun hdue' => hnot (hdue e.key hdue')⟩

theorem FormHolds.mono (hdue : ∀ u, due u → due' u) {f : Id × Value} (h : w.FormHolds kind due f) :
    w.FormHolds kind due' f := by
  obtain ⟨hkey, rules, hlasting, hholds, hcurrent⟩ := h
  exact ⟨hkey, rules, hlasting, hholds, fun hnot => hcurrent fun hdue' => hnot (hdue f.1 hdue')⟩

theorem Coherent.mono (h : w.Coherent kind due) (hdue : ∀ u, due u → due' u) :
    w.Coherent kind due' :=
  ⟨fun e he => (h.entries e he).mono hdue, fun f hf => (h.forms f hf).mono hdue⟩

/-- A world of the same rows in which only such entries and forms are kept as may be kept. -/
theorem Agrees.coherent (h : w.Agrees w') (hentries : ∀ e ∈ w'.entries, w.EntryHolds due e)
    (hforms : ∀ f ∈ w'.forms, w.FormHolds kind due f) : w'.Coherent kind due := by
  refine ⟨fun e he => ?_, fun f hf => ?_⟩
  · obtain ⟨hkey, rules, hloads, hcurrent⟩ := hentries e he
    exact ⟨hkey, rules, hloads, fun hnot => h.current (hcurrent hnot)⟩
  · obtain ⟨hkey, rules, hlasting, hholds, hcurrent⟩ := hforms f hf
    exact ⟨hkey, rules, hlasting, hholds, fun hnot => h.current (hcurrent hnot)⟩

/-! ### Changes of what is kept -/

theorem agrees_dropEntry (w : World) (user : Id) : w.Agrees (w.dropEntry user) := ⟨_, _, _, rfl⟩

theorem agrees_clearForm (w : World) (user : Id) : w.Agrees (w.clearForm user) := ⟨_, _, _, rfl⟩

theorem agrees_setForm (w : World) (user : Id) (form : Value) : w.Agrees (w.setForm user form) :=
  ⟨_, _, _, rfl⟩

theorem agrees_setEntry (w : World) (user : Id) (text : String) (seconds : Binary64) :
    w.Agrees (w.setEntry user text seconds) := ⟨_, _, _, rfl⟩

/-- Once the rule set of a user is dropped from both places, the user is not due. -/
theorem Coherent.drop (h : w.Coherent kind due) (huser : user.isText = true) :
    ((w.dropEntry user).clearForm user).Coherent kind fun u => due u ∧ u ≠ user := by
  refine ((w.agrees_dropEntry user).trans (agrees_clearForm _ user)).coherent (fun e he => ?_)
    fun f hf => ?_
  · obtain ⟨hmem, hkey⟩ := List.mem_filter.1 he
    rw [cacheName_of_isText huser, decide_eq_true_iff] at hkey
    obtain ⟨htext, rules, hloads, hcurrent⟩ := h.entries e hmem
    exact ⟨htext, rules, hloads, fun hnot => hcurrent fun hdue => hnot ⟨hdue, hkey⟩⟩
  · obtain ⟨hmem, hkey⟩ := List.mem_filter.1 hf
    rw [storeName_of_isText huser, decide_eq_true_iff] at hkey
    obtain ⟨htext, rules, hlasting, hholds, hcurrent⟩ := h.forms f hmem
    exact ⟨htext, rules, hlasting, hholds, fun hnot => hcurrent fun hdue => hnot ⟨hdue, hkey⟩⟩

theorem mem_putEntry {e x : CacheEntry} {entries : List CacheEntry}
    (h : x ∈ putEntry e entries) : x = e ∨ x ∈ entries := by
  induction entries with
  | nil => exact .inl (List.mem_singleton.1 h)
  | cons f rest ih =>
    rw [putEntry] at h
    split at h
    · rcases List.mem_cons.1 h with rfl | hx
      · exact .inl rfl
      · exact .inr (List.mem_cons_of_mem f hx)
    · rcases List.mem_cons.1 h with rfl | hx
      · exact .inr List.mem_cons_self
      · exact (ih hx).imp_right (List.mem_cons_of_mem f)

theorem mem_putForm {form : Value} {x : Id × Value} {forms : List (Id × Value)}
    (h : x ∈ putForm user form forms) : x = (user, form) ∨ x ∈ forms := by
  induction forms with
  | nil => exact .inl (List.mem_singleton.1 h)
  | cons f rest ih =>
    obtain ⟨u, v⟩ := f
    rw [putForm] at h
    split at h
    · next hu =>
      rcases List.mem_cons.1 h with rfl | hx
      · exact .inl (by rw [hu])
      · exact .inr (List.mem_cons_of_mem (u, v) hx)
    · rcases List.mem_cons.1 h with rfl | hx
      · exact .inr List.mem_cons_self
      · exact (ih hx).imp_right (List.mem_cons_of_mem (u, v))

theorem mem_presentEntries {e : CacheEntry} (h : e ∈ w.presentEntries) : e ∈ w.entries := by
  rw [presentEntries] at h
  split at h
  · exact h
  · exact (List.mem_filter.1 h).1

/-- Putting an entry that may be kept. -/
theorem Coherent.setEntry (h : w.Coherent kind due) (huser : user.isText = true) {text : String}
    {rules : RuleSet} (hloads : Packed.loads (.text text) = .ok rules)
    (hcurrent : ¬due user → w.Current user rules) (seconds : Binary64) :
    (w.setEntry user text seconds).Coherent kind due := by
  refine (w.agrees_setEntry user text seconds).coherent (fun e he => ?_) h.forms
  rcases mem_putEntry he with rfl | hmem
  · have hkey : w.cacheName user = user := cacheName_of_isText huser
    exact ⟨hkey.symm ▸ huser, rules, hloads, fun hnot => hkey.symm ▸ hcurrent (hkey ▸ hnot)⟩
  · exact h.entries e (mem_presentEntries hmem)

/-- Writing a form that may be kept. -/
theorem Coherent.setForm (h : w.Coherent kind due) (huser : user.isText = true) {form : Value}
    {rules : RuleSet} (hlasting : rules.IsLasting) (hholds : kind.Says form rules)
    (hcurrent : ¬due user → w.Current user rules) : (w.setForm user form).Coherent kind due := by
  refine (w.agrees_setForm user form).coherent h.entries fun f hf => ?_
  rcases mem_putForm hf with rfl | hmem
  · have hkey : w.storeName user = user := storeName_of_isText huser
    exact ⟨hkey.symm ▸ huser, rules, hlasting, hholds,
      fun hnot => hkey.symm ▸ hcurrent (hkey ▸ hnot)⟩
  · exact h.forms f hmem

theorem exists_mem_of_entryOf {e : CacheEntry} (huser : user.isText = true)
    (h : w.entryOf user = some e) : e ∈ w.entries ∧ e.key = user := by
  have hkey := List.find?_some h
  rw [decide_eq_true_iff, cacheName_of_isText huser] at hkey
  exact ⟨mem_presentEntries (List.mem_of_find?_eq_some h), hkey⟩

theorem mem_of_formOf {form : Value} (huser : user.isText = true)
    (h : w.formOf user = some form) : (user, form) ∈ w.forms := by
  have hlookup : w.forms.lookup user = some form := by
    rw [formOf, storeName_of_isText huser] at h
    split at h
    · cases h
    · exact h
  obtain ⟨before, after, hforms, -⟩ := List.lookup_eq_some_iff.1 hlookup
  rw [hforms]
  exact List.mem_append_right before List.mem_cons_self

/-- Looking an entry up may take it out, and leaves the others. -/
theorem Coherent.lookUp (h : w.Coherent kind due) (user : Id) :
    w.Agrees (w.lookUp user).2 ∧ (w.lookUp user).2.Coherent kind due := by
  rw [World.lookUp]
  split
  · exact ⟨Agrees.refl w, h⟩
  · split
    · have hagrees := w.agrees_dropEntry user
      exact ⟨hagrees, hagrees.coherent (fun e he => h.entries e (List.mem_filter.1 he).1) h.forms⟩
    · exact ⟨Agrees.refl w, h⟩

/-- What is found in the cache holds. -/
theorem Coherent.lookUp_some (h : w.Coherent kind due) (huser : user.isText = true) {text : String}
    (htext : (w.lookUp user).1 = some text) :
    ∃ rules : RuleSet, Packed.loads (.text text) = .ok rules ∧
      (¬due user → w.Current user rules) := by
  rw [World.lookUp] at htext
  split at htext
  · cases htext
  · next e he =>
    split at htext
    · cases htext
    · cases htext
      obtain ⟨hmem, rfl⟩ := exists_mem_of_entryOf huser he
      exact (h.entries e hmem).2

end World

end HouseholdAccess
