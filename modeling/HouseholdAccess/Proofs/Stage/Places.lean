import HouseholdAccess.Proofs.Stage.Behaviour

/-!
# What an access does to what is kept

An entry of the cache that is there after an access was there before, or has been put
there by it (`World.mem_entries_answer`), and so for the form on a record
(`World.lookup_forms_answer`). The entries of the cache have different keys.
-/

namespace HouseholdAccess

variable {user : Id}

namespace World

variable {w : World}

theorem pairwise_putEntry {e : CacheEntry} {entries : List CacheEntry}
    (h : entries.Pairwise fun e f => e.key ≠ f.key) :
    (putEntry e entries).Pairwise fun e f => e.key ≠ f.key := by
  induction entries with
  | nil => exact List.pairwise_singleton _ _
  | cons f rest ih =>
    rw [List.pairwise_cons] at h
    rw [putEntry]
    split
    · next hkey => exact List.pairwise_cons.2 ⟨fun g hg => hkey ▸ h.1 g hg, h.2⟩
    · next hkey =>
      refine List.pairwise_cons.2 ⟨fun g hg => ?_, ih h.2⟩
      rcases mem_putEntry hg with rfl | hg
      · exact hkey
      · exact h.1 g hg

/-- The entry that has been put is the only one with its key. -/
theorem eq_of_mem_putEntry {e x : CacheEntry} {entries : List CacheEntry}
    (h : entries.Pairwise fun e f => e.key ≠ f.key) (hx : x ∈ putEntry e entries)
    (hkey : x.key = e.key) : x = e := by
  induction entries with
  | nil => exact List.mem_singleton.1 hx
  | cons f rest ih =>
    rw [List.pairwise_cons] at h
    rw [putEntry] at hx
    split at hx
    · next hf =>
      rcases List.mem_cons.1 hx with rfl | hx
      · rfl
      · exact absurd (hf.trans hkey.symm) (h.1 x hx)
    · next hf =>
      rcases List.mem_cons.1 hx with rfl | hx
      · exact absurd hkey hf
      · exact ih h.2 hx

theorem pairwise_presentEntries (h : w.entries.Pairwise fun e f => e.key ≠ f.key) :
    w.presentEntries.Pairwise fun e f => e.key ≠ f.key := by
  rw [presentEntries]
  split
  · exact h
  · exact h.filter _

/-- Looking an entry up puts none there. -/
theorem entries_lookUp (w : World) (user : Id) :
    (w.lookUp user).2.entries = w.entries ∨
      (w.lookUp user).2.entries = w.entries.filter fun e => e.key ≠ w.cacheName user := by
  rw [lookUp]
  split
  · exact .inl rfl
  · split
    · exact .inr rfl
    · exact .inl rfl

/-- Keys stay different from each other. -/
theorem pairwise_answer (h : w.entries.Pairwise fun e f => e.key ≠ f.key) (a : Access) :
    ((w.begin a).answer a).2.entries.Pairwise fun e f => e.key ≠ f.key := by
  cases a with
  | cacheGet user =>
    rcases w.entries_lookUp user with hsame | hfilter
    · exact hsame ▸ h
    · exact hfilter ▸ h.filter _
  | cacheSet user text seconds => exact pairwise_putEntry (pairwise_presentEntries h)
  | cacheDelete user => exact h.filter _
  | cacheClose =>
    simp only [begin, answer]
    split
    · exact List.Pairwise.nil
    · exact h
  | _ => exact h

/-- An entry that is there after an access was there before, or has been put there by it. -/
theorem mem_entries_answer (h : w.entries.Pairwise fun e f => e.key ≠ f.key)
    (huser : user.isText = true) {a : Access} (ha : (Operation.access a).IsAbout user)
    {x : CacheEntry} (hx : x ∈ ((w.begin a).answer a).2.entries) (hkey : x.key = user) :
    (x ∈ w.entries ∧ a ≠ .cacheDelete user ∧ ∀ v text seconds, a ≠ .cacheSet v text seconds) ∨
      ∃ seconds, a = .cacheSet user x.text seconds := by
  cases a with
  -- A lookup takes out what has expired, and puts nothing in.
  | cacheGet v =>
    refine .inl ⟨?_, by simp, by simp⟩
    rcases w.entries_lookUp v with hsame | hfilter
    · exact hsame ▸ hx
    · have hmem : x ∈ (w.lookUp v).2.entries := hx
      rw [hfilter] at hmem
      exact (List.mem_filter.1 hmem).1
  -- Keys are names, and this is the entry of the user: there is one entry for each key.
  | cacheSet v text seconds =>
    obtain rfl : v = user := ha
    have hname : w.cacheName v = v := cacheName_of_isText huser
    have heq := eq_of_mem_putEntry (pairwise_presentEntries h) hx (hkey.trans hname.symm)
    exact .inr ⟨seconds, by rw [heq]⟩
  | cacheDelete v =>
    obtain rfl : v = user := ha
    have hne := (List.mem_filter.1 hx).2
    rw [decide_eq_true_iff] at hne
    exact absurd (hkey.trans (cacheName_of_isText huser).symm) hne
  | cacheSize | cacheInfo | cachePing | cacheOpen | cacheClose | storeStart | storeStop | storePing
  | brokerConnect | brokerSubscribe => exact ha.elim
  | _ => exact .inl ⟨hx, by simp, by simp⟩

theorem lookup_putForm (user : Id) (form : Value) (forms : List (Id × Value)) :
    (putForm user form forms).lookup user = some form := by
  induction forms with
  | nil => exact List.lookup_cons_self
  | cons f rest ih =>
    obtain ⟨u, v⟩ := f
    rw [putForm]
    split
    · next hu => rw [hu, List.lookup_cons_self]
    · next hu =>
      rw [List.lookup_cons, beq_false_of_ne (Ne.symm hu)]
      exact ih

/-- What has been written on the record of a user is on it. -/
theorem formOf_setForm (w : World) (user : Id) {form : Value} (hform : form ≠ .null) :
    (w.setForm user form).formOf user = some form := by
  rw [formOf, show (w.setForm user form).storeName user = w.storeName user from rfl, setForm,
    lookup_putForm]
  split
  · next heq => exact absurd (Option.some.inj heq) hform
  · rfl

/-- A form that is there after an access was there before, or has been written by it. -/
theorem lookup_forms_answer (huser : user.isText = true) {a : Access}
    (ha : (Operation.access a).IsAbout user) {v : Value}
    (hv : ((w.begin a).answer a).2.forms.lookup user = some v) :
    (w.forms.lookup user = some v ∧ a ≠ .clear user ∧ ∀ u form, a ≠ .save u form) ∨
      a = .save user v := by
  cases a with
  | save u form =>
    obtain rfl : u = user := ha
    have hname : w.storeName u = u := storeName_of_isText huser
    have hlookup : (putForm (w.storeName u) form w.forms).lookup u = some v := hv
    rw [hname, lookup_putForm] at hlookup
    exact .inr (by rw [Option.some.inj hlookup])
  -- No form of the user is left when the record has been wiped.
  | clear u =>
    obtain rfl : u = user := ha
    have hname : w.storeName u = u := storeName_of_isText huser
    have hmem : (u, v) ∈ w.forms.filter fun f => f.1 ≠ w.storeName u := by
      obtain ⟨before, after, hforms, -⟩ := List.lookup_eq_some_iff.1 hv
      rw [show w.forms.filter (fun f => f.1 ≠ w.storeName u) = _ from hforms]
      exact List.mem_append_right before List.mem_cons_self
    have hne := (List.mem_filter.1 hmem).2
    rw [decide_eq_true_iff] at hne
    exact absurd hname.symm hne
  | cacheGet u =>
    refine .inl ⟨?_, by simp, by simp⟩
    have hsame : (w.lookUp u).2.forms = w.forms := by
      rw [lookUp]
      split
      · rfl
      · split <;> rfl
    rw [← hsame]
    exact hv
  | cacheSize | cacheInfo | cachePing | cacheOpen | cacheClose | storeStart | storeStop | storePing
  | brokerConnect | brokerSubscribe => exact ha.elim
  | _ => exact .inl ⟨hv, by simp, by simp⟩

end World

end HouseholdAccess
