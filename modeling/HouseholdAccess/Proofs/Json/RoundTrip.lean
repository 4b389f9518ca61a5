import HouseholdAccess.Proofs.Json.Scalar
import HouseholdAccess.Proofs.Sequence

/-!
# Values that survive JSON

A value is *faithful* (`Json.Faithful`) if JSON has a form of its own for it and
reading does not give up on it: nothing, truth values, texts, integers that are not
too long, and lists and objects of such, with no two entries of one key and no more
of them in each other than is allowed. `Json.read_write` says that the text of such
a value is read as the value, with blanks behind the separators or without.

Reading is given fuel by the length of the text. A value needs as much fuel as its
text is long, and the items of a list, or the members of an object, one more.
-/

namespace HouseholdAccess.Json

mutual

/-- A value that is read as it is written, with no more lists and objects in each other than
    `depth`. -/
def Faithful (depth : Nat) : Value → Prop
  | .null | .bool _ | .text _ => True
  | .int n => IsShort n
  | .list items => 0 < depth ∧ FaithfulItems (depth - 1) items
  | .object entries => 0 < depth ∧ FaithfulEntries (depth - 1) entries
  | _ => False

/-- Values that are read as they are written. -/
def FaithfulItems (depth : Nat) : List Value → Prop
  | [] => True
  | v :: rest => Faithful depth v ∧ FaithfulItems depth rest

/-- Entries that are read as they are written. -/
def FaithfulEntries (depth : Nat) : List (Key × Value) → Prop
  | [] => True
  | (key, v) :: rest =>
    (∃ s, key = .text s) ∧ (∀ entry ∈ rest, key.same entry.1 = false) ∧ Faithful depth v ∧
      FaithfulEntries depth rest

end

mutual

/-- More lists and objects in each other may be allowed. -/
theorem Faithful.mono {depth depth' : Nat} (hle : depth ≤ depth') {v : Value}
    (h : Faithful depth v) : Faithful depth' v := by
  cases v with
  | list items => exact ⟨h.1.trans_le hle, h.2.mono (Nat.sub_le_sub_right hle 1)⟩
  | object entries => exact ⟨h.1.trans_le hle, h.2.mono (Nat.sub_le_sub_right hle 1)⟩
  | _ => exact h

theorem FaithfulItems.mono {depth depth' : Nat} (hle : depth ≤ depth') {items : List Value}
    (h : FaithfulItems depth items) : FaithfulItems depth' items := by
  cases items with
  | nil => trivial
  | cons v rest => exact ⟨h.1.mono hle, h.2.mono hle⟩

theorem FaithfulEntries.mono {depth depth' : Nat} (hle : depth ≤ depth')
    {entries : List (Key × Value)} (h : FaithfulEntries depth entries) :
    FaithfulEntries depth' entries := by
  cases entries with
  | nil => trivial
  | cons entry rest => exact ⟨h.1, h.2.1, h.2.2.1.mono hle, h.2.2.2.mono hle⟩

end

/-- Separators are a comma and a colon, with blanks behind them. -/
structure Layout.IsStandard (layout : Layout) : Prop where
  comma : ∃ blanks, layout.comma.toList = ',' :: blanks ∧ ∀ c ∈ blanks, c = ' '
  colon : ∃ blanks, layout.colon.toList = ':' :: blanks ∧ ∀ c ∈ blanks, c = ' '

theorem isStandard_compact : compact.IsStandard := ⟨⟨[], rfl, by simp⟩, ⟨[], rfl, by simp⟩⟩

theorem isStandard_spaced : spaced.IsStandard := ⟨⟨[' '], rfl, by simp⟩, ⟨[' '], rfl, by simp⟩⟩

/-! ## The first character -/

/-- A text that begins with no blank and no closing bracket. -/
def Opens (cs : List Char) : Prop :=
  ∃ c rest, cs = c :: rest ∧ c ∉ [' ', '\t', '\n', '\r', ']', '\x7d']

theorem Opens.append {cs : List Char} (h : Opens cs) (rest : List Char) : Opens (cs ++ rest) := by
  obtain ⟨c, others, rfl, hc⟩ := h
  exact ⟨c, others ++ rest, rfl, hc⟩

theorem Opens.skipBlanks_eq {cs : List Char} (h : Opens cs) : skipBlanks cs = cs := by
  obtain ⟨c, rest, rfl, hc⟩ := h
  simp only [List.mem_cons, List.not_mem_nil, or_false, not_or] at hc
  rw [skipBlanks, List.dropWhile_cons_of_neg]
  simp [hc.1, hc.2.1, hc.2.2.1, hc.2.2.2.1]

/-- Blanks in front are skipped. -/
theorem Opens.skipBlanks_append {cs blanks : List Char} (h : Opens cs)
    (hblanks : ∀ c ∈ blanks, c = ' ') : skipBlanks (blanks ++ cs) = cs := by
  rw [skipBlanks, List.dropWhile_append_of_pos, ← skipBlanks, h.skipBlanks_eq]
  intro c hc
  simp [hblanks c hc]

theorem opens_quote (s : String) : Opens (quote s).toList := by
  rw [toList_quote]
  exact ⟨'"', _, rfl, by decide⟩

theorem opens_toString (n : Int) : Opens (toString n).toList := by
  obtain ⟨c, ds, hc, -, htext⟩ := exists_toList_toString n
  rw [htext]
  split
  · exact ⟨'-', _, rfl, by decide⟩
  · refine ⟨c, ds, rfl, fun hmem => ?_⟩
    have hnot : ∀ d ∈ [' ', '\t', '\n', '\r', ']', '\x7d'], d.isDigit = false := by
      simp [Char.isDigit]
    rw [hnot c hmem] at hc
    cases hc

theorem toList_list (s : String) : ("[" ++ s ++ "]").toList = '[' :: (s.toList ++ [']']) := by
  simp

theorem toList_object (s : String) :
    ("\x7b" ++ s ++ "\x7d").toList = '\x7b' :: (s.toList ++ ['\x7d']) := by
  simp

mutual

/-- A faithful value has a text. -/
theorem exists_write (layout : Layout) {depth : Nat} (v : Value) (h : Faithful depth v) :
    ∃ text, write layout v = .ok text ∧ Opens text.toList := by
  cases v with
  | null => exact ⟨_, rfl, 'n', _, rfl, by decide⟩
  | bool b =>
    cases b with
    | true => exact ⟨_, rfl, 't', _, rfl, by decide⟩
    | false => exact ⟨_, rfl, 'f', _, rfl, by decide⟩
  | int n => exact ⟨_, rfl, opens_toString n⟩
  | text s => exact ⟨_, rfl, opens_quote s⟩
  | list items =>
    obtain ⟨texts, htexts⟩ := exists_writeItems layout items h.2
    refine ⟨_, by rw [write, htexts]; rfl, ?_⟩
    rw [toList_list]
    exact ⟨'[', _, rfl, by decide⟩
  | object entries =>
    obtain ⟨texts, htexts⟩ := exists_writeEntries layout entries h.2
    refine ⟨_, by rw [write, htexts]; rfl, ?_⟩
    rw [toList_object]
    exact ⟨'\x7b', _, rfl, by decide⟩
  | _ => exact h.elim

theorem exists_writeItems (layout : Layout) {depth : Nat} (items : List Value)
    (h : FaithfulItems depth items) : ∃ texts, writeItems layout items = .ok texts := by
  cases items with
  | nil => exact ⟨[], rfl⟩
  | cons v rest =>
    obtain ⟨text, htext, -⟩ := exists_write layout v h.1
    obtain ⟨texts, htexts⟩ := exists_writeItems layout rest h.2
    exact ⟨text :: texts, by rw [writeItems, htext, htexts]; rfl⟩

theorem exists_writeEntries (layout : Layout) {depth : Nat} (entries : Entries)
    (h : FaithfulEntries depth entries) : ∃ texts, writeEntries layout entries = .ok texts := by
  cases entries with
  | nil => exact ⟨[], rfl⟩
  | cons entry rest =>
    obtain ⟨⟨s, hs⟩, -, hv, hrest⟩ := h
    obtain ⟨text, htext, -⟩ := exists_write layout entry.2 hv
    obtain ⟨texts, htexts⟩ := exists_writeEntries layout rest hrest
    refine ⟨(quote s ++ layout.colon ++ text) :: texts, ?_⟩
    obtain ⟨key, v⟩ := entry
    obtain rfl : key = .text s := hs
    rw [writeEntries, writeKey, htext, htexts]
    rfl

end

/-! ## Reading what is written -/

variable {layout : Layout} {depth fuel : Nat} {rest : List Char}

theorem opens_of_write {v : Value} (h : Faithful depth v) {text : String}
    (htext : write layout v = .ok text) : Opens text.toList := by
  obtain ⟨other, hother, hopens⟩ := exists_write layout v h
  rw [htext] at hother
  cases hother
  exact hopens

theorem Opens.length_pos {cs : List Char} (h : Opens cs) : 0 < cs.length := by
  obtain ⟨c, others, rfl, -⟩ := h
  exact Nat.succ_pos _

theorem exists_cons_of_writeItems {v : Value} {items : List Value} {texts : List String}
    (h : writeItems layout (v :: items) = .ok texts) : ∃ text more, texts = text :: more := by
  rw [writeItems] at h
  obtain ⟨text, -, h⟩ := exists_of_bind_eq_ok h
  obtain ⟨more, -, h⟩ := exists_of_bind_eq_ok h
  cases h
  exact ⟨text, more, rfl⟩

theorem exists_cons_of_writeEntries {entry : Key × Value} {entries : Entries} {texts : List String}
    (h : writeEntries layout (entry :: entries) = .ok texts) :
    ∃ text more, texts = text :: more := by
  rw [writeEntries] at h
  obtain ⟨name, -, h⟩ := exists_of_bind_eq_ok h
  obtain ⟨text, -, h⟩ := exists_of_bind_eq_ok h
  obtain ⟨more, -, h⟩ := exists_of_bind_eq_ok h
  cases h
  exact ⟨_, more, rfl⟩

/-- What begins as no text, no list and no object is a scalar. -/
theorem readValue_scalar {c : Char} (hc : c ∉ ['"', '[', '\x7b']) (cs : List Char) :
    readValue (fuel + 1) depth (c :: cs) = readScalar (c :: cs) := by
  simp only [List.mem_cons, List.not_mem_nil, or_false, not_or] at hc
  rw [readValue]
  · exact fun _ h => hc.1 (List.cons.inj h).1
  · exact fun _ h => hc.2.1 (List.cons.inj h).1
  · exact fun _ h => hc.2.2 (List.cons.inj h).1

/-- Closing brackets close. -/
theorem closes_cons {c : Char} (h : c = ',' ∨ c = ']' ∨ c = '\x7d') (cs : List Char) :
    Closes (c :: cs) := by
  intro d hd
  cases hd
  exact h

theorem readValue_int {n : Int} (hn : IsShort n) (hfuel : 0 < fuel) (hrest : Closes rest) :
    readValue fuel depth ((toString n).toList ++ rest) = .ok (.int n, rest) := by
  obtain ⟨f, rfl⟩ := Nat.exists_eq_succ_of_ne_zero (by omega : fuel ≠ 0)
  rw [← readScalar_int hn hrest]
  obtain ⟨c, ds, hc, -, htext⟩ := exists_toList_toString n
  rw [htext]
  split
  · exact readValue_scalar (by decide) _
  · refine readValue_scalar (fun hmem => ?_) _
    have hnot : ∀ d ∈ ['"', '[', '\x7b'], d.isDigit = false := by simp [Char.isDigit]
    rw [hnot c hmem] at hc
    cases hc

theorem readValue_text (s : String) (hfuel : 0 < fuel) :
    readValue fuel depth ((quote s).toList ++ rest) = .ok (.text s, rest) := by
  obtain ⟨f, rfl⟩ := Nat.exists_eq_succ_of_ne_zero (by omega : fuel ≠ 0)
  rw [toList_quote, List.cons_append, List.append_assoc, readValue, List.singleton_append,
    readText_quote]
  rfl

/-- A list is read by its items, unless there are none. -/
theorem readValue_list {items : List Value} {inner : List Char} (hdepth : 0 < depth)
    (hinner : items = [] ∧ inner = [] ∨ Opens inner ∧
      readItems fuel (depth - 1) (inner ++ ']' :: rest) = .ok (items, rest)) :
    readValue (fuel + 1) depth ('[' :: (inner ++ ']' :: rest)) = .ok (.list items, rest) := by
  rw [readValue, if_neg (by omega)]
  rcases hinner with ⟨rfl, rfl⟩ | ⟨hopens, hread⟩
  · rfl
  · rw [(hopens.append _).skipBlanks_eq]
    split
    · next others hothers =>
      obtain ⟨c, cs, rfl, hc⟩ := hopens
      rw [(List.cons.inj hothers).1] at hc
      exact absurd hc (by decide)
    · rw [hread]
      rfl

/-- An object is read by its members, unless there are none. -/
theorem readValue_object {entries : Entries} {inner : List Char} (hdepth : 0 < depth)
    (hpairs : Entries.ofPairs entries = entries)
    (hinner : entries = [] ∧ inner = [] ∨ Opens inner ∧
      readMembers fuel (depth - 1) (inner ++ '\x7d' :: rest) = .ok (entries, rest)) :
    readValue (fuel + 1) depth ('\x7b' :: (inner ++ '\x7d' :: rest)) =
      .ok (.object entries, rest) := by
  rw [readValue, if_neg (by omega)]
  rcases hinner with ⟨rfl, rfl⟩ | ⟨hopens, hread⟩
  · rfl
  · rw [(hopens.append _).skipBlanks_eq]
    split
    · next others hothers =>
      obtain ⟨c, cs, rfl, hc⟩ := hopens
      rw [(List.cons.inj hothers).1] at hc
      exact absurd hc (by decide)
    · rw [hread]
      change Except.ok (Value.object (Entries.ofPairs entries), rest) = _
      rw [hpairs]

/-- An entry with a new key is put at the end. -/
theorem put_eq_append {entries : Entries} {key : Key} {v : Value}
    (h : ∀ entry ∈ entries, entry.1.same key = false) :
    Entries.put entries key v = entries ++ [(key, v)] := by
  induction entries with
  | nil => rfl
  | cons entry others ih =>
    rw [List.forall_mem_cons] at h
    rw [Entries.put, if_neg (by simp [h.1]), ih h.2, List.cons_append]

theorem foldl_put {entries : Entries} (h : FaithfulEntries depth entries) {before : Entries}
    (hbefore : ∀ b ∈ before, ∀ entry ∈ entries, b.1.same entry.1 = false) :
    entries.foldl (fun others (key, v) => Entries.put others key v) before = before ++ entries := by
  induction entries generalizing before with
  | nil => rw [List.foldl_nil, List.append_nil]
  | cons entry others ih =>
    obtain ⟨key, v⟩ := entry
    have hput : ∀ b ∈ before, b.1.same key = false :=
      fun b hb => hbefore b hb (key, v) List.mem_cons_self
    -- No key before is the same, so that the entry is put behind all of them.
    change List.foldl _ (Entries.put before key v) others = _
    rw [put_eq_append hput, ih h.2.2.2, List.append_assoc, List.singleton_append]
    refine List.forall_mem_append.2 ⟨fun b hb other hother => ?_, ?_⟩
    · exact hbefore b hb other (List.mem_cons_of_mem _ hother)
    · exact List.forall_mem_singleton.2 h.2.1

theorem ofPairs_eq {entries : Entries} (h : FaithfulEntries depth entries) :
    Entries.ofPairs entries = entries :=
  foldl_put h fun _ hb => nomatch hb

theorem toList_member (s : String) (colon text : String) (cs : List Char) :
    (quote s ++ colon ++ text).toList ++ cs =
      '"' :: (s.toList.flatMap escape ++ '"' :: (colon.toList ++ (text.toList ++ cs))) := by
  simp [toList_quote]

theorem length_member (s text : String) {colon : String} (hcolon : 0 < colon.toList.length) :
    text.toList.length + 3 ≤ (quote s ++ colon ++ text).toList.length := by
  simp only [String.toList_append, toList_quote, List.length_append, List.length_cons,
    List.length_nil]
  omega

/-- A member with nothing behind it. -/
theorem readMembers_last {s text : String} {v : Value} {colon : String}
    (hcolon : ∃ blanks, colon.toList = ':' :: blanks ∧ ∀ c ∈ blanks, c = ' ')
    (hopens : Opens text.toList)
    (hread : readValue fuel depth (text.toList ++ '\x7d' :: rest) = .ok (v, '\x7d' :: rest)) :
    readMembers (fuel + 1) depth ((quote s ++ colon ++ text).toList ++ '\x7d' :: rest) =
      .ok ([(.text s, v)], rest) := by
  obtain ⟨blanks, hcolon, hblanks⟩ := hcolon
  rw [toList_member, readMembers, readText_quote, hcolon]
  have hskip (cs : List Char) : skipBlanks (':' :: cs) = ':' :: cs := rfl
  simp only [bind, Except.bind, List.cons_append, hskip,
    (hopens.append _).skipBlanks_append hblanks, hread]
  rfl

/-- A member with others behind it. -/
theorem readMembers_next {s text : String} {v : Value} {colon : String} {blanks inner : List Char}
    {pairs : Entries} (hcolon : ∃ blanks, colon.toList = ':' :: blanks ∧ ∀ c ∈ blanks, c = ' ')
    (hopens : Opens text.toList)
    (hread : readValue fuel depth (text.toList ++ ',' :: (blanks ++ inner)) =
      .ok (v, ',' :: (blanks ++ inner)))
    (hblanks : ∀ c ∈ blanks, c = ' ') (hinner : Opens inner)
    (hpairs : readMembers fuel depth inner = .ok (pairs, rest)) :
    readMembers (fuel + 1) depth ((quote s ++ colon ++ text).toList ++ ',' :: (blanks ++ inner)) =
      .ok ((.text s, v) :: pairs, rest) := by
  obtain ⟨colonBlanks, hcolon, hcolonBlanks⟩ := hcolon
  rw [toList_member, readMembers, readText_quote, hcolon]
  have hskip (cs : List Char) : skipBlanks (':' :: cs) = ':' :: cs := rfl
  have hskip' (cs : List Char) : skipBlanks (',' :: cs) = ',' :: cs := rfl
  simp only [bind, Except.bind, List.cons_append, hskip, hskip',
    (hopens.append _).skipBlanks_append hcolonBlanks, hread, hinner.skipBlanks_append hblanks,
    hpairs]
  rfl

mutual

/-- A value is read from its text, whatever closes it. -/
theorem readValue_write (hlayout : layout.IsStandard) (v : Value) {depth fuel : Nat}
    (hv : Faithful depth v) {text : String} (htext : write layout v = .ok text)
    (hfuel : text.toList.length ≤ fuel) {rest : List Char} (hrest : Closes rest) :
    readValue fuel depth (text.toList ++ rest) = .ok (v, rest) := by
  have hopens := opens_of_write hv htext
  have hpos : 0 < fuel := hopens.length_pos.trans_le hfuel
  obtain ⟨f, rfl⟩ := Nat.exists_eq_succ_of_ne_zero (by omega : fuel ≠ 0)
  cases v with
  | null =>
    cases htext
    exact readValue_scalar (by decide) _
  | bool b =>
    cases htext
    cases b with
    | true => exact readValue_scalar (by decide) _
    | false => exact readValue_scalar (by decide) _
  | int n =>
    cases htext
    exact readValue_int hv hpos hrest
  | text s =>
    cases htext
    exact readValue_text s hpos
  | list items =>
    obtain ⟨texts, htexts⟩ := exists_writeItems layout items hv.2
    rw [write, htexts] at htext
    cases htext
    rw [toList_list] at hfuel ⊢
    rw [List.cons_append, List.append_assoc, List.singleton_append]
    refine readValue_list hv.1 ?_
    cases items with
    | nil =>
      cases htexts
      exact .inl ⟨rfl, rfl⟩
    -- The brackets leave enough fuel for the items, one step less than for the list.
    | cons w others =>
      refine .inr (readItems_write hlayout (w :: others) (by simp) hv.2 htexts ?_)
      simpa using hfuel
  | object entries =>
    obtain ⟨texts, htexts⟩ := exists_writeEntries layout entries hv.2
    rw [write, htexts] at htext
    cases htext
    rw [toList_object] at hfuel ⊢
    rw [List.cons_append, List.append_assoc, List.singleton_append]
    refine readValue_object hv.1 (ofPairs_eq hv.2) ?_
    cases entries with
    | nil =>
      cases htexts
      exact .inl ⟨rfl, rfl⟩
    | cons entry others =>
      refine .inr (readMembers_write hlayout (entry :: others) (by simp) hv.2 htexts ?_)
      simpa using hfuel
  | _ => exact hv.elim

/-- The items of a list are read from their texts. -/
theorem readItems_write (hlayout : layout.IsStandard) (items : List Value) {depth fuel : Nat}
    (hne : items ≠ []) (hitems : FaithfulItems depth items) {texts : List String}
    (htexts : writeItems layout items = .ok texts)
    (hfuel : (layout.comma.intercalate texts).toList.length + 1 ≤ fuel) {rest : List Char} :
    Opens (layout.comma.intercalate texts).toList ∧
      readItems fuel depth ((layout.comma.intercalate texts).toList ++ ']' :: rest) =
        .ok (items, rest) := by
  obtain ⟨f, rfl⟩ := Nat.exists_eq_succ_of_ne_zero (by omega : fuel ≠ 0)
  match items with
  | [] => exact absurd rfl hne
  | v :: others =>
    obtain ⟨text, htext, hopens⟩ := exists_write layout v hitems.1
    obtain ⟨more, hmore⟩ := exists_writeItems layout others hitems.2
    rw [writeItems, htext, hmore] at htexts
    cases htexts
    match others with
    | [] =>
      cases hmore
      rw [String.intercalate_singleton] at hfuel ⊢
      refine ⟨hopens, ?_⟩
      rw [readItems, readValue_write hlayout v hitems.1 htext (by omega)
        (closes_cons (.inr (.inl rfl)) rest)]
      rfl
    | w :: others =>
      obtain ⟨next, texts, rfl⟩ := exists_cons_of_writeItems hmore
      rw [String.intercalate_cons_cons] at hfuel ⊢
      obtain ⟨blanks, hcomma, hblanks⟩ := hlayout.comma
      simp only [String.toList_append, hcomma, List.append_assoc, List.cons_append,
        List.length_append, List.length_cons] at hfuel ⊢
      refine ⟨hopens.append _, ?_⟩
      obtain ⟨hothers, hread⟩ : _ ∧ readItems f depth (_ ++ ']' :: rest) = _ :=
        readItems_write hlayout (w :: others) (by simp) hitems.2 hmore (by omega)
      rw [readItems, readValue_write hlayout v hitems.1 htext (by omega)
        (closes_cons (.inl rfl) _)]
      -- The blanks of the layout stand in front of the next item, and are skipped.
      change (do
        let (items, rest) ← readItems f depth (skipBlanks (blanks ++ _))
        return (v :: items, rest)) = _
      rw [(hothers.append _).skipBlanks_append hblanks, hread]
      rfl

/-- The members of an object are read from their texts. -/
theorem readMembers_write (hlayout : layout.IsStandard) (entries : Entries) {depth fuel : Nat}
    (hne : entries ≠ []) (hentries : FaithfulEntries depth entries) {texts : List String}
    (htexts : writeEntries layout entries = .ok texts)
    (hfuel : (layout.comma.intercalate texts).toList.length + 1 ≤ fuel) {rest : List Char} :
    Opens (layout.comma.intercalate texts).toList ∧
      readMembers fuel depth ((layout.comma.intercalate texts).toList ++ '\x7d' :: rest) =
        .ok (entries, rest) := by
  obtain ⟨f, rfl⟩ := Nat.exists_eq_succ_of_ne_zero (by omega : fuel ≠ 0)
  match entries with
  | [] => exact absurd rfl hne
  | (key, v) :: others =>
    obtain ⟨⟨s, hs⟩, -, hv, hothers⟩ := hentries
    obtain rfl : key = .text s := hs
    obtain ⟨text, htext, hopens⟩ := exists_write layout v hv
    obtain ⟨more, hmore⟩ := exists_writeEntries layout others hothers
    obtain ⟨blanks, hcomma, hblanks⟩ := hlayout.comma
    have hcolon : 0 < layout.colon.toList.length := by
      obtain ⟨colonBlanks, hcolon, -⟩ := hlayout.colon
      simp [hcolon]
    have hlength := length_member s text hcolon
    rw [writeEntries, writeKey, htext, hmore] at htexts
    cases htexts
    match others with
    | [] =>
      cases hmore
      rw [String.intercalate_singleton] at hfuel ⊢
      refine ⟨?_, readMembers_last hlayout.colon hopens ?_⟩
      · rw [String.append_assoc, String.toList_append]
        exact (opens_quote s).append _
      · exact readValue_write hlayout v hv htext (by omega) (closes_cons (.inr (.inr rfl)) rest)
    | entry :: others =>
      obtain ⟨next, texts, rfl⟩ := exists_cons_of_writeEntries hmore
      rw [String.intercalate_cons_cons] at hfuel ⊢
      rw [String.toList_append, String.toList_append, hcomma] at hfuel ⊢
      simp only [List.length_append, List.length_cons, List.append_assoc,
        List.cons_append] at hfuel ⊢
      obtain ⟨hinner, hread⟩ : _ ∧ readMembers f depth (_ ++ '\x7d' :: rest) = _ :=
        readMembers_write hlayout (entry :: others) (by simp) hothers hmore (by omega)
      refine ⟨?_, readMembers_next hlayout.colon hopens ?_ hblanks (hinner.append _) hread⟩
      · rw [String.append_assoc, String.toList_append, List.append_assoc]
        exact (opens_quote s).append _
      · exact readValue_write hlayout v hv htext (by omega) (closes_cons (.inl rfl) _)

end

/-- A faithful value is read from its text. -/
theorem read_write (hlayout : layout.IsStandard) {v : Value} (hv : Faithful depthLimit v)
    {text : String} (htext : write layout v = .ok text) : read text = .ok v := by
  have hread : readValue (2 * text.toList.length + 2) depthLimit (text.toList ++ []) = _ :=
    readValue_write hlayout v hv htext (by omega) fun _ hc => nomatch hc
  rw [List.append_nil] at hread
  rw [read, readChars, (opens_of_write hv htext).skipBlanks_eq, hread]
  rfl

/-! ## Depth -/

theorem skipBlanks_brackets (n : Nat) :
    skipBlanks (List.replicate n '[') = List.replicate n '[' := by
  cases n <;> rfl

/-- A list in too many others is refused, whatever it holds. -/
theorem readValue_brackets (depth : Nat) {fuel : Nat} (hfuel : 2 * depth < fuel) :
    readValue fuel depth (List.replicate (depth + 1) '[') = .error (.tooDeep true) := by
  induction depth generalizing fuel with
  | zero =>
    obtain ⟨fuel, rfl⟩ : ∃ k, fuel = k + 1 := ⟨fuel - 1, by omega⟩
    rfl
  | succ depth ih =>
    obtain ⟨fuel, rfl⟩ : ∃ k, fuel = k + 2 := ⟨fuel - 2, by omega⟩
    have hitems : readItems (fuel + 1) depth (List.replicate (depth + 1) '[') =
        .error (.tooDeep true) := by
      rw [readItems, ih (by omega)]
      rfl
    rw [List.replicate_succ, readValue, if_neg (Nat.succ_ne_zero depth), skipBlanks_brackets]
    change (readItems (fuel + 1) depth (List.replicate (depth + 1) '[') >>= _) = _
    rw [hitems]
    rfl

theorem read_brackets :
    read (String.ofList (List.replicate (depthLimit + 1) '[')) = .error (.tooDeep true) := by
  rw [read, String.toList_ofList, readChars, skipBlanks_brackets,
    readValue_brackets depthLimit (by rw [List.length_replicate]; omega)]
  rfl

end HouseholdAccess.Json
