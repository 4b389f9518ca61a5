import HouseholdAccess.Json.Reader
import Mathlib.Data.List.TakeDrop
import Mathlib.Tactic.IntervalCases
import Mathlib.Tactic.SplitIfs

/-!
# Texts and integers in JSON

What `Json.quote` writes is read as the text that it is (`Json.readText_quote`),
and what `toString` writes as the integer that it is, if it has no more digits
than may be read (`Json.readScalar_int`).

A number ends where something follows that does not go on with it: behind a value
of a document stands nothing, or a comma, or a closing bracket (`Json.Closes`).
-/

namespace HouseholdAccess.Json

/-! ## Texts -/

theorem hexValue?_hexDigit : ∀ n < 16, hexValue? (Quoted.hexDigit n) = some n := by decide

theorem unit?_hex {n : Nat} (h : n < 0x10000) :
    unit? (Quoted.hexDigit (n / 16 / 16 / 16 % 16)) (Quoted.hexDigit (n / 16 / 16 % 16))
      (Quoted.hexDigit (n / 16 % 16)) (Quoted.hexDigit (n % 16)) = some n := by
  have hdigit (m : Nat) : hexValue? (Quoted.hexDigit (m % 16)) = some (m % 16) :=
    hexValue?_hexDigit (m % 16) (Nat.mod_lt m (by decide))
  simp only [unit?, hdigit, Option.bind_eq_bind, Option.bind_some, Option.pure_def,
    Option.some.injEq]
  omega

/-- An escape of a unit is read as that unit. -/
theorem readUnits_unitEscape {n : Nat} (h : n < 0x10000) (cs : List Char) :
    readUnits (unitEscape n ++ cs) =
      (readUnits cs).map fun (units, rest) => (n :: units, rest) := by
  simp only [unitEscape, Quoted.hex, List.nil_append, List.cons_append, readUnits, unit?_hex h]
  cases readUnits cs <;> rfl

/-- The units that a character is written in. -/
def unitsOf (c : Char) : List Nat :=
  if c.toNat < 0x10000 then [c.toNat]
  else [0xd800 + (c.toNat - 0x10000) / 0x400, 0xdc00 + (c.toNat - 0x10000) % 0x400]

/-- A letter after a backslash is read as the character that it stands for. -/
theorem readUnits_letter {e : Char} {n : Nat} (hu : e ≠ 'u') (he : letterEscape? e = some n)
    (cs : List Char) :
    readUnits ('\\' :: e :: cs) = (readUnits cs).map fun (units, rest) => (n :: units, rest) := by
  rw [readUnits]
  · rw [he]
    cases readUnits cs <;> rfl
  · exact fun _ _ _ _ _ h => absurd h hu

/-- Other characters are read as themselves. -/
theorem readUnits_plain {c : Char} (hquote : c ≠ '"') (hback : c ≠ '\\') (hblank : ' ' ≤ c)
    (cs : List Char) :
    readUnits (c :: cs) = (readUnits cs).map fun (units, rest) => (c.toNat :: units, rest) := by
  have hlow : ¬(c < ' ' ∨ c = '\\') := by
    rintro (h | h)
    · exact Char.not_lt.2 hblank h
    · exact hback h
  rw [readUnits]
  · simp only [Bool.or_eq_true, decide_eq_true_eq, if_neg hlow]
    cases readUnits cs <;> rfl
  · exact hquote
  · exact fun _ _ _ _ _ h => absurd h hback
  · exact fun _ _ h => absurd h hback

/-- A character has no code between those of the first plane that are halves of pairs. -/
theorem toNat_lt (c : Char) : c.toNat < 0xd800 ∨ 0xdfff < c.toNat ∧ c.toNat < 0x110000 := c.valid

/-- A character is read as its units. -/
theorem readUnits_escape (c : Char) (cs : List Char) :
    readUnits (escape c ++ cs) =
      (readUnits cs).map fun (units, rest) => (unitsOf c ++ units, rest) := by
  -- The letters stand for characters of the first plane, which are one unit each.
  have hletter {e : Char} (hu : e ≠ 'u') (he : letterEscape? e = some c.toNat)
      (hc : unitsOf c = [c.toNat]) : readUnits (['\\', e] ++ cs) =
        (readUnits cs).map fun (units, rest) => (unitsOf c ++ units, rest) := by
    rw [hc]
    exact readUnits_letter hu he cs
  rw [escape]
  split_ifs with h1 h2 h3 h4 h5 h6 h7 hplain hone
  · exact hletter (by decide) (by rw [h1]; rfl) (by rw [h1]; rfl)
  · exact hletter (by decide) (by rw [h2]; rfl) (by rw [h2]; rfl)
  · exact hletter (by decide) (by rw [h3]; rfl) (by rw [h3]; rfl)
  · exact hletter (by decide) (by rw [h4]; rfl) (by rw [h4]; rfl)
  · exact hletter (by decide) (by rw [h5]; rfl) (by rw [h5]; rfl)
  · exact hletter (by decide) (by rw [h6]; rfl) (by rw [h6]; rfl)
  · exact hletter (by decide) (by rw [h7]; rfl) (by rw [h7]; rfl)
  · have hascii : c.toNat ≤ 126 := hplain.2
    rw [unitsOf, if_pos (by omega)]
    exact readUnits_plain h1 h2 hplain.1 cs
  · rw [unitsOf, if_pos hone]
    exact readUnits_unitEscape hone cs
  · have hc := toNat_lt c
    rw [unitsOf, if_neg hone, List.append_assoc, readUnits_unitEscape (by omega),
      readUnits_unitEscape (by omega)]
    cases readUnits cs <;> rfl

/-- The units of characters are joined to the characters again. -/
theorem joinUnits_unitsOf (c : Char) (units : List Nat) :
    joinUnits (unitsOf c ++ units) = c :: joinUnits units := by
  have hc := toNat_lt c
  rw [unitsOf]
  split
  · -- A character of the first plane is no half of a pair.
    have hhalf : ¬(0xd800 ≤ c.toNat ∧ c.toNat < 0xdc00) := by omega
    cases units with
    | nil => simp [joinUnits]
    | cons m rest => simp [joinUnits, hhalf]
  · obtain ⟨n, hn⟩ : ∃ n, n = 0xd800 + (c.toNat - 0x10000) / 0x400 := ⟨_, rfl⟩
    obtain ⟨m, hm⟩ : ∃ m, m = 0xdc00 + (c.toNat - 0x10000) % 0x400 := ⟨_, rfl⟩
    have hpair : (0xd800 ≤ n && n < 0xdc00 && 0xdc00 ≤ m && m < 0xe000) = true := by
      simp only [Bool.and_eq_true, decide_eq_true_eq]
      omega
    have hcode : Encoding.pairCode n m = c.toNat := by
      unfold Encoding.pairCode
      omega
    rw [← hn, ← hm, List.cons_append, List.cons_append, List.nil_append, joinUnits, if_pos hpair,
      hcode, Char.ofNat_toNat]

theorem readUnits_flatMap_escape (cs rest : List Char) :
    readUnits (cs.flatMap escape ++ '"' :: rest) = some (cs.flatMap unitsOf, rest) := by
  induction cs with
  | nil => simp [readUnits]
  | cons c cs ih =>
    rw [List.flatMap_cons, List.append_assoc, readUnits_escape, ih]
    rfl

theorem joinUnits_flatMap_unitsOf (cs : List Char) : joinUnits (cs.flatMap unitsOf) = cs := by
  induction cs with
  | nil => rfl
  | cons c cs ih => rw [List.flatMap_cons, joinUnits_unitsOf, ih]

theorem toList_quote (s : String) :
    (quote s).toList = '"' :: (s.toList.flatMap escape ++ ['"']) := by
  rw [quote, String.toList_ofList, List.cons_append]

/-- A text in quotes is read as that text. -/
theorem readText_quote (s : String) (rest : List Char) :
    readText (s.toList.flatMap escape ++ '"' :: rest) = .ok (s, rest) := by
  rw [readText, readUnits_flatMap_escape]
  simp [joinUnits_flatMap_unitsOf]

/-! ## Integers -/

/-- What may stand behind a value: nothing, a comma or a closing bracket. -/
def Closes (rest : List Char) : Prop := ∀ c, rest.head? = some c → c = ',' ∨ c = ']' ∨ c = '\x7d'

theorem span_append {p : Char → Bool} {ds rest : List Char} (hds : ∀ c ∈ ds, p c = true)
    (hrest : ∀ c, rest.head? = some c → p c = false) : (ds ++ rest).span p = (ds, rest) := by
  rw [List.span_eq_takeWhile_dropWhile, List.takeWhile_append_of_pos hds,
    List.dropWhile_append_of_pos hds]
  cases rest with
  | nil => simp
  | cons c rest => simp [hrest c rfl]

/-- The first digit of a number is zero for zero only. -/
theorem head?_toDigits {n : Nat} (hn : 0 < n) : (Nat.toDigits 10 n).head? ≠ some '0' := by
  induction n using Nat.strongRecOn with
  | ind n ih =>
    rw [Nat.toDigits_eq_if (by decide)]
    split
    · next h =>
      interval_cases n <;> decide
    · next h =>
      have hhead := ih (n / 10) (by omega) (by omega)
      cases hdigits : Nat.toDigits 10 (n / 10) with
      | nil => exact absurd hdigits Nat.toDigits_ne_nil
      | cons c ds =>
        rw [hdigits] at hhead
        exact hhead

theorem Closes.not_isDigit {rest : List Char} (h : Closes rest) (c : Char)
    (hc : rest.head? = some c) : c.isDigit = false := by
  rcases h c hc with rfl | rfl | rfl <;> rfl

theorem spanDigits_toDigits (n : Nat) {rest : List Char} (h : Closes rest) :
    Decimal.spanDigits (Nat.toDigits 10 n ++ rest) = (Nat.toDigits 10 n, rest) :=
  span_append (fun _ hc => Nat.isDigit_of_mem_toDigits (by decide) (by decide) hc) h.not_isDigit

theorem readWhole_toDigits (n : Nat) {rest : List Char} (h : Closes rest) :
    readWhole (Nat.toDigits 10 n ++ rest) = some (Nat.toDigits 10 n, rest) := by
  rcases Nat.eq_zero_or_pos n with rfl | hn
  · rfl
  · have hempty : (Nat.toDigits 10 n).isEmpty = false := by simp
    rw [readWhole]
    · simp [spanDigits_toDigits n h, hempty]
    · intro others hothers
      have hhead := head?_toDigits hn
      cases hdigits : Nat.toDigits 10 n with
      | nil => exact Nat.toDigits_ne_nil hdigits
      | cons c ds =>
        rw [hdigits] at hhead hothers
        exact hhead (congrArg some (List.cons.inj hothers).1)

/-- Digits with nothing behind them that goes on with a number are read as an integer. -/
theorem readNumber_toDigits (negative : Bool) (n : Nat) {rest : List Char} (h : Closes rest)
    (hlimit : (Nat.toDigits 10 n).length ≤ digitLimit) :
    readNumber negative (Nat.toDigits 10 n ++ rest) =
      .ok (.int (if negative then -n else n), rest) := by
  have hfraction : readFraction rest = ([], rest) := by
    rw [readFraction]
    intro others hothers
    subst hothers
    rcases h '.' rfl with h | h | h <;> exact absurd h (by decide)
  have hexponent : readExponent rest = (none, rest) := by
    cases rest with
    | nil => rfl
    | cons c rest =>
      rcases h c rfl with rfl | rfl | rfl <;> rfl
  have hnat : Decimal.natOf (Nat.toDigits 10 n) = n := Nat.ofDigitChars_ten_toDigits
  rw [readNumber, readWhole_toDigits n h]
  simp [hfraction, hexponent, Nat.not_lt.2 hlimit, hnat]

/-- An integer has no more digits than may be read. -/
def IsShort (n : Int) : Prop := (Nat.toDigits 10 n.natAbs).length ≤ digitLimit

/-- A text does not start with a word that starts with another character. -/
theorem afterWord?_eq_none (word : String) {d c : Char} {ds : List Char}
    (hword : word.toList = d :: ds) (h : d ≠ c) (cs : List Char) :
    afterWord? word (c :: cs) = none := by
  rw [afterWord?, hword, List.isPrefixOf, beq_eq_false_iff_ne.2 h, Bool.false_and]
  rfl

/-- Only the first characters of words begin a word, and a sign may. -/
theorem readWord_eq_none {c : Char} {cs : List Char} (hc : c ∉ ['n', 't', 'f', 'N', 'I'])
    (hminus : afterWord? "-Infinity" (c :: cs) = none) : readWord (c :: cs) = none := by
  simp only [List.mem_cons, List.not_mem_nil, or_false, not_or] at hc
  obtain ⟨hn, ht, hf, hN, hI⟩ := hc
  simp only [readWord, List.findSome?_cons, List.findSome?_nil, Option.map_none, hminus,
    afterWord?_eq_none "null" rfl (Ne.symm hn), afterWord?_eq_none "true" rfl (Ne.symm ht),
    afterWord?_eq_none "false" rfl (Ne.symm hf), afterWord?_eq_none "NaN" rfl (Ne.symm hN),
    afterWord?_eq_none "Infinity" rfl (Ne.symm hI)]

/-- No word begins with a digit, and none with a digit after a sign. -/
theorem readWord_digit {c : Char} (hc : c.isDigit = true) (cs : List Char) :
    readWord (c :: cs) = none ∧ readWord ('-' :: c :: cs) = none := by
  have hne (d : Char) (hd : d.isDigit = false) : d ≠ c := by
    rintro rfl
    rw [hc] at hd
    cases hd
  constructor
  · refine readWord_eq_none (fun hmem => ?_) (afterWord?_eq_none _ rfl (hne '-' rfl) cs)
    have hnot : ∀ d ∈ ['n', 't', 'f', 'N', 'I'], d.isDigit = false := by simp [Char.isDigit]
    exact hne c (hnot c hmem) rfl
  · refine readWord_eq_none (by decide) ?_
    have hword : "-Infinity".toList = '-' :: 'I' :: "nfinity".toList := by decide
    rw [afterWord?, hword, List.isPrefixOf, List.isPrefixOf, beq_eq_false_iff_ne.2 (hne 'I' rfl)]
    rfl

/-- An integer is written as a sign, if it is negative, and digits. -/
theorem exists_toList_toString (n : Int) : ∃ c ds, c.isDigit = true ∧
    Nat.toDigits 10 n.natAbs = c :: ds ∧
      (toString n).toList = if n < 0 then '-' :: c :: ds else c :: ds := by
  obtain ⟨c, ds, hdigits⟩ :=
    List.exists_cons_of_ne_nil (Nat.toDigits_ne_nil (n := n.natAbs) (b := 10))
  have hc : c.isDigit = true := by
    refine Nat.isDigit_of_mem_toDigits (b := 10) (n := n.natAbs) (by decide) (by decide) ?_
    rw [hdigits]
    exact List.mem_cons_self
  refine ⟨c, ds, hc, hdigits, ?_⟩
  rw [← hdigits]
  cases n with
  | ofNat m =>
    rw [if_neg (by simp)]
    exact Nat.toList_repr
  | negSucc m =>
    rw [if_pos (Int.negSucc_lt_zero m)]
    change ("-" ++ (m + 1).repr).toList = _
    rw [String.toList_append, Nat.toList_repr]
    rfl

/-- An integer that is not too long is read as what it is. -/
theorem readScalar_int {n : Int} (hn : IsShort n) {rest : List Char} (h : Closes rest) :
    readScalar ((toString n).toList ++ rest) = .ok (.int n, rest) := by
  obtain ⟨c, ds, hc, hdigits, htext⟩ := exists_toList_toString n
  have hword := readWord_digit hc (ds ++ rest)
  have hread := fun negative => readNumber_toDigits negative n.natAbs h hn
  rw [hdigits, List.cons_append] at hread
  rw [htext]
  split
  · next hneg =>
    rw [List.cons_append, List.cons_append, readScalar, hword.2]
    refine (hread true).trans ?_
    rw [if_pos rfl, ← Int.natAbs_neg, Int.natAbs_of_nonneg (by omega), neg_neg]
  · next hneg =>
    rw [List.cons_append, readScalar, hword.1]
    · refine (hread false).trans ?_
      rw [if_neg (by decide), Int.natAbs_of_nonneg (by omega)]
    · rintro others hothers
      rw [(List.cons.inj hothers).1] at hc
      cases hc

end HouseholdAccess.Json
