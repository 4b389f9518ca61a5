import HouseholdAccess.Text.CharacterName.Table

/-!
# Character names

Names of characters, as patterns may give them instead of the characters. The
ideographs and the syllables of the Korean script have names by rule, which are
written in capitals; the other characters have the names of a table, which may be
written in small letters.
-/

namespace HouseholdAccess.CharacterName

/-! ## Names by rule -/

/-- Blocks of ideographs that are named by their code point. -/
def ideographBlocks : List (Nat × Nat) := [
    (0x3400, 0x4dbf), (0x4e00, 0x9fff), (0x20000, 0x2a6df), (0x2a700, 0x2b738),
    (0x2b740, 0x2b81d), (0x2b820, 0x2cea1), (0x2ceb0, 0x2ebe0), (0x30000, 0x3134a)]

/-- The value of a hexadecimal digit in capitals. -/
def hexValue? (c : Char) : Option Nat :=
  if '0' ≤ c ∧ c ≤ '9' then some (c.toNat - 48)
  else if 'A' ≤ c ∧ c ≤ 'F' then some (c.toNat - 55)
  else none

/-- The value of hexadecimal digits in capitals. -/
def hexNumber? (cs : List Char) : Option Nat :=
  cs.foldlM (fun n c => (hexValue? c).map (16 * n + ·)) 0

/-- The ideograph that a name gives by four or five hexadecimal digits. -/
def ideograph? (name : List Char) : Option Nat := do
  let lead := "CJK UNIFIED IDEOGRAPH-".toList
  if lead.isPrefixOf name then
    let digits := name.drop lead.length
    if digits.length = 4 || digits.length = 5 then
      let c ← hexNumber? digits
      if ideographBlocks.any fun (low, high) => low ≤ c && c ≤ high then some c else none
    else none
  else none

/-- The sounds a syllable may start with, in order. -/
def leads : List String :=
  ["G", "GG", "N", "D", "DD", "R", "M", "B", "BB", "S", "SS", "", "J", "JJ", "C", "K", "T", "P",
    "H"]

/-- The vowels of a syllable, in order. -/
def vowels : List String :=
  ["A", "AE", "YA", "YAE", "EO", "E", "YEO", "YE", "O", "WA", "WAE", "OE", "YO", "U", "WEO", "WE",
    "WI", "YU", "EU", "YI", "I"]

/-- The sounds a syllable may end with, in order. -/
def tails : List String :=
  ["", "G", "GG", "GS", "N", "NJ", "NH", "D", "L", "LG", "LM", "LB", "LS", "LT", "LP", "LH", "M",
    "B", "BS", "S", "SS", "NG", "J", "C", "K", "T", "P", "H"]

/-- The indices of the entries that a text starts with, each with what follows. -/
def starts (entries : List String) (cs : List Char) : List (Nat × List Char) :=
  entries.zipIdx.filterMap fun (entry, i) =>
    if entry.toList.isPrefixOf cs then some (i, cs.drop entry.length) else none

/-- The Korean syllable that a name spells. -/
def syllable? (name : List Char) : Option Nat :=
  let lead := "HANGUL SYLLABLE ".toList
  if lead.isPrefixOf name then
    let all := (starts leads (name.drop lead.length)).flatMap fun (l, cs) =>
      (starts vowels cs).flatMap fun (v, cs) =>
        (starts tails cs).filterMap fun (t, cs) =>
          if cs.isEmpty then some (0xac00 + (l * 21 + v) * 28 + t) else none
    all.head?
  else none

/-! ## Names of the table -/

/-- How many characters a mark of the table stands for. -/
def markValue (c : Char) : Nat :=
  if c.isDigit then c.toNat - 48 else if c.isLower then c.toNat - 87 else c.toNat - 29

/-- How many characters two texts have in common at the start. -/
def commonLength : List Char → List Char → Nat
  | c :: cs, d :: ds => if c = d then commonLength cs ds + 1 else 0
  | _, _ => 0

/-- How far the table has been read in search of a name. -/
structure Search where
  /-- The character that is named next. -/
  next : Nat := 0
  /-- How many characters the name read last has in common with the one sought. -/
  agreed : Nat := 0
  /-- The character whose name it is, if it has been found. -/
  found : Option Nat := none

/-- Reads an entry of the table. A name that shares more with the name before than that one does
    with the name sought has nothing more in common with it either. -/
def Search.read (sought : List Char) (s : Search) (entry : String) : Search :=
  match entry.toList with
  | [] => s
  | '=' :: digits => { s with next := (hexNumber? digits).getD s.next }
  | mark :: tail =>
    let shared := markValue mark
    if s.agreed < shared then { s with next := s.next + 1 }
    else
      let agreed := shared + commonLength tail (sought.drop shared)
      let isSought := agreed = sought.length && shared + tail.length = agreed
      { next := s.next + 1, agreed, found := if isSought then some s.next else s.found }

/-- The entries of the table. -/
def entries : List String := (table.splitOn "\n").flatMap (·.splitOn ";")

/-- The code point that a name of the table stands for. -/
def inTable? (name : String) : Option Nat :=
  let sought := (name.map Char.toUpper).toList
  (entries.foldl (Search.read sought) {}).found

/-- The code point that a name stands for. -/
def lookup? (name : String) : Option Nat :=
  ideograph? name.toList <|> syllable? name.toList <|> inTable? name

end HouseholdAccess.CharacterName
