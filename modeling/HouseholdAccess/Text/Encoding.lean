/-!
# Text encodings

Byte strings as text. `Encoding.decode` refuses bytes that are not a text in
the given encoding, and `Encoding.detect` tells the encoding of a JSON text
from its first bytes: by a byte order mark, or by where zero bytes fall around
the two ASCII characters that such a text starts with.
-/

namespace HouseholdAccess

/-- The order of the bytes of a number. -/
inductive ByteOrder
  /-- The high byte first. -/
  | big
  /-- The low byte first. -/
  | little
  deriving DecidableEq

/-- How a text is written in bytes. -/
inductive Encoding
  /-- One to four bytes a character. -/
  | utf8
  /-- Two or four bytes a character. -/
  | utf16 (order : ByteOrder)
  /-- Four bytes a character. -/
  | utf32 (order : ByteOrder)
  deriving DecidableEq

namespace Encoding

/-- The number that bytes spell in an order. -/
def number (order : ByteOrder) (bs : List UInt8) : Nat :=
  let bs := match order with
    | .big => bs
    | .little => bs.reverse
  bs.foldl (fun n b => 256 * n + b.toNat) 0

/-- The character with a code, if there is one. -/
def char? (n : Nat) : Option Char := if n.isValidChar then some (Char.ofNat n) else none

/-- Whether a byte goes on with a character. -/
def isTail (b : UInt8) : Bool := 0x80 ≤ b && b < 0xc0

/-- The low six bits of a byte that goes on with a character. -/
def tailBits (b : UInt8) : Nat := b.toNat - 0x80

/-- A character that takes at least the number of bytes it is written in. -/
def longChar? (least : Nat) (n : Nat) : Option Char := if least ≤ n then char? n else none

/-- The characters of a text in one to four bytes each. -/
def decode8 : List UInt8 → Option (List Char)
  | [] => some []
  | a :: rest =>
    if a < 0x80 then (decode8 rest).map (Char.ofNat a.toNat :: ·)
    else match rest with
      | b :: rest =>
        if !isTail b then none
        else if 0xc2 ≤ a && a < 0xe0 then do
          let c ← longChar? 0x80 ((a.toNat - 0xc0) * 64 + tailBits b)
          return c :: (← decode8 rest)
        else match rest with
          | c :: rest =>
            if !isTail c then none
            else if 0xe0 ≤ a && a < 0xf0 then do
              let c ← longChar? 0x800 (((a.toNat - 0xe0) * 64 + tailBits b) * 64 + tailBits c)
              return c :: (← decode8 rest)
            else match rest with
              | d :: rest =>
                if !isTail d then none
                else if 0xf0 ≤ a && a < 0xf5 then do
                  let c ← longChar? 0x10000
                    ((((a.toNat - 0xf0) * 64 + tailBits b) * 64 + tailBits c) * 64 + tailBits d)
                  return c :: (← decode8 rest)
                else none
              | [] => none
          | [] => none
      | [] => none

/-- The character that a pair of units stands for. -/
def pairCode (high low : Nat) : Nat := 0x10000 + (high - 0xd800) * 0x400 + (low - 0xdc00)

/-- The characters of a text in units of two bytes. -/
def decode16 (order : ByteOrder) : List UInt8 → Option (List Char)
  | [] => some []
  | a :: b :: rest =>
    let unit := number order [a, b]
    if 0xd800 ≤ unit && unit < 0xdc00 then
      match rest with
      | c :: d :: rest =>
        let low := number order [c, d]
        if 0xdc00 ≤ low && low < 0xe000 then do
          let c ← char? (pairCode unit low)
          return c :: (← decode16 order rest)
        else none
      | _ => none
    else do
      let c ← char? unit
      return c :: (← decode16 order rest)
  | _ => none

/-- The characters of a text in units of four bytes. -/
def decode32 (order : ByteOrder) : List UInt8 → Option (List Char)
  | [] => some []
  | a :: b :: c :: d :: rest => do
    let c ← char? (number order [a, b, c, d])
    return c :: (← decode32 order rest)
  | _ => none

/-- The text that bytes spell in an encoding. -/
def decode (encoding : Encoding) (bs : List UInt8) : Option String :=
  (match encoding with
    | .utf8 => decode8 bs
    | .utf16 order => decode16 order bs
    | .utf32 order => decode32 order bs).map String.ofList

/-- How many bytes go on with a character that starts with a byte, and between which bounds the
    first of them lies. -/
def tailsOf? (a : UInt8) : Option (Nat × UInt8 × UInt8) :=
  if 0xc2 ≤ a && a < 0xe0 then some (1, 0x80, 0xbf)
  else if a = 0xe0 then some (2, 0xa0, 0xbf)
  else if a = 0xed then some (2, 0x80, 0x9f)
  else if 0xe1 ≤ a && a < 0xf0 then some (2, 0x80, 0xbf)
  else if a = 0xf0 then some (3, 0x90, 0xbf)
  else if a = 0xf4 then some (3, 0x80, 0x8f)
  else if 0xf1 ≤ a && a < 0xf4 then some (3, 0x80, 0xbf)
  else none

/-- The bytes that go on with a character after its first byte, as far as they do. -/
def tailsIn (low high : UInt8) : Nat → List UInt8 → List UInt8
  | 0, _ => []
  | _, [] => []
  | n + 1, b :: rest => if low ≤ b && b ≤ high then b :: tailsIn 0x80 0xbf n rest else []

/-- What stands for bytes that are no character. -/
def replacement : Char := Char.ofNat 0xfffd

/-- The first character of a text in one to four bytes each, and how many bytes after the first
    one it takes. Bytes that are no character count as one that is replaced, as far as they could
    have been the start of one. -/
def leniently (a : UInt8) (rest : List UInt8) : Char × Nat :=
  if a < 0x80 then (Char.ofNat a.toNat, 0)
  else match tailsOf? a with
    | none => (replacement, 0)
    | some (n, low, high) =>
      let tails := tailsIn low high n rest
      if tails.length = n then
        (((decode8 (a :: tails)).bind List.head?).getD replacement, n)
      else (replacement, tails.length)

/-- The characters of a text in one to four bytes each, whatever the bytes. -/
def decodeLeniently : List UInt8 → List Char
  | [] => []
  | a :: rest =>
    let (c, n) := leniently a rest
    c :: decodeLeniently (rest.drop n)
termination_by bs => bs.length
decreasing_by simp only [List.length_drop, List.length_cons]; omega

/-- The encoding of a JSON text, and the text without its byte order mark. -/
def detect (bs : List UInt8) : Encoding × List UInt8 :=
  match bs with
  | 0 :: 0 :: 0xfe :: 0xff :: rest => (.utf32 .big, rest)
  | 0xff :: 0xfe :: 0 :: 0 :: rest => (.utf32 .little, rest)
  | 0xfe :: 0xff :: rest => (.utf16 .big, rest)
  | 0xff :: 0xfe :: rest => (.utf16 .little, rest)
  | 0xef :: 0xbb :: 0xbf :: rest => (.utf8, rest)
  | a :: b :: c :: d :: _ =>
    if a = 0 then (if b = 0 then .utf32 .big else .utf16 .big, bs)
    else if b = 0 then (if c = 0 && d = 0 then .utf32 .little else .utf16 .little, bs)
    else (.utf8, bs)
  | [a, b] =>
    if a = 0 then (.utf16 .big, bs)
    else if b = 0 then (.utf16 .little, bs)
    else (.utf8, bs)
  | _ => (.utf8, bs)

end Encoding

end HouseholdAccess
