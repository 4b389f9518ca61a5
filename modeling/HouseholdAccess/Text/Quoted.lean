import HouseholdAccess.Text.CharacterClass

/-!
# Quoted text

Messages show a text between quotes: single ones, or double ones when it holds
a single quote and no double one. The quote in use and the backslash are
escaped, line breaks and tabs are written as letters, and other characters that
do not print as their code in hexadecimal.
-/

namespace HouseholdAccess

namespace Quoted

/-- A hexadecimal digit. -/
def hexDigit (n : Nat) : Char := "0123456789abcdef".toList[n]?.getD '0'

/-- The last `width` hexadecimal digits of a number. -/
def hex : Nat → Nat → List Char
  | 0, _ => []
  | width + 1, n => hex width (n / 16) ++ [hexDigit (n % 16)]

/-- The quote to put around a text with or without single and double quotes. -/
def quoteFor (hasSingle hasDouble : Bool) : Char := if hasSingle && !hasDouble then '"' else '\''

/-- The escape of a character that does not print: the shortest code that holds it. -/
def codeEscape (n : Nat) : List Char :=
  if n < 0x100 then '\\' :: 'x' :: hex 2 n
  else if n < 0x10000 then '\\' :: 'u' :: hex 4 n
  else '\\' :: 'U' :: hex 8 n

/-- A character as quoted text shows it. -/
def escape (quote c : Char) : List Char :=
  if c = quote || c = '\\' then ['\\', c]
  else if c = '\n' then ['\\', 'n']
  else if c = '\r' then ['\\', 'r']
  else if c = '\t' then ['\\', 't']
  else if CharacterClass.isPrintable c.toNat then [c]
  else codeEscape c.toNat

/-- A text in quotes. -/
def text (s : String) : String :=
  let quote := quoteFor (s.toList.contains '\'') (s.toList.contains '"')
  String.ofList (quote :: s.toList.flatMap (escape quote) ++ [quote])

/-- A byte as a quoted byte string shows it: only printing ASCII characters as themselves. -/
def escapeByte (quote : Char) (b : UInt8) : List Char :=
  let c := Char.ofNat b.toNat
  if 0x20 ≤ b && b < 0x7f || c = '\n' || c = '\r' || c = '\t' then escape quote c
  else codeEscape b.toNat

/-- A byte string in quotes, marked as one. -/
def bytes (bs : List UInt8) : String :=
  let quote := quoteFor (bs.contains 39) (bs.contains 34)
  String.ofList ('b' :: quote :: bs.flatMap (escapeByte quote) ++ [quote])

end Quoted

end HouseholdAccess
