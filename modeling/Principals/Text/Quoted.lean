import Principals.Text.Printable

/-!
# Quoted text

Messages show text between quotes. The quote is `'`, or `"` for a text that has `'` and no `"`.
The backslash and the quote in use are escaped by a backslash, the line feed, carriage return and
tab by letters, and any other unprintable character by its code point in lower-case hexadecimal:
`\xhh`, `\uhhhh` or `\Uhhhhhhhh`, the shortest that holds it. Bytes are quoted alike after a `b`,
and every byte outside the printable ASCII range is written `\xhh`.
-/

namespace Principals.Text

/-- `n` in lower-case hexadecimal, with zeros in front up to `width` digits. -/
def hexadecimal (width n : Nat) : List Char :=
  let digits := Nat.toDigits 16 n
  List.replicate (width - digits.length) '0' ++ digits

/-- The quote for a text: `'` unless only `"` avoids an escape. -/
def quoteFor (cs : List Char) : Char :=
  if cs.contains '\'' && ! cs.contains '"' then '"' else '\''

/-- A character that is neither a backslash, the quote in use nor a control with a letter. -/
def escapeCodePoint (c : Char) : List Char :=
  let n := c.toNat
  if isPrintable c then [c]
  else if n < 0x100 then '\\' :: 'x' :: hexadecimal 2 n
  else if n < 0x10000 then '\\' :: 'u' :: hexadecimal 4 n
  else '\\' :: 'U' :: hexadecimal 8 n

/-- How a character is written between two quotes `quote`. -/
def escapeChar (quote c : Char) : List Char :=
  if c = '\\' ∨ c = quote then ['\\', c]
  else if c = '\n' then ['\\', 'n']
  else if c = '\r' then ['\\', 'r']
  else if c = '\t' then ['\\', 't']
  else escapeCodePoint c

/-- The text between quotes. -/
def quoted (s : String) : String :=
  let cs := s.toList
  let quote := quoteFor cs
  String.ofList (quote :: cs.flatMap (escapeChar quote) ++ [quote])

/-- How a byte is written between two quotes `quote`. -/
def escapeByte (quote : Char) (b : UInt8) : List Char :=
  let c := Char.ofNat b.toNat
  if 0x20 ≤ b.toNat ∧ b.toNat < 0x7F ∨ c = '\n' ∨ c = '\r' ∨ c = '\t' then escapeChar quote c
  else '\\' :: 'x' :: hexadecimal 2 b.toNat

/-- Bytes between quotes, after a `b`. -/
def quotedBytes (bytes : List UInt8) : String :=
  let quote := quoteFor (bytes.map fun b => Char.ofNat b.toNat)
  String.ofList ('b' :: quote :: bytes.flatMap (escapeByte quote) ++ [quote])

end Principals.Text
