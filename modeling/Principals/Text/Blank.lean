/-!
# Blank characters and trimming

Two sets of blanks are in use. `isWhiteSpace` is the Unicode property `White_Space`; the text
fields of principals, realms and events are trimmed by it. `isSeparating` also takes the four
information separators U+001C to U+001F; the emptiness check of a subject prefix trims by it.
-/

namespace Principals.Text

/-- The Unicode property `White_Space`. -/
def isWhiteSpace (c : Char) : Bool :=
  let n := c.toNat
  (0x09 ≤ n && n ≤ 0x0D) || n == 0x20 || n == 0x85 || n == 0xA0 || n == 0x1680 ||
    (0x2000 ≤ n && n ≤ 0x200A) || n == 0x2028 || n == 0x2029 || n == 0x202F || n == 0x205F ||
    n == 0x3000

/-- White space and the four information separators. -/
def isSeparating (c : Char) : Bool :=
  isWhiteSpace c || (0x1C ≤ c.toNat && c.toNat ≤ 0x1F)

/-- The characters without those at the end that satisfy `p`. -/
def dropEndWhile (p : Char → Bool) (cs : List Char) : List Char :=
  (cs.reverse.dropWhile p).reverse

/-- The characters without those at either end that satisfy `p`. -/
def trimWhile (p : Char → Bool) (cs : List Char) : List Char :=
  dropEndWhile p (cs.dropWhile p)

/-- The text without white space at its ends. -/
def trim (s : String) : String := String.ofList (trimWhile isWhiteSpace s.toList)

end Principals.Text
