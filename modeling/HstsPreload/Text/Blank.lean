/-!
Blank characters (the property `White_Space`) and trimming.
-/

namespace HstsPreload.Text

/-- Whether a character has the property `White_Space`: 25 code points in all. -/
def isBlank (c : Char) : Bool :=
  let n := c.toNat
  (9 ≤ n && n ≤ 13) || n == 32 || n == 0x85 || n == 0xa0 || n == 0x1680
    || (0x2000 ≤ n && n ≤ 0x200a) || n == 0x2028 || n == 0x2029 || n == 0x202f || n == 0x205f
    || n == 0x3000

/-- Drops the characters at the end that satisfy `p`. -/
def dropEndWhile (p : Char → Bool) (cs : List Char) : List Char :=
  (cs.reverse.dropWhile p).reverse

def trimStart (cs : List Char) : List Char :=
  cs.dropWhile isBlank

def trim (cs : List Char) : List Char :=
  dropEndWhile isBlank (trimStart cs)

/-- Blanks of ASCII as wrapped encodings use them: space, tab, line feed, form feed, return. -/
def isAsciiBlank (c : Char) : Bool :=
  c == ' ' || c == '\t' || c == '\n' || c.toNat == 12 || c == '\r'

/-- The text with its ASCII capitals in lower case. -/
def lowerAscii (cs : List Char) : List Char :=
  cs.map Char.toLower

end HstsPreload.Text
