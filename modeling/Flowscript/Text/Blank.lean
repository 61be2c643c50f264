/-!
# Blank characters

A blank is a character with the Unicode property White_Space. Names, parameters and lines are
trimmed of blanks on both sides; characters that are merely invisible (a zero width space, a byte
order mark) are not blank and stay.
-/

namespace Flowscript.Text

/-- The characters with the Unicode property White_Space. -/
def isBlank (c : Char) : Bool :=
  let n := c.toNat
  n == 0x20 || (9 ≤ n && n ≤ 13) || n == 0x85 || n == 0xA0 || n == 0x1680 ||
    (0x2000 ≤ n && n ≤ 0x200A) || n == 0x2028 || n == 0x2029 || n == 0x202F || n == 0x205F ||
    n == 0x3000

/-- Text without its leading blanks. -/
def trimLeft (cs : List Char) : List Char :=
  cs.dropWhile isBlank

/-- Text without its trailing blanks. -/
def trimRight (cs : List Char) : List Char :=
  (cs.reverse.dropWhile isBlank).reverse

/-- Text without the blanks on either side. -/
def trim (cs : List Char) : List Char :=
  trimRight (trimLeft cs)

end Flowscript.Text
