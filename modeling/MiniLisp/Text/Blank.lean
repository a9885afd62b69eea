/-!
# Blank characters

A character is blank when Unicode gives it the `White_Space` property, or when it is one of the
four information separators U+001C to U+001F. Blanks separate tokens, and a setting that holds
nothing else counts as unset.

`trim` takes the blanks off both ends of a text.
-/

namespace MiniLisp.Text

/-- The character separates tokens. -/
def isBlank (c : Char) : Bool :=
  let n := c.toNat
  (9 ≤ n && n ≤ 13) || (28 ≤ n && n ≤ 32) || n == 0x85 || n == 0xA0 || n == 0x1680 ||
    (0x2000 ≤ n && n ≤ 0x200A) || n == 0x2028 || n == 0x2029 || n == 0x202F || n == 0x205F ||
    n == 0x3000

/-- Every character of the text is blank; the empty text is. -/
def allBlank (cs : List Char) : Bool := cs.all isBlank

/-- The text without the blanks at its two ends. -/
def trim (cs : List Char) : List Char :=
  ((cs.dropWhile isBlank).reverse.dropWhile isBlank).reverse

end MiniLisp.Text
