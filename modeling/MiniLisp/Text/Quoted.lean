import MiniLisp.Text.Printable

/-!
# Quoted text

A text is quoted for a message so that every character of it can be seen. The quotes are single,
or double if the text holds a single quote and no double one. Inside, a backslash and the quote in
use are escaped by a backslash; newline, carriage return and tab have a letter; any other character
that is not printable becomes the hexadecimal number of its code point, in the narrowest of three
widths.

| code point      | written as   |
|-----------------|--------------|
| up to `FF`      | `\xNN`       |
| up to `FFFF`    | `\uNNNN`     |
| above           | `\UNNNNNNNN` |
-/

namespace MiniLisp.Text

/-- Hexadecimal digits in lower case, with zeros in front up to the width. -/
def hexDigits (width n : Nat) : List Char :=
  let digits := Nat.toDigits 16 n
  List.replicate (width - digits.length) '0' ++ digits

/-- The code point of a character as an escape of two, four or eight digits. -/
def codePointEscape (c : Char) : List Char :=
  let n := c.toNat
  if n ≤ 0xFF then '\\' :: 'x' :: hexDigits 2 n
  else if n ≤ 0xFFFF then '\\' :: 'u' :: hexDigits 4 n
  else '\\' :: 'U' :: hexDigits 8 n

/-- The quote mark that a text is put in. -/
def quoteMark (cs : List Char) : Char :=
  if cs.contains '\x27' && !cs.contains '\x22' then '\x22' else '\x27'

/-- A character as it stands between the given quote marks. -/
def quotedChar (mark c : Char) : List Char :=
  if c == '\\' || c == mark then ['\\', c]
  else if c == '\n' then ['\\', 'n']
  else if c == '\r' then ['\\', 'r']
  else if c == '\t' then ['\\', 't']
  else if isPrintable c then [c]
  else codePointEscape c

/-- The text between quote marks, with every character visible. -/
def quoted (s : String) : String :=
  let cs := s.toList
  let mark := quoteMark cs
  String.ofList (mark :: (cs.flatMap (quotedChar mark) ++ [mark]))

end MiniLisp.Text
