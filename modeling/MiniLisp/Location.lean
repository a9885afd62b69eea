import MiniLisp.Text.Numeral
import MiniLisp.Text.Quoted

/-!
# Source locations

Every value carries the place it came from: the name of its source, a line and a column. Values
that no text produced are at `Location.unknown`.

A reader moves through a source one character at a time. `Location.next` gives the place after a
character: a newline starts the next line, any other character the next column.
-/

namespace MiniLisp

/-- A place in a named source. Lines and columns of a text count from one. -/
structure Location where
  source : String
  line : Int
  column : Int
deriving DecidableEq, Hashable, Inhabited

namespace Location

/-- The place of a value that came from no text. -/
def unknown : Location := ⟨"<unknown>", 0, 0⟩

/-- The first place of a source whose first line has the given number. -/
def start (source : String) (line : Int) : Location := ⟨source, line, 1⟩

/-- The place after the given character. -/
def next (l : Location) (c : Char) : Location :=
  if c == '\n' then { l with line := l.line + 1, column := 1 }
  else { l with column := l.column + 1 }

/-- The location as it stands in front of a message. -/
def text (l : Location) : String :=
  l.source ++ ":" ++ Text.decimal l.line ++ ":" ++ Text.decimal l.column

/-- The location written as a constructor with its three fields. -/
def constructorText (l : Location) : String :=
  "Location(" ++ Text.quoted l.source ++ ", " ++ Text.decimal l.line ++ ", " ++
    Text.decimal l.column ++ ")"

end Location

end MiniLisp
