import MiniLisp.Text.Blank
import MiniLisp.Text.DecimalDigit

/-!
# Numerals

Integers are written in decimal, with a minus sign if they are negative and no other mark.

Two spellings are read. A *literal* is an optional sign and one or more digits of any script, with
nothing around them. A *grouped* numeral may have single underscores between digits. Both read as
a `Numeral`, which keeps the digits apart from their value, because the number of digits is limited
to `digitLimit`, leading zeros included.
-/

namespace MiniLisp.Text

/-- No numeral of more digits than this is read or written. -/
def digitLimit : Nat := 4300

/-- The digits of a natural number, without leading zeros. -/
def naturalDigits (n : Nat) : List Char := Nat.toDigits 10 n

/-- The characters of an integer. -/
def integerDigits (i : Int) : List Char :=
  if i < 0 then '-' :: naturalDigits i.natAbs else naturalDigits i.natAbs

/-- The text of an integer. -/
def decimal (i : Int) : String := String.ofList (integerDigits i)

/-- The smallest natural number of more than `digitLimit` digits. -/
def writingBound : Nat := Nat.pow 10 digitLimit

/-- The integer has too many digits to be written. -/
def tooLongToWrite (i : Int) : Bool := writingBound ≤ i.natAbs

/-- A sign and the values of the digits that follow it, most significant first. -/
structure Numeral where
  negative : Bool
  digits : List Nat
deriving DecidableEq

namespace Numeral

/-- The natural number that the digits spell. -/
def magnitude (n : Numeral) : Nat := n.digits.foldl (fun acc d => 10 * acc + d) 0

/-- The integer that the numeral spells. -/
def value (n : Numeral) : Int := if n.negative then -n.magnitude else n.magnitude

/-- The numeral has more digits than are read. -/
def tooLong (n : Numeral) : Bool := digitLimit < n.digits.length

/-- A leading sign, and what follows it. -/
def takeSign : List Char → Bool × List Char
  | '-' :: cs => (true, cs)
  | '+' :: cs => (false, cs)
  | cs => (false, cs)

/-- Reads one or more digits with nothing between them. -/
def digits? (cs : List Char) : Option (List Nat) :=
  if cs.isEmpty then none else cs.mapM digitValue?

/-- Reads an optional sign and one or more digits. -/
def ofLiteral? (cs : List Char) : Option Numeral :=
  let (negative, body) := takeSign cs
  (digits? body).map (⟨negative, ·⟩)

/-- Reads digits in which an underscore stands only between two digits; at the start, and after
an underscore, a digit has to follow. -/
def groupedDigits? : List Char → Option (List Nat)
  | [] => none
  | c :: cs => do
    let d ← digitValue? c
    match cs with
    | [] => return [d]
    | '_' :: more => return d :: (← groupedDigits? more)
    | more => return d :: (← groupedDigits? more)

/-- Reads an optional sign and digits that single underscores may group. -/
def ofGrouped? (cs : List Char) : Option Numeral :=
  let (negative, body) := takeSign cs
  (groupedDigits? body).map (⟨negative, ·⟩)

end Numeral

end MiniLisp.Text
