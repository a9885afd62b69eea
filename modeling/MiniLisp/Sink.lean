import MiniLisp.Text.Quoted

/-!
# Behaviours of standard output

A sink says of each write whether it fails, and why. Writes are numbered from zero, those that fail
included.
-/

namespace MiniLisp.Sink

/-- Takes every write. -/
def accepting : Nat → String → Option String := fun _ _ => none

/-- Has been closed. -/
def closed : Nat → String → Option String := fun _ _ => some "I/O operation on closed file"

/-- Breaks after some writes. -/
def breaking (after : Nat) (reason : String) : Nat → String → Option String :=
  fun n _ => if n < after then none else some reason

/-- Why a text cannot be encoded in ASCII: the first run of characters that do not belong to it. -/
def asciiProblem? (text : String) : Option String :=
  let isAscii (c : Char) : Bool := c.toNat < 128
  let cs := text.toList
  let start := (cs.takeWhile isAscii).length
  let positionText (n : Nat) : String := String.ofList (Nat.toDigits 10 n)
  match (cs.drop start).takeWhile (!isAscii ·) with
  | [] => none
  | [c] => some
    ("'ascii' codec can't encode character '" ++ String.ofList (Text.codePointEscape c) ++
      "' in position " ++ positionText start ++ ": ordinal not in range(128)")
  | run => some
    ("'ascii' codec can't encode characters in position " ++ positionText start ++ "-" ++
      positionText (start + run.length - 1) ++ ": ordinal not in range(128)")

/-- Takes the writes of ASCII text only. -/
def ascii : Nat → String → Option String := fun _ text => asciiProblem? text

end MiniLisp.Sink
