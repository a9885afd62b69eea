import MiniLisp.Fault
import MiniLisp.Value

/-!
# Printed form

A cell chain is printed as its items between parentheses, with a blank between them; a tail other
than nil follows a dot. A value without parts is printed as one word (`Value.wordChars`). What has
no source form is printed between `#<` and `>`.

The printed form is built as a list of characters, so that it can be read back by the reader
without a detour over strings.

An integer of more than `Text.digitLimit` digits is never printed. `Value.hasLongInteger` finds out
whether the printed form of a value would need one, and `Value.written` is the printed form with
that fault.
-/

namespace MiniLisp.Value

/-- The printed form of a value that is no cell. A cell has none here. -/
def wordChars : Value → List Char
  | nil _ => ['n', 'i', 'l']
  | truth _ => ['t']
  | symbol name _ => name.toList
  | integer i _ => Text.integerDigits i
  | cell .. => []
  | closure sort .. => ("#<" ++ sort.kind.name ++ ">").toList
  | native op _ => ("#<builtin " ++ op.name ++ ">").toList
  | error e => ("#<error: " ++ e.message ++ ">").toList

mutual

/-- The printed form of a value. -/
def chars : Value → List Char
  | cell first rest _ => '(' :: (first.chars ++ rest.tailChars)
  | v => v.wordChars

/-- The printed form of what follows an item of a list, up to the closing parenthesis. -/
def tailChars : Value → List Char
  | nil _ => [')']
  | cell first rest _ => ' ' :: (first.chars ++ rest.tailChars)
  | v => ' ' :: '.' :: ' ' :: (v.wordChars ++ [')'])

end

/-- The printed form of a value as a text. -/
def text (v : Value) : String := String.ofList v.chars

/-- The printed form holds an integer that is too long to be written. -/
def hasLongInteger : Value → Bool
  | integer i _ => Text.tooLongToWrite i
  | cell first rest _ => first.hasLongInteger || rest.hasLongInteger
  | _ => false

/-- The printed form of a value as a text, unless it would need too long an integer. -/
def written (v : Value) : Except Fault String :=
  if v.hasLongInteger then .error .integerTooLong else .ok v.text

/-- The value with its kind, for diagnostics. -/
def inspect (v : Value) : Except Fault String := do
  let text ← v.written
  return "<" ++ v.kind.name ++ " " ++ text ++ ">"

end MiniLisp.Value
