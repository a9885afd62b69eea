import MiniLisp.Machine

/-!
# Sequencing

Operators receive their arguments unevaluated. What they share is defined here over an arbitrary
evaluator of sub-expressions (`Evaluator`), so that each can be reasoned about on its own:

* `evalArguments` evaluates the elements of a list from left to right;
* `evalBody` evaluates them too, for the value of the last one;
* `oneArgument` and `twoArguments` take apart the arguments of operators that want a fixed number.

An error ends each of them at once. That the list is proper is checked after its last element, so
the elements in front of an improper tail are evaluated.
-/

namespace MiniLisp

/-- Evaluates an expression in a frame. -/
abbrev Evaluator := FrameId → Value → Eval Value

namespace Eval

/-- The values of the elements of a list, in order. -/
def evalArguments (ev : Evaluator) (f : FrameId) : Value → Eval (List Value)
  | .cell first rest _ => do
    let v ← ev f first
    let vs ← evalArguments ev f rest
    return v :: vs
  | .nil _ => return []
  | tail => raise .improperArguments tail.loc

/-- The list of the values of a list's elements. It ends in a nil at the place of the list. -/
def evalList (ev : Evaluator) (f : FrameId) (list : Value) : Eval Value := do
  let values ← evalArguments ev f list
  return .ofItems (.nil list.loc) values

/-- Evaluates an expression and then the elements of a list; the result is the last value. -/
def evalThen (ev : Evaluator) (f : FrameId) (expr : Value) : Value → Eval Value
  | .cell first rest _ => do
    let _ ← ev f expr
    evalThen ev f first rest
  | .nil _ => ev f expr
  | tail => do
    let _ ← ev f expr
    raise .improperBody tail.loc

/-- Evaluates the elements of a list in order; the result is the last value. There has to be an
element. -/
def evalBody (ev : Evaluator) (f : FrameId) : Value → Eval Value
  | .cell first rest _ => evalThen ev f first rest
  | body => raise .emptyBody body.loc

/-! ## Fixed numbers of arguments -/

/-- Refuses arguments that are not a proper list of the expected number. -/
def refuseArguments {α : Type} (operator : String) (expected : Nat) (args : Value) : Eval α :=
  raise (.argumentCount operator expected args.items.length) args.loc

/-- The arguments, which have to be a proper list of the expected number. -/
def exactArguments (operator : String) (expected : Nat) (args : Value) : Eval (List Value) :=
  if args.isList && args.items.length == expected then pure args.items
  else refuseArguments operator expected args

/-- The only argument. -/
def oneArgument (operator : String) : Value → Eval Value
  | .cell a (.nil _) _ => return a
  | args => refuseArguments operator 1 args

/-- The two arguments. -/
def twoArguments (operator : String) : Value → Eval (Value × Value)
  | .cell a (.cell b (.nil _) _) _ => return (a, b)
  | args => refuseArguments operator 2 args

end Eval

end MiniLisp
