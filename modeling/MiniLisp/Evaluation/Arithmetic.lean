import MiniLisp.Evaluation.Sequence
import MiniLisp.Width

/-!
# Arithmetic

Arithmetic operators evaluate all their arguments, which have to be integers. A fold joins them
from the left, starting with the first, and brings every intermediate result to the width of
integers. Comparisons compare each later argument with the first, not with its neighbour.

Without arguments a fold is zero and a comparison is true.
-/

namespace MiniLisp

/-- The quotient rounded toward zero. -/
def truncatingQuotient (a b : Int) : Int :=
  let q : Int := a.natAbs / b.natAbs
  if decide (a < 0) == decide (b < 0) then q else -q

/-- Joins two integers by a rule, before the result is brought to the width of integers. A division
by zero that the fold did not refuse is a fault. -/
def FoldRule.join (rule : FoldRule) (a b : Int) : Except Fault Int :=
  match rule with
  | .sum => .ok (a + b)
  | .difference => .ok (a - b)
  | .product => .ok (a * b)
  | .quotient => if b = 0 then .error .divisionByZero else .ok (truncatingQuotient a b)
  | .remainder => if b = 0 then .error .moduloByZero else .ok (a.fmod b)

/-- Joins two integers as a fold does, given the operations of the host. -/
def Fold.join (operations : String → Int → Int → Int) (operation : Fold) (a b : Int) :
    Except Fault Int :=
  match operation.joining with
  | .rule r => r.join a b
  | .hosted name => .ok (operations name a b)

namespace Eval

/-- Joins two integers as a fold does. -/
def join (operation : Fold) (a b : Int) : Eval Int := fun c =>
  ofExcept (operation.join c.operations a b) c

/-- The integers among some values; all of them have to be integers. -/
def integers (operator : String) : List Value → Eval (List Int)
  | [] => return []
  | .integer i _ :: vs => do
    let is ← integers operator vs
    return i :: is
  | v :: _ => raise (.notNumeric operator v.kind) v.loc

/-- The values of integer arguments. -/
def evalIntegers (ev : Evaluator) (operator : String) (f : FrameId) (args : Value) :
    Eval (List Int) := do
  let values ← evalArguments ev f args
  integers operator values

/-- Joins further integers to the value so far. A zero is refused at the given location, if the
fold refuses zeros. -/
def joinAll (operation : Fold) (loc : Location) : Int → List Int → Eval Int
  | acc, [] => return acc
  | acc, n :: ns => do
    if operation.refusesZero && n == 0 then raise .divisionByZero loc
    else
      let joined ← join operation acc n
      let bits ← width
      joinAll operation loc (Width.wrap bits joined) ns

/-- Folds integer arguments from the left. -/
def fold (ev : Evaluator) (operation : Fold) (f : FrameId) (args : Value) : Eval Value := do
  match ← evalIntegers ev operation.name f args with
  | [] => return .integer 0 args.loc
  | n :: ns =>
    let result ← joinAll operation args.loc n ns
    return .integer result args.loc

/-- The truth value or nil. -/
def verdict (holds : Bool) (loc : Location) : Value := if holds then .truth loc else .nil loc

/-- The comparison holds between the first integer and each later one. -/
def againstFirst (holds : Int → Int → Bool) : List Int → Bool
  | [] => true
  | n :: ns => ns.all (holds n)

/-- `(= a b...)`: every argument equals the first. -/
def equal (ev : Evaluator) (f : FrameId) (args : Value) : Eval Value := do
  let ns ← evalIntegers ev "=" f args
  return verdict (againstFirst (fun a b => b == a) ns) args.loc

/-- `(< a b...)`: every later argument is less than the first. -/
def less (ev : Evaluator) (f : FrameId) (args : Value) : Eval Value := do
  let ns ← evalIntegers ev "<" f args
  return verdict (againstFirst (fun a b => b < a) ns) args.loc

end Eval

end MiniLisp
