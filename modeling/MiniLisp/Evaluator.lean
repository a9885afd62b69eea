import MiniLisp.Evaluation.Arithmetic
import MiniLisp.Evaluation.Assignment
import MiniLisp.Evaluation.Cells
import MiniLisp.Evaluation.Closure
import MiniLisp.Evaluation.Control
import MiniLisp.Evaluation.Printing

/-!
# The evaluator

A symbol stands for the value that it is bound to, a cell for a call, and every other value for
itself. A call evaluates its head; what the head is decides about the arguments.

Programs need not end, so evaluation has fuel. `evaluate fuel` spends one unit on each level of
nesting, and a loop within it has as many rounds as it has fuel left. An evaluation that ends gives
the same outcome with any greater fuel; `plenty` is more than any run can spend.

Fuel is no stack. The stack of the host, which bounds the nesting of calls there (`Settings`), is
left out: whatever ends with some fuel ends here, be it nested as deeply as it may.
-/

namespace MiniLisp.Eval

/-- Calls a native operator with unevaluated arguments. -/
def operate (ev : Evaluator) (fuel : Nat) (f : FrameId) (op : Operator) (args : Value) :
    Eval Value :=
  match op with
  | .progn => evalBody ev f args
  | .makeExpander => makeExpander f args
  | .loop => loop ev fuel f args
  | .quote => quote args
  | .setq => setq ev f args
  | .set => set ev f args
  | .fn => makeFunction f args
  | .branch => branch ev f args
  | .println => println ev f args
  | .print => print ev f args
  | .cons => cons ev f args
  | .car => car ev f args
  | .cdr => cdr ev f args
  | .fold operation => fold ev operation f args
  | .equal => equal ev f args
  | .less => less ev f args

/-- Refuses to call a value. The form is the whole call, and what it calls is named. Every form that
the evaluator calls is a cell; any other form names nothing. -/
def refuseCall (head form : Value) : Eval Value :=
  match form with
  | .cell operator _ loc => do
    let text ← printed operator
    raise (.notCallable text head.kind) loc
  | _ => abandon .formWithoutHead

/-- Applies the value of a call's head to unevaluated arguments. The form is the whole call. -/
def apply (ev : Evaluator) (fuel : Nat) (f : FrameId) (head args form : Value) : Eval Value :=
  match head with
  | .native op _ => operate ev fuel f op args
  | .closure sort params body outer _ _ => call ev f sort params body outer args form.loc
  | _ => refuseCall head form

/-- Evaluates an expression, given an evaluator of its parts. -/
def evalStep (ev : Evaluator) (fuel : Nat) (f : FrameId) (expr : Value) : Eval Value :=
  match expr with
  | .symbol name loc => do
    match ← lookup f name with
    | some b => settle b.value
    | none => raise (.unboundSymbol name) loc
  | .cell first rest _ => do
    let head ← ev f first
    apply ev fuel f head rest expr
  | v => settle v

/-- Evaluates an expression in a frame. -/
def evaluate : (fuel : Nat) → FrameId → Value → Eval Value
  | 0, _, _ => outOfFuel
  | fuel + 1, f, expr => evalStep (evaluate fuel) fuel f expr

/-- More fuel than any run can spend. -/
def plenty : Nat := 1000000000000000000

end MiniLisp.Eval
