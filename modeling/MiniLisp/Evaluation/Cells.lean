import MiniLisp.Evaluation.Sequence

/-!
# Cells and quotation

`quote` gives its argument as it stands. `cons` joins two values to a cell, `car` and `cdr` take
one apart.
-/

namespace MiniLisp.Eval

/-- `(quote x)`. -/
def quote (args : Value) : Eval Value := do
  let v ← oneArgument "quote" args
  settle v

/-- `(cons a b)`. The cell is located at the arguments. -/
def cons (ev : Evaluator) (f : FrameId) (args : Value) : Eval Value := do
  let (firstExpr, restExpr) ← twoArguments "cons" args
  let first ← ev f firstExpr
  let rest ← ev f restExpr
  return .cell first rest args.loc

/-- The two halves of the cell that the only argument has to give. -/
def evalCell (ev : Evaluator) (operator : String) (f : FrameId) (args : Value) :
    Eval (Value × Value) := do
  let expr ← oneArgument operator args
  match ← ev f expr with
  | .cell first rest _ => return (first, rest)
  | v => raise (.notCell operator v.kind) expr.loc

/-- `(car cell)`. -/
def car (ev : Evaluator) (f : FrameId) (args : Value) : Eval Value := do
  let (first, _) ← evalCell ev "car" f args
  settle first

/-- `(cdr cell)`. -/
def cdr (ev : Evaluator) (f : FrameId) (args : Value) : Eval Value := do
  let (_, rest) ← evalCell ev "cdr" f args
  settle rest

end MiniLisp.Eval
