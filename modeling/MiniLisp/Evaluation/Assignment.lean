import MiniLisp.Evaluation.Sequence

/-!
# Assignment

`set` evaluates its target, which has to give a symbol; `setq` takes the target as it stands. The
slot that the symbol denotes is looked up before the value is evaluated. If there is none by then,
the symbol is bound in the current frame afterwards.
-/

namespace MiniLisp.Eval

/-- Assigns the value of an expression to a symbol that was found in the given slot, if any. -/
def assignTo (ev : Evaluator) (f : FrameId) (symbol : Value) (slot : Option Slot) (expr : Value) :
    Eval Value := do
  let v ← ev f expr
  match slot with
  | none => bindSymbol f symbol v
  | some slot => assign slot v

/-- Assigns the value of an expression to a target. What stands for the target is located at
`loc`. -/
def assignTarget (ev : Evaluator) (f : FrameId) (target : Value) (loc : Location) (expr : Value) :
    Eval Value :=
  match target with
  | .symbol name symbolLoc => do
    let slot ← find f name
    assignTo ev f (.symbol name symbolLoc) slot expr
  | other => raise (.targetNotSymbol other.kind) loc

/-- `(set target value)`. -/
def set (ev : Evaluator) (f : FrameId) (args : Value) : Eval Value := do
  let (targetExpr, expr) ← twoArguments "set" args
  let target ← ev f targetExpr
  assignTarget ev f target targetExpr.loc expr

/-- `(setq target value)`. -/
def setq (ev : Evaluator) (f : FrameId) (args : Value) : Eval Value := do
  let (quoted, expr) ← twoArguments "setq" args
  let target ← settle quoted
  assignTarget ev f target quoted.loc expr

end MiniLisp.Eval
