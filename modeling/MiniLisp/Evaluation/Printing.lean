import MiniLisp.Evaluation.Sequence
import MiniLisp.Output

/-!
# Printing operators

`print` evaluates all its arguments before it writes the first. Each value is one write, and the
first write that fails ends it. `println` writes a newline after that in any case.
-/

namespace MiniLisp.Eval

/-- Writes values one after the other, without anything between them. -/
def writeValues : List Value → Eval Unit
  | [] => return ()
  | v :: vs => do
    let _ ← writeValue v
    writeValues vs

/-- `(print a...)`. -/
def print (ev : Evaluator) (f : FrameId) (args : Value) : Eval Value := do
  let values ← evalArguments ev f args
  writeValues values
  return .nil args.loc

/-- `(println a...)`. -/
def println (ev : Evaluator) (f : FrameId) (args : Value) : Eval Value :=
  andAfter (print ev f args) (writeNewline args.loc)

end MiniLisp.Eval
