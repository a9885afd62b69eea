import MiniLisp.Evaluator
import MiniLisp.Reader

/-!
# Running texts

A root frame holds the standard operators. `evalText` reads a text and evaluates its forms in the
root frame, one after the other; the result is the value of the last one. An error ends it. A text
that cannot be read to its end is evaluated up to the place where reading stops.
-/

namespace MiniLisp.Eval

/-- Where diagnostics about operators come from. -/
def operatorLog : String := "cella.builtin.env_builtin"

/-- Where all other diagnostics come from. -/
def interpreterLog : String := "cella.interpreter"

/-! ## Root frames -/

/-- A native operator with an identity of its own. -/
def freshNative (op : Operator) : Eval Value := do
  let identity ← freshIdentity
  return .native op identity

/-- Binds operators in a frame under their names. -/
def bindOperators (f : FrameId) : List Operator → Eval Unit
  | [] => return ()
  | op :: ops => do
    let v ← freshNative op
    let _ ← bindSymbol f (.symbol op.name .unknown) v
    bindOperators f ops

/-- Binds the standard operators in a frame. -/
def bindStandard (f : FrameId) : Eval Unit := do
  bindOperators f Operator.standard
  log operatorLog ("registered " ++ Text.decimal Operator.standard.length ++ " native operators")

/-- Makes a root frame with the standard operators. -/
def newRoot : Eval FrameId := do
  let root ← newFrame none
  bindStandard root
  return root

/-! ## Texts -/

/-- Evaluates forms in order. The result is the last value, and `last` if there is no form. -/
def evalForms (ev : Evaluator) (root : FrameId) : (last : Value) → List Value → Eval Value
  | last, [] => return last
  | _, form :: forms => do
    let v ← ev root form
    evalForms ev root v forms

/-- Evaluates what was read, and then reports the fault that ended reading. -/
def evalReading (ev : Evaluator) (root : FrameId) (reading : Reader.Reading) : Eval Value := do
  let v ← evalForms ev root (.nil .unknown) reading.forms
  match reading.fault with
  | none => return v
  | some reason => abandon reason

/-- Notes in the diagnostics that an error ended the evaluation of a source. -/
def loggingError {α : Type} (source : String) (x : Eval α) : Eval α := do
  match ← catchError x with
  | .ok a => return a
  | .error e =>
    log interpreterLog ("evaluation of " ++ source ++ " stopped: " ++ e.message)
    fail e

/-- Evaluates the forms of a text whose first line has the given number. -/
def evalTextFrom (ev : Evaluator) (root : FrameId) (text : List Char) (source : String)
    (line : Int) : Eval Value := do
  let settings ← settings
  loggingError source (evalReading ev root (readText settings.readingWidth text source line))

/-- Evaluates the forms of a text. -/
def evalText (ev : Evaluator) (root : FrameId) (text : List Char) (source : String) : Eval Value :=
  evalTextFrom ev root text source 1

end MiniLisp.Eval
