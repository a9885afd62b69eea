import MiniLisp.FileTree
import MiniLisp.Interpreter

/-!
# Batches of files

A batch is a list of paths whose files are evaluated in order in one root frame. A file that cannot
be opened or read, or that ends in an error, is reported on a line of its own, and the batch goes on
with the next one. Other faults end the batch.
-/

namespace MiniLisp

/-- Gives the bytes of the file that a path leads to. -/
abbrev FileReader := String → Except ReadProblem (List UInt8)

namespace Eval

/-- Evaluates the text of a file. Locations in it carry the normal form of the path. -/
def loadFile (ev : Evaluator) (root : FrameId) (files : FileReader) (path : String) :
    Eval Value := do
  let name := Path.normal path
  log interpreterLog ("loading " ++ name)
  if name.toList.contains '\x00' then abandon .embeddedNull
  else match files name with
    | .error problem => abandon (.unreadable name problem)
    | .ok bytes =>
      let text ← ofExcept (sourceText bytes)
      evalText ev root text name

/-- Evaluates a file and reports a failure. The result tells whether it failed. -/
def runFile (ev : Evaluator) (root : FrameId) (files : FileReader) (path : String) :
    Eval Bool := do
  match ← catchFault (catchError (loadFile ev root files path)) with
  | .ok (.ok _) => return false
  | .ok (.error e) =>
    complain e.report
    return true
  | .error (.syntaxError problem loc) =>
    complain (Fault.syntaxError problem loc).message
    return true
  | .error (.unreadable _ problem) =>
    complain ("cella: cannot read " ++ path ++ ": " ++ problem.text)
    return true
  | .error reason => abandon reason

/-- Evaluates files in order. The result tells whether one of them failed. -/
def runFiles (ev : Evaluator) (root : FrameId) (files : FileReader) : List String → Eval Bool
  | [] => return false
  | path :: paths => do
    let failed ← runFile ev root files path
    let laterFailed ← runFiles ev root files paths
    return failed || laterFailed

end Eval

end MiniLisp
