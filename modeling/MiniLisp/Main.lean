import MiniLisp.CommandLine.Program

/-!
# The executable

Connects the program with the process around it: environment variables, files, standard input,
output and error. Files are read when their turn comes, and output is passed on after each file and
each line of a session, so a session at a terminal answers line by line.
-/

namespace MiniLisp.Terminal

open MiniLisp.CommandLine

/-- The settings of the process. -/
def settings : IO Settings := do
  return ⟨← IO.getEnv "CELLA_INT_BITS", ← IO.getEnv "CELLA_RECURSION_LIMIT",
    ← IO.getEnv "CELLA_LOG_LEVEL", ← IO.getEnv "CELLA_PROMPT"⟩

/-- The problem behind a failed attempt to read. A directory can be opened and fails at the first
read, when its name is not at hand any more. What is none of the other problems counts as denied. -/
def readProblem : IO.Error → ReadProblem
  | .noFileOrDirectory .. => .missing
  | .inappropriateType none .. => .directory
  | .inappropriateType (some _) .. => .notDirectory
  | .invalidArgument .. => .nameTooLong
  | _ => .denied

/-- The bytes of a file, or why it cannot be read. -/
def readFile (path : String) : IO (Except ReadProblem (List UInt8)) := do
  try
    let bytes ← IO.FS.readBinFile path
    return .ok bytes.toList
  catch e => return .error (readProblem e)

/-- Passes on what was written to the two outputs. -/
def deliver (m : Machine) : IO Machine := do
  let out ← IO.getStdout
  let err ← IO.getStderr
  out.putStr m.out
  out.flush
  err.putStr m.err
  err.flush
  return { m with out := "", err := "" }

/-- Runs a computation and passes on its output. The result is `none` if it did not end well. -/
def perform {α : Type} (x : Eval α) (c : Context) (m : Machine) : IO (Option α × Machine) := do
  match x c m with
  | .ok a m => return (some a, ← deliver m)
  | .error e m => return (none, ← deliver { m with err := m.err ++ e.report ++ "\n" })
  | .fault reason m => return (none, ← deliver { m with err := m.err ++ reason.message ++ "\n" })
  | .exhausted => return (none, m)

/-- The evaluator of programs. -/
def evaluator : Evaluator := Eval.evaluate Eval.plenty

/-- Runs files in order. The result tells whether one failed, and is `none` if the batch was
abandoned. -/
def runFiles (root : FrameId) (c : Context) :
    List String → Bool → Machine → IO (Option Bool × Machine)
  | [], failed, m => return (some failed, m)
  | path :: paths, failed, m => do
    let contents ← readFile (Path.normal path)
    match ← perform (Eval.runFile evaluator root (fun _ => contents) path) c m with
    | (some thisFailed, m) => runFiles root c paths (failed || thisFailed) m
    | (none, m) => return (none, m)

/-- Gives a session lines. -/
def feedLines (root : FrameId) (c : Context) :
    List (List Char) → Session → Machine → IO (Option Session × Machine)
  | [], s, m => return (some s, m)
  | line :: lines, s, m => do
    match ← perform (Eval.feed evaluator root s line) c m with
    | (some s, m) => feedLines root c lines s m
    | (none, m) => return (none, m)

/-- Runs a session on standard input up to its end. The result tells whether it got there. -/
partial def converse (root : FrameId) (c : Context) (interactive : Bool) (s : Session)
    (m : Machine) : IO (Bool × Machine) := do
  let prompt := c.settings.promptText
  match ← perform (Eval.invite interactive prompt s) c m with
  | (none, m) => return (false, m)
  | (some _, m) =>
    let line ← (← IO.getStdin).getLine
    if line.isEmpty then return (true, m)
    match ← feedLines root c (Session.lines (unifyNewlines line.toList)) s m with
    | (none, m) => return (false, m)
    | (some s, m) => converse root c interactive s m

/-- Runs the files and the session that the options ask for; the result is the exit status. -/
def run (c : Context) (options : Options) : IO UInt32 := do
  match ← perform prepare c .initial with
  | (none, _) => return 1
  | (some root, m) =>
    match ← runFiles root c options.files false m with
    | (none, _) => return 1
    | (some failed, m) =>
      let status : UInt32 := if failed then 1 else 0
      if !wantsSession options then return status
      let interactive ← (← IO.getStdin).isTty
      let (_, m) ← perform (Eval.log Eval.interpreterLog "repl started") c m
      match ← converse root c interactive .fresh m with
      | (false, _) => return 1
      | (true, m) =>
        let _ ← perform (Eval.log Eval.interpreterLog "repl finished") c m
        return status

end MiniLisp.Terminal

open MiniLisp MiniLisp.CommandLine in
def main (arguments : List String) : IO UInt32 := do
  let settings ← Terminal.settings
  match request arguments with
  | .help =>
    IO.print (helpText settings.levelName)
    return 0
  | .refused e =>
    IO.eprint (usageReport e)
    return usageStatus.toUInt32
  | .run options =>
    match chosenLevel settings options with
    | .error reason =>
      IO.eprintln reason.message
      return 1
    | .ok level =>
      Terminal.run { Context.ofSettings settings with verbose := isVerbose level } options
