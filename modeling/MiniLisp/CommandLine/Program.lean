import MiniLisp.Batch
import MiniLisp.CommandLine.Options
import MiniLisp.Session

/-!
# The program

The program runs the files that its command line names, in order, and then a session on standard
input if there are no files or one is asked for. Its exit status is 0 if no file failed.

Before that it checks, in this order: the command line, the level of diagnostics, and the bound on
nested calls. Diagnostics are written at the levels `DEBUG` and `NOTSET`.
-/

namespace MiniLisp.CommandLine

/-- The usage line. -/
def usage : String := "usage: cella [-h] [-i] [--log-level LOG_LEVEL] [files ...]\n"

/-- The help text. -/
def helpText (defaultLevel : String) : String :=
  usage ++ "\nA minimal Lisp evaluator\n\npositional arguments:\n" ++
    "  files                 source files to run in order\n\noptions:\n" ++
    "  -h, --help            show this help message and exit\n" ++
    "  -i, --interactive     start a REPL after running files\n" ++
    "  --log-level LOG_LEVEL\n" ++
    "                        logging level (default: " ++ defaultLevel ++ ")\n"

/-- What a refused command line is answered with. -/
def usageReport (e : UsageError) : String := usage ++ "cella: error: " ++ e.message ++ "\n"

/-- The exit status after a refused command line. -/
def usageStatus : Nat := 2

/-- The names of the levels of diagnostics. -/
def levelNames : List String :=
  ["CRITICAL", "FATAL", "ERROR", "WARN", "WARNING", "INFO", "DEBUG", "NOTSET"]

/-- Diagnostics are written at this level. -/
def isVerbose (level : String) : Bool := level == "DEBUG" || level == "NOTSET"

/-- The level of the given name, if there is one. -/
def knownLevel (level : String) : Except Fault String :=
  if levelNames.contains level then .ok level else .error (.unknownLevel level)

/-- The level of diagnostics that the options and the settings ask for. -/
def chosenLevel (settings : Settings) (options : Options) : Except Fault String :=
  match options.logLevel with
  | .dropped => .error .levelDropped
  | .named name => knownLevel (Text.upper name)
  | .unset => knownLevel (Text.upper settings.levelName)

/-- The greatest bound on nested calls, which is the greatest signed integer of 32 bits. -/
def greatestRecursionLimit : Int := 2147483647

/-- Checks the bound on nested calls, if there is one. It has to be a signed integer of 32 bits and
positive. -/
def checkRecursionLimit : Eval Unit := do
  let settings ← Eval.settings
  match ← Eval.ofExcept settings.readRecursionLimit with
  | none => return ()
  | some limit =>
    Eval.log Eval.interpreterLog ("setting recursion limit to " ++ Text.decimal limit)
    if greatestRecursionLimit < limit ∨ limit < -greatestRecursionLimit - 1 then
      Eval.abandon .recursionLimitOutOfRange
    else if limit < 1 then Eval.abandon .recursionLimitTooSmall

/-- A session is wanted. -/
def wantsSession (options : Options) : Bool := options.files.isEmpty || options.interactive

/-- Prepares a root frame, once the bound on nested calls has been checked. -/
def prepare : Eval FrameId := do
  checkRecursionLimit
  Eval.newRoot

/-- Runs the files and the session that the options ask for. The result tells whether a file
failed. -/
def execute (ev : Evaluator) (files : FileReader) (input : List Char) (options : Options) :
    Eval Bool := do
  let root ← prepare
  let failed ← Eval.runFiles ev root files options.files
  if wantsSession options then Eval.session ev root (unifyNewlines input) false none
  return failed

/-- How the program ends. -/
inductive Ending
  /-- With a status, after running. -/
  | returned (status : Nat)
  /-- With a status, without running. -/
  | exited (status : Nat)
  | fault (reason : Fault)
  | exhausted
deriving DecidableEq

/-- What the program writes to its two outputs, and how it ends. -/
structure Report where
  out : String
  err : String
  ending : Ending
deriving DecidableEq

/-- Runs the program on the arguments of its command line. -/
def program (ev : Evaluator) (settings : Settings) (files : FileReader) (input : List Char)
    (arguments : List String) : Report :=
  match request arguments with
  | .help => ⟨helpText settings.levelName, "", .exited 0⟩
  | .refused e => ⟨"", usageReport e, .exited usageStatus⟩
  | .run options =>
    match chosenLevel settings options with
    | .error reason => ⟨"", "", .fault reason⟩
    | .ok level =>
      let context := { Context.ofSettings settings with verbose := isVerbose level }
      match execute ev files input options context .initial with
      | .ok failed m => ⟨m.out, m.err, .returned (if failed then 1 else 0)⟩
      | .error e m => ⟨m.out, m.err ++ e.report ++ "\n", .returned 1⟩
      | .fault reason m => ⟨m.out, m.err, .fault reason⟩
      | .exhausted => ⟨"", "", .exhausted⟩

end MiniLisp.CommandLine
