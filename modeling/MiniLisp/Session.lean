import MiniLisp.Interpreter

/-!
# Sessions

A session reads lines and answers each form with its value. Lines are collected until no
parenthesis is open any more (`openDepth`); the lines collected so far are one chunk
(`Session.take`), and its forms are evaluated and answered one by one. An error or a syntax error is
reported and ends the chunk, not the session.

The lines are numbered through the whole session. Text that is still incomplete when the input ends
is dropped.
-/

namespace MiniLisp

/-- The state of a session between two lines: the text of the incomplete chunk, and the number of
the chunk's first line. -/
structure Session where
  pending : List Char
  line : Int
deriving DecidableEq

/-- Text to be read as a whole, and the number of its first line. -/
structure Chunk where
  text : List Char
  line : Int
deriving DecidableEq

namespace Session

/-- A session before its first line. -/
def fresh : Session := ⟨[], 1⟩

/-- Adds a line. The result is the chunk that it completes, if it does, and the session after
it. -/
def take (s : Session) (line : List Char) : Option Chunk × Session :=
  let text := s.pending ++ line
  if 0 < openDepth text then (none, { s with pending := text })
  else (some ⟨text, s.line⟩, ⟨[], s.line + text.count '\n'⟩)

/-- The name of the source that the lines of a session belong to. -/
def source : String := "<stdin>"

/-- The text that invites the next line: the prompt at the start of a chunk, and otherwise as many
dots as the prompt is wide. -/
def invitation (prompt : String) (s : Session) : String :=
  if s.pending.isEmpty then prompt
  else
    let width := (prompt.toList.reverse.dropWhile Text.isBlank).length
    String.ofList (List.replicate width '.') ++ " "

/-- The lines of a text, each with the newline that ends it. -/
def lines : List Char → List (List Char)
  | [] => []
  | c :: cs =>
    if c == '\n' then [c] :: lines cs
    else match lines cs with
      | [] => [[c]]
      | line :: rest => (c :: line) :: rest

end Session

namespace Eval

/-- Evaluates forms and answers each with its value on a line of its own. -/
def answerForms (ev : Evaluator) (root : FrameId) : List Value → Eval Unit
  | [] => return ()
  | form :: forms => do
    let v ← ev root form
    let text ← printed v
    put (text ++ "\n")
    answerForms ev root forms

/-- Reports the fault that ended reading a chunk. Only a syntax error leaves the session alive. -/
def reportFault : Option Fault → Eval Unit
  | none => return ()
  | some (.syntaxError problem loc) => complain (Fault.syntaxError problem loc).message
  | some reason => abandon reason

/-- Runs a computation and reports the error that ends it, if one does. -/
def reportingError (x : Eval Unit) : Eval Unit := do
  match ← catchError x with
  | .ok _ => return ()
  | .error e => complain e.report

/-- Evaluates and answers the forms of a chunk. -/
def answerChunk (ev : Evaluator) (root : FrameId) (chunk : Chunk) : Eval Unit := do
  let settings ← settings
  let reading := readText settings.readingWidth chunk.text Session.source chunk.line
  reportingError do
    answerForms ev root reading.forms
    reportFault reading.fault

/-- Gives a session its next line. -/
def feed (ev : Evaluator) (root : FrameId) (s : Session) (line : List Char) : Eval Session := do
  let (chunk, next) := s.take line
  match chunk with
  | none => return next
  | some chunk =>
    answerChunk ev root chunk
    return next

/-- Writes the invitation for the next line if the session is interactive. -/
def invite (interactive : Bool) (prompt : String) (s : Session) : Eval Unit :=
  if interactive then put (s.invitation prompt) else pure ()

/-- Gives a session its lines up to the end of the input. -/
def feedAll (ev : Evaluator) (root : FrameId) (interactive : Bool) (prompt : String) :
    Session → List (List Char) → Eval Unit
  | s, [] => invite interactive prompt s
  | s, line :: rest => do
    invite interactive prompt s
    let s ← feed ev root s line
    feedAll ev root interactive prompt s rest

/-- Runs a session on an input. Without a prompt of its own it takes the configured one. -/
def session (ev : Evaluator) (root : FrameId) (input : List Char) (interactive : Bool)
    (prompt : Option String) : Eval Unit := do
  let settings ← settings
  log interpreterLog "repl started"
  feedAll ev root interactive (prompt.getD settings.promptText) .fresh (Session.lines input)
  log interpreterLog "repl finished"

end Eval

end MiniLisp
