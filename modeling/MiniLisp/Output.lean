import MiniLisp.Machine

/-!
# Output

Each write to standard output is delivered whole or fails for a reason that the context gives. The
language sees a failed write as an `IOError` value. A session that writes a result of its own is
abandoned by it. There is no buffer on the way, so there is nothing to flush.

Diagnostics go to standard error, one line each, and only if they are wanted. Standard error takes
every write.
-/

namespace MiniLisp.Eval

/-- Attempts a write; the result is why it failed. -/
def attempt (text : String) : Eval (Option String) := fun c m =>
  match c.sink m.writes text with
  | none => .ok none { m with out := m.out ++ text, writes := m.writes + 1 }
  | some reason => .ok (some reason) { m with writes := m.writes + 1 }

/-- Writes a text on behalf of the program. The result is nil at the location, where a failure is
reported too. -/
def write (text : String) (loc : Location) : Eval Value := do
  match ← attempt text with
  | none => return .nil loc
  | some reason => raise (.unwritable reason) loc

/-- Writes the printed form of a value on behalf of the program. -/
def writeValue (v : Value) : Eval Value :=
  if v.hasLongInteger then raise (.unwritable Fault.integerTooLong.message) v.loc
  else write v.text v.loc

/-- Writes a newline on behalf of the program. -/
def writeNewline (loc : Location) : Eval Value := write "\n" loc

/-- Writes a text on behalf of the session. -/
def put (text : String) : Eval Unit := do
  match ← attempt text with
  | none => return ()
  | some reason => abandon (.unwritable reason)

/-- Writes a line to standard error. -/
def complain (line : String) : Eval Unit := fun _ m =>
  .ok () { m with err := m.err ++ line ++ "\n" }

/-- Writes a diagnostic if diagnostics are wanted. -/
def log (source line : String) : Eval Unit := do
  if ← verbose then complain ("DEBUG " ++ source ++ ": " ++ line)

end MiniLisp.Eval
