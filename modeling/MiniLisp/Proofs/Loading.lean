import MiniLisp.Batch
import MiniLisp.Proofs.Increments

/-!
# Loading a file

What a path leads to is a text or a fault (`sourceAt`). Loading evaluates the text; a batch reports
in one line what went wrong with it, if it is prepared for that.

* `Eval.loadFile_apply`, `Eval.runFile_apply`: the two in terms of what the path leads to and of how
  loading ends;
* `Eval.Attempted`: the four ways in which a batch gets over a file.
-/

namespace MiniLisp

/-- The text of the file that a path leads to, or the fault that prevents it from being read. -/
def sourceAt (files : FileReader) (path : String) : Except Fault (List Char) :=
  if (Path.normal path).toList.contains '\x00' then .error .embeddedNull
  else match files (Path.normal path) with
    | .error problem => .error (.unreadable (Path.normal path) problem)
    | .ok bytes => sourceText bytes

namespace Eval

variable {ev : Evaluator} {root : FrameId} {files : FileReader} {path : String} {c : Context}
  {m m₁ : Machine}

/-- The machine after loading has been noted. -/
def opening (c : Context) (path : String) (m : Machine) : Machine :=
  noted c interpreterLog ("loading " ++ Path.normal path) m

/-- The machine after a line on standard error, if there is one to be written. -/
def withLine (line : Option String) (m : Machine) : Machine :=
  match line with
  | none => m
  | some line => { m with err := m.err ++ line ++ "\n" }

@[simp] theorem store_noted (c : Context) (source line : String) (m : Machine) :
    (noted c source line m).store = m.store := by
  unfold noted
  cases c.verbose <;> rfl

@[simp] theorem store_opening (c : Context) (path : String) (m : Machine) :
    (opening c path m).store = m.store := store_noted c _ _ m

@[simp] theorem store_withLine (line : Option String) (m : Machine) :
    (withLine line m).store = m.store := by
  cases line <;> rfl

theorem loadFile_apply (ev : Evaluator) (root : FrameId) (files : FileReader) (path : String)
    (c : Context) (m : Machine) :
    loadFile ev root files path c m = match sourceAt files path with
      | .error reason => .fault reason (opening c path m)
      | .ok text => evalText ev root text (Path.normal path) c (opening c path m) := by
  unfold loadFile sourceAt
  rw [bind_apply, log_apply]
  by_cases null : (Path.normal path).toList.contains '\x00' = true
  · rw [if_pos null, if_pos null]
    rfl
  · rw [if_neg null, if_neg null]
    cases files (Path.normal path) with
    | error problem => rfl
    | ok bytes =>
      show (ofExcept (sourceText bytes) >>= fun text => evalText ev root text _) c _ = _
      rw [bind_apply]
      dsimp only
      cases sourceText bytes <;> rfl

/-- The line that reports how loading a file ended, and whether a batch goes on after it. -/
theorem runFile_apply (ev : Evaluator) (root : FrameId) (files : FileReader) (path : String)
    (c : Context) (m : Machine) :
    runFile ev root files path c m = match loadFile ev root files path c m with
      | .ok _ m' => .ok false m'
      | .error e m' => .ok true (withLine e.report m')
      | .fault (.syntaxError problem loc) m' =>
        .ok true (withLine (Fault.syntaxError problem loc).message m')
      | .fault (.unreadable _ problem) m' =>
        .ok true (withLine ("cella: cannot read " ++ path ++ ": " ++ problem.text) m')
      | .fault reason m' => .fault reason m'
      | .exhausted => .exhausted := by
  unfold runFile
  rw [bind_apply]
  unfold catchFault catchError
  cases loadFile ev root files path c m with
  | fault reason m' => cases reason <;> rfl
  | ok | error | exhausted => rfl

/-- A batch gets over the file at the path: this is the line that it has to report, if any, and the
machine that the file leaves.

* `unreadable`: the file cannot be opened;
* `refused`: it has a syntax error, which comes after the effects of the forms before it;
* `failed`: one of its forms ends in an error;
* `finished`: none of that, and nothing to report. -/
inductive Attempted (ev : Evaluator) (root : FrameId) (files : FileReader) (c : Context)
    (path : String) (m : Machine) : Option String → Machine → Prop
  | unreadable {name : String} {problem : ReadProblem} :
      sourceAt files path = .error (.unreadable name problem) →
      Attempted ev root files c path m
        (some ("cella: cannot read " ++ path ++ ": " ++ problem.text)) (opening c path m)
  | refused {text : List Char} {v : Value} {m₁ : Machine} {problem : SyntaxProblem}
      {loc : Location} :
      sourceAt files path = .ok text →
      evalForms ev root (.nil .unknown)
        (readText c.settings.readingWidth text (Path.normal path) 1).forms c
        (opening c path m) = .ok v m₁ →
      (readText c.settings.readingWidth text (Path.normal path) 1).fault =
        some (.syntaxError problem loc) →
      Attempted ev root files c path m (some (Fault.syntaxError problem loc).message) m₁
  | failed {text : List Char} {e : ErrorValue} {m₁ : Machine} :
      sourceAt files path = .ok text →
      evalForms ev root (.nil .unknown)
        (readText c.settings.readingWidth text (Path.normal path) 1).forms c
        (opening c path m) = .error e m₁ →
      Attempted ev root files c path m (some e.report)
        (noted c interpreterLog
          ("evaluation of " ++ Path.normal path ++ " stopped: " ++ e.message) m₁)
  | finished {text : List Char} {v : Value} {m₁ : Machine} :
      sourceAt files path = .ok text →
      evalForms ev root (.nil .unknown)
        (readText c.settings.readingWidth text (Path.normal path) 1).forms c
        (opening c path m) = .ok v m₁ →
      (readText c.settings.readingWidth text (Path.normal path) 1).fault = none →
      Attempted ev root files c path m none m₁

theorem loadFile_of_text {text : List Char} (opened : sourceAt files path = .ok text) :
    let reading := readText c.settings.readingWidth text (Path.normal path) 1
    loadFile ev root files path c m =
      match evalForms ev root (.nil .unknown) reading.forms c (opening c path m) with
      | .ok v m' => match reading.fault with
        | none => .ok v m'
        | some reason => .fault reason m'
      | .error e m' => .error e (noted c interpreterLog
          ("evaluation of " ++ Path.normal path ++ " stopped: " ++ e.message) m')
      | ended => ended := by
  rw [loadFile_apply, opened]
  exact evalTextFrom_apply ev root text (Path.normal path) 1 c (opening c path m)

/-- The line is written, and the result tells whether there is one. -/
theorem runFile_of_attempted {line : Option String}
    (attempted : Attempted ev root files c path m line m₁) :
    runFile ev root files path c m = .ok line.isSome (withLine line m₁) := by
  rw [runFile_apply]
  cases attempted with
  | unreadable opened =>
    rw [loadFile_apply, opened]
    rfl
  | refused opened evaluated fault =>
    rw [loadFile_of_text opened, evaluated, fault]
    rfl
  | failed opened evaluated =>
    rw [loadFile_of_text opened, evaluated]
    rfl
  | finished opened evaluated fault =>
    rw [loadFile_of_text opened, evaluated, fault]
    rfl

end Eval

end MiniLisp
