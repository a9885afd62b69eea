import MiniLisp.Proofs.Chunking
import MiniLisp.Proofs.Composition
import MiniLisp.Proofs.Resuming

/-!
# Running a text in two parts

Forms are read and evaluated one by one, and a form never needs what comes after it. So a text can
be cut at the end of a line, between two forms, and be run as two texts: the second part goes on
where the first one ended, in the store that it left, and is not looked at if an error ended it.

* `readText_append`: the two parts are read as the whole is;
* `Eval.evalReading_append`, `Eval.loggingError_bind`: the forms of the one are evaluated before
  those of the other, and an error is noted once;
* `Eval.evalTextFrom_apply`: how running a text ends, in terms of its forms and its fault;
* `Eval.evalText_append`, `Eval.evalText_in_two_parts`: the result.
-/

namespace MiniLisp

/-- A text is read as its two parts are, if it is cut at the end of a line and the first part is
read without a fault. -/
theorem readText_append {width : Except Fault Nat} {first : List Char} {source : String}
    {line : Int} (ends : ∀ c ∈ first.getLast?, c = '\n')
    (read : (readText width first source line).fault = none) (second : List Char) :
    let later := readText width second source (line + first.count '\n')
    (readText width (first ++ second) source line).forms =
        (readText width first source line).forms ++ later.forms ∧
      (readText width (first ++ second) source line).fault = later.fault := by
  intro later
  obtain ⟨forms₁, fault₁⟩ := Reader.readText_eq_consume width first source line
  obtain ⟨forms₂, fault₂⟩ :=
    Reader.readText_eq_consume width second source (line + first.count '\n')
  obtain ⟨forms, fault⟩ := Reader.readText_eq_consume width (first ++ second) source line
  rw [forms₁, forms₂, fault₂, forms, fault, tokens_append ends]
  rw [fault₁] at read
  rcases ended : Reader.consume width (.awaiting []) (tokens first source line) with
    ⟨vs, reason | state⟩
  · rw [ended] at read
    cases read
  · rw [ended] at read
    cases Reader.eq_awaiting_of_atEnd read
    rw [Reader.consume_append ended]
    exact ⟨rfl, rfl⟩

namespace Eval

variable {α β : Type} {ev : Evaluator} {root : FrameId}

theorem evalForms_append (ev : Evaluator) (root : FrameId) (last : Value)
    (forms later : List Value) :
    evalForms ev root last (forms ++ later) =
      evalForms ev root last forms >>= fun v => evalForms ev root v later := by
  induction forms generalizing last with
  | nil => rfl
  | cons form forms ih =>
    show (ev root form >>= fun v => evalForms ev root v (forms ++ later)) =
      (ev root form >>= fun v => evalForms ev root v forms) >>= fun v => evalForms ev root v later
    rw [bind_assoc]
    exact congrArg _ (funext fun v => ih v)

/-- The value of what came before is the result only if there is no form. -/
theorem evalForms_last (ev : Evaluator) (root : FrameId) (last : Value) (forms : List Value) :
    evalForms ev root last forms = evalForms ev root (.nil .unknown) forms >>= fun v =>
      pure (if forms = [] then last else v) := by
  cases forms with
  | nil => rfl
  | cons form forms =>
    funext c m
    rw [bind_apply]
    show evalForms ev root (.nil .unknown) (form :: forms) c m = _
    cases evalForms ev root (.nil .unknown) (form :: forms) c m <;> rfl

/-- What was read in two parts is evaluated in two parts. -/
theorem evalReading_append {whole first second : Reader.Reading}
    (forms : whole.forms = first.forms ++ second.forms) (fault : whole.fault = second.fault)
    (read : first.fault = none) :
    evalReading ev root whole = (do
      let v ← evalReading ev root first
      let w ← evalReading ev root second
      return if second.forms = [] then v else w) := by
  unfold evalReading
  rw [forms, fault, read, evalForms_append, bind_assoc, bind_assoc]
  refine congrArg _ (funext fun v => ?_)
  show evalForms ev root v second.forms >>= _ = (evalForms ev root _ second.forms >>= _) >>= _
  rw [evalForms_last ev root v, bind_assoc, bind_assoc]
  refine congrArg _ (funext fun w => ?_)
  cases second.fault with
  | none => rfl
  | some reason => rfl

/-! ## Diagnostics -/

/-- The machine after a diagnostic, which is written only if diagnostics are wanted. -/
def noted (c : Context) (source line : String) (m : Machine) : Machine :=
  if c.verbose then { m with err := m.err ++ ("DEBUG " ++ source ++ ": " ++ line) ++ "\n" } else m

theorem log_apply (source line : String) (c : Context) (m : Machine) :
    log source line c m = .ok () (noted c source line m) := by
  show (if c.verbose then _ else _ : Eval Unit) c m = _
  unfold noted
  cases c.verbose <;> rfl

/-- An error is noted and stays the outcome, and so does any other outcome. -/
theorem loggingError_apply (source : String) (x : Eval α) (c : Context) (m : Machine) :
    loggingError source x c m = match x c m with
      | .error e m' => .error e
          (noted c interpreterLog ("evaluation of " ++ source ++ " stopped: " ++ e.message) m')
      | ended => ended := by
  unfold loggingError
  rw [bind_apply]
  unfold catchError
  cases x c m with
  | error e m' =>
    show (log interpreterLog _ >>= fun _ => fail e) c m' = _
    rw [bind_apply, log_apply]
    rfl
  | ok | fault | exhausted => rfl

/-- An error is noted once, whichever part it ends. -/
theorem loggingError_bind (source : String) (x : Eval α) (k : α → Eval β) :
    loggingError source (x >>= k) =
      loggingError source x >>= fun a => loggingError source (k a) := by
  funext c m
  rw [loggingError_apply, bind_apply, bind_apply, loggingError_apply]
  cases x c m with
  | ok a m' => exact (loggingError_apply source (k a) c m').symm
  | error | fault | exhausted => rfl

/-! ## Texts -/

theorem evalTextFrom_eq (ev : Evaluator) (root : FrameId) (text : List Char) (source : String)
    (line : Int) (c : Context) (m : Machine) :
    evalTextFrom ev root text source line c m =
      loggingError source
        (evalReading ev root (readText c.settings.readingWidth text source line)) c m := rfl

/-- The forms of a text are evaluated first. If no error ends that, a fault that ended reading is
the outcome. -/
theorem evalTextFrom_apply (ev : Evaluator) (root : FrameId) (text : List Char) (source : String)
    (line : Int) (c : Context) (m : Machine) :
    let reading := readText c.settings.readingWidth text source line
    evalTextFrom ev root text source line c m =
      match evalForms ev root (.nil .unknown) reading.forms c m with
      | .ok v m' => match reading.fault with
        | none => .ok v m'
        | some reason => .fault reason m'
      | .error e m' => .error e
          (noted c interpreterLog ("evaluation of " ++ source ++ " stopped: " ++ e.message) m')
      | ended => ended := by
  intro reading
  rw [evalTextFrom_eq, loggingError_apply]
  unfold evalReading
  rw [bind_apply]
  cases evalForms ev root (.nil .unknown) reading.forms c m with
  | ok v m' =>
    dsimp only
    cases reading.fault <;> rfl
  | error | fault | exhausted => rfl

/-- A text is run as its two parts are, if it is cut at the end of a line and the first part is read
without a fault. -/
theorem evalText_append {first : List Char} (ends : ∀ c ∈ first.getLast?, c = '\n') {c : Context}
    {source : String} (read : (readText c.settings.readingWidth first source 1).fault = none)
    (ev : Evaluator) (root : FrameId) (second : List Char) (m : Machine) :
    let line : Int := 1 + first.count '\n'
    evalText ev root (first ++ second) source c m = (do
      let v ← evalText ev root first source
      let w ← evalTextFrom ev root second source line
      return if (readText c.settings.readingWidth second source line).forms = [] then v
        else w) c m := by
  intro line
  obtain ⟨forms, fault⟩ := readText_append ends read second
  unfold evalText
  rw [evalTextFrom_eq, evalReading_append forms fault read, loggingError_bind, bind_apply,
    bind_apply, evalTextFrom_eq]
  cases ended : loggingError source
    (evalReading ev root (readText c.settings.readingWidth first source 1)) c m with
  | ok v m₁ =>
    dsimp only
    rw [loggingError_bind, bind_apply, bind_apply, evalTextFrom_eq]
    rfl
  | error | fault | exhausted => rfl

/-- Running a text at once and running it in two parts comes to the same, if the first part is
empty or ends at the end of a line, and is read without a fault.

* The second part is run where the first one ended. The result is that of the second part, and that
  of the first one if the second has no form.
* An error of the first part is the outcome, and nothing has happened since, whatever the second
  part is.
* If no error ends the first part or a form of the second, a fault that ends reading the second part
  is the outcome, after all effects of the forms before it. -/
theorem evalText_in_two_parts {first : List Char} (ends : ∀ c ∈ first.getLast?, c = '\n')
    {c : Context} {source : String}
    (read : (readText c.settings.readingWidth first source 1).fault = none) (fuel : Nat)
    (root : FrameId) (second : List Char) (m : Machine) :
    let line : Int := 1 + first.count '\n'
    let later := readText c.settings.readingWidth second source line
    evalText (evaluate fuel) root (first ++ second) source c m = (do
      let v ← evalText (evaluate fuel) root first source
      let w ← evalTextFrom (evaluate fuel) root second source line
      return if later.forms = [] then v else w) c m ∧
    (∀ e m₁, evalText (evaluate fuel) root first source c m = .error e m₁ →
      evalText (evaluate fuel) root (first ++ second) source c m = .error e m₁) ∧
    ∀ v m₁ w m₂ reason, evalText (evaluate fuel) root first source c m = .ok v m₁ →
      evalForms (evaluate fuel) root (.nil .unknown) later.forms c m₁ = .ok w m₂ →
      later.fault = some reason →
      evalText (evaluate fuel) root (first ++ second) source c m = .fault reason m₂ := by
  intro line later
  have parts := evalText_append ends read (evaluate fuel) root second m
  refine ⟨parts, fun e m₁ failed => ?_, fun v m₁ w m₂ reason ended evaluated fault => ?_⟩
  · rw [parts, bind_apply, failed]
  · rw [parts, bind_apply, ended]
    show ((evalTextFrom (evaluate fuel) root second source line) >>= _) c m₁ = _
    rw [bind_apply, evalTextFrom_apply, evaluated, fault]

/-- A root frame that binds `setq`. -/
def assigning : Machine :=
  ⟨(Store.empty.newFrame none).bind 0 (.symbol "setq" .unknown) (.native .setq 0), 1, "", 0, ""⟩

/-- The machine after a computation that ends in a result. -/
def machineOfOk (x : Eval α) (c : Context) (m : Machine) : Option Machine :=
  match x c m with
  | .ok _ m' => some m'
  | _ => none

theorem exists_ok_of_machineOfOk {x : Eval α} {c : Context} {m m' : Machine}
    (ended : machineOfOk x c m = some m') : ∃ a, x c m = .ok a m' := by
  unfold machineOfOk at ended
  split at ended
  · next a m' ok =>
    cases ended
    exact ⟨a, ok⟩
  · cases ended

/-- The second part goes on with the names that the first one assigned, and breaks off in its second
form. -/
theorem assignments_in_two_parts :
    let first := "(setq x ()) ; nil\n(setq y x)\n".toList
    let second := "(setq x t) (setq y".toList
    ∃ m₂, evalText (evaluate 5) 0 (first ++ second) "parts" (.ofSettings .unset) assigning =
        .fault (.syntaxError .unmatchedOpen ⟨"parts", 3, 12⟩) m₂ ∧
      (m₂.store.lookup? 0 (some "x")).map Binding.value = some (.truth ⟨"parts", 3, 9⟩) := by
  intro first second
  have cut : ∀ c ∈ first.getLast?, c = '\n' := by simp [first]
  have read : (readText (Settings.readingWidth .unset) first "parts" 1).fault = none := by
    decide +kernel
  have fault : (readText (Settings.readingWidth .unset) second "parts" 3).fault =
      some (.syntaxError .unmatchedOpen ⟨"parts", 3, 12⟩) := by decide +kernel
  let later := evalForms (evaluate 5) 0 (.nil .unknown)
    (readText (Settings.readingWidth .unset) second "parts" 3).forms
  have ends : (((machineOfOk (evalText (evaluate 5) 0 first "parts") (.ofSettings .unset)
      assigning).bind (machineOfOk later (.ofSettings .unset))).bind fun m₂ =>
        (m₂.store.lookup? 0 (some "x")).map Binding.value) = some (.truth ⟨"parts", 3, 9⟩) := by
    decide +kernel
  obtain ⟨m₂, ended₂, found⟩ := Option.bind_eq_some_iff.mp ends
  obtain ⟨m₁, ended₁, ended₂⟩ := Option.bind_eq_some_iff.mp ended₂
  obtain ⟨v, ended⟩ := exists_ok_of_machineOfOk ended₁
  obtain ⟨w, evaluated⟩ := exists_ok_of_machineOfOk ended₂
  have parts := evalText_in_two_parts (c := .ofSettings .unset) cut read 5 0 second assigning
  exact ⟨m₂, parts.2.2 v m₁ w m₂ _ ended evaluated fault, found⟩

end Eval

end MiniLisp
