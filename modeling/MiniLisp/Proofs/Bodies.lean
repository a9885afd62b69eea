import MiniLisp.Proofs.Coupling
import MiniLisp.Proofs.Increments

/-!
# Texts and bodies

The forms of a text are evaluated one after the other as they are read, and the elements of a body
one after the other as the list goes on. A body has to have an element and must not run into an
improper tail, and an error that ends a text is noted in the diagnostics. Apart from that, running
a text is evaluating the list of its forms as a body.

* `Eval.evalBody_eq_evalForms`: a proper body is evaluated as the forms of a text are;
* `Eval.evalBody_append`: one body after the other;
* `Eval.text_is_body`: the result.
-/

namespace MiniLisp.Eval

variable {ev : Evaluator} {f : FrameId} {c : Context}

/-! ## Bodies -/

theorem bind_pure {α : Type} (x : Eval α) : x >>= pure = x := by
  funext c m
  rw [bind_apply]
  cases x c m <;> rfl

theorem evalThen_eq_evalForms (expr : Value) {rest : Value} (list : rest.isList = true)
    (last : Value) : evalThen ev f expr rest = evalForms ev f last (expr :: rest.items) := by
  induction rest generalizing expr last with
  | nil => exact (bind_pure (ev f expr)).symm
  | cell first rest _ _ ih => exact congrArg _ (funext fun v => ih first list v)
  | _ => cases list

/-- The elements of a proper list are evaluated like the forms of a text, if there is one. What
would be the value of no form makes no difference then. -/
theorem evalBody_eq_evalForms {body : Value} (list : body.isList = true) (some : body.items ≠ [])
    (last : Value) : evalBody ev f body = evalForms ev f last body.items := by
  cases body with
  | cell first rest loc =>
    have restList : rest.isList = true := list
    exact evalThen_eq_evalForms first restList last
  | _ => cases some rfl

/-- A body is evaluated as two bodies that it is made up of. -/
theorem evalBody_append {xs ys zs : Value} (xsList : xs.isList = true) (ysList : ys.isList = true)
    (zsList : zs.isList = true) (xsSome : xs.items ≠ []) (ysSome : ys.items ≠ [])
    (parts : zs.items = xs.items ++ ys.items) :
    evalBody ev f zs = evalBody ev f xs >>= fun _ => evalBody ev f ys := by
  have zsSome : zs.items ≠ [] := by
    rw [parts]
    exact List.append_ne_nil_of_left_ne_nil xsSome ys.items
  rw [evalBody_eq_evalForms zsList zsSome (.nil .unknown), parts, evalForms_append,
    evalBody_eq_evalForms xsList xsSome (.nil .unknown)]
  exact congrArg _ (funext fun v => (evalBody_eq_evalForms ysList ysSome v).symm)

/-! ## Texts -/

/-- Noting an error changes nothing but what was written to standard error. -/
theorem loggingError_both {α : Type} (source : String) (x : Eval α) (c : Context) (m : Machine) :
    (x c m).Both (fun m₁ m₂ => m₂ = { m₁ with err := m₂.err }) Eq Eq Eq
      (loggingError source x c m) := by
  rw [loggingError_apply]
  cases x c m with
  | ok v m₁ => exact .ok rfl rfl
  | error e m₁ =>
    refine .error ?_ rfl
    unfold noted
    cases c.verbose <;> rfl
  | fault reason m₁ => exact .fault rfl rfl
  | exhausted => exact .exhausted

/-- Nothing follows the forms of a text that was read to its end. -/
theorem evalReading_eq_evalForms {reading : Reader.Reading} (read : reading.fault = none) :
    evalReading ev f reading = evalForms ev f (.nil .unknown) reading.forms := by
  unfold evalReading
  rw [read]
  exact bind_pure _

/-- A text that is read to its end is run as the list of its forms is evaluated as a body.

* If there is a form, both end in the same way, with the same value or error, and with the same
  store and output. The text only notes in the diagnostics that an error ended it.
* If there is none, the text does nothing and gives nil, but the body is refused as empty.
* One body after another, in whatever frame, is evaluated as a single body of the elements of both;
  an error of the first one is an error of the whole. -/
theorem text_is_body (ev : Evaluator) (root : FrameId) {text : List Char} {source : String}
    (read : (readText c.settings.readingWidth text source 1).fault = none) (m : Machine) :
    let forms := (readText c.settings.readingWidth text source 1).forms
    let body := Value.ofItems (.nil .unknown) forms
    (forms ≠ [] →
      (evalBody ev root body c m).Both (fun m₁ m₂ => m₂ = { m₁ with err := m₂.err }) Eq Eq Eq
        (evalText ev root text source c m) ∧
      evalText ev root text source c m = loggingError source (evalBody ev root body) c m) ∧
    (forms = [] →
      evalText ev root text source c m = .ok (.nil .unknown) m ∧
      evalBody ev root body c m = raise .emptyBody .unknown c m) ∧
    ∀ (f : FrameId) (xs ys zs : Value), xs.isList = true → ys.isList = true → zs.isList = true →
      xs.items ≠ [] → ys.items ≠ [] → zs.items = xs.items ++ ys.items →
      evalBody ev f zs = evalBody ev f xs >>= fun _ => evalBody ev f ys := by
  intro forms body
  have run : evalText ev root text source c m =
      loggingError source (evalForms ev root (.nil .unknown) forms) c m := by
    rw [← evalReading_eq_evalForms read]
    rfl
  refine ⟨fun some => ?_, fun none => ⟨?_, ?_⟩, fun f xs ys zs xsList ysList zsList xsSome ysSome
    parts => evalBody_append xsList ysList zsList xsSome ysSome parts⟩
  · have items : body.items = forms := by
      rw [Value.items_ofItems]
      exact List.append_nil forms
    have list : body.isList = true := Value.isList_ofItems _ forms
    rw [← items] at run some
    rw [← evalBody_eq_evalForms list some] at run
    rw [run]
    exact ⟨loggingError_both source _ c m, rfl⟩
  · rw [run, none]
    rfl
  · show evalBody ev root (.ofItems (.nil .unknown) forms) c m = _
    rw [none]
    rfl

/-- Diagnostics are wanted. -/
def withDiagnostics : Context := { Context.ofSettings .unset with verbose := true }

/-- The second of three forms is an unbound symbol. The text and the body end in the same error, and
only the text notes it. -/
theorem unboundForm_ends_both :
    let text := "1 x 2".toList
    let forms := (readText withDiagnostics.settings.readingWidth text "text" 1).forms
    ∃ e m₁ m₂, evalBody (evaluate 1) 0 (.ofItems (.nil .unknown) forms) withDiagnostics .initial =
        .error e m₁ ∧
      evalText (evaluate 1) 0 text "text" withDiagnostics .initial = .error e m₂ ∧
      e.kind = .unboundSymbol ∧ m₂ = { m₁ with err := m₂.err } ∧ m₂.err ≠ m₁.err := by
  intro text forms
  have read : (readText withDiagnostics.settings.readingWidth text "text" 1).fault = none := rfl
  have several : forms ≠ [] := by decide +kernel
  obtain ⟨nonempty, -, -⟩ := text_is_body (evaluate 1) 0 read .initial
  obtain ⟨-, run⟩ := nonempty several
  refine ⟨_, _, _, rfl, run.trans rfl, rfl, rfl, ?_⟩
  decide +kernel

end MiniLisp.Eval
