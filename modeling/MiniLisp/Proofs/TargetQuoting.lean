import MiniLisp.Proofs.Expansion
import MiniLisp.Proofs.Layout

/-!
# The two assignments

`setq` takes its target as it stands, and `set` evaluates it. So `(setq target value)` is `(set
target' value)`, where `target'` calls the native operator that quotes: the operator itself, not
what the name `quote` happens to be bound to.

* `Value.eq_pair`: the proper lists of two elements;
* `Eval.set_quoted`, `Eval.setq_pair`: both assignments come down to one computation;
* `Eval.assignSettled_both`: where the target stands is told in an error, and nowhere else;
* `Eval.setq_is_set_of_quoted`: the result.
-/

namespace MiniLisp

/-- A proper list of two elements is two cells and a nil. -/
theorem Value.eq_pair {v a b : Value} (list : v.isList = true) (items : v.items = [a, b]) :
    ∃ l l' l'', v = .cell a (.cell b (.nil l) l') l'' := by
  cases v with
  | cell first rest l'' =>
    obtain ⟨rfl, one⟩ := List.cons.inj items
    cases rest with
    | cell second tail l' =>
      obtain ⟨rfl, none⟩ := List.cons.inj one
      cases tail with
      | nil l => exact ⟨l, l', l'', rfl⟩
      | cell => cases none
      | _ => cases list
    | _ => cases one
  | _ => cases items

/-- Both endings are the same one, but for the location of an error. -/
abbrev Outcome.SameButPlace {α : Type} : Outcome α → Outcome α → Prop :=
  Outcome.Both Eq Eq (ErrorValue.Alike Coupling.anyLocation.toLikeness) Eq

theorem Outcome.SameButPlace.refl {α : Type} (o : Outcome α) : o.SameButPlace o := by
  cases o with
  | ok => exact .ok rfl rfl
  | error => exact .error rfl ⟨rfl, rfl, rfl, trivial⟩
  | fault => exact .fault rfl rfl
  | exhausted => exact .exhausted

namespace Eval

variable {ev : Evaluator} {f : FrameId} {args target quoted expr : Value}
  {quoteIdentity : Identity}

/-! ## Two arguments -/

theorem setq_pair (list : args.isList = true) (items : args.items = [target, expr]) :
    setq ev f args = settle target >>= fun t => assignTarget ev f t target.loc expr := by
  obtain ⟨l, l', l'', rfl⟩ := Value.eq_pair list items
  rfl

theorem set_pair (list : args.isList = true) (items : args.items = [target, expr]) :
    set ev f args = ev f target >>= fun t => assignTarget ev f t target.loc expr := by
  obtain ⟨l, l', l'', rfl⟩ := Value.eq_pair list items
  rfl

/-- A quoted target is evaluated to the target, and an error ends both. -/
theorem set_quoted (quotedList : quoted.isList = true)
    (quotes : quoted.items = [.native .quote quoteIdentity, target]) (list : args.isList = true)
    (items : args.items = [quoted, expr]) (fuel : Nat) (f : FrameId) :
    set (evaluate (fuel + 2)) f args =
      settle target >>= fun t => assignTarget (evaluate (fuel + 2)) f t quoted.loc expr := by
  obtain ⟨l, l', l'', rfl⟩ := Value.eq_pair quotedList quotes
  rw [set_pair list items, evaluate_quoted]

/-- Where the target stands is told if it is no symbol, and makes no other difference. -/
theorem assignSettled_both (ev : Evaluator) (f : FrameId) (target : Value) (loc loc' : Location)
    (expr : Value) (c : Context) (m : Machine) :
    ((settle target >>= fun t => assignTarget ev f t loc expr) c m).SameButPlace
      ((settle target >>= fun t => assignTarget ev f t loc' expr) c m) := by
  cases target with
  | symbol name symbolLoc => exact .refl _
  | error e => exact .refl _
  | _ => exact .error rfl ⟨rfl, rfl, rfl, trivial⟩

/-! ## Other arguments -/

theorem twoArguments_of_not_pair (operator : String)
    (other : ¬ (args.isList = true ∧ args.items.length = 2)) :
    twoArguments operator args = refuseArguments operator 2 args := by
  unfold twoArguments
  split
  · exact absurd ⟨rfl, rfl⟩ other
  · rfl

/-- In whatever store and frame, `setq` of a target and a value is `set` of the quoted target and
the value, where the target is quoted by the native operator itself: both end in the same way, with
the same value or error and the same machine. Only where a target is told to be no symbol, the error
is located at the target or at what quotes it, which may be the same place. Arguments that are not a
proper list of two elements are refused by `setq`, whatever the evaluator, with no other change than
that one more identity has been given out. -/
theorem setq_is_set_of_quoted (args form : Value) (identity : Identity) (f : FrameId) (c : Context)
    (m : Machine) :
    (∀ target expr, args.isList = true → args.items = [target, expr] →
      ∀ quoteIdentity quoted args', quoted.isList = true →
        quoted.items = [.native .quote quoteIdentity, target] → args'.isList = true →
        args'.items = [quoted, expr] → ∀ fuel form' setIdentity,
        let assigned :=
          apply (evaluate (fuel + 2)) (fuel + 2) f (.native .setq identity) args form
        let spelled :=
          apply (evaluate (fuel + 2)) (fuel + 2) f (.native .set setIdentity) args' form'
        (assigned c m).SameButPlace (spelled c m) ∧
          (quoted.loc = target.loc → assigned = spelled)) ∧
    (¬ (args.isList = true ∧ args.items.length = 2) → ∀ (ev : Evaluator) (fuel : Nat),
      apply ev fuel f (.native .setq identity) args form c m =
        .error ((Cause.argumentCount "setq" 2 args.items.length).toError args.loc m.serial)
          { m with serial := m.serial + 1 }) := by
  constructor
  · intro target expr list items quoteIdentity quoted args' quotedList quotes list' items' fuel
      form' setIdentity assigned spelled
    have direct : assigned = settle target >>= fun t =>
        assignTarget (evaluate (fuel + 2)) f t target.loc expr := setq_pair list items
    have byQuote : spelled = settle target >>= fun t =>
        assignTarget (evaluate (fuel + 2)) f t quoted.loc expr :=
      set_quoted quotedList quotes list' items' fuel f
    rw [direct, byQuote]
    refine ⟨assignSettled_both _ f target target.loc quoted.loc expr c m, fun same => ?_⟩
    rw [same]
  · intro other ev fuel
    show setq ev f args c m = _
    unfold setq
    rw [twoArguments_of_not_pair "setq" other]
    rfl

/-- The frame 0 binds `x` to nil and `quote` to the truth value, and the frame 1 is inside of it. -/
def quoteRebound : Machine :=
  let root := (Store.empty.newFrame none).bind 0 (.symbol "x" .unknown) (.nil .unknown)
  let rebound := root.bind 0 (.symbol "quote" .unknown) (.truth .unknown)
  ⟨rebound.newFrame (some 0), 0, "", 0, ""⟩

/-- From the inner frame both assignments reach the variable in the outer one, though the name
`quote` does not quote there. A dotted pair is refused. -/
theorem quoteRebound_assigned :
    (∃ m', apply (evaluate 3) 3 1 (.native .setq 0)
        (.ofItems (.nil .unknown) [.symbol "x" .unknown, .integer 5 .unknown]) (.nil .unknown)
        (.ofSettings .unset) quoteRebound = .ok (.integer 5 .unknown) m' ∧
      apply (evaluate 3) 3 1 (.native .set 0)
        (.ofItems (.nil .unknown)
          [.ofItems (.nil .unknown) [.native .quote 0, .symbol "x" .unknown], .integer 5 .unknown])
        (.nil .unknown) (.ofSettings .unset) quoteRebound = .ok (.integer 5 .unknown) m' ∧
      m'.store.lookup? 0 (some "x") = some ⟨.symbol "x" .unknown, .integer 5 .unknown⟩) ∧
    apply (evaluate 3) 3 1 (.native .setq 0)
        (.cell (.symbol "x" .unknown) (.integer 5 .unknown) .unknown) (.nil .unknown)
        (.ofSettings .unset) quoteRebound =
      .error ((Cause.argumentCount "setq" 2 1).toError .unknown 0)
        { quoteRebound with serial := 1 } := by
  constructor
  · obtain ⟨pairs, -⟩ := setq_is_set_of_quoted
      (.ofItems (.nil .unknown) [.symbol "x" .unknown, .integer 5 .unknown]) (.nil .unknown) 0 1
      (.ofSettings .unset) quoteRebound
    obtain ⟨-, same⟩ := pairs (.symbol "x" .unknown) (.integer 5 .unknown) rfl rfl 0
      (.ofItems (.nil .unknown) [.native .quote 0, .symbol "x" .unknown])
      (.ofItems (.nil .unknown) [.ofItems (.nil .unknown) [.native .quote 0, .symbol "x" .unknown],
        .integer 5 .unknown]) rfl rfl rfl rfl 1 (.nil .unknown) 0
    rw [← same rfl]
    exact ⟨_, rfl, rfl, rfl⟩
  · obtain ⟨-, others⟩ := setq_is_set_of_quoted
      (.cell (.symbol "x" .unknown) (.integer 5 .unknown) .unknown) (.nil .unknown) 0 1
      (.ofSettings .unset) quoteRebound
    exact others (by decide) (evaluate 3) 3

end Eval

end MiniLisp
