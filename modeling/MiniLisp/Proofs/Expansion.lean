import MiniLisp.Proofs.FirstError

/-!
# Expanders as functions of quoted arguments

A function evaluates its arguments, and an expander does not. A quoted argument evaluates to itself,
without any effect, so the function sees the same values in its body. What is left of the difference
is that the result of an expander is code, which is evaluated where the call stands.

* `Quotes`: a list of calls that quote the elements of another one;
* `Eval.evalArguments_quotes`: the values of quoted arguments;
* `Eval.apply_function`, `Eval.apply_expander`: what is done with the values or with the arguments;
* `Eval.bindArguments_of_length`, `Eval.bindArguments_of_length_ne`: as many of them as there are
  parameters, and any other number;
* `Eval.expander_is_function_of_code`: the result.
-/

namespace MiniLisp

/-- The second list is proper, and its elements are calls of the native operator that quotes, on
the elements of the first. -/
inductive Quotes : Value → Value → Prop
  | nil (loc loc' : Location) : Quotes (.nil loc) (.nil loc')
  | cell (a : Value) (identity : Identity) (loc l l' l'' loc' : Location) {rest rest' : Value} :
      Quotes rest rest' →
      Quotes (.cell a rest loc)
        (.cell (.cell (.native .quote identity) (.cell a (.nil l) l') l'') rest' loc')

variable {args args' : Value}

theorem Quotes.isList (h : Quotes args args') : args.isList = true := by
  induction h with
  | nil => rfl
  | cell _ _ _ _ _ _ _ _ ih => exact ih

theorem exists_quotes (list : args.isList = true) : ∃ args', Quotes args args' := by
  induction args with
  | nil loc => exact ⟨_, .nil loc loc⟩
  | cell a rest loc _ ih =>
    obtain ⟨rest', quotes⟩ := ih list
    exact ⟨_, .cell a 0 loc loc loc loc loc quotes⟩
  | _ => cases list

namespace Eval

variable {ev ev' : Evaluator} {fuel : Nat} {f outer : FrameId} {params body form : Value}
  {values : List Value} {sort : ClosureKind} {loc : Location} {identity : Identity} {c : Context}
  {m m₁ : Machine}

/-! ## Quoted arguments -/

/-- A call of the native operator that quotes comes to its argument, and an error ends it. -/
theorem evaluate_quoted (fuel : Nat) (f : FrameId) (identity : Identity) (a : Value)
    (l l' l'' : Location) :
    evaluate (fuel + 2) f (.cell (.native .quote identity) (.cell a (.nil l) l') l'') =
      settle a := rfl

/-- A quoted value that is no error evaluates to itself. -/
theorem evaluate_quote {a : Value} (errorFree : a.isError = false) (fuel : Nat) (f : FrameId)
    (identity : Identity) (l l' l'' : Location) :
    evaluate (fuel + 2) f (.cell (.native .quote identity) (.cell a (.nil l) l') l'') =
      pure a := by
  rw [evaluate_quoted]
  cases a with
  | error => cases errorFree
  | _ => rfl

/-- The values of quoted arguments are the arguments. -/
theorem evalArguments_quotes (quotes : Quotes args args')
    (errorFree : ∀ a ∈ args.items, a.isError = false) (fuel : Nat) (f : FrameId) :
    evalArguments (evaluate (fuel + 2)) f args' = pure args.items := by
  induction quotes with
  | nil => rfl
  | cell a identity _ l l' l'' _ _ ih =>
    have rest := ih fun b mem => errorFree b (List.mem_cons_of_mem a mem)
    have first := evaluate_quote (errorFree a List.mem_cons_self) fuel f identity l l' l''
    unfold evalArguments
    rw [first, rest]
    rfl

/-! ## Calls of closures -/

/-- The machine in which the body of a closure is run. The parameters are bound in a new frame,
inside the one that the closure was made in. -/
def entered (params : Value) (outer : FrameId) (values : List Value) (m : Machine) : Machine :=
  { m with store := (m.store.newFrame (some outer)).bindAll m.store.nextFrame params.items values }

/-- Refuses so many arguments because there is another number of parameters. -/
def refuseCount (sort : ClosureKind) (params : Value) (supplied : Nat) (loc : Location) :
    Eval Value := do
  let text ← printed params
  raise (.parameterCount sort.kind text params.items.length supplied) loc

section Bind

variable (sort : ClosureKind) (outer : FrameId) (loc : Location) (k : FrameId → Eval Value)

omit k in
theorem bindArguments_eq_ok (counts : params.items.length = values.length) (c : Context)
    (m : Machine) :
    bindArguments sort params outer values loc c m =
      .ok m.store.nextFrame (entered params outer values m) := by
  unfold bindArguments
  rw [if_pos (beq_iff_eq.mpr counts)]
  rfl

theorem bindArguments_of_length (counts : params.items.length = values.length) (c : Context)
    (m : Machine) :
    (bindArguments sort params outer values loc >>= k) c m =
      k m.store.nextFrame c (entered params outer values m) :=
  bind_of_ok (bindArguments_eq_ok sort outer loc counts c m)

theorem bindArguments_of_length_ne (counts : params.items.length ≠ values.length) :
    bindArguments sort params outer values loc >>= k =
      refuseCount sort params values.length loc := by
  unfold bindArguments
  rw [if_neg (beq_iff_eq.not.mpr counts)]
  exact bind_assoc _ _ k

end Bind

theorem apply_function (evaluated : evalArguments ev f args c m = .ok values m₁) :
    apply ev fuel f (.closure .function params body outer loc identity) args form c m =
      (bindArguments .function params outer values form.loc >>= fun inner =>
        evalBody ev inner body) c m₁ :=
  bind_of_ok evaluated

/-- The frame of the call has no part in the expansion, but the code that results is evaluated
there. -/
theorem apply_expander (list : args.isList = true) :
    apply ev fuel f (.closure .expander params body outer loc identity) args form =
      bindArguments .expander params outer args.items form.loc >>= fun inner =>
        evalBody ev inner body >>= ev f := by
  show call ev f .expander params body outer args form.loc = _
  unfold call
  rw [if_pos list]

/-- A call of an expander is a call of a function on quoted arguments, after which the result is
evaluated in the frame of the call. Expander and function have the same parameters, the same body
and the same frame.

* Any proper list can be quoted, element by element. Evaluating the quoted arguments changes nothing
  and gives the elements.
* If there are as many arguments as parameters, both come to the same: value or error, store and
  output. This also holds if the expander is called with another evaluator, which agrees only in the
  frame of the body. So nothing is evaluated in the frame of the call until the code is there.
* Any other number of arguments is refused by both in the same words, except that each names its own
  kind. -/
theorem expander_is_function_of_code (params body : Value) (outer : FrameId)
    (list : args.isList = true) (errorFree : ∀ a ∈ args.items, a.isError = false) (fuel : Nat)
    (f : FrameId) (c : Context) (m : Machine) :
    (∃ args', Quotes args args') ∧
    ∀ args', Quotes args args' → ∀ (loc loc' : Location) (identity identity' : Identity)
      (form form' : Value) (ev : Evaluator),
      let expansion :=
        apply ev (fuel + 2) f (.closure .expander params body outer loc identity) args form
      let application := apply (evaluate (fuel + 2)) (fuel + 2) f
        (.closure .function params body outer loc' identity') args' form'
      evalArguments (evaluate (fuel + 2)) f args' c m = .ok args.items m ∧
      (params.items.length = args.items.length →
        (∀ expr, ev m.store.nextFrame expr = evaluate (fuel + 2) m.store.nextFrame expr) →
        expansion c m = (application >>= ev f) c m) ∧
      (params.items.length ≠ args.items.length →
        expansion c m = refuseCount .expander params args.items.length form.loc c m ∧
        (application >>= ev f) c m =
          refuseCount .function params args.items.length form'.loc c m) := by
  refine ⟨exists_quotes list, fun args' quotes loc loc' identity identity' form form' ev => ?_⟩
  intro expansion application
  have evaluated : evalArguments (evaluate (fuel + 2)) f args' c m = .ok args.items m := by
    rw [evalArguments_quotes quotes errorFree]
    rfl
  have applied : application c m =
      (bindArguments .function params outer args.items form'.loc >>= fun inner =>
        evalBody (evaluate (fuel + 2)) inner body) c m := apply_function evaluated
  have expanded : expansion = bindArguments .expander params outer args.items form.loc >>=
      fun inner => evalBody ev inner body >>= ev f := apply_expander list
  refine ⟨evaluated, fun counts agrees => ?_, fun counts => ⟨?_, ?_⟩⟩
  · have same : evalBody ev m.store.nextFrame body c (entered params outer args.items m) =
        evalBody (evaluate (fuel + 2)) m.store.nextFrame body c
          (entered params outer args.items m) :=
      evalBody_congr fun sub _ _ => by rw [agrees sub]
    rw [expanded, bindArguments_of_length _ _ _ _ counts, bind_apply, same, bind_apply, applied,
      bindArguments_of_length _ _ _ _ counts]
  · rw [expanded, bindArguments_of_length_ne _ _ _ _ counts]
  · have refused := bindArguments_of_length_ne .function outer form'.loc
      (fun inner => evalBody (evaluate (fuel + 2)) inner body >>= ev f) counts
    rw [← bind_assoc] at refused
    rw [bind_apply, applied, ← bind_apply, refused]

/-- The variable `x` is 3 in the first frame. -/
def caller : Machine :=
  { Machine.initial with
    store := (Store.empty.newFrame none).bind 0 (.symbol "x" .unknown) (.integer 3 .unknown) }

/-- The code that adds 1 to `x`, as the only argument. -/
def increment : Value :=
  .ofItems (.nil .unknown) [.ofItems (.nil .unknown)
    [.native (.fold .add) 1, .symbol "x" .unknown, .integer 1 .unknown]]

/-- The list of the symbol `x`: one parameter, or a body. -/
def onlyX : Value := .ofItems (.nil .unknown) [.symbol "x" .unknown]

/-- An expander gives the code back that it is called with, and its parameter is called `x` too. The
code is evaluated where `x` is 3, and the same comes of a function of the quoted code. -/
theorem increment_expanded :
    ∃ (args' v : Value) (m₁ : Machine), Quotes increment args' ∧
      apply (evaluate 5) 5 0 (.closure .expander onlyX onlyX 0 .unknown 2) increment (.nil .unknown)
        (.ofSettings .unset) caller = .ok v m₁ ∧
      (apply (evaluate 5) 5 0 (.closure .function onlyX onlyX 0 .unknown 3) args'
        (.nil .unknown) >>= evaluate 5 0) (.ofSettings .unset) caller = .ok v m₁ ∧
      v = .integer 4 .unknown := by
  have errorFree : ∀ a ∈ increment.items, a.isError = false := by decide
  obtain ⟨⟨args', quotes⟩, calls⟩ := expander_is_function_of_code onlyX onlyX 0 rfl errorFree 3 0
    (.ofSettings .unset) caller
  obtain ⟨-, same, -⟩ := calls args' quotes .unknown .unknown 2 3 (.nil .unknown) (.nil .unknown)
    (evaluate 5)
  have expanded := same rfl fun _ => rfl
  exact ⟨args', _, _, quotes, rfl, expanded.symm, rfl⟩

end Eval

end MiniLisp
