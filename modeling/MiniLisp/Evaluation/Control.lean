import MiniLisp.Evaluation.Sequence

/-!
# Branches and loops

Only the truth value selects the first branch of `if` and keeps `while` going; every other value,
nil or not, counts as false.

A loop has fuel of its own, one unit for each round.
-/

namespace MiniLisp.Eval

/-- `(if condition consequence alternative...)`. The alternative is a body. Without one the result
is nil. -/
def branch (ev : Evaluator) (f : FrameId) : Value → Eval Value
  | .cell condition (.cell consequence alternative _) loc => do
    let test ← ev f condition
    if test.isTruth then ev f consequence
    else match alternative with
      | .nil _ => return .nil loc
      | body => evalBody ev f body
  | args => raise .missingBranch args.loc

/-- Runs the body while the condition is the truth value. The result is the value of the last
round, and `last` if there is none. -/
def repeatWhile (ev : Evaluator) (f : FrameId) (condition body : Value) :
    (fuel : Nat) → (last : Value) → Eval Value
  | 0, _ => outOfFuel
  | fuel + 1, last => do
    let test ← ev f condition
    if test.isTruth then
      let v ← evalBody ev f body
      repeatWhile ev f condition body fuel v
    else return last

/-- `(while condition body...)`. The result is nil if the body never runs. -/
def loop (ev : Evaluator) (fuel : Nat) (f : FrameId) : Value → Eval Value
  | .cell condition body loc => repeatWhile ev f condition body fuel (.nil loc)
  | args => raise .missingCondition args.loc

end MiniLisp.Eval
