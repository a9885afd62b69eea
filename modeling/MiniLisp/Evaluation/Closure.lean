import MiniLisp.Evaluation.Sequence

/-!
# Closures

`fn` makes functions and, given a name, binds it in the current frame; `macro` makes expanders.
Both check the definition as a whole before anything else happens: the parameters have to be a
proper list of symbols, the body a proper list.

A call binds the parameters, by position, in a new frame inside the frame of the definition.
-/

namespace MiniLisp.Eval

/-- Makes a closure over the current frame. The pair of its parameters and its body is located at
`loc`. -/
def makeClosure (sort : ClosureKind) (f : FrameId) (params body : Value) (loc : Location) :
    Eval Value := do
  if !(params.isList && body.isList) then
    raise .malformedDefinition loc
  else match params.items.find? (!·.isSymbol) with
    | some param => raise (.parameterNotSymbol param.kind) param.loc
    | none =>
      let identity ← freshIdentity
      return .closure sort params body f loc identity

/-- `(fn (params...) body...)`, or `(fn name (params...) body...)`, which also binds the name. -/
def makeFunction (f : FrameId) (args : Value) : Eval Value :=
  match args with
  | .cell (.symbol name symbolLoc) rest _ =>
    match rest with
    | .cell params body loc => do
      let v ← makeClosure .function f params body loc
      bindSymbol f (.symbol name symbolLoc) v
    | _ => raise .missingParameters args.loc
  | .cell params body loc => makeClosure .function f params body loc
  | _ => raise .missingParameters args.loc

/-- `(macro (params...) body...)`. -/
def makeExpander (f : FrameId) : Value → Eval Value
  | .cell params body loc => makeClosure .expander f params body loc
  | args => raise .missingParameters args.loc

/-- Binds the parameters of a closure to as many values in a new frame, whose number is the result.
The location is that of the call. -/
def bindArguments (sort : ClosureKind) (params : Value) (outer : FrameId) (values : List Value)
    (loc : Location) : Eval FrameId := do
  let symbols := params.items
  if symbols.length == values.length then
    let inner ← newFrame (some outer)
    modifyStore fun store => store.bindAll inner symbols values
    return inner
  else
    let text ← printed params
    raise (.parameterCount sort.kind text symbols.length values.length) loc

/-- Calls a closure. A function gets the values of the arguments; the result is that of its body.
An expander gets the arguments as they stand, and the code it produces is evaluated in the frame of
the call. -/
def call (ev : Evaluator) (f : FrameId) (sort : ClosureKind) (params body : Value)
    (outer : FrameId) (args : Value) (loc : Location) : Eval Value :=
  match sort with
  | .function => do
    let values ← evalArguments ev f args
    let inner ← bindArguments sort params outer values loc
    evalBody ev inner body
  | .expander => do
    if args.isList then
      let inner ← bindArguments sort params outer args.items loc
      let code ← evalBody ev inner body
      ev f code
    else raise .improperArguments loc

end MiniLisp.Eval
