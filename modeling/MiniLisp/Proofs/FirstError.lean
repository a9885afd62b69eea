import Mathlib.Logic.Function.Iterate
import MiniLisp.Proofs.Increments

/-!
# The first error wins

An error value that an evaluation ends in is not handed on to the operator that waits for the
result. It ends the operator, whatever that has still to evaluate, to bind or to write, and so on up
to the form of the text. The only exception is the newline of `println`, which is written in any
case.

* `Eval.Element`, `Eval.Round`, `Eval.Operand`, `Eval.Reaches`: which sub-expression an evaluation
  comes to if all those before it ended without an error;
* `Eval.evalStep_congr`: there is no other sub-expression that an evaluation comes to;
* `Eval.Reaches.error`, `Eval.Within.error`: the error of a sub-expression is that of the whole;
* `Eval.first_error_wins`: the result.
-/

namespace MiniLisp

/-- The operator evaluates all its arguments, before it does anything else. -/
def Operator.evaluatesArguments : Operator → Bool
  | .print | .println | .fold _ | .equal | .less => true
  | _ => false

/-- How often the operator writes a newline after an error. -/
def Operator.newlines : Operator → Nat
  | .println => 1
  | _ => 0

namespace Eval

/-! ## Which sub-expressions are evaluated -/

/-- Evaluating the elements of a list in order, from a machine on, comes to an element without an
error, and with the machine at the end. -/
inductive Element (ev : Evaluator) (c : Context) (f : FrameId) :
    Value → Machine → Value → Machine → Prop
  | here {first rest : Value} {loc : Location} {m : Machine} :
      Element ev c f (.cell first rest loc) m first m
  | later {first rest v sub : Value} {loc : Location} {m m' m₁ : Machine} :
      ev f first c m = .ok v m' → Element ev c f rest m' sub m₁ →
      Element ev c f (.cell first rest loc) m sub m₁

/-- A loop of so many rounds comes to its condition or to an element of its body. -/
inductive Round (ev : Evaluator) (c : Context) (f : FrameId) (condition body : Value) :
    Nat → Machine → Value → Machine → Prop
  | condition {rounds : Nat} {m : Machine} :
      Round ev c f condition body (rounds + 1) m condition m
  | body {rounds : Nat} {test sub : Value} {m m' m₁ : Machine} :
      ev f condition c m = .ok test m' → test.isTruth = true → Element ev c f body m' sub m₁ →
      Round ev c f condition body (rounds + 1) m sub m₁
  | again {rounds : Nat} {test v sub : Value} {m m' m'' m₁ : Machine} :
      ev f condition c m = .ok test m' → test.isTruth = true →
      evalBody ev f body c m' = .ok v m'' →
      Round ev c f condition body rounds m'' sub m₁ →
      Round ev c f condition body (rounds + 1) m sub m₁

/-- A native operator, given its arguments, comes to a part of them. -/
inductive Operand (ev : Evaluator) (c : Context) (fuel : Nat) (f : FrameId) :
    Operator → Value → Machine → Value → Machine → Prop
  | argument {op : Operator} {args sub : Value} {m m₁ : Machine} :
      op.evaluatesArguments = true → Element ev c f args m sub m₁ →
      Operand ev c fuel f op args m sub m₁
  | progn {body sub : Value} {m m₁ : Machine} :
      Element ev c f body m sub m₁ → Operand ev c fuel f .progn body m sub m₁
  | condition {condition consequence alternative : Value} {l loc : Location} {m : Machine} :
      Operand ev c fuel f .branch (.cell condition (.cell consequence alternative l) loc) m
        condition m
  | consequence {condition consequence alternative test : Value} {l loc : Location}
      {m m' : Machine} :
      ev f condition c m = .ok test m' → test.isTruth = true →
      Operand ev c fuel f .branch (.cell condition (.cell consequence alternative l) loc) m
        consequence m'
  | alternative {condition consequence alternative test sub : Value} {l loc : Location}
      {m m' m₁ : Machine} :
      ev f condition c m = .ok test m' → test.isTruth = false →
      Element ev c f alternative m' sub m₁ →
      Operand ev c fuel f .branch (.cell condition (.cell consequence alternative l) loc) m sub m₁
  | round {condition body sub : Value} {loc : Location} {m m₁ : Machine} :
      Round ev c f condition body fuel m sub m₁ →
      Operand ev c fuel f .loop (.cell condition body loc) m sub m₁
  | target {target expr : Value} {l l' loc : Location} {m : Machine} :
      Operand ev c fuel f .set (.cell target (.cell expr (.nil l') l) loc) m target m
  | value {target expr : Value} {name : String} {symbolLoc l l' loc : Location} {m m' : Machine} :
      ev f target c m = .ok (.symbol name symbolLoc) m' →
      Operand ev c fuel f .set (.cell target (.cell expr (.nil l') l) loc) m expr m'
  | valueOfQuoted {expr : Value} {name : String} {symbolLoc l l' loc : Location} {m : Machine} :
      Operand ev c fuel f .setq
        (.cell (.symbol name symbolLoc) (.cell expr (.nil l') l) loc) m expr m
  | first {first rest : Value} {l l' loc : Location} {m : Machine} :
      Operand ev c fuel f .cons (.cell first (.cell rest (.nil l') l) loc) m first m
  | rest {first rest v : Value} {l l' loc : Location} {m m' : Machine} :
      ev f first c m = .ok v m' →
      Operand ev c fuel f .cons (.cell first (.cell rest (.nil l') l) loc) m rest m'
  | car {expr : Value} {l loc : Location} {m : Machine} :
      Operand ev c fuel f .car (.cell expr (.nil l) loc) m expr m
  | cdr {expr : Value} {l loc : Location} {m : Machine} :
      Operand ev c fuel f .cdr (.cell expr (.nil l) loc) m expr m

/-- Evaluating an expression in a frame, from a machine on, comes to a sub-expression, in a frame
and with a machine of its own, and without an error so far. The number is that of the newlines
which are written if it ends in an error.

* `head`: the head of a call;
* `operand`: a part of the arguments of a native operator;
* `argument`, `functionBody`: an argument of a function, and an element of its body;
* `expanderBody`, `expansion`: an element of the body of an expander, and the code it produced. -/
inductive Reaches (ev : Evaluator) (c : Context) (fuel : Nat) (f : FrameId) :
    Value → Machine → FrameId → Value → Machine → Nat → Prop
  | head {first args : Value} {loc : Location} {m : Machine} :
      Reaches ev c fuel f (.cell first args loc) m f first m 0
  | operand {first args sub : Value} {loc : Location} {op : Operator} {identity : Identity}
      {m m' m₁ : Machine} :
      ev f first c m = .ok (.native op identity) m' → Operand ev c fuel f op args m' sub m₁ →
      Reaches ev c fuel f (.cell first args loc) m f sub m₁ op.newlines
  | argument {first args params body sub : Value} {loc l : Location} {outer : FrameId}
      {identity : Identity} {m m' m₁ : Machine} :
      ev f first c m = .ok (.closure .function params body outer l identity) m' →
      Element ev c f args m' sub m₁ →
      Reaches ev c fuel f (.cell first args loc) m f sub m₁ 0
  | functionBody {first args params body sub : Value} {loc l : Location} {outer inner : FrameId}
      {identity : Identity} {values : List Value} {m m' m'' m₀ m₁ : Machine} :
      ev f first c m = .ok (.closure .function params body outer l identity) m' →
      evalArguments ev f args c m' = .ok values m'' →
      bindArguments .function params outer values loc c m'' = .ok inner m₀ →
      Element ev c inner body m₀ sub m₁ →
      Reaches ev c fuel f (.cell first args loc) m inner sub m₁ 0
  | expanderBody {first args params body sub : Value} {loc l : Location} {outer inner : FrameId}
      {identity : Identity} {m m' m₀ m₁ : Machine} :
      ev f first c m = .ok (.closure .expander params body outer l identity) m' →
      args.isList = true →
      bindArguments .expander params outer args.items loc c m' = .ok inner m₀ →
      Element ev c inner body m₀ sub m₁ →
      Reaches ev c fuel f (.cell first args loc) m inner sub m₁ 0
  | expansion {first args params body code : Value} {loc l : Location} {outer inner : FrameId}
      {identity : Identity} {m m' m₀ m₁ : Machine} :
      ev f first c m = .ok (.closure .expander params body outer l identity) m' →
      args.isList = true →
      bindArguments .expander params outer args.items loc c m' = .ok inner m₀ →
      evalBody ev inner body c m₀ = .ok code m₁ →
      Reaches ev c fuel f (.cell first args loc) m f code m₁ 0

variable {ev ev' : Evaluator} {c : Context} {fuel rounds n : Nat} {f g : FrameId}
  {m m₁ m₂ : Machine} {e : ErrorValue} {args sub expr : Value} {op : Operator}

/-! ## No other sub-expression is evaluated -/

theorem bind_congr_at {α β : Type} {x x' : Eval α} {k k' : α → Eval β} (first : x' c m = x c m)
    (later : ∀ a m', x c m = .ok a m' → k' a c m' = k a c m') :
    (x' >>= k') c m = (x >>= k) c m := by
  rw [bind_apply, bind_apply, first]
  cases ended : x c m with
  | ok a m' => exact later a m' ended
  | error | fault | exhausted => rfl

theorem evalArguments_congr {list : Value}
    (agree : ∀ sub m₁, Element ev c f list m sub m₁ → ev' f sub c m₁ = ev f sub c m₁) :
    evalArguments ev' f list c m = evalArguments ev f list c m := by
  induction list generalizing m with
  | cell first rest loc _ ih =>
    refine bind_congr_at (agree first m .here) fun v m' ended => ?_
    exact bind_congr_at (ih fun sub m₁ elem => agree sub m₁ (.later ended elem)) fun _ _ _ => rfl
  | _ => rfl

theorem evalBody_congr {body : Value}
    (agree : ∀ sub m₁, Element ev c f body m sub m₁ → ev' f sub c m₁ = ev f sub c m₁) :
    evalBody ev' f body c m = evalBody ev f body c m := by
  induction body generalizing m with
  | cell first rest loc _ ih =>
    have here := agree first m .here
    cases rest with
    | cell =>
      refine bind_congr_at here fun v m' ended => ?_
      exact ih fun sub m₁ elem => agree sub m₁ (.later ended elem)
    | nil => exact here
    | _ => exact bind_congr_at here fun _ _ _ => rfl
  | _ => rfl

theorem repeatWhile_congr {condition body : Value} {last : Value}
    (agree : ∀ sub m₁, Round ev c f condition body rounds m sub m₁ →
      ev' f sub c m₁ = ev f sub c m₁) :
    repeatWhile ev' f condition body rounds last c m =
      repeatWhile ev f condition body rounds last c m := by
  induction rounds generalizing m last with
  | zero => rfl
  | succ rounds ih =>
    refine bind_congr_at (agree condition m .condition) fun test m' tested => ?_
    by_cases holds : test.isTruth = true
    · rw [if_pos holds, if_pos holds]
      refine bind_congr_at (evalBody_congr fun sub m₁ elem =>
        agree sub m₁ (.body tested holds elem)) fun v m'' ended => ?_
      exact ih fun sub m₁ round => agree sub m₁ (.again tested holds ended round)
    · rw [if_neg holds, if_neg holds]

theorem branch_congr
    (agree : ∀ sub m₁, Operand ev c fuel f .branch args m sub m₁ →
      ev' f sub c m₁ = ev f sub c m₁) :
    branch ev' f args c m = branch ev f args c m := by
  unfold branch
  split
  · refine bind_congr_at (agree _ m .condition) fun test m' tested => ?_
    by_cases holds : test.isTruth = true
    · rw [if_pos holds, if_pos holds]
      exact agree _ m' (.consequence tested holds)
    · rw [if_neg holds, if_neg holds]
      split
      · rfl
      · exact evalBody_congr fun sub m₁ elem =>
          agree sub m₁ (.alternative tested (Bool.eq_false_iff.mpr holds) elem)
  · rfl

theorem assignTarget_congr {target : Value} {loc : Location}
    (agree : target.isSymbol = true → ev' f expr c m = ev f expr c m) :
    assignTarget ev' f target loc expr c m = assignTarget ev f target loc expr c m := by
  cases target with
  | symbol name symbolLoc =>
    show assignTo ev' f _ _ expr c m = assignTo ev f _ _ expr c m
    exact bind_congr_at (agree rfl) fun _ _ _ => rfl
  | _ => rfl

theorem oneArgument_cases {operator : String} {a : Value}
    (taken : oneArgument operator args c m = .ok a m₁) :
    m₁ = m ∧ ∃ l loc, args = .cell a (.nil l) loc := by
  unfold oneArgument at taken
  split at taken
  · cases taken
    exact ⟨rfl, _, _, rfl⟩
  · cases taken

theorem twoArguments_cases {operator : String} {pair : Value × Value}
    (taken : twoArguments operator args c m = .ok pair m₁) :
    m₁ = m ∧ ∃ l' l loc, args = .cell pair.1 (.cell pair.2 (.nil l') l) loc := by
  unfold twoArguments at taken
  split at taken
  · cases taken
    exact ⟨rfl, _, _, _, rfl⟩
  · cases taken

theorem settle_cases {v w : Value} (settled : settle v c m = .ok w m₁) : w = v ∧ m₁ = m := by
  cases v with
  | error => cases settled
  | _ =>
    cases settled
    exact ⟨rfl, rfl⟩

theorem eq_symbol_of_isSymbol {v : Value} (symbol : v.isSymbol = true) :
    ∃ name loc, v = .symbol name loc := by
  cases v with
  | symbol name loc => exact ⟨name, loc, rfl⟩
  | _ => cases symbol

theorem evalCell_congr {operator : String} (agree : ∀ expr l loc, args = .cell expr (.nil l) loc →
      ev' f expr c m = ev f expr c m) :
    evalCell ev' operator f args c m = evalCell ev operator f args c m := by
  refine bind_congr_at rfl fun expr m' taken => ?_
  obtain ⟨rfl, l, loc, rfl⟩ := oneArgument_cases taken
  exact bind_congr_at (agree expr l loc rfl) fun _ _ _ => rfl

theorem operate_congr
    (agree : ∀ sub m₁, Operand ev c fuel f op args m sub m₁ → ev' f sub c m₁ = ev f sub c m₁) :
    operate ev' fuel f op args c m = operate ev fuel f op args c m := by
  have arguments (evaluates : op.evaluatesArguments = true) :
      evalArguments ev' f args c m = evalArguments ev f args c m :=
    evalArguments_congr fun sub m₁ elem => agree sub m₁ (.argument evaluates elem)
  have integers (evaluates : op.evaluatesArguments = true) (operator : String) :
      evalIntegers ev' operator f args c m = evalIntegers ev operator f args c m :=
    bind_congr_at (arguments evaluates) fun _ _ _ => rfl
  have printed (evaluates : op.evaluatesArguments = true) :
      print ev' f args c m = print ev f args c m :=
    bind_congr_at (arguments evaluates) fun _ _ _ => rfl
  cases op with
  | progn => exact evalBody_congr fun sub m₁ elem => agree sub m₁ (.progn elem)
  | makeExpander | quote | fn => rfl
  | loop =>
    show loop ev' fuel f args c m = loop ev fuel f args c m
    unfold loop
    split
    · exact repeatWhile_congr fun sub m₁ round => agree sub m₁ (.round round)
    · rfl
  | setq =>
    refine bind_congr_at rfl fun pair m' taken => bind_congr_at rfl fun target m'' settled => ?_
    obtain ⟨rfl, l', l, loc, rfl⟩ := twoArguments_cases taken
    obtain ⟨rfl, rfl⟩ := settle_cases settled
    refine assignTarget_congr fun symbol => ?_
    obtain ⟨name, symbolLoc, eq⟩ := eq_symbol_of_isSymbol symbol
    exact agree _ m'' (by rw [eq]; exact .valueOfQuoted)
  | set =>
    refine bind_congr_at rfl fun pair m' taken => ?_
    obtain ⟨rfl, l', l, loc, rfl⟩ := twoArguments_cases taken
    refine bind_congr_at (agree _ _ .target) fun target m'' ended => ?_
    refine assignTarget_congr fun symbol => ?_
    obtain ⟨name, symbolLoc, rfl⟩ := eq_symbol_of_isSymbol symbol
    exact agree _ _ (.value ended)
  | branch => exact branch_congr agree
  | println =>
    refine bind_congr_at ?_ fun _ _ _ => rfl
    unfold catchError
    rw [printed rfl]
  | print => exact printed rfl
  | cons =>
    refine bind_congr_at rfl fun pair m' taken => ?_
    obtain ⟨rfl, l', l, loc, rfl⟩ := twoArguments_cases taken
    refine bind_congr_at (agree _ _ .first) fun v m'' ended => ?_
    exact bind_congr_at (agree _ _ (.rest ended)) fun _ _ _ => rfl
  | car =>
    refine bind_congr_at (evalCell_congr fun expr l loc eq => ?_) fun _ _ _ => rfl
    subst eq
    exact agree expr m .car
  | cdr =>
    refine bind_congr_at (evalCell_congr fun expr l loc eq => ?_) fun _ _ _ => rfl
    subst eq
    exact agree expr m .cdr
  | fold operation => exact bind_congr_at (integers rfl operation.name) fun _ _ _ => rfl
  | equal => exact bind_congr_at (integers rfl "=") fun _ _ _ => rfl
  | less => exact bind_congr_at (integers rfl "<") fun _ _ _ => rfl

/-- Two evaluators of sub-expressions evaluate an expression alike, if they agree on the
sub-expressions that the evaluation comes to. -/
theorem evalStep_congr
    (agree : ∀ g sub m₁ n, Reaches ev c fuel f expr m g sub m₁ n →
      ev' g sub c m₁ = ev g sub c m₁) :
    evalStep ev' fuel f expr c m = evalStep ev fuel f expr c m := by
  cases expr with
  | cell first args loc =>
    refine bind_congr_at (agree f first m 0 .head) fun head m' headed => ?_
    cases head with
    | native op identity =>
      exact operate_congr fun sub m₁ operand => agree f sub m₁ _ (.operand headed operand)
    | closure sort params body outer l identity =>
      cases sort with
      | function =>
        refine bind_congr_at (evalArguments_congr fun sub m₁ elem =>
          agree f sub m₁ 0 (.argument headed elem)) fun values m'' evaluated => ?_
        refine bind_congr_at rfl fun inner m₀ bound => ?_
        exact evalBody_congr fun sub m₁ elem =>
          agree inner sub m₁ 0 (.functionBody headed evaluated bound elem)
      | expander =>
        show call ev' f .expander params body outer args loc c m' =
          call ev f .expander params body outer args loc c m'
        unfold call
        dsimp only
        by_cases proper : args.isList = true
        · rw [if_pos proper, if_pos proper]
          refine bind_congr_at rfl fun inner m₀ bound => ?_
          have body := evalBody_congr fun sub m₁ elem =>
            agree inner sub m₁ 0 (.expanderBody headed proper bound elem)
          refine bind_congr_at body fun code m₁ produced => ?_
          exact agree f code m₁ 0 (.expansion headed proper bound produced)
        · rw [if_neg proper, if_neg proper]
    | _ => rfl
  | _ => rfl

/-! ## An error of a sub-expression is the error of the whole -/

namespace Element

theorem evalArguments_error {list : Value} (elem : Element ev c f list m sub m₁)
    (failed : ev f sub c m₁ = .error e m₂) : evalArguments ev f list c m = .error e m₂ := by
  induction elem with
  | here => exact error_of_bind failed
  | later ended _ ih => exact (bind_of_ok ended).trans (error_of_bind (ih failed))

theorem evalList_error {list : Value} (elem : Element ev c f list m sub m₁)
    (failed : ev f sub c m₁ = .error e m₂) : evalList ev f list c m = .error e m₂ :=
  error_of_bind (elem.evalArguments_error failed)

theorem evalBody_error {body : Value} (elem : Element ev c f body m sub m₁)
    (failed : ev f sub c m₁ = .error e m₂) : evalBody ev f body c m = .error e m₂ := by
  induction elem with
  | @here first rest loc m =>
    cases rest with
    | nil => exact failed
    | _ => exact error_of_bind failed
  | later ended elem ih =>
    cases elem with
    | here | later => exact (bind_of_ok ended).trans (ih failed)

end Element

theorem Round.error {condition body last : Value}
    (round : Round ev c f condition body rounds m sub m₁)
    (failed : ev f sub c m₁ = .error e m₂) :
    repeatWhile ev f condition body rounds last c m = .error e m₂ := by
  induction round generalizing last with
  | condition => exact error_of_bind failed
  | body tested holds elem =>
    refine (bind_of_ok tested).trans ?_
    rw [if_pos holds]
    exact error_of_bind (elem.evalBody_error failed)
  | again tested holds ended _ ih =>
    refine (bind_of_ok tested).trans ?_
    rw [if_pos holds]
    exact (bind_of_ok ended).trans (ih failed)

theorem oneArgument_apply (operator : String) (a : Value) (l loc : Location) (c : Context)
    (m : Machine) : oneArgument operator (.cell a (.nil l) loc) c m = .ok a m := rfl

theorem twoArguments_apply (operator : String) (a b : Value) (l' l loc : Location) (c : Context)
    (m : Machine) :
    twoArguments operator (.cell a (.cell b (.nil l') l) loc) c m = .ok (a, b) m := rfl

theorem assignTarget_error {name : String} {symbolLoc loc : Location}
    (failed : ev f expr c m = .error e m₂) :
    assignTarget ev f (.symbol name symbolLoc) loc expr c m = .error e m₂ := by
  have found : find f name c m = .ok (m.store.find? f (some name)) m := rfl
  exact (bind_of_ok found).trans (error_of_bind failed)

/-- The machine after the newline that `println` writes after an error. If the write fails, the
error that this makes is dropped. -/
def newlined (c : Context) (m : Machine) : Machine :=
  match c.sink m.writes "\n" with
  | none => { m with out := m.out ++ "\n", writes := m.writes + 1 }
  | some _ => { m with serial := m.serial + 1, writes := m.writes + 1 }

theorem catchError_writeNewline (loc : Location) (c : Context) (m : Machine) :
    ∃ result, catchError (writeNewline loc) c m = .ok result (newlined c m) := by
  unfold catchError writeNewline write newlined
  rw [bind_apply]
  unfold attempt
  cases c.sink m.writes "\n" with
  | none => exact ⟨_, rfl⟩
  | some reason => exact ⟨_, rfl⟩

theorem println_error (failed : print ev f args c m = .error e m₂) :
    println ev f args c m = .error e (newlined c m₂) := by
  unfold println andAfter
  have caught : catchError (print ev f args) c m = .ok (.error e) m₂ := by
    unfold catchError
    rw [failed]
  refine (bind_of_ok caught).trans ?_
  obtain ⟨result, written⟩ := catchError_writeNewline args.loc c m₂
  exact (bind_of_ok written).trans rfl

theorem Operand.error (operand : Operand ev c fuel f op args m sub m₁)
    (failed : ev f sub c m₁ = .error e m₂) :
    operate ev fuel f op args c m = .error e ((newlined c)^[op.newlines] m₂) := by
  cases operand with
  | argument evaluates elem =>
    have arguments := elem.evalArguments_error failed
    have integers (operator : String) : evalIntegers ev operator f args c m = .error e m₂ :=
      error_of_bind arguments
    cases op with
    | println => exact println_error (error_of_bind arguments)
    | print => exact error_of_bind arguments
    | fold operation => exact error_of_bind (integers operation.name)
    | equal => exact error_of_bind (integers "=")
    | less => exact error_of_bind (integers "<")
    | _ => cases evaluates
  | progn elem => exact elem.evalBody_error failed
  | condition => exact error_of_bind failed
  | consequence tested holds =>
    refine (bind_of_ok tested).trans ?_
    rw [if_pos holds]
    exact failed
  | alternative tested fails elem =>
    refine (bind_of_ok tested).trans ?_
    rw [fails]
    have ended := elem.evalBody_error failed
    cases elem with
    | here | later => exact ended
  | round round => exact round.error failed
  | target => exact (bind_of_ok (twoArguments_apply ..)).trans (error_of_bind failed)
  | value ended =>
    refine (bind_of_ok (twoArguments_apply ..)).trans ((bind_of_ok ended).trans ?_)
    exact assignTarget_error failed
  | @valueOfQuoted _ name symbolLoc _ _ _ m =>
    have settled : settle (.symbol name symbolLoc) c m = .ok (.symbol name symbolLoc) m := rfl
    refine (bind_of_ok (twoArguments_apply ..)).trans ((bind_of_ok settled).trans ?_)
    exact assignTarget_error failed
  | first => exact (bind_of_ok (twoArguments_apply ..)).trans (error_of_bind failed)
  | rest ended =>
    refine (bind_of_ok (twoArguments_apply ..)).trans ((bind_of_ok ended).trans ?_)
    exact error_of_bind failed
  | car | cdr =>
    exact error_of_bind ((bind_of_ok (oneArgument_apply ..)).trans (error_of_bind failed))

/-- The error of a sub-expression that an evaluation comes to is the error of the whole, and nothing
happens after it but the newline of `println`. -/
theorem Reaches.error (reaches : Reaches ev c fuel f expr m g sub m₁ n)
    (failed : ev g sub c m₁ = .error e m₂) :
    evalStep ev fuel f expr c m = .error e ((newlined c)^[n] m₂) := by
  cases reaches with
  | head => exact error_of_bind failed
  | operand headed operand => exact (bind_of_ok headed).trans (operand.error failed)
  | argument headed elem =>
    exact (bind_of_ok headed).trans (error_of_bind (elem.evalArguments_error failed))
  | functionBody headed evaluated bound elem =>
    refine (bind_of_ok headed).trans ((bind_of_ok evaluated).trans ((bind_of_ok bound).trans ?_))
    exact elem.evalBody_error failed
  | expanderBody headed proper bound elem =>
    refine (bind_of_ok headed).trans ?_
    show call _ _ .expander _ _ _ _ _ c _ = _
    unfold call
    dsimp only
    rw [if_pos proper]
    exact (bind_of_ok bound).trans (error_of_bind (elem.evalBody_error failed))
  | expansion headed proper bound produced =>
    refine (bind_of_ok headed).trans ?_
    show call _ _ .expander _ _ _ _ _ c _ = _
    unfold call
    dsimp only
    rw [if_pos proper]
    exact (bind_of_ok bound).trans ((bind_of_ok produced).trans failed)

/-! ## Any depth -/

/-- Evaluating an expression comes to a sub-expression of a sub-expression, and so on, at any depth.
-/
inductive Within (c : Context) : Nat → FrameId → Value → Machine →
    Nat → FrameId → Value → Machine → Nat → Prop
  | self {fuel : Nat} {f : FrameId} {expr : Value} {m : Machine} :
      Within c fuel f expr m fuel f expr m 0
  | inside {fuel fuel' k n : Nat} {f g h : FrameId} {expr sub leaf : Value} {m m' m₁ : Machine} :
      Reaches (evaluate fuel) c fuel f expr m g sub m' k →
      Within c fuel g sub m' fuel' h leaf m₁ n →
      Within c (fuel + 1) f expr m fuel' h leaf m₁ (k + n)

theorem Within.error {fuel' : Nat} (within : Within c fuel f expr m fuel' g sub m₁ n)
    (failed : evaluate fuel' g sub c m₁ = .error e m₂) :
    evaluate fuel f expr c m = .error e ((newlined c)^[n] m₂) := by
  induction within with
  | self => exact failed
  | inside reaches _ ih =>
    rw [Function.iterate_add_apply]
    exact reaches.error (ih failed)

/-- Newlines change nothing but what is written to standard output. -/
theorem iterate_newlined (c : Context) (n : Nat) (m : Machine) :
    ((newlined c)^[n] m).store = m.store ∧ ((newlined c)^[n] m).err = m.err ∧
      ∃ k ≤ n, ((newlined c)^[n] m).out = m.out ++ String.join (List.replicate k "\n") := by
  induction n with
  | zero => exact ⟨rfl, rfl, 0, Nat.le_refl 0, by simp⟩
  | succ n ih =>
    obtain ⟨store, err, k, le, out⟩ := ih
    rw [Function.iterate_succ_apply']
    unfold newlined
    split
    · refine ⟨store, err, k + 1, Nat.succ_le_succ le, ?_⟩
      show ((newlined c)^[n] m).out ++ "\n" = _
      rw [out, List.replicate_succ', String.join_append]
      simp [String.append_assoc]
    · exact ⟨store, err, k, Nat.le_succ_of_le le, out⟩

theorem evalForms_error {root : FrameId} {last v form : Value} {before after : List Value}
    (ended : evalForms ev root last before c m = .ok v m₁)
    (failed : ev root form c m₁ = .error e m₂) :
    evalForms ev root last (before ++ form :: after) c m = .error e m₂ := by
  rw [evalForms_append]
  exact (bind_of_ok ended).trans (error_of_bind failed)

/-- The first error that an evaluation comes to is what it ends in, and nothing happens after that.

* It is the error of the list or the body that it is reached from, and of every expression, at any
  depth. The store is that of the moment, and so is the output up to the newline of each `println`
  around it.
* The sub-expressions that an evaluation does not come to, those after the error among them, make
  no difference: with any other evaluator of them the outcome is the same.
* It is the error of the text, and the later forms are not evaluated. If diagnostics are wanted, one
  is written. -/
theorem first_error_wins (c : Context) (fuel : Nat) :
    (∀ f list m sub m₁ e m₂, Element (evaluate fuel) c f list m sub m₁ →
      evaluate fuel f sub c m₁ = .error e m₂ →
      evalList (evaluate fuel) f list c m = .error e m₂ ∧
        evalBody (evaluate fuel) f list c m = .error e m₂) ∧
    (∀ f expr m g sub m₁ n e m₂, Reaches (evaluate fuel) c fuel f expr m g sub m₁ n →
      evaluate fuel g sub c m₁ = .error e m₂ →
      evaluate (fuel + 1) f expr c m = .error e ((newlined c)^[n] m₂)) ∧
    (∀ f expr m fuel' g sub m₁ n e m₂, Within c fuel f expr m fuel' g sub m₁ n →
      evaluate fuel' g sub c m₁ = .error e m₂ →
      evaluate fuel f expr c m = .error e ((newlined c)^[n] m₂)) ∧
    (∀ n m, ((newlined c)^[n] m).store = m.store ∧ ((newlined c)^[n] m).err = m.err ∧
      ∃ k ≤ n, ((newlined c)^[n] m).out = m.out ++ String.join (List.replicate k "\n")) ∧
    (∀ ev f expr m, (∀ g sub m₁ n, Reaches (evaluate fuel) c fuel f expr m g sub m₁ n →
        ev g sub c m₁ = evaluate fuel g sub c m₁) →
      evalStep ev fuel f expr c m = evaluate (fuel + 1) f expr c m) ∧
    ∀ root text source before form after m v m₁ e m₂,
      (readText c.settings.readingWidth text source 1).forms = before ++ form :: after →
      evalForms (evaluate fuel) root (.nil .unknown) before c m = .ok v m₁ →
      evaluate fuel root form c m₁ = .error e m₂ →
      evalText (evaluate fuel) root text source c m = .error e
        (noted c interpreterLog ("evaluation of " ++ source ++ " stopped: " ++ e.message) m₂) := by
  refine ⟨fun _ _ _ _ _ _ _ elem failed => ⟨elem.evalList_error failed, elem.evalBody_error failed⟩,
    fun _ _ _ _ _ _ _ _ _ reaches => reaches.error,
    fun _ _ _ _ _ _ _ _ _ _ within => within.error, iterate_newlined c,
    fun _ _ _ _ agree => evalStep_congr agree, ?_⟩
  intro root text source before form after m v m₁ e m₂ forms ended failed
  unfold evalText
  rw [evalTextFrom_apply, forms, evalForms_error ended failed]

/-- The call `(car 5)`, with the operator itself in place of its name. -/
def carOfFive : Value :=
  .ofItems (.nil .unknown) [.native .car 0, .integer 5 .unknown]

/-- The call `(+ 2 (car 5))`. -/
def sumWithError : Value :=
  .ofItems (.nil .unknown) [.native (.fold .add) 1, .integer 2 .unknown, carOfFive]

/-- The call `(println 1 (+ 2 (car 5)) (print 3))`. -/
def lineWithError : Value :=
  let print : Value := .ofItems (.nil .unknown) [.native .print 2, .integer 3 .unknown]
  .ofItems (.nil .unknown) [.native .println 3, .integer 1 .unknown, sumWithError, print]

/-- The error of `car` is the error of the line. Nothing is written but the newline. -/
theorem lineWithError_error :
    ∃ e m₂, evaluate 3 0 carOfFive (.ofSettings .unset) .initial = .error e m₂ ∧
      evaluate 5 0 lineWithError (.ofSettings .unset) .initial =
        .error e { m₂ with out := "\n", writes := 1 } := by
  refine ⟨_, _, rfl, ?_⟩
  have outer : Reaches (evaluate 4) (.ofSettings .unset) 4 0 lineWithError .initial 0
      sumWithError .initial Operator.println.newlines :=
    .operand rfl (.argument rfl (.later rfl .here))
  have inner : Reaches (evaluate 3) (.ofSettings .unset) 3 0 sumWithError .initial 0
      carOfFive .initial (Operator.fold .add).newlines :=
    .operand rfl (.argument rfl (.later rfl .here))
  exact (first_error_wins (.ofSettings .unset) 5).2.2.1 _ _ _ _ _ _ _ _ _ _
    (.inside outer (.inside inner .self)) rfl

end Eval

end MiniLisp
