import MiniLisp.Proofs.Coupling

/-!
# Evaluation runs in lockstep

Expressions that are alike, evaluated in a shared frame, end alike: the evaluator looks at shared
frames only, and at no location. The proof has one lemma for each operator, over an arbitrary
evaluator of sub-expressions for which this is so (`Coupling.Agrees`); for the evaluator itself it
follows by induction on the fuel (`Coupling.agrees_evaluate`).
-/

namespace MiniLisp.Coupling

open Eval

variable {α : Type} {p : Coupling} {c : Context} {ev : Evaluator} {f : FrameId}
  {args args' : Value} {l l' : Location}

/-- In a shared frame the evaluator ends alike on expressions that are alike. -/
def Agrees (p : Coupling) (c : Context) (ev : Evaluator) : Prop :=
  ∀ {f : FrameId} {expr expr' : Value}, p.shared f → p.Like expr expr' →
    p.Lockstep c p.Like (ev f expr) (ev f expr')

/-! ### Sequencing -/

section Sequencing

variable (agrees : p.Agrees c ev) (shared : p.shared f) (alike : p.Like args args')
include agrees shared alike

theorem Agrees.evalArguments : p.Lockstep c (List.Forall₂ p.Like) (evalArguments ev f args)
    (evalArguments ev f args') := by
  induction args generalizing args' with
  | cell first rest loc _ ih =>
    cases alike with
    | cell first rest loc =>
      unfold Eval.evalArguments
      apply (agrees shared first).bind
      intro v v' likeV
      apply (ih rest).bind
      intro vs vs' likeVs
      exact .pure (.cons likeV likeVs)
  | nil loc =>
    cases alike
    exact .pure .nil
  | _ =>
    have loc := alike.loc
    cases alike
    exact .raise .improperArguments loc

theorem Agrees.evalThen {expr expr' : Value} (alikeExpr : p.Like expr expr') :
    p.Lockstep c p.Like (evalThen ev f expr args) (evalThen ev f expr' args') := by
  induction args generalizing args' expr expr' with
  | cell first rest loc _ ih =>
    cases alike with
    | cell first rest loc =>
      unfold Eval.evalThen
      apply (agrees shared alikeExpr).bind
      intro _ _ _
      exact ih rest first
  | nil loc =>
    cases alike
    exact agrees shared alikeExpr
  | _ =>
    have loc := alike.loc
    cases alike
    apply (agrees shared alikeExpr).bind
    intro _ _ _
    exact .raise .improperBody loc

theorem Agrees.evalBody : p.Lockstep c p.Like (evalBody ev f args) (evalBody ev f args') := by
  have loc := alike.loc
  cases alike with
  | cell first rest _ => exact agrees.evalThen shared rest first
  | _ => exact .raise .emptyBody loc

omit agrees shared in
theorem lockstep_refuseArguments {R : α → α → Prop} (operator : String) (expected : Nat) :
    p.Lockstep c R (refuseArguments operator expected args)
      (refuseArguments operator expected args') := by
  unfold refuseArguments
  rw [alike.items.length_eq]
  exact .raise _ alike.loc

omit agrees shared in
theorem lockstep_oneArgument (operator : String) :
    p.Lockstep c p.Like (oneArgument operator args) (oneArgument operator args') := by
  have refused := lockstep_refuseArguments (c := c) (R := p.Like) alike operator 1
  cases alike with
  | cell a rest _ =>
    cases rest with
    | nil => exact .pure a
    | _ => exact refused
  | _ => exact refused

/-- Two pairs of values, alike in both halves. -/
def LikePairs (p : Coupling) (pair pair' : Value × Value) : Prop :=
  p.Like pair.1 pair'.1 ∧ p.Like pair.2 pair'.2

omit agrees shared in
theorem lockstep_twoArguments (operator : String) :
    p.Lockstep c p.LikePairs (twoArguments operator args) (twoArguments operator args') := by
  have refused := lockstep_refuseArguments (c := c) (R := p.LikePairs) alike operator 2
  cases alike with
  | cell a rest _ =>
    cases rest with
    | cell b tail _ =>
      cases tail with
      | nil => exact .pure ⟨a, b⟩
      | _ => exact refused
    | _ => exact refused
  | _ => exact refused

/-! ### Cells and quotation -/

omit agrees shared in
theorem lockstep_quote : p.Lockstep c p.Like (quote args) (quote args') := by
  apply (lockstep_oneArgument alike "quote").bind
  intro v v' likeV
  exact .settle likeV

theorem Agrees.cons : p.Lockstep c p.Like (cons ev f args) (cons ev f args') := by
  apply (lockstep_twoArguments alike "cons").bind
  rintro ⟨firstExpr, restExpr⟩ ⟨firstExpr', restExpr'⟩ ⟨likeFirst, likeRest⟩
  apply (agrees shared likeFirst).bind
  intro first first' likeFirst
  apply (agrees shared likeRest).bind
  intro rest rest' likeRest
  exact .pure (.cell likeFirst likeRest alike.loc)

theorem Agrees.evalCell (operator : String) :
    p.Lockstep c p.LikePairs (evalCell ev operator f args) (evalCell ev operator f args') := by
  apply (lockstep_oneArgument alike operator).bind
  intro expr expr' likeExpr
  apply (agrees shared likeExpr).bind
  intro v v' likeV
  have refused := Lockstep.raiseKind (c := c) (R := p.LikePairs) (.notCell operator) likeV
    likeExpr.loc
  cases likeV with
  | cell first rest _ => exact .pure ⟨first, rest⟩
  | _ => exact refused

theorem Agrees.car : p.Lockstep c p.Like (car ev f args) (car ev f args') := by
  apply (agrees.evalCell shared alike "car").bind
  rintro ⟨first, rest⟩ ⟨first', rest'⟩ ⟨likeFirst, _⟩
  exact .settle likeFirst

theorem Agrees.cdr : p.Lockstep c p.Like (cdr ev f args) (cdr ev f args') := by
  apply (agrees.evalCell shared alike "cdr").bind
  rintro ⟨first, rest⟩ ⟨first', rest'⟩ ⟨_, likeRest⟩
  exact .settle likeRest

/-! ### Arithmetic -/

omit agrees shared alike in
theorem lockstep_integers (operator : String) {vs vs' : List Value}
    (alike : List.Forall₂ p.Like vs vs') :
    p.Lockstep c (fun is is' => is' = is) (integers operator vs) (integers operator vs') := by
  induction alike with
  | nil => exact .pure rfl
  | cons likeV _ ih =>
    have refused := Lockstep.raiseKind (c := c) (R := fun is is' : List Int => is' = is)
      (.notNumeric operator) likeV likeV.loc
    cases likeV with
    | integer i _ =>
      unfold integers
      apply ih.bind
      rintro _ is rfl
      exact .pure rfl
    | _ => exact refused

theorem Agrees.evalIntegers (operator : String) : p.Lockstep c (fun is is' => is' = is)
    (evalIntegers ev operator f args) (evalIntegers ev operator f args') := by
  apply (agrees.evalArguments shared alike).bind
  intro values values' likeValues
  exact lockstep_integers operator likeValues

omit agrees shared alike in
theorem lockstep_joinAll (operation : Fold) (loc : p.located l l') (acc : Int) (is : List Int) :
    p.Lockstep c (fun i i' => i' = i) (joinAll operation l acc is)
      (joinAll operation l' acc is) := by
  induction is generalizing acc with
  | nil => exact .pure rfl
  | cons i is ih =>
    unfold joinAll
    split
    · exact .raise .divisionByZero loc
    · apply (Lockstep.join operation acc i).bind
      rintro _ joined rfl
      apply Lockstep.width.bind
      rintro _ bits rfl
      exact ih (Width.wrap bits joined)

theorem Agrees.fold (operation : Fold) :
    p.Lockstep c p.Like (fold ev operation f args) (fold ev operation f args') := by
  apply (agrees.evalIntegers shared alike operation.name).bind
  rintro _ is rfl
  cases is with
  | nil => exact .pure (.integer 0 alike.loc)
  | cons i is =>
    apply (lockstep_joinAll operation alike.loc i is).bind
    rintro _ result rfl
    exact .pure (.integer result alike.loc)

omit agrees shared alike in
theorem like_verdict (holds : Bool) (loc : p.located l l') :
    p.Like (verdict holds l) (verdict holds l') := by
  cases holds with
  | false => exact .nil loc
  | true => exact .truth loc

theorem Agrees.equal : p.Lockstep c p.Like (equal ev f args) (equal ev f args') := by
  apply (agrees.evalIntegers shared alike "=").bind
  rintro _ is rfl
  exact .pure (like_verdict _ alike.loc)

theorem Agrees.less : p.Lockstep c p.Like (less ev f args) (less ev f args') := by
  apply (agrees.evalIntegers shared alike "<").bind
  rintro _ is rfl
  exact .pure (like_verdict _ alike.loc)

/-! ### Branches and loops -/

theorem Agrees.branch : p.Lockstep c p.Like (branch ev f args) (branch ev f args') := by
  have refused {l l' : Location} (loc : p.located l l') :
      p.Lockstep c p.Like (raise .missingBranch l) (raise .missingBranch l') := .raise _ loc
  have loc := alike.loc
  cases alike with
  | cell condition rest _ =>
    cases rest with
    | @cell _ _ alternative alternative' _ _ consequence likeAlternative _ =>
      apply (agrees shared condition).bind
      intro test test' likeTest
      rw [likeTest.isTruth_eq]
      split
      · exact agrees shared consequence
      · have body := agrees.evalBody shared likeAlternative
        cases likeAlternative with
        | nil => exact .pure (.nil loc)
        | _ => exact body
    | _ => exact refused loc
  | _ => exact refused loc

omit alike in
theorem Agrees.repeatWhile {condition condition' body body' last last' : Value}
    (likeCondition : p.Like condition condition') (likeBody : p.Like body body')
    (likeLast : p.Like last last') (fuel : Nat) :
    p.Lockstep c p.Like (repeatWhile ev f condition body fuel last)
      (repeatWhile ev f condition' body' fuel last') := by
  induction fuel generalizing last last' with
  | zero => exact .outOfFuel
  | succ fuel ih =>
    unfold Eval.repeatWhile
    apply (agrees shared likeCondition).bind
    intro test test' likeTest
    rw [likeTest.isTruth_eq]
    split
    · apply (agrees.evalBody shared likeBody).bind
      intro v v' likeV
      exact ih likeV
    · exact .pure likeLast

theorem Agrees.loop (fuel : Nat) :
    p.Lockstep c p.Like (loop ev fuel f args) (loop ev fuel f args') := by
  have loc := alike.loc
  cases alike with
  | cell condition body _ => exact agrees.repeatWhile shared condition body (.nil loc) fuel
  | _ => exact .raise .missingCondition loc

/-! ### Assignment -/

omit alike in
theorem Agrees.assignTarget {target target' expr expr' : Value} (likeTarget : p.Like target target')
    (loc : p.located l l') (likeExpr : p.Like expr expr') :
    p.Lockstep c p.Like (assignTarget ev f target l expr) (assignTarget ev f target' l' expr') := by
  have refused := Lockstep.raiseKind (c := c) (R := p.Like) .targetNotSymbol likeTarget loc
  cases likeTarget with
  | symbol name symbolLoc =>
    apply (Lockstep.find shared name).bind
    rintro _ slot ⟨rfl, sharedSlot⟩
    apply (agrees shared likeExpr).bind
    intro v v' likeV
    cases slot with
    | none => exact .bindSymbol shared (.symbol name symbolLoc) likeV
    | some slot => exact .assign (sharedSlot slot rfl) likeV
  | _ => exact refused

theorem Agrees.set : p.Lockstep c p.Like (set ev f args) (set ev f args') := by
  apply (lockstep_twoArguments alike "set").bind
  rintro ⟨targetExpr, expr⟩ ⟨targetExpr', expr'⟩ ⟨likeTargetExpr, likeExpr⟩
  apply (agrees shared likeTargetExpr).bind
  intro target target' likeTarget
  exact agrees.assignTarget shared likeTarget likeTargetExpr.loc likeExpr

theorem Agrees.setq : p.Lockstep c p.Like (setq ev f args) (setq ev f args') := by
  apply (lockstep_twoArguments alike "setq").bind
  rintro ⟨quoted, expr⟩ ⟨quoted', expr'⟩ ⟨likeQuoted, likeExpr⟩
  apply (Lockstep.settle likeQuoted).bind
  intro target target' likeTarget
  exact agrees.assignTarget shared likeTarget likeQuoted.loc likeExpr

/-! ### Printing -/

omit agrees shared alike in
theorem lockstep_writeValues {vs vs' : List Value} (alike : List.Forall₂ p.Like vs vs') :
    p.Lockstep c (fun _ _ => True) (writeValues vs) (writeValues vs') := by
  induction alike with
  | nil => exact .pure trivial
  | cons likeV _ ih =>
    unfold writeValues
    apply (Lockstep.writeValue likeV).bind
    intro _ _ _
    exact ih

theorem Agrees.print : p.Lockstep c p.Like (print ev f args) (print ev f args') := by
  apply (agrees.evalArguments shared alike).bind
  intro values values' likeValues
  apply (lockstep_writeValues likeValues).bind
  intro _ _ _
  exact .pure (.nil alike.loc)

theorem Agrees.println : p.Lockstep c p.Like (println ev f args) (println ev f args') :=
  (agrees.print shared alike).andAfter (.write "\n" alike.loc)

end Sequencing

/-! ### Closures -/

theorem like_find?_not_isSymbol {vs vs' : List Value} (alike : List.Forall₂ p.Like vs vs') :
    Option.Rel p.Like (vs.find? (!·.isSymbol)) (vs'.find? (!·.isSymbol)) := by
  induction alike with
  | nil => exact .none
  | cons likeV _ ih =>
    rw [List.find?_cons, List.find?_cons, likeV.isSymbol_eq]
    split
    · exact .some likeV
    · exact ih

theorem lockstep_makeClosure (sort : ClosureKind) (shared : p.shared f)
    {params params' body body' : Value} (likeParams : p.Like params params')
    (likeBody : p.Like body body') (loc : p.located l l') :
    p.Lockstep c p.Like (makeClosure sort f params body l)
      (makeClosure sort f params' body' l') := by
  unfold makeClosure
  rw [likeParams.isList_eq, likeBody.isList_eq]
  split
  · exact .raise .malformedDefinition loc
  · have offender := like_find?_not_isSymbol likeParams.items
    generalize params.items.find? (!·.isSymbol) = found,
      params'.items.find? (!·.isSymbol) = found' at offender
    cases offender with
    | some likeParam => exact .raiseKind .parameterNotSymbol likeParam likeParam.loc
    | none =>
      apply Lockstep.freshIdentity.bind
      rintro _ identity rfl
      exact .pure (.closure sort identity likeParams likeBody shared loc)

theorem lockstep_makeFunction (shared : p.shared f) (alike : p.Like args args') :
    p.Lockstep c p.Like (makeFunction f args) (makeFunction f args') := by
  have loc := alike.loc
  cases alike with
  | @cell first first' rest rest' _ _ likeFirst likeRest _ =>
    have unnamed := lockstep_makeClosure (c := c) .function shared likeFirst likeRest loc
    cases likeFirst with
    | symbol name symbolLoc =>
      cases likeRest with
      | cell params body bodyLoc =>
        apply (lockstep_makeClosure .function shared params body bodyLoc).bind
        intro v v' likeV
        exact .bindSymbol shared (.symbol name symbolLoc) likeV
      | _ => exact .raise .missingParameters loc
    | _ => exact unnamed
  | _ => exact .raise .missingParameters loc

theorem lockstep_makeExpander (shared : p.shared f) (alike : p.Like args args') :
    p.Lockstep c p.Like (makeExpander f args) (makeExpander f args') := by
  have loc := alike.loc
  cases alike with
  | cell params body _ => exact lockstep_makeClosure .expander shared params body loc
  | _ => exact .raise .missingParameters loc

/-- The frame of a call is new, and therefore shared. -/
theorem lockstep_bindArguments (sort : ClosureKind) {outer : FrameId} (shared : p.shared outer)
    {params params' : Value} (likeParams : p.Like params params') {values values' : List Value}
    (likeValues : List.Forall₂ p.Like values values') (loc : p.located l l') :
    p.Lockstep c (fun g g' => g' = g ∧ p.shared g) (bindArguments sort params outer values l)
      (bindArguments sort params' outer values' l') := by
  have symbols := likeParams.items.length_eq
  have supplied := likeValues.length_eq
  unfold bindArguments
  dsimp only
  rw [symbols, supplied]
  split
  · apply (Lockstep.newFrame shared).bind
    rintro _ inner ⟨rfl, sharedInner⟩
    apply (Lockstep.modifyStore fun s s' stores =>
      stores.bindAll sharedInner likeParams.items likeValues).bind
    intro _ _ _
    exact .pure ⟨rfl, sharedInner⟩
  · apply (Lockstep.printed likeParams).bind
    rintro _ text rfl
    exact .raise _ loc

theorem Agrees.call (agrees : p.Agrees c ev) (shared : p.shared f) (alike : p.Like args args')
    (sort : ClosureKind) {params params' body body' : Value} (likeParams : p.Like params params')
    (likeBody : p.Like body body') {outer : FrameId} (sharedOuter : p.shared outer)
    (loc : p.located l l') :
    p.Lockstep c p.Like (call ev f sort params body outer args l)
      (call ev f sort params' body' outer args' l') := by
  unfold Eval.call
  cases sort with
  | function =>
    apply (agrees.evalArguments shared alike).bind
    intro values values' likeValues
    apply (lockstep_bindArguments .function sharedOuter likeParams likeValues loc).bind
    rintro _ inner ⟨rfl, sharedInner⟩
    exact agrees.evalBody sharedInner likeBody
  | expander =>
    dsimp only
    rw [alike.isList_eq]
    split
    · apply (lockstep_bindArguments .expander sharedOuter likeParams alike.items loc).bind
      rintro _ inner ⟨rfl, sharedInner⟩
      apply (agrees.evalBody sharedInner likeBody).bind
      intro code code' likeCode
      exact agrees shared likeCode
    · exact .raise .improperArguments loc

/-! ### All operators -/

theorem Agrees.operate (agrees : p.Agrees c ev) (fuel : Nat) (shared : p.shared f) (op : Operator)
    (alike : p.Like args args') :
    p.Lockstep c p.Like (operate ev fuel f op args) (operate ev fuel f op args') := by
  cases op with
  | progn => exact agrees.evalBody shared alike
  | makeExpander => exact lockstep_makeExpander shared alike
  | loop => exact agrees.loop shared alike fuel
  | quote => exact lockstep_quote alike
  | setq => exact agrees.setq shared alike
  | set => exact agrees.set shared alike
  | fn => exact lockstep_makeFunction shared alike
  | branch => exact agrees.branch shared alike
  | println => exact agrees.println shared alike
  | print => exact agrees.print shared alike
  | cons => exact agrees.cons shared alike
  | car => exact agrees.car shared alike
  | cdr => exact agrees.cdr shared alike
  | fold operation => exact agrees.fold shared alike operation
  | equal => exact agrees.equal shared alike
  | less => exact agrees.less shared alike

/-! ## The evaluator -/

theorem lockstep_refuseCall {head head' form form' : Value} (likeHead : p.Like head head')
    (likeForm : p.Like form form') :
    p.Lockstep c p.Like (refuseCall head form) (refuseCall head' form') := by
  have loc := likeForm.loc
  cases likeForm with
  | cell operator _ _ =>
    apply (Lockstep.printed operator).bind
    rintro _ text rfl
    exact .raiseKind (.notCallable text) likeHead loc
  | _ => exact .abandon (.same .formWithoutHead)

theorem Agrees.apply (agrees : p.Agrees c ev) (fuel : Nat) (shared : p.shared f)
    {head head' form form' : Value} (likeHead : p.Like head head') (alike : p.Like args args')
    (likeForm : p.Like form form') :
    p.Lockstep c p.Like (apply ev fuel f head args form) (apply ev fuel f head' args' form') := by
  have refused := lockstep_refuseCall (c := c) likeHead likeForm
  cases likeHead with
  | native op _ => exact agrees.operate fuel shared op alike
  | closure sort _ params body outer _ =>
    exact agrees.call shared alike sort params body outer likeForm.loc
  | _ => exact refused

theorem Agrees.evalStep (agrees : p.Agrees c ev) (fuel : Nat) : p.Agrees c (evalStep ev fuel) := by
  intro f expr expr' shared alike
  have settled := Lockstep.settle (c := c) alike
  cases alike with
  | symbol name loc =>
    apply (Lockstep.lookup shared name).bind
    intro found found' likeFound
    cases likeFound with
    | some b => exact .settle b.value
    | none => exact .raise (.unboundSymbol name) loc
  | cell first rest loc =>
    apply (agrees shared first).bind
    intro head head' likeHead
    exact agrees.apply fuel shared likeHead rest (.cell first rest loc)
  | _ => exact settled

/-- Evaluation looks at shared frames only, and at no location. -/
theorem agrees_evaluate (p : Coupling) (c : Context) (fuel : Nat) : p.Agrees c (evaluate fuel) := by
  induction fuel with
  | zero =>
    intro f expr expr' _ _
    exact .outOfFuel
  | succ fuel ih => exact ih.evalStep fuel

end MiniLisp.Coupling
