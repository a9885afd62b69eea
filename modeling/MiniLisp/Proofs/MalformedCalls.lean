import MiniLisp.Proofs.Bodies
import MiniLisp.Proofs.Parameters
import MiniLisp.Proofs.TargetQuoting

/-!
# Malformed calls

Operators take their unevaluated arguments apart themselves, and each looks at their shape before it
does anything else. Arguments of the wrong shape are refused at once: none of them is evaluated, the
store stays as it was, and nothing is written.

* `Eval.Rejects`: a call is refused, without any effect;
* `Value.IsDefinition`, `Flaw`: what a closure can be made from, and what can be wrong with it;
* `Store.Rebinds`: one name of one frame is bound anew;
* `Eval.malformed_calls_rejected`: the result.
-/

namespace MiniLisp

/-- How many arguments an operator takes, if it refuses any other number of them. -/
def Operator.argumentCount? : Operator → Option Nat
  | .quote | .car | .cdr => some 1
  | .cons | .set | .setq => some 2
  | _ => none

/-- A proper list of one element is a cell and a nil. -/
theorem Value.eq_single {v a : Value} (list : v.isList = true) (items : v.items = [a]) :
    ∃ l l', v = .cell a (.nil l) l' := by
  cases v with
  | cell first rest l' =>
    obtain ⟨rfl, none⟩ := List.cons.inj items
    cases rest with
    | nil l => exact ⟨l, l', rfl⟩
    | cell => cases none
    | _ => cases list
  | _ => cases items

/-! ## Definitions -/

/-- The value is a cell of a proper list of symbols and a proper list. -/
def Value.IsDefinition : Value → Prop
  | .cell params body _ =>
    params.isList = true ∧ (∀ p ∈ params.items, p.isSymbol = true) ∧ body.isList = true
  | _ => False

/-- The symbol that a chain of cells starts with, if it starts with one. -/
def Value.leadingSymbol? : Value → Option Value
  | .cell (.symbol name loc) _ _ => some (.symbol name loc)
  | _ => none

/-- What is left of a chain of cells without its leading symbol. -/
def Value.afterSymbol : Value → Value
  | .cell (.symbol ..) rest _ => rest
  | v => v

/-- What is wrong with a value that is no definition, and where it is found wrong. The first
location is that of all the arguments.

* `noCell`: the value is no cell;
* `improper`: one of its halves is no proper list;
* `notSymbol`: the halves are proper lists, and the first half has an element that is no symbol, of
  which this is the first. -/
inductive Flaw (whole : Location) : Value → Cause → Location → Prop
  | noCell {v : Value} : v.items = [] → Flaw whole v .missingParameters whole
  | improper {params body : Value} {loc : Location} :
      ¬ (params.isList = true ∧ body.isList = true) →
      Flaw whole (.cell params body loc) .malformedDefinition loc
  | notSymbol {params body p : Value} {loc : Location} {before after : List Value} :
      params.isList = true → body.isList = true → params.items = before ++ p :: after →
      (∀ q ∈ before, q.isSymbol = true) → p.isSymbol = false →
      Flaw whole (.cell params body loc) (.parameterNotSymbol p.kind) p.loc

theorem Flaw.kind {whole loc : Location} {v : Value} {cause : Cause}
    (flaw : Flaw whole v cause loc) :
    cause.kind = .malformedFunction ∨ cause.kind = .nonSymbolParameter := by
  cases flaw with
  | noCell | improper => exact .inl rfl
  | notSymbol => exact .inr rfl

/-- Symbols are never too long to be written. -/
theorem Value.hasLongInteger_of_isDefinition {params body : Value} {loc : Location}
    (definition : (cell params body loc).IsDefinition) : params.hasLongInteger = false := by
  obtain ⟨list, symbols, -⟩ := definition
  have written := Value.written_of_symbols list symbols
  cases long : params.hasLongInteger with
  | false => rfl
  | true =>
    rw [Value.written, if_pos long] at written
    cases written

/-! ## Names bound anew -/

/-- The second frame is the first one with the name of the symbol bound anew. Every other name has
the slot that it had, and no slot is changed. -/
structure Frame.Rebinds (old : Frame) (symbol value : Value) (new : Frame) : Prop where
  outer : new.outer = old.outer
  keys : new.keys =
    if symbol.name? ∈ old.keys then old.keys else old.keys ++ [symbol.name?]
  bound : new.binding? symbol.name? = some ⟨symbol, value⟩
  others {key : Key} : key ≠ symbol.name? → new.slot? key = old.slot? key
  slots {index : Nat} : index < old.slots.size → new.slots[index]? = old.slots[index]?

/-- The second store is the first one with the name of the symbol bound anew in a frame. -/
structure Store.Rebinds (s : Store) (f : FrameId) (symbol value : Value) (s' : Store) : Prop where
  frames : s'.nextFrame = s.nextFrame
  other {g : FrameId} : g ≠ f → s'.frame? g = s.frame? g
  own {frame : Frame} : s.frame? f = some frame →
    ∃ frame', s'.frame? f = some frame' ∧ frame.Rebinds symbol value frame'

theorem Frame.rebinds_bind (frame : Frame) (symbol value : Value) :
    frame.Rebinds symbol value (frame.bind symbol value) where
  outer := rfl
  keys := frame.keys_bind symbol value
  bound := frame.binding?_bind_self symbol value
  others ne := lookup_place_of_ne ne frame.slots.size frame.names
  slots old := by
    show (frame.slots.push ⟨symbol, value⟩)[_]? = _
    rw [Array.getElem?_push_lt old, Array.getElem?_eq_getElem old]

theorem Store.rebinds_bind (s : Store) (f : FrameId) (symbol value : Value) :
    s.Rebinds f symbol value (s.bind f symbol value) where
  frames := by simp [Store.nextFrame, Store.bind]
  other ne := by rw [frame?_bind, if_neg (Ne.symm ne)]
  own found := by
    rw [frame?_bind, if_pos rfl, found]
    exact ⟨_, rfl, Frame.rebinds_bind _ symbol value⟩

namespace Eval

variable {fuel : Nat} {f outer : FrameId} {sort : ClosureKind} {args form params body v : Value}
  {loc whole : Location} {identity : Identity} {cause : Cause} {c : Context} {m : Machine}

/-- The call ends in a new error value of the given kind, cause and location. It does so whatever
evaluates expressions, so it evaluates none; and of the machine, only the identity to be given out
next is changed. -/
def Rejects (kind : ErrorKind) (call : Evaluator → Eval Value) (cause : Cause) (loc : Location) :
    Prop :=
  cause.kind = kind ∧ ∀ ev c m,
    call ev c m = .error (cause.toError loc m.serial) { m with serial := m.serial + 1 }

theorem rejects_of_eq_raise {call : Evaluator → Eval Value}
    (refused : ∀ ev, call ev = raise cause loc) : Rejects cause.kind call cause loc :=
  ⟨rfl, fun ev c m => by rw [refused ev]; rfl⟩

/-- An evaluator that abandons whatever it is to evaluate. -/
def abandoning : Evaluator := fun _ _ => abandon .outOfMemory

/-- A call is not rejected if it ends otherwise where nothing can be evaluated. -/
theorem not_rejects {kind : ErrorKind} {call : Evaluator → Eval Value}
    (other : ∀ c m e m', call abandoning c m = .error e m' → e.kind ≠ kind ∨ m'.serial = m.serial) :
    ¬ Rejects kind call cause loc := by
  rintro ⟨same, refused⟩
  rcases other _ _ _ _ (refused abandoning (.ofSettings .unset) .initial) with differs | old
  · exact differs same
  · exact Nat.succ_ne_self _ old

/-! ## Numbers of arguments -/

theorem raise_bind {α β : Type} (cause : Cause) (loc : Location) (k : α → Eval β) :
    raise cause loc >>= k = raise cause loc := rfl

theorem oneArgument_of_not_single (operator : String)
    (other : ¬ (args.isList = true ∧ args.items.length = 1)) :
    oneArgument operator args = refuseArguments operator 1 args := by
  unfold oneArgument
  split
  · exact absurd ⟨rfl, rfl⟩ other
  · rfl

theorem operate_of_not_count {op : Operator} {n : Nat} (takes : op.argumentCount? = some n)
    (other : ¬ (args.isList = true ∧ args.items.length = n)) (ev : Evaluator) :
    operate ev fuel f op args = raise (.argumentCount op.name n args.items.length) args.loc := by
  cases op with
  | quote | car | cdr =>
    cases takes
    simp only [operate, quote, car, cdr, evalCell]
    rw [oneArgument_of_not_single _ other]
    rfl
  | cons | set | setq =>
    cases takes
    simp only [operate, cons, set, setq]
    rw [twoArguments_of_not_pair _ other]
    rfl
  | _ => cases takes

/-- Arguments of the right number are not told to be of a wrong one: they are evaluated, or taken as
they stand. -/
theorem operate_of_count {op : Operator} {n : Nat} (takes : op.argumentCount? = some n)
    (list : args.isList = true) (counts : args.items.length = n) (c : Context) (m : Machine)
    (e : ErrorValue) (m' : Machine) (failed : operate abandoning fuel f op args c m = .error e m') :
    e.kind ≠ .arityError ∨ m'.serial = m.serial := by
  cases op with
  | quote =>
    cases takes
    obtain ⟨a, only⟩ := List.length_eq_one_iff.mp counts
    obtain ⟨l, l', rfl⟩ := Value.eq_single list only
    cases a with
    | error =>
      cases failed
      exact .inr rfl
    | _ => cases failed
  | car | cdr =>
    cases takes
    obtain ⟨a, only⟩ := List.length_eq_one_iff.mp counts
    obtain ⟨l, l', rfl⟩ := Value.eq_single list only
    cases failed
  | cons | set =>
    cases takes
    obtain ⟨a, b, both⟩ := List.length_eq_two.mp counts
    obtain ⟨l, l', l'', rfl⟩ := Value.eq_pair list both
    cases failed
  | setq =>
    cases takes
    obtain ⟨a, b, both⟩ := List.length_eq_two.mp counts
    obtain ⟨l, l', l'', rfl⟩ := Value.eq_pair list both
    cases a with
    | symbol => cases failed
    | error =>
      cases failed
      exact .inr rfl
    | _ =>
      cases failed
      exact .inl (by rintro ⟨⟩)
  | _ => cases takes

theorem operate_rejects_iff {op : Operator} {n : Nat} (takes : op.argumentCount? = some n) :
    Rejects .arityError (fun ev => operate ev fuel f op args)
        (.argumentCount op.name n args.items.length) args.loc ↔
      ¬ (args.isList = true ∧ args.items.length = n) := by
  constructor
  · rintro rejected ⟨list, counts⟩
    exact not_rejects (operate_of_count takes list counts) rejected
  · intro other
    exact rejects_of_eq_raise (operate_of_not_count takes other)

theorem branch_of_length_lt (few : args.items.length < 2) (ev : Evaluator) :
    branch ev f args = raise .missingBranch args.loc := by
  unfold branch
  split
  · exact absurd few (by simp [Value.items])
  · rfl

theorem branch_of_two_le (enough : 2 ≤ args.items.length) (c : Context) (m : Machine) :
    branch abandoning f args c m = .fault .outOfMemory m := by
  cases args with
  | cell condition rest loc =>
    cases rest with
    | cell => rfl
    | _ => exact absurd enough (by simp [Value.items])
  | _ => exact absurd enough (by simp [Value.items])

theorem branch_rejects_iff :
    Rejects .arityError (fun ev => branch ev f args) .missingBranch args.loc ↔
      args.items.length < 2 := by
  constructor
  · intro rejected
    by_contra enough
    refine not_rejects (fun c m e m' failed => ?_) rejected
    rw [branch_of_two_le (Nat.le_of_not_lt enough)] at failed
    cases failed
  · intro few
    exact rejects_of_eq_raise (branch_of_length_lt few)

theorem loop_of_no_items (none : args.items = []) (ev : Evaluator) :
    loop ev fuel f args = raise .missingCondition args.loc := by
  cases args with
  | cell => cases none
  | _ => rfl

theorem loop_rejects_iff :
    Rejects .arityError (fun ev => loop ev fuel f args) .missingCondition args.loc ↔
      args.items = [] := by
  constructor
  · intro rejected
    cases args with
    | cell =>
      refine absurd rejected (not_rejects fun c m e m' failed => ?_)
      cases fuel <;> cases failed
    | _ => rfl
  · intro none
    exact rejects_of_eq_raise (loop_of_no_items none)

/-! ## Expanders -/

/-- The only error that a body ends in by itself, when nothing can be evaluated, is that it has no
element. -/
theorem evalBody_abandoning (body : Value) (c : Context) (m : Machine) {e : ErrorValue}
    {m' : Machine} (failed : evalBody abandoning f body c m = .error e m') :
    e.kind = .emptyBody := by
  cases body with
  | cell first rest loc => cases rest <;> cases failed
  | _ =>
    cases failed
    rfl

/-- What an expander refuses a proper list for is its length. -/
theorem apply_expander_abandoning (list : args.isList = true) (c : Context) (m : Machine)
    {e : ErrorValue} {m' : Machine}
    (failed : apply abandoning fuel f (.closure .expander params body outer loc identity) args form
      c m = .error e m') :
    e.kind = .emptyBody ∨ e.kind = .arityError ∧ params.items.length ≠ args.items.length := by
  rw [apply_expander list] at failed
  by_cases counts : params.items.length = args.items.length
  · rw [bindArguments_of_length _ _ _ _ counts, bind_apply] at failed
    cases run : evalBody abandoning m.store.nextFrame body c
      (entered params outer args.items m) with
    | error e₁ m₁ =>
      rw [run] at failed
      cases failed
      exact .inl (evalBody_abandoning body c _ run)
    | _ =>
      rw [run] at failed
      cases failed
  · rw [bindArguments_of_length_ne _ _ _ _ counts] at failed
    refine .inr ⟨?_, counts⟩
    unfold refuseCount printed at failed
    cases written : params.written with
    | ok text =>
      rw [written] at failed
      cases failed
      rfl
    | error reason =>
      rw [written] at failed
      cases failed

theorem expansion_rejects_improper_iff :
    Rejects .typeError
        (fun ev => apply ev fuel f (.closure .expander params body outer loc identity) args form)
        .improperArguments form.loc ↔
      args.isList = false := by
  constructor
  · intro rejected
    by_contra list
    refine not_rejects (fun c m e m' failed => .inl ?_) rejected
    have kind := apply_expander_abandoning (Bool.not_eq_false _ ▸ list) c m failed
    rcases kind with empty | ⟨count, _⟩
    · rw [empty]
      rintro ⟨⟩
    · rw [count]
      rintro ⟨⟩
  · intro improper
    refine rejects_of_eq_raise fun ev => ?_
    show call ev f .expander params body outer args form.loc = _
    unfold call
    rw [improper]
    rfl

theorem expansion_rejects_count_iff (short : params.hasLongInteger = false)
    (list : args.isList = true) :
    Rejects .arityError
        (fun ev => apply ev fuel f (.closure .expander params body outer loc identity) args form)
        (.parameterCount .expander params.text params.items.length args.items.length) form.loc ↔
      params.items.length ≠ args.items.length := by
  constructor
  · intro rejected counts
    refine not_rejects (fun c m e m' failed => .inl ?_) rejected
    have kind := apply_expander_abandoning list c m failed
    rcases kind with empty | ⟨_, differ⟩
    · rw [empty]
      rintro ⟨⟩
    · exact absurd counts differ
  · intro counts
    refine rejects_of_eq_raise fun ev => ?_
    have written : params.written = .ok params.text := by
      unfold Value.written
      rw [short]
      rfl
    rw [apply_expander list, bindArguments_of_length_ne _ _ _ _ counts]
    unfold refuseCount printed
    rw [written]
    rfl

/-! ## Definitions -/

/-- Makes a closure from a definition. The arguments as a whole are located at `whole`. -/
def specified (sort : ClosureKind) (f : FrameId) (whole : Location) : Value → Eval Value
  | .cell params body loc => makeClosure sort f params body loc
  | _ => raise .missingParameters whole

/-- Binds the symbol, if there is one, to the value in the frame. -/
def nameIn (f : FrameId) : Option Value → Value → Eval Value
  | none, v => pure v
  | some symbol, v => bindSymbol f symbol v

theorem makeExpander_eq : makeExpander f args = specified .expander f args.loc args := by
  cases args <;> rfl

/-- A function is made from what follows the symbol, and then the symbol is bound to it. -/
theorem makeFunction_eq :
    makeFunction f args =
      specified .function f args.loc args.afterSymbol >>= nameIn f args.leadingSymbol? := by
  cases args with
  | cell first rest loc =>
    cases first with
    | symbol => cases rest <;> rfl
    | _ => exact (bind_pure _).symm
  | _ => rfl

theorem specified_of_isDefinition (definition : (Value.cell params body loc).IsDefinition)
    (sort : ClosureKind) (f : FrameId) (whole : Location) (c : Context) (m : Machine) :
    specified sort f whole (.cell params body loc) c m =
      .ok (.closure sort params body f loc m.serial) { m with serial := m.serial + 1 } := by
  obtain ⟨paramsList, symbols, bodyList⟩ := definition
  have lists : ¬ (!(params.isList && body.isList)) = true := by simp [paramsList, bodyList]
  have none : params.items.find? (!·.isSymbol) = none := by
    refine List.find?_eq_none.mpr fun p mem => ?_
    simp [symbols p mem]
  show makeClosure sort f params body loc c m = _
  unfold makeClosure
  rw [if_neg lists, none]
  rfl

/-- A flaw is found, whichever kind of closure is to be made. -/
theorem specified_of_flaw (flaw : Flaw whole v cause loc) (sort : ClosureKind) (f : FrameId) :
    specified sort f whole v = raise cause loc := by
  cases flaw with
  | noCell none =>
    cases v with
    | cell => cases none
    | _ => rfl
  | @improper params body loc other =>
    have lists : (!(params.isList && body.isList)) = true := by
      rw [← Bool.and_eq_true, Bool.not_eq_true] at other
      rw [other]
      rfl
    show makeClosure sort f params body loc = _
    unfold makeClosure
    rw [if_pos lists]
  | @notSymbol params body p loc before after paramsList bodyList parts symbols notSymbol =>
    have lists : ¬ (!(params.isList && body.isList)) = true := by simp [paramsList, bodyList]
    have first : params.items.find? (!·.isSymbol) = some p := by
      refine List.find?_eq_some_iff_append.mpr ⟨?_, before, after, parts, fun q mem => ?_⟩
      · simp [notSymbol]
      · simp [symbols q mem]
    show makeClosure sort f params body loc = _
    unfold makeClosure
    rw [if_neg lists, first]

/-- A value is a definition, or it has a flaw. -/
theorem exists_flaw (other : ¬ v.IsDefinition) (whole : Location) :
    ∃ cause loc, Flaw whole v cause loc := by
  cases v with
  | cell params body loc =>
    by_cases lists : params.isList = true ∧ body.isList = true
    · cases found : params.items.find? (!·.isSymbol) with
      | none =>
        refine absurd ⟨lists.1, fun p mem => ?_, lists.2⟩ other
        simpa using List.find?_eq_none.mp found p mem
      | some p =>
        obtain ⟨notSymbol, before, after, parts, symbols⟩ := List.find?_eq_some_iff_append.mp found
        refine ⟨_, _, .notSymbol lists.1 lists.2 parts (fun q mem => ?_) (by simpa using notSymbol)⟩
        simpa using symbols q mem
    · exact ⟨_, _, .improper lists⟩
  | _ => exact ⟨_, _, .noCell rfl⟩

/-- The call makes a closure of the sort, over the frame `f`, from a definition, and binds it to the
name, if there is one. Anything but a definition is rejected.

* `succeeds`: the call has a result if and only if there is a definition;
* `closure`: then the result is the closure, which is new, and without a name nothing but the count
  of identities changes. With a name, that name of the current frame is bound anew, too;
* `rejected`: what is no definition has a flaw, and the call is rejected for it. -/
structure MakesClosure (sort : ClosureKind) (f : FrameId) (whole : Location)
    (call : Evaluator → Eval Value) (symbol? : Option Value) (v : Value) : Prop where
  succeeds (ev : Evaluator) (c : Context) (m : Machine) :
    (∃ result m', call ev c m = .ok result m') ↔ v.IsDefinition
  closure {params body : Value} {loc : Location} : v = .cell params body loc → v.IsDefinition →
    ∀ ev c m, ∃ s',
      call ev c m = .ok (.closure sort params body f loc m.serial)
        { m with serial := m.serial + 1, store := s' } ∧
      (symbol? = none → s' = m.store) ∧
      ∀ symbol, symbol? = some symbol →
        m.store.Rebinds f symbol (.closure sort params body f loc m.serial) s'
  rejected : ¬ v.IsDefinition → ∃ cause loc, Flaw whole v cause loc ∧
    (cause.kind = .malformedFunction ∨ cause.kind = .nonSymbolParameter) ∧
    Rejects cause.kind call cause loc

section Specified

variable {call : Evaluator → Eval Value} {symbol? : Option Value}
  (made : ∀ ev, call ev = specified sort f whole v >>= nameIn f symbol?)
include made

theorem closure_of_specified (eq : v = .cell params body loc) (definition : v.IsDefinition)
    (ev : Evaluator) (c : Context) (m : Machine) :
    ∃ s', call ev c m = .ok (.closure sort params body f loc m.serial)
        { m with serial := m.serial + 1, store := s' } ∧
      (symbol? = none → s' = m.store) ∧
      ∀ symbol, symbol? = some symbol →
        m.store.Rebinds f symbol (.closure sort params body f loc m.serial) s' := by
  subst eq
  rw [made ev, bind_of_ok (specified_of_isDefinition definition sort f whole c m)]
  cases symbol? with
  | none => exact ⟨m.store, rfl, fun _ => rfl, by rintro _ ⟨⟩⟩
  | some symbol =>
    refine ⟨_, rfl, by rintro ⟨⟩, ?_⟩
    rintro _ ⟨⟩
    exact m.store.rebinds_bind f symbol _

theorem rejects_of_specified (other : ¬ v.IsDefinition) :
    ∃ cause loc, Flaw whole v cause loc ∧
      (cause.kind = .malformedFunction ∨ cause.kind = .nonSymbolParameter) ∧
      Rejects cause.kind call cause loc := by
  obtain ⟨cause, loc, flaw⟩ := exists_flaw other whole
  refine ⟨cause, loc, flaw, flaw.kind, rejects_of_eq_raise fun ev => ?_⟩
  rw [made ev, specified_of_flaw flaw, raise_bind]

theorem makesClosure_of_specified : MakesClosure sort f whole call symbol? v := by
  refine ⟨fun ev c m => ⟨?_, fun definition => ?_⟩, closure_of_specified made,
    rejects_of_specified made⟩
  · rintro ⟨result, m', ended⟩
    by_contra other
    obtain ⟨cause, loc, -, -, -, refused⟩ := rejects_of_specified made other
    rw [refused ev c m] at ended
    cases ended
  · cases v with
    | cell params body loc =>
      obtain ⟨_, ended, -⟩ := closure_of_specified made rfl definition ev c m
      exact ⟨_, _, ended⟩
    | _ => cases definition

end Specified

/-- Calls whose arguments have the wrong shape, and only those, are rejected for it before they have
any effect. In every frame and for all arguments, proper or not:

* operators that take a fixed number of arguments want a proper list of so many;
* `if` wants at least two leading cells and `while` at least one;
* an expander wants a proper list, of as many elements as it has parameters. Its parameters must not
  need too long an integer to be written, and those of a definition do not;
* `fn` makes a closure from a definition after an optional symbol, and `macro` from a definition. -/
theorem malformed_calls_rejected (fuel : Nat) (f : FrameId) (args form : Value) :
    let applied (head : Value) := fun ev => apply ev fuel f head args form
    (∀ op n identity, op.argumentCount? = some n →
      (Rejects .arityError (applied (.native op identity))
          (.argumentCount op.name n args.items.length) args.loc ↔
        ¬ (args.isList = true ∧ args.items.length = n))) ∧
    (∀ identity,
      Rejects .arityError (applied (.native .branch identity)) .missingBranch args.loc ↔
        args.items.length < 2) ∧
    (∀ identity,
      Rejects .arityError (applied (.native .loop identity)) .missingCondition args.loc ↔
        args.items = []) ∧
    (∀ params body outer loc identity,
      let expansion := applied (.closure .expander params body outer loc identity)
      (Rejects .typeError expansion .improperArguments form.loc ↔ args.isList = false) ∧
      (params.hasLongInteger = false → args.isList = true →
        (Rejects .arityError expansion
            (.parameterCount .expander params.text params.items.length args.items.length) form.loc ↔
          params.items.length ≠ args.items.length)) ∧
      ((Value.cell params body loc).IsDefinition → params.hasLongInteger = false)) ∧
    (∀ identity, MakesClosure .function f args.loc (applied (.native .fn identity))
      args.leadingSymbol? args.afterSymbol) ∧
    (∀ identity, MakesClosure .expander f args.loc (applied (.native .makeExpander identity))
      none args) := by
  intro applied
  refine ⟨fun op n identity takes => operate_rejects_iff takes, fun identity => branch_rejects_iff,
    fun identity => loop_rejects_iff, fun params body outer loc identity =>
      ⟨expansion_rejects_improper_iff, expansion_rejects_count_iff,
        Value.hasLongInteger_of_isDefinition⟩,
    fun identity => ?_, fun identity => ?_⟩
  · exact makesClosure_of_specified fun _ => makeFunction_eq
  · refine makesClosure_of_specified fun _ => ?_
    show makeExpander f args = specified .expander f args.loc args >>= pure
    rw [bind_pure, makeExpander_eq]

/-- The improper list `(1 . 2)`. -/
def dottedArguments : Value := .cell (.integer 1 .unknown) (.integer 2 .unknown) .unknown

/-- The arguments of `(fn x (x) x)`. -/
def identityNamedX : Value := .cell (.symbol "x" .unknown) (.cell onlyX onlyX .unknown) .unknown

/-- A dotted list is neither for `cons` nor for `if`, nor for an expander; an expander without
parameters does not want one argument either, and one symbol alone is no definition. With parameters
and a body after it, the symbol is bound anew. -/
theorem dottedArguments_rejected :
    Rejects .arityError
      (fun ev => apply ev 1 0 (.native .cons 0) dottedArguments (.nil .unknown))
      (.argumentCount "cons" 2 1) .unknown ∧
    Rejects .arityError
      (fun ev => apply ev 1 0 (.native .branch 0) dottedArguments (.nil .unknown))
      .missingBranch .unknown ∧
    Rejects .typeError
      (fun ev => apply ev 1 0 (.closure .expander onlyX onlyX 0 .unknown 0) dottedArguments
        (.nil .unknown)) .improperArguments .unknown ∧
    Rejects .arityError
      (fun ev => apply ev 1 0 (.closure .expander (.nil .unknown) onlyX 0 .unknown 0) onlyX
        (.nil .unknown)) (.parameterCount .expander "nil" 0 1) .unknown ∧
    (∃ cause loc, cause.kind = .malformedFunction ∧
      Rejects .malformedFunction
        (fun ev => apply ev 1 0 (.native .fn 0) onlyX (.nil .unknown)) cause loc) ∧
    ∃ s', apply (evaluate 1) 1 0 (.native .fn 0) identityNamedX (.nil .unknown)
        (.ofSettings .unset) caller =
      .ok (.closure .function onlyX onlyX 0 .unknown 0) { caller with serial := 1, store := s' } ∧
      caller.store.Rebinds 0 (.symbol "x" .unknown)
        (.closure .function onlyX onlyX 0 .unknown 0) s' := by
  obtain ⟨counts, branches, -, expanders, -, -⟩ :=
    malformed_calls_rejected 1 0 dottedArguments (.nil .unknown)
  obtain ⟨-, -, -, single, unnamed, -⟩ := malformed_calls_rejected 1 0 onlyX (.nil .unknown)
  obtain ⟨-, -, -, -, named, -⟩ := malformed_calls_rejected 1 0 identityNamedX (.nil .unknown)
  have improper := (expanders onlyX onlyX 0 .unknown 0).1.mpr rfl
  have two := ((single (.nil .unknown) onlyX 0 .unknown 0).2.1 rfl rfl).mpr (by decide)
  refine ⟨(counts .cons 2 0 rfl).mpr (by decide), (branches 0).mpr (by decide), improper, two, ?_,
    ?_⟩
  · obtain ⟨cause, loc, flaw, -, rejected⟩ := (unnamed 0).rejected id
    have kind : cause.kind = .malformedFunction := by
      cases flaw
      rfl
    exact ⟨cause, loc, kind, kind ▸ rejected⟩
  · obtain ⟨s', made, -, binds⟩ := (named 0).closure rfl ⟨rfl, by decide, rfl⟩ (evaluate 1)
      (.ofSettings .unset) caller
    exact ⟨s', made, binds _ rfl⟩

end Eval

end MiniLisp
