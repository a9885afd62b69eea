import MiniLisp.Proofs.Histories

/-!
# Properties that evaluations inherit

An evaluation is composed of a few building blocks: results, errors and faults, sequences,
lookups, changes of the store, writes, and runs in the frame of new parameters. A property of
computations that each building block has, or keeps, is one that every evaluation has, whatever the
expression. `Closed` lists the building blocks; there is one lemma for each operator, over an
arbitrary evaluator of sub-expressions, and `Closed.evaluate` is the result.

The property may depend on the frame that a computation takes place in. A name is bound in that
frame only, and what runs in the frame of new parameters has the property for that frame.

Many such properties say how the machine after a computation is related to the machine before it.
For these the building blocks come down to the few changes of `Changing`.
-/

namespace MiniLisp.Eval

/-- The property of computations is closed under what evaluations are composed of. -/
structure Closed (P : FrameId → {α : Type} → Eval α → Prop) : Prop where
  pure {f : FrameId} {α : Type} (a : α) : P f (Pure.pure a)
  bind {f : FrameId} {α β : Type} {x : Eval α} {k : α → Eval β} :
    P f x → (∀ a, P f (k a)) → P f (x >>= k)
  raise {f : FrameId} {α : Type} (cause : Cause) (loc : Location) :
    P f (Eval.raise (α := α) cause loc)
  fail {f : FrameId} {α : Type} (e : ErrorValue) : P f (Eval.fail (α := α) e)
  abandon {f : FrameId} {α : Type} (reason : Fault) : P f (Eval.abandon (α := α) reason)
  outOfFuel {f : FrameId} {α : Type} : P f (Eval.outOfFuel (α := α))
  catchError {f : FrameId} {α : Type} {x : Eval α} : P f x → P f (Eval.catchError x)
  freshIdentity {f : FrameId} : P f Eval.freshIdentity
  find {f : FrameId} (g : FrameId) (name : String) : P f (Eval.find g name)
  lookup {f : FrameId} (g : FrameId) (name : String) : P f (Eval.lookup g name)
  width {f : FrameId} : P f Eval.width
  join {f : FrameId} (operation : Fold) (a b : Int) : P f (Eval.join operation a b)
  attempt {f : FrameId} (text : String) : P f (Eval.attempt text)
  bindSymbol {f : FrameId} (symbol value : Value) : P f (Eval.bindSymbol f symbol value)
  assign {f : FrameId} (slot : Slot) (value : Value) : P f (Eval.assign slot value)
  inNewFrame {f : FrameId} {α : Type} (sort : ClosureKind) (params : Value) (outer : FrameId)
    (values : List Value) (loc : Location) {k : FrameId → Eval α} :
    (∀ inner, P inner (k inner)) →
      P f (Eval.bindArguments sort params outer values loc >>= k)

theorem bind_assoc {α β γ : Type} (x : Eval α) (k : α → Eval β) (l : β → Eval γ) :
    x >>= k >>= l = x >>= fun a => k a >>= l := by
  funext c m
  simp only [bind_apply]
  cases x c m <;> rfl

section Bind

variable {α β : Type} {x : Eval α} {k : α → Eval β} {c : Context} {m m₁ : Machine}

theorem bind_of_ok {a : α} (ended : x c m = .ok a m₁) : (x >>= k) c m = k a c m₁ := by
  rw [bind_apply, ended]

theorem error_of_bind {e : ErrorValue} (failed : x c m = .error e m₁) :
    (x >>= k) c m = .error e m₁ := by
  rw [bind_apply, failed]

theorem fault_of_bind {reason : Fault} (abandoned : x c m = .fault reason m₁) :
    (x >>= k) c m = .fault reason m₁ := by
  rw [bind_apply, abandoned]

end Bind

namespace Closed

variable {P : FrameId → {α : Type} → Eval α → Prop} (closed : Closed P)
include closed

section Blocks

variable {f : FrameId}

theorem ofExcept {α : Type} (result : Except Fault α) : P f (Eval.ofExcept result) := by
  cases result with
  | ok a => exact closed.pure a
  | error reason => exact closed.abandon reason

theorem settle (v : Value) : P f (Eval.settle v) := by
  cases v with
  | error e => exact closed.fail e
  | _ => exact closed.pure _

theorem write (text : String) (loc : Location) : P f (Eval.write text loc) := by
  refine closed.bind (closed.attempt text) fun failure => ?_
  cases failure with
  | none => exact closed.pure _
  | some reason => exact closed.raise _ loc

theorem writeValue (v : Value) : P f (Eval.writeValue v) := by
  unfold Eval.writeValue
  split
  · exact closed.raise _ v.loc
  · exact closed.write v.text v.loc

theorem refuseArguments {α : Type} (operator : String) (expected : Nat) (args : Value) :
    P f (Eval.refuseArguments (α := α) operator expected args) := closed.raise _ args.loc

theorem oneArgument (operator : String) (args : Value) : P f (Eval.oneArgument operator args) := by
  unfold Eval.oneArgument
  split
  · exact closed.pure _
  · exact closed.refuseArguments operator 1 args

theorem twoArguments (operator : String) (args : Value) :
    P f (Eval.twoArguments operator args) := by
  unfold Eval.twoArguments
  split
  · exact closed.pure _
  · exact closed.refuseArguments operator 2 args

end Blocks

/-! ## Operators -/

variable {ev : Evaluator} (hev : ∀ f expr, P f (ev f expr)) (f : FrameId)
include hev

theorem evalArguments (args : Value) : P f (Eval.evalArguments ev f args) := by
  induction args with
  | cell first rest loc _ ih =>
    unfold Eval.evalArguments
    exact closed.bind (hev f first) fun v => closed.bind ih fun vs => closed.pure _
  | nil loc => exact closed.pure _
  | _ => exact closed.raise _ _

theorem evalThen (expr args : Value) : P f (Eval.evalThen ev f expr args) := by
  induction args generalizing expr with
  | cell first rest loc _ ih => exact closed.bind (hev f expr) fun _ => ih first
  | nil loc => exact hev f expr
  | _ => exact closed.bind (hev f expr) fun _ => closed.raise _ _

theorem evalBody (body : Value) : P f (Eval.evalBody ev f body) := by
  unfold Eval.evalBody
  split
  · exact closed.evalThen hev f _ _
  · exact closed.raise _ _

theorem cons (args : Value) : P f (Eval.cons ev f args) :=
  closed.bind (closed.twoArguments "cons" args) fun pair =>
    closed.bind (hev f pair.1) fun _ => closed.bind (hev f pair.2) fun _ => closed.pure _

theorem evalCell (operator : String) (args : Value) : P f (Eval.evalCell ev operator f args) := by
  refine closed.bind (closed.oneArgument operator args) fun expr => ?_
  refine closed.bind (hev f expr) fun v => ?_
  cases v with
  | cell first rest loc => exact closed.pure _
  | _ => exact closed.raise _ expr.loc

theorem evalIntegers (operator : String) (args : Value) :
    P f (Eval.evalIntegers ev operator f args) := by
  refine closed.bind (closed.evalArguments hev f args) fun values => ?_
  induction values with
  | nil => exact closed.pure _
  | cons v vs ih =>
    cases v with
    | integer i loc => exact closed.bind ih fun is => closed.pure _
    | _ => exact closed.raise _ _

omit hev in
theorem joinAll (operation : Fold) (loc : Location) (acc : Int) (ns : List Int) :
    P f (Eval.joinAll operation loc acc ns) := by
  induction ns generalizing acc with
  | nil => exact closed.pure _
  | cons i is ih =>
    unfold Eval.joinAll
    split
    · exact closed.raise _ loc
    · refine closed.bind (closed.join operation acc i) fun joined => ?_
      exact closed.bind closed.width fun bits => ih _

theorem fold (operation : Fold) (args : Value) : P f (Eval.fold ev operation f args) := by
  refine closed.bind (closed.evalIntegers hev f operation.name args) fun is => ?_
  cases is with
  | nil => exact closed.pure _
  | cons i is => exact closed.bind (closed.joinAll f operation args.loc i is) fun _ => closed.pure _

theorem branch (args : Value) : P f (Eval.branch ev f args) := by
  unfold Eval.branch
  split
  · refine closed.bind (hev f _) fun test => ?_
    split
    · exact hev f _
    · split
      · exact closed.pure _
      · exact closed.evalBody hev f _
  · exact closed.raise _ _

theorem repeatWhile (condition body : Value) (fuel : Nat) (last : Value) :
    P f (Eval.repeatWhile ev f condition body fuel last) := by
  induction fuel generalizing last with
  | zero => exact closed.outOfFuel
  | succ fuel ih =>
    refine closed.bind (hev f condition) fun test => ?_
    split
    · exact closed.bind (closed.evalBody hev f body) fun v => ih v
    · exact closed.pure _

theorem loop (fuel : Nat) (args : Value) : P f (Eval.loop ev fuel f args) := by
  unfold Eval.loop
  split
  · exact closed.repeatWhile hev f _ _ fuel _
  · exact closed.raise _ _

/-- The symbol is bound in the current frame, or the value is put into a slot of any frame. -/
theorem assignTarget (target : Value) (loc : Location) (expr : Value) :
    P f (Eval.assignTarget ev f target loc expr) := by
  unfold Eval.assignTarget
  split
  · refine closed.bind (closed.find f _) fun slot => closed.bind (hev f expr) fun v => ?_
    cases slot with
    | none => exact closed.bindSymbol _ v
    | some slot => exact closed.assign slot v
  · exact closed.raise _ loc

theorem set (args : Value) : P f (Eval.set ev f args) :=
  closed.bind (closed.twoArguments "set" args) fun pair =>
    closed.bind (hev f pair.1) fun target => closed.assignTarget hev f target pair.1.loc pair.2

theorem setq (args : Value) : P f (Eval.setq ev f args) :=
  closed.bind (closed.twoArguments "setq" args) fun pair =>
    closed.bind (closed.settle pair.1) fun target =>
      closed.assignTarget hev f target pair.1.loc pair.2

theorem print (args : Value) : P f (Eval.print ev f args) := by
  refine closed.bind (closed.evalArguments hev f args) fun values => ?_
  refine closed.bind ?_ fun _ => closed.pure _
  induction values with
  | nil => exact closed.pure _
  | cons v vs ih => exact closed.bind (closed.writeValue v) fun _ => ih

theorem println (args : Value) : P f (Eval.println ev f args) := by
  refine closed.bind (closed.catchError (closed.print hev f args)) fun printed => ?_
  cases printed with
  | ok v => exact closed.write _ args.loc
  | error e =>
    have newline : P f (Eval.writeNewline args.loc) := closed.write "\n" args.loc
    exact closed.bind (closed.catchError newline) fun _ => closed.fail e

/-! ### Closures -/

omit hev in
theorem makeClosure (sort : ClosureKind) (g : FrameId) (params body : Value) (loc : Location) :
    P f (Eval.makeClosure sort g params body loc) := by
  unfold Eval.makeClosure
  split
  · exact closed.raise _ loc
  · split
    · exact closed.raise _ _
    · exact closed.bind closed.freshIdentity fun _ => closed.pure _

omit hev in
/-- A named function is bound in the current frame. -/
theorem makeFunction (args : Value) : P f (Eval.makeFunction f args) := by
  unfold Eval.makeFunction
  split
  · split
    · exact closed.bind (closed.makeClosure f .function f _ _ _) fun v => closed.bindSymbol _ v
    · exact closed.raise _ _
  · exact closed.makeClosure f .function f _ _ _
  · exact closed.raise _ _

omit hev in
theorem makeExpander (args : Value) : P f (Eval.makeExpander f args) := by
  unfold Eval.makeExpander
  split
  · exact closed.makeClosure f .expander f _ _ _
  · exact closed.raise _ _

/-- A body is run in a frame of its own, and an expansion in the frame of the call. -/
theorem call (sort : ClosureKind) (params body : Value) (outer : FrameId) (args : Value)
    (loc : Location) : P f (Eval.call ev f sort params body outer args loc) := by
  have inBody (values : List Value) : P f (do
      let inner ← Eval.bindArguments sort params outer values loc
      Eval.evalBody ev inner body) :=
    closed.inNewFrame sort params outer values loc fun inner => closed.evalBody hev inner body
  unfold Eval.call
  split
  · exact closed.bind (closed.evalArguments hev f args) inBody
  · split
    · -- the body runs in the new frame, the expansion in `f` again
      have expanded := closed.bind (inBody args.items) fun code => hev f code
      rwa [bind_assoc] at expanded
    · exact closed.raise _ loc

/-! ### All operators -/

theorem operate (fuel : Nat) (op : Operator) (args : Value) :
    P f (Eval.operate ev fuel f op args) := by
  cases op with
  | progn => exact closed.evalBody hev f args
  | makeExpander => exact closed.makeExpander f args
  | loop => exact closed.loop hev f fuel args
  | quote => exact closed.bind (closed.oneArgument "quote" args) fun v => closed.settle v
  | setq => exact closed.setq hev f args
  | set => exact closed.set hev f args
  | fn => exact closed.makeFunction f args
  | branch => exact closed.branch hev f args
  | println => exact closed.println hev f args
  | print => exact closed.print hev f args
  | cons => exact closed.cons hev f args
  | car => exact closed.bind (closed.evalCell hev f "car" args) fun halves => closed.settle halves.1
  | cdr => exact closed.bind (closed.evalCell hev f "cdr" args) fun halves => closed.settle halves.2
  | fold operation => exact closed.fold hev f operation args
  | equal => exact closed.bind (closed.evalIntegers hev f "=" args) fun _ => closed.pure _
  | less => exact closed.bind (closed.evalIntegers hev f "<" args) fun _ => closed.pure _

theorem apply (fuel : Nat) (head args form : Value) :
    P f (Eval.apply ev fuel f head args form) := by
  unfold Eval.apply
  split
  · exact closed.operate hev f fuel _ args
  · exact closed.call hev f _ _ _ _ args form.loc
  · unfold refuseCall
    split
    · exact closed.bind (closed.ofExcept _) fun text => closed.raise _ _
    · exact closed.abandon _

theorem evalStep (fuel : Nat) (expr : Value) : P f (Eval.evalStep ev fuel f expr) := by
  unfold Eval.evalStep
  split
  · refine closed.bind (closed.lookup f _) fun found => ?_
    cases found with
    | some b => exact closed.settle b.value
    | none => exact closed.raise _ _
  · exact closed.bind (hev f _) fun head => closed.apply hev f fuel head _ _
  · exact closed.settle expr

/-! ## Forms of a text -/

theorem evalForms (last : Value) (forms : List Value) : P f (Eval.evalForms ev f last forms) := by
  induction forms generalizing last with
  | nil => exact closed.pure last
  | cons form forms ih => exact closed.bind (hev f form) ih

theorem evalReading (reading : Reader.Reading) : P f (Eval.evalReading ev f reading) := by
  refine closed.bind (closed.evalForms hev f _ reading.forms) fun v => ?_
  split
  · exact closed.pure v
  · exact closed.abandon _

/-! ## The evaluator -/

omit hev f in
/-- Every evaluation has the property, for the frame that it takes place in. -/
theorem evaluate (fuel : Nat) (f : FrameId) (expr : Value) : P f (Eval.evaluate fuel f expr) := by
  induction fuel generalizing f expr with
  | zero => exact closed.outOfFuel
  | succ fuel ih => exact closed.evalStep ih f fuel expr

end Closed

/-! ## Relations between machines -/

/-- The relation may hold between the machines before and after an evaluation in the frame `f`: it
holds for each change that an evaluation consists of. -/
structure Changing (R : FrameId → Machine → Machine → Prop) : Prop where
  refl (f : FrameId) (m : Machine) : R f m m
  trans {f : FrameId} {m m' m'' : Machine} : R f m m' → R f m' m'' → R f m m''
  counted (f : FrameId) (m : Machine) : R f m { m with serial := m.serial + 1 }
  written (f : FrameId) (m : Machine) (out : String) : R f m { m with out, writes := m.writes + 1 }
  bind (f : FrameId) (m : Machine) (symbol value : Value) :
    R f m { m with store := m.store.bind f symbol value }
  assign (f : FrameId) (m : Machine) (slot : Slot) (value : Value) :
    R f m { m with store := m.store.assign slot value }
  /-- Parameters are bound in a frame that was not there before, and what follows takes place in
  that frame. -/
  inNewFrame (f : FrameId) (m : Machine) (outer : FrameId) (symbols values : List Value)
    {m' : Machine} :
    R m.store.nextFrame { m with
      store := (m.store.newFrame (some outer)).bindAll m.store.nextFrame symbols values } m' →
    R f m m'

/-- However the computation ends, the machine it leaves is related to the machine before. -/
structure Leaves (R : FrameId → Machine → Machine → Prop) (f : FrameId) {α : Type} (x : Eval α) :
    Prop where
  run {c : Context} {m m' : Machine} : (x c m).machine? = some m' → R f m m'

theorem bindArguments_cases (sort : ClosureKind) (params : Value) (outer : FrameId)
    (values : List Value) (loc : Location) (c : Context) (m : Machine) :
    bindArguments sort params outer values loc c m = .ok m.store.nextFrame { m with
      store := (m.store.newFrame (some outer)).bindAll m.store.nextFrame params.items values } ∨
    (∃ e, bindArguments sort params outer values loc c m =
      .error e { m with serial := m.serial + 1 }) ∨
    ∃ reason, bindArguments sort params outer values loc c m = .fault reason m := by
  unfold bindArguments
  split
  · exact .inl rfl
  · rw [bind_apply]
    unfold printed
    cases params.written with
    | ok text => exact .inr (.inl ⟨_, rfl⟩)
    | error reason => exact .inr (.inr ⟨reason, rfl⟩)

namespace Changing

variable {R : FrameId → Machine → Machine → Prop} (changing : Changing R) {f : FrameId}
include changing

/-- A computation that leaves the machine as it was. -/
theorem leaves_of_eq {α : Type} {x : Eval α} (same : ∀ c m, (x c m).machine? = some m) :
    Leaves R f x := by
  refine ⟨fun {c m m'} ended => ?_⟩
  rw [same c m] at ended
  cases ended
  exact changing.refl f m

theorem leaves_bind {α β : Type} {x : Eval α} {k : α → Eval β} (hx : Leaves R f x)
    (hk : ∀ a, Leaves R f (k a)) : Leaves R f (x >>= k) := by
  refine ⟨fun {c m m'} ended => ?_⟩
  rw [bind_apply] at ended
  cases first : x c m with
  | ok a m₁ =>
    rw [first] at ended
    exact changing.trans (hx.run (by rw [first]; rfl)) ((hk a).run ended)
  | error | fault =>
    rw [first] at ended
    exact hx.run (by rw [first]; exact ended)
  | exhausted =>
    rw [first] at ended
    cases ended

omit changing in
theorem leaves_catchError {α : Type} {x : Eval α} (hx : Leaves R f x) :
    Leaves R f (catchError x) := by
  refine ⟨fun {c m m'} ended => ?_⟩
  unfold catchError at ended
  cases first : x c m with
  | exhausted =>
    rw [first] at ended
    cases ended
  | _ =>
    rw [first] at ended
    exact hx.run (by rw [first]; exact ended)

theorem leaves_width : Leaves R f width := by
  refine changing.leaves_of_eq fun c m => ?_
  unfold width
  cases c.settings.arithmeticWidth with
  | ok | error => rfl

theorem leaves_join (operation : Fold) (a b : Int) : Leaves R f (join operation a b) := by
  refine changing.leaves_of_eq fun c m => ?_
  unfold join
  cases operation.join c.operations a b with
  | ok | error => rfl

theorem leaves_attempt (text : String) : Leaves R f (attempt text) := by
  refine ⟨fun {c m m'} ended => ?_⟩
  unfold attempt at ended
  cases sunk : c.sink m.writes text with
  | none | some =>
    rw [sunk] at ended
    cases ended
    exact changing.written f m _

theorem leaves_inNewFrame {α : Type} (sort : ClosureKind) (params : Value) (outer : FrameId)
    (values : List Value) (loc : Location) {k : FrameId → Eval α}
    (hk : ∀ inner, Leaves R inner (k inner)) :
    Leaves R f (bindArguments sort params outer values loc >>= k) := by
  refine ⟨fun {c m m'} ended => ?_⟩
  rw [bind_apply] at ended
  rcases bindArguments_cases sort params outer values loc c m with
    bound | ⟨e, failed⟩ | ⟨reason, failed⟩
  · rw [bound] at ended
    exact changing.inNewFrame f m outer params.items values ((hk _).run ended)
  · rw [failed] at ended
    cases ended
    exact changing.counted f m
  · rw [failed] at ended
    cases ended
    exact changing.refl f m

/-- Whatever the expression, its evaluation changes the machine in this way only. -/
theorem closed : Closed fun f _ x => Leaves R f x where
  pure _ := changing.leaves_of_eq fun _ _ => rfl
  bind := changing.leaves_bind
  raise _ _ := ⟨fun ended => Option.some.inj ended ▸ changing.counted _ _⟩
  fail _ := changing.leaves_of_eq fun _ _ => rfl
  abandon _ := changing.leaves_of_eq fun _ _ => rfl
  outOfFuel := ⟨nofun⟩
  catchError := leaves_catchError
  freshIdentity := ⟨fun ended => Option.some.inj ended ▸ changing.counted _ _⟩
  find _ _ := changing.leaves_of_eq fun _ _ => rfl
  lookup _ _ := changing.leaves_of_eq fun _ _ => rfl
  width := changing.leaves_width
  join := changing.leaves_join
  attempt := changing.leaves_attempt
  bindSymbol symbol value := ⟨fun ended => Option.some.inj ended ▸ changing.bind _ _ symbol value⟩
  assign slot value := ⟨fun ended => Option.some.inj ended ▸ changing.assign _ _ slot value⟩
  inNewFrame := changing.leaves_inNewFrame

theorem evaluate (fuel : Nat) (f : FrameId) (expr : Value) :
    Leaves R f (evaluate fuel f expr) := changing.closed.evaluate fuel f expr

/-! ### Texts and root frames -/

variable (diagnosed : ∀ (f : FrameId) (m : Machine) (err : String), R f m { m with err })
include diagnosed

theorem leaves_log (source line : String) : Leaves R f (log source line) := by
  refine ⟨fun {c m m'} ended => ?_⟩
  unfold log at ended
  rw [bind_apply] at ended
  change ((if c.verbose then _ else _ : Eval Unit) c m).machine? = some m' at ended
  split at ended
  · cases ended
    exact diagnosed f m _
  · cases ended
    exact changing.refl f m

theorem leaves_evalText (fuel : Nat) (text : List Char) (source : String) :
    Leaves R f (evalText (Eval.evaluate fuel) f text source) := by
  refine changing.leaves_bind (changing.leaves_of_eq fun _ _ => rfl) fun settings => ?_
  have forms := changing.closed.evalReading (changing.evaluate fuel) f
    (readText settings.readingWidth text source 1)
  refine changing.leaves_bind (leaves_catchError forms) fun ended => ?_
  cases ended with
  | ok v => exact changing.closed.pure v
  | error e =>
    exact changing.leaves_bind (changing.leaves_log diagnosed _ _) fun _ => changing.closed.fail e

theorem leaves_bindStandard : Leaves R f (bindStandard f) := by
  unfold bindStandard
  refine changing.leaves_bind ?_ fun _ => changing.leaves_log diagnosed _ _
  induction Operator.standard with
  | nil => exact changing.closed.pure ()
  | cons op ops ih =>
    have fresh : Leaves R f (freshNative op) :=
      changing.closed.bind changing.closed.freshIdentity fun _ => changing.closed.pure _
    refine changing.closed.bind fresh fun v => ?_
    exact changing.closed.bind (changing.closed.bindSymbol _ v) fun _ => ih

end Changing

end MiniLisp.Eval
