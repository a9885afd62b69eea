import MiniLisp.Proofs.Moments

/-!
# Evaluation keeps policies

If a policy is sound, then every evaluation in a store where it holds leaves a store where it
holds, and ends in a good value, an error at an allowed place or an allowed fault. Whatever it makes
with an identity is put on record on the way (`Moment`). The proof has one lemma for each operator,
over an arbitrary evaluator of sub-expressions that `Respects` the policy; the evaluator itself
follows by induction on the fuel.
-/

namespace MiniLisp.Policy

open Eval

variable {α β : Type} {p : Policy} {c : Context} {n : Nat} {now later : Moment}

/-! ## Computations -/

/-- The machine is safe at a later moment, of which the property holds. -/
def Reaches (p : Policy) (now : Moment) (m : Machine) (P : Moment → Prop) : Prop :=
  ∃ later, now.Le later ∧ p.SafeAt later m ∧ P later

/-- The error is on record, and it is reported at an allowed place. -/
def Raised (p : Policy) (now : Moment) (e : ErrorValue) : Prop :=
  now.made (.error e) ∧ p.reported e.loc

/-- The machine is safe after the computation, at a later moment, and what the computation ended in
is allowed then. The result may depend on the moment. -/
def Continues (p : Policy) (now : Moment) (Q : Moment → α → Prop) : Outcome α → Prop
  | .ok a m => p.Reaches now m fun later => Q later a
  | .error e m => p.Reaches now m fun later => p.Raised later e
  | .fault reason m => p.Reaches now m fun _ => p.fault reason
  | .exhausted => True

/-- From any machine that is safe at the moment the computation keeps the policy. -/
structure Triple (p : Policy) (c : Context) (now : Moment) (x : Eval α) (Q : Moment → α → Prop) :
    Prop where
  run (m : Machine) : p.SafeAt now m → p.Continues now Q (x c m)

section Reaches

variable {m : Machine} {P P' : Moment → Prop}

theorem SafeAt.reaches (safe : p.SafeAt now m) (h : P now) : p.Reaches now m P :=
  ⟨now, .refl now, safe, h⟩

theorem Reaches.mono (le : now.Le later) (h : p.Reaches later m P) : p.Reaches now m P := by
  obtain ⟨last, after, safe, holds⟩ := h
  exact ⟨last, le.trans after, safe, holds⟩

theorem Reaches.imp (h : p.Reaches now m P) (imp : ∀ later, now.Le later → P later → P' later) :
    p.Reaches now m P' := by
  obtain ⟨later, le, safe, holds⟩ := h
  exact ⟨later, le, safe, imp later le holds⟩

theorem Continues.mono (le : now.Le later) {Q : Moment → α → Prop} {o : Outcome α}
    (h : p.Continues later Q o) : p.Continues now Q o := by
  cases o with
  | exhausted => trivial
  | _ => exact Reaches.mono le h

end Reaches

namespace Triple

variable {Q : Moment → α → Prop} {R : Moment → β → Prop}

theorem continues {x : Eval α} (h : p.Triple c now x Q) {m : Machine} (safe : p.SafeAt now m)
    {o : Outcome α} (ended : x c m = o) : p.Continues now Q o := ended ▸ h.run m safe

theorem pure {a : α} (h : Q now a) : p.Triple c now (Pure.pure a) Q :=
  ⟨fun _ safe => safe.reaches h⟩

theorem bind {x : Eval α} {k : α → Eval β} (hx : p.Triple c now x Q)
    (hk : ∀ later a, now.Le later → Q later a → p.Triple c later (k a) R) :
    p.Triple c now (x >>= k) R := by
  refine ⟨fun m safe => ?_⟩
  have first := hx.run m safe
  rw [bind_apply]
  cases ended : x c m with
  | ok a m' =>
    rw [ended] at first
    obtain ⟨later, le, safe', result⟩ := first
    exact ((hk later a le result).run m' safe').mono le
  | error | fault =>
    rw [ended] at first
    exact first
  | exhausted => trivial

theorem weaken {Q' : Moment → α → Prop} {x : Eval α} (h : p.Triple c now x Q)
    (imp : ∀ later a, now.Le later → Q later a → Q' later a) : p.Triple c now x Q' := by
  refine ⟨fun m safe => ?_⟩
  have ending := h.run m safe
  cases ended : x c m with
  | ok a m' =>
    rw [ended] at ending
    exact ending.imp fun later => imp later a
  | error | fault =>
    rw [ended] at ending
    exact ending
  | exhausted => trivial

theorem raise {cause : Cause} {loc : Location} (h : p.reported loc) :
    p.Triple c now (Eval.raise cause loc) Q := by
  refine ⟨fun m safe => ?_⟩
  have made := safe.record (.error (cause.toError loc m.serial))
  exact ⟨_, Moment.le_record safe.serial rfl, made, .inr rfl, h⟩

theorem fail {e : ErrorValue} (h : p.Raised now e) : p.Triple c now (Eval.fail e) Q :=
  ⟨fun _ safe => safe.reaches h⟩

theorem abandon {reason : Fault} (h : p.fault reason) : p.Triple c now (Eval.abandon reason) Q :=
  ⟨fun _ safe => safe.reaches h⟩

theorem outOfFuel : p.Triple c now (Eval.outOfFuel (α := α)) Q := ⟨fun _ _ => trivial⟩

theorem ofExcept {result : Except Fault α} (ok : ∀ a, result = .ok a → Q now a)
    (error : ∀ reason, result = .error reason → p.fault reason) :
    p.Triple c now (Eval.ofExcept result) Q := by
  cases result with
  | ok a => exact .pure (ok a rfl)
  | error reason => exact .abandon (error reason rfl)

theorem catchError {x : Eval α} (h : p.Triple c now x Q) :
    p.Triple c now (Eval.catchError x) fun later ended => match ended with
      | .ok a => Q later a
      | .error e => p.Raised later e := by
  refine ⟨fun m safe => ?_⟩
  have ending := h.run m safe
  unfold Eval.catchError
  cases ended : x c m with
  | exhausted => trivial
  | _ =>
    rw [ended] at ending
    exact ending

theorem modifyStore {change : Store → Store}
    (frames : ∀ s : Store, (change s).nextFrame = s.nextFrame)
    (holds : ∀ s : Store, now.frames ≤ s.nextFrame → (p.within now.made).Holds s →
      (p.within now.made).Holds (change s)) :
    p.Triple c now (Eval.modifyStore change) fun _ _ => True := by
  refine ⟨fun m safe => SafeAt.reaches ⟨?_, safe.serial, ?_⟩ trivial⟩
  · simpa [frames] using safe.frames
  · exact holds m.store safe.frames safe.holds

/-- What is made with a new identity is put on record. -/
theorem fresh {make : Identity → Value} {P : Moment → Value → Prop}
    (itself : ∀ identity, (make identity).identity? = some identity)
    (made : ∀ later identity, now.Le later → later.made (make identity) →
      P later (make identity)) :
    p.Triple c now (Eval.freshIdentity >>= fun identity => Pure.pure (make identity)) P := by
  refine ⟨fun m safe => ?_⟩
  have le := Moment.le_record safe.serial (itself m.serial)
  exact ⟨_, le, safe.record _, made _ m.serial le (.inr rfl)⟩

theorem newFrame {outer : Option FrameId} (older : ∀ g, outer = some g → g < now.frames) :
    p.Triple c now (Eval.newFrame outer) fun later f => f < later.frames := by
  refine ⟨fun m safe => ?_⟩
  have more : now.frames ≤ m.store.nextFrame + 1 := Nat.le_succ_of_le safe.frames
  refine ⟨_, Moment.le_frames more, ⟨?_, safe.serial, ?_⟩, Nat.lt_succ_self _⟩
  · simp
  · exact safe.holds.newFrame fun g eq => Nat.lt_of_lt_of_le (older g eq) safe.frames

theorem find (f : FrameId) (name : String) : p.Triple c now (Eval.find f name) fun _ _ => True :=
  ⟨fun _ safe => safe.reaches trivial⟩

theorem lookup (f : FrameId) (name : String) : p.Triple c now (Eval.lookup f name)
    fun later found => ∀ b, found = some b → p.Fine later b.value := by
  refine ⟨fun m safe => ?_⟩
  refine ⟨_, Moment.le_frames safe.frames, ⟨Nat.le_refl _, safe.serial, safe.holds⟩, ?_⟩
  exact fun _ found => safe.holds.lookup? found

theorem bindSymbol (f : FrameId) {symbol value : Value} (isSymbol : symbol.isSymbol = true)
    (good : p.Fine now value) : p.Triple c now (Eval.bindSymbol f symbol value) p.Fine := by
  refine (Triple.modifyStore (by simp) fun s le holds => ?_).bind fun now₁ _ le _ => ?_
  · exact holds.bind f isSymbol (Good.mono le good)
  · exact .pure (good.mono le)

theorem assign (slot : Slot) {value : Value} (good : p.Fine now value) :
    p.Triple c now (Eval.assign slot value) p.Fine := by
  refine (Triple.modifyStore (by simp) fun s le holds => ?_).bind fun now₁ _ le _ => ?_
  · exact holds.assign slot (Good.mono le good)
  · exact .pure (good.mono le)

theorem width (sound : p.Sound c) : p.Triple c now Eval.width fun _ bits =>
    c.settings.arithmeticWidth = .ok bits := by
  refine ⟨fun m safe => ?_⟩
  unfold Eval.width
  cases asked : c.settings.arithmeticWidth with
  | ok bits => exact safe.reaches rfl
  | error reason => exact safe.reaches (sound.widthless asked)

/-- The fault of two integers that cannot be joined is allowed, if the fold would not have refused
the second one. -/
theorem join (sound : p.Sound c) {operation : Fold} {identity : Identity}
    (allowed : p.value (.native (.fold operation) identity)) {a b : Int}
    (accepted : operation.refusesZero = true → b ≠ 0) :
    p.Triple c now (Eval.join operation a b) fun _ _ => True := by
  refine ⟨fun m safe => ?_⟩
  unfold Eval.join
  cases joined : operation.join c.operations a b with
  | ok i => exact safe.reaches trivial
  | error reason => exact safe.reaches (sound.unjoined allowed accepted joined)

/-- A value without too long an integer is printed, and the fault of any other is allowed. -/
theorem printed (sound : p.Sound c) {v : Value} (good : p.Fine now v) :
    p.Triple c now (Eval.printed v) fun _ _ => True := by
  refine .ofExcept (fun _ _ => trivial) fun reason failed => ?_
  unfold Value.written at failed
  split at failed
  · next long =>
    cases failed
    exact sound.within.unwritten good.every long
  · cases failed

/-- A good value is a result; a good error ends the computation. -/
theorem settle (sound : p.Sound c) {v : Value} (good : p.Fine now v) :
    p.Triple c now (Eval.settle v) p.Fine := by
  cases v with
  | error e => exact .fail ⟨good.value.2 rfl, good.reported sound.within⟩
  | _ => exact .pure good

/-! ## Output -/

theorem attempt (text : String) : p.Triple c now (Eval.attempt text) fun _ _ => True := by
  refine ⟨fun m safe => ?_⟩
  unfold Eval.attempt
  cases c.sink m.writes text with
  | none | some => exact SafeAt.reaches ⟨safe.frames, safe.serial, safe.holds⟩ trivial

theorem write {loc : Location} (text : String) (reported : p.reported loc) :
    p.Triple c now (Eval.write text loc) fun _ v => v = .nil loc := by
  refine (Triple.attempt text).bind fun now₁ failure _ _ => ?_
  cases failure with
  | none => exact .pure rfl
  | some reason => exact .raise reported

theorem writeValue (sound : p.Sound c) {v : Value} (good : p.Fine now v) :
    p.Triple c now (Eval.writeValue v) fun _ _ => True := by
  have reported : p.reported v.loc := good.reported sound.within
  unfold Eval.writeValue
  split
  · exact .raise reported
  · exact (Triple.write v.text reported).weaken fun _ _ _ _ => trivial

theorem complain (line : String) : p.Triple c now (Eval.complain line) fun _ _ => True :=
  ⟨fun _ safe => SafeAt.reaches ⟨safe.frames, safe.serial, safe.holds⟩ trivial⟩

theorem verbose : p.Triple c now Eval.verbose fun _ _ => True :=
  ⟨fun _ safe => safe.reaches trivial⟩

theorem log (source line : String) : p.Triple c now (Eval.log source line) fun _ _ => True := by
  refine Triple.verbose.bind fun now₁ wanted _ _ => ?_
  cases wanted with
  | false => exact .pure trivial
  | true => exact .complain _

end Triple

/-! ## Operators -/

/-- The evaluator keeps the policy on good expressions in existing frames, and its results are
good. -/
def Respects (p : Policy) (c : Context) (ev : Evaluator) : Prop :=
  ∀ {now : Moment} {f : FrameId} {expr : Value}, f < now.frames → p.Fine now expr →
    p.Triple c now (ev f expr) p.Fine

section Operators

variable {ev : Evaluator} {f : FrameId} {args : Value}

theorem triple_oneArgument (sound : p.Sound c) (operator : String) (good : p.Fine now args) :
    p.Triple c now (oneArgument operator args) p.Fine := by
  unfold oneArgument
  split
  · exact .pure good.first
  · exact .raise (good.reported sound.within)

theorem triple_twoArguments (sound : p.Sound c) (operator : String) (good : p.Fine now args) :
    p.Triple c now (twoArguments operator args) fun later pair =>
      p.Fine later pair.1 ∧ p.Fine later pair.2 ∧ args.isLink = true := by
  unfold twoArguments
  split
  · exact .pure ⟨good.first, good.rest.first, rfl⟩
  · exact .raise (good.reported sound.within)

variable (respects : p.Respects c ev) (inside : f < now.frames) (good : p.Fine now args)
include respects inside good

theorem Respects.evalArguments (sound : p.Sound c) : p.Triple c now (evalArguments ev f args)
    fun later values => args.isLink = true ∧ ∀ v ∈ values, p.Fine later v := by
  induction args generalizing now with
  | cell first rest loc _ ih =>
    unfold Eval.evalArguments
    refine (respects inside good.first).bind fun now₁ v le₁ goodV => ?_
    have others := ih (le₁.inside inside) (good.mono le₁).rest
    refine others.bind fun now₂ vs le₂ goodVs => ?_
    exact .pure ⟨rfl, List.forall_mem_cons.mpr ⟨goodV.mono le₂, goodVs.2⟩⟩
  | nil loc => exact .pure ⟨rfl, fun w mem => absurd mem List.not_mem_nil⟩
  | _ => exact .raise (good.reported sound.within)

theorem Respects.evalThen (sound : p.Sound c) {expr : Value} (goodExpr : p.Fine now expr) :
    p.Triple c now (evalThen ev f expr args) p.Fine := by
  induction args generalizing now expr with
  | cell first rest loc _ ih =>
    unfold Eval.evalThen
    refine (respects inside goodExpr).bind fun now₁ _ le₁ _ => ?_
    exact ih (le₁.inside inside) (good.mono le₁).rest (good.mono le₁).first
  | nil loc => exact respects inside goodExpr
  | _ =>
    refine (respects inside goodExpr).bind fun now₁ _ le₁ _ => ?_
    exact .raise (good.reported sound.within)

theorem Respects.evalBody (sound : p.Sound c) : p.Triple c now (evalBody ev f args) p.Fine := by
  unfold Eval.evalBody
  split
  · exact respects.evalThen inside good.rest sound good.first
  · exact .raise (good.reported sound.within)

/-! ### Cells and quotation -/

omit respects inside in
theorem triple_quote (sound : p.Sound c) : p.Triple c now (quote args) p.Fine :=
  (triple_oneArgument sound "quote" good).bind fun _ _ _ goodV => .settle sound goodV

theorem Respects.cons (sound : p.Sound c) : p.Triple c now (cons ev f args) p.Fine := by
  refine (triple_twoArguments sound "cons" good).bind fun now₁ ⟨firstExpr, restExpr⟩ le₁ goods => ?_
  obtain ⟨goodFirst, goodRest, link⟩ := goods
  have inside₁ := le₁.inside inside
  refine (respects inside₁ goodFirst).bind fun now₂ first le₂ goodFirst => ?_
  have inside₂ := le₂.inside inside₁
  refine (respects inside₂ (goodRest.mono le₂)).bind fun now₃ rest le₃ goodRest => ?_
  exact .pure (good_cell sound.within (goodFirst.mono le₃) goodRest (good.place sound.within link))

theorem Respects.evalCell (sound : p.Sound c) (operator : String) :
    p.Triple c now (evalCell ev operator f args) fun later halves =>
      p.Fine later halves.1 ∧ p.Fine later halves.2 := by
  refine (triple_oneArgument sound operator good).bind fun now₁ expr le₁ goodExpr => ?_
  refine (respects (le₁.inside inside) goodExpr).bind fun now₂ v le₂ goodV => ?_
  cases v with
  | cell first rest loc => exact .pure ⟨goodV.first, goodV.rest⟩
  | _ => exact .raise (goodExpr.reported sound.within)

theorem Respects.car (sound : p.Sound c) : p.Triple c now (car ev f args) p.Fine :=
  (respects.evalCell inside good sound "car").bind fun _ _ _ goods => .settle sound goods.1

theorem Respects.cdr (sound : p.Sound c) : p.Triple c now (cdr ev f args) p.Fine :=
  (respects.evalCell inside good sound "cdr").bind fun _ _ _ goods => .settle sound goods.2

/-! ### Arithmetic -/

omit respects inside good in
theorem triple_integers (sound : p.Sound c) (operator : String) {values : List Value}
    (goods : ∀ v ∈ values, p.Fine now v) : p.Triple c now (integers operator values)
      fun _ is => ∀ i ∈ is, p.integer i := by
  induction values generalizing now with
  | nil => exact .pure fun i mem => absurd mem List.not_mem_nil
  | cons v vs ih =>
    have goodV := goods v List.mem_cons_self
    cases v with
    | integer i loc =>
      unfold integers
      refine (ih fun w mem => goods w (List.mem_cons_of_mem _ mem)).bind fun now₁ is _ allowed => ?_
      exact .pure (List.forall_mem_cons.mpr ⟨sound.within.integer_of goodV.value, allowed⟩)
    | _ => exact .raise (goodV.reported sound.within)

theorem Respects.evalIntegers (sound : p.Sound c) (operator : String) :
    p.Triple c now (evalIntegers ev operator f args) fun _ is =>
      args.isLink = true ∧ ∀ i ∈ is, p.integer i := by
  refine (respects.evalArguments inside good sound).bind fun now₁ values _ goods => ?_
  exact (triple_integers sound operator goods.2).weaken fun _ is _ allowed => ⟨goods.1, allowed⟩

omit respects inside good in
theorem triple_joinAll (sound : p.Sound c) {operation : Fold} {identity : Identity}
    (allowed : p.value (.native (.fold operation) identity)) {loc : Location}
    (reported : p.reported loc) {acc : Int} (accAllowed : p.integer acc) (ns : List Int) :
    p.Triple c now (joinAll operation loc acc ns) fun _ i => p.integer i := by
  induction ns generalizing acc now with
  | nil => exact .pure accAllowed
  | cons i is ih =>
    unfold joinAll
    split
    · exact .raise reported
    · next accepted =>
      have nonzero (refuses : operation.refusesZero = true) : i ≠ 0 := by
        rintro rfl
        simp [refuses] at accepted
      refine (Triple.join sound allowed nonzero).bind fun now₁ joined _ _ => ?_
      refine (Triple.width sound).bind fun now₂ bits _ asked => ?_
      exact ih (sound.wrapped joined asked)

theorem Respects.fold (sound : p.Sound c) {operation : Fold} {identity : Identity}
    (allowed : p.value (.native (.fold operation) identity)) :
    p.Triple c now (fold ev operation f args) p.Fine := by
  have reported := good.reported sound.within
  refine (respects.evalIntegers inside good sound operation.name).bind fun now₁ is _ found => ?_
  have place := good.place sound.within found.1
  cases is with
  | nil => exact .pure (good_integer sound.within sound.zero place)
  | cons i is =>
    have first : p.integer i := found.2 i List.mem_cons_self
    refine (triple_joinAll sound allowed reported first is).bind fun now₂ result _ fits => ?_
    exact .pure (good_integer sound.within fits place)

omit respects inside good in
theorem good_verdict (sound : p.Sound c) (holds : Bool) {loc : Location} (place : p.place loc) :
    p.Fine now (verdict holds loc) := by
  cases holds with
  | false => exact good_nil sound.within place
  | true => exact good_truth sound.within place

theorem Respects.equal (sound : p.Sound c) : p.Triple c now (equal ev f args) p.Fine := by
  refine (respects.evalIntegers inside good sound "=").bind fun now₁ is _ found => ?_
  exact .pure (good_verdict sound _ (good.place sound.within found.1))

theorem Respects.less (sound : p.Sound c) : p.Triple c now (less ev f args) p.Fine := by
  refine (respects.evalIntegers inside good sound "<").bind fun now₁ is _ found => ?_
  exact .pure (good_verdict sound _ (good.place sound.within found.1))

/-! ### Branches and loops -/

theorem Respects.branch (sound : p.Sound c) : p.Triple c now (branch ev f args) p.Fine := by
  unfold Eval.branch
  split
  · next condition consequence alternative _ loc =>
    refine (respects inside good.first).bind fun now₁ test le₁ _ => ?_
    have inside₁ := le₁.inside inside
    split
    · exact respects inside₁ (good.mono le₁).rest.first
    · split
      · exact .pure (good_nil sound.within (good.place sound.within rfl))
      · exact respects.evalBody inside₁ (good.mono le₁).rest.rest sound
  · exact .raise (good.reported sound.within)

omit good in
theorem Respects.repeatWhile (sound : p.Sound c) {condition body last : Value}
    (goodCondition : p.Fine now condition) (goodBody : p.Fine now body) (goodLast : p.Fine now last)
    (fuel : Nat) : p.Triple c now (repeatWhile ev f condition body fuel last) p.Fine := by
  induction fuel generalizing now last with
  | zero => exact .outOfFuel
  | succ fuel ih =>
    unfold Eval.repeatWhile
    refine (respects inside goodCondition).bind fun now₁ test le₁ _ => ?_
    have inside₁ := le₁.inside inside
    split
    · refine (respects.evalBody inside₁ (goodBody.mono le₁) sound).bind fun now₂ v le₂ goodV => ?_
      have le := le₁.trans le₂
      exact ih (le.inside inside) (goodCondition.mono le) (goodBody.mono le) goodV
    · exact .pure (goodLast.mono le₁)

theorem Respects.loop (sound : p.Sound c) (fuel : Nat) :
    p.Triple c now (loop ev fuel f args) p.Fine := by
  unfold Eval.loop
  split
  · exact respects.repeatWhile inside sound good.first good.rest
      (good_nil sound.within (good.place sound.within rfl)) fuel
  · exact .raise (good.reported sound.within)

/-! ### Assignment -/

omit good in
theorem Respects.assignTarget {target expr : Value} {loc : Location} (reported : p.reported loc)
    (goodExpr : p.Fine now expr) : p.Triple c now (assignTarget ev f target loc expr) p.Fine := by
  unfold Eval.assignTarget
  split
  · next name symbolLoc =>
    refine (Triple.find f name).bind fun now₁ slot le₁ _ => ?_
    have inside₁ := le₁.inside inside
    refine (respects inside₁ (goodExpr.mono le₁)).bind fun now₂ v le₂ goodV => ?_
    cases slot with
    | none => exact .bindSymbol f rfl goodV
    | some slot => exact .assign slot goodV
  · exact .raise reported

theorem Respects.set (sound : p.Sound c) : p.Triple c now (set ev f args) p.Fine := by
  refine (triple_twoArguments sound "set" good).bind fun now₁ ⟨targetExpr, expr⟩ le₁ goods => ?_
  obtain ⟨goodTarget, goodExpr, _⟩ := goods
  have inside₁ := le₁.inside inside
  refine (respects inside₁ goodTarget).bind fun now₂ target le₂ _ => ?_
  exact respects.assignTarget (le₂.inside inside₁) (goodTarget.reported sound.within)
    (goodExpr.mono le₂)

theorem Respects.setq (sound : p.Sound c) : p.Triple c now (setq ev f args) p.Fine := by
  refine (triple_twoArguments sound "setq" good).bind fun now₁ ⟨quoted, expr⟩ le₁ goods => ?_
  obtain ⟨goodQuoted, goodExpr, _⟩ := goods
  refine (Triple.settle sound goodQuoted).bind fun now₂ target le₂ _ => ?_
  exact respects.assignTarget ((le₁.trans le₂).inside inside)
    (goodQuoted.reported sound.within) (goodExpr.mono le₂)

/-! ### Printing -/

omit respects inside good in
theorem triple_writeValues (sound : p.Sound c) {values : List Value}
    (goods : ∀ v ∈ values, p.Fine now v) :
    p.Triple c now (writeValues values) fun _ _ => True := by
  induction values generalizing now with
  | nil => exact .pure trivial
  | cons v vs ih =>
    refine (Triple.writeValue sound (goods v List.mem_cons_self)).bind fun now₁ _ le₁ _ => ?_
    exact ih fun w mem => (goods w (List.mem_cons_of_mem v mem)).mono le₁

/-- What is printed in the end is nil at the arguments, which then are a list. -/
theorem Respects.print (sound : p.Sound c) : p.Triple c now (print ev f args) fun later v =>
    args.isLink = true ∧ p.Fine later v := by
  refine (respects.evalArguments inside good sound).bind fun now₁ values _ goods => ?_
  refine (triple_writeValues sound goods.2).bind fun now₂ _ _ _ => ?_
  exact .pure ⟨goods.1, good_nil sound.within (good.place sound.within goods.1)⟩

theorem Respects.println (sound : p.Sound c) : p.Triple c now (println ev f args) p.Fine := by
  have newline (later : Moment) :
      p.Triple c later (Eval.write "\n" args.loc) fun _ v => v = .nil args.loc :=
    .write "\n" (good.reported sound.within)
  refine (respects.print inside good sound).catchError.bind fun now₁ printed _ ended => ?_
  cases printed with
  | ok v =>
    refine (newline now₁).weaken fun now₂ v _ eq => ?_
    subst eq
    exact good_nil sound.within (good.place sound.within ended.1)
  | error e =>
    refine (newline now₁).catchError.bind fun now₂ _ le₂ _ => ?_
    exact .fail ⟨le₂.made ended.1, ended.2⟩

/-! ### Closures -/

omit respects good in
theorem triple_makeClosure (sound : p.Sound c) (sort : ClosureKind) {params body : Value}
    {loc : Location} (goodParams : p.Fine now params) (goodBody : p.Fine now body)
    (place : p.place loc) (reported : p.reported loc) :
    p.Triple c now (makeClosure sort f params body loc) p.Fine := by
  unfold makeClosure
  split
  · exact .raise reported
  · next malformed =>
    have lists : params.isList = true ∧ body.isList = true := by simpa using malformed
    split
    · next param found =>
      have goodParam := goodParams.items param (List.mem_of_find?_eq_some found)
      exact .raise (goodParam.reported sound.within)
    · next none =>
      have symbols : ∀ v ∈ params.items, v.isSymbol = true := by
        simpa using List.find?_eq_none.mp none
      refine .fresh (fun _ => rfl) fun now₁ identity le made => ?_
      have formed : (Value.closure sort params body f loc identity).Made now₁.frames :=
        ⟨lists.1, lists.2, symbols, le.inside inside⟩
      have allowed := sound.closure sort params body f identity place
      exact ⟨⟨formed, allowed, fun _ => made⟩, goodParams.mono le, goodBody.mono le⟩

omit respects in
theorem triple_makeFunction (sound : p.Sound c) : p.Triple c now (makeFunction f args) p.Fine := by
  unfold makeFunction
  split
  · split
    · have made := triple_makeClosure inside sound .function good.rest.first good.rest.rest
        (good.rest.place sound.within rfl) (good.rest.reported sound.within)
      exact made.bind fun now₁ v le₁ goodV => .bindSymbol f rfl goodV
    · exact .raise (good.reported sound.within)
  · exact triple_makeClosure inside sound .function good.first good.rest
      (good.place sound.within rfl) (good.reported sound.within)
  · exact .raise (good.reported sound.within)

omit respects in
theorem triple_makeExpander (sound : p.Sound c) : p.Triple c now (makeExpander f args) p.Fine := by
  unfold makeExpander
  split
  · exact triple_makeClosure inside sound .expander good.first good.rest
      (good.place sound.within rfl) (good.reported sound.within)
  · exact .raise (good.reported sound.within)

omit respects inside good in
theorem triple_bindArguments (sound : p.Sound c) (sort : ClosureKind) {params : Value}
    {outer : FrameId} {values : List Value} {loc : Location} (goodParams : p.Fine now params)
    (symbols : ∀ v ∈ params.items, v.isSymbol = true) (older : outer < now.frames)
    (goods : ∀ v ∈ values, p.Fine now v) (reported : p.reported loc) :
    p.Triple c now (bindArguments sort params outer values loc) fun later inner =>
      inner < later.frames := by
  unfold bindArguments
  dsimp only
  split
  · have outside (g : FrameId) (eq : some outer = some g) : g < now.frames :=
      Option.some.inj eq ▸ older
    refine (Triple.newFrame outside).bind fun now₁ inner le₁ new => ?_
    refine (Triple.modifyStore (by simp) fun s le holds => ?_).bind fun now₂ _ le₂ _ => ?_
    · exact holds.bindAll inner symbols fun v mem => Good.mono le ((goods v mem).mono le₁)
    · exact .pure (le₂.inside new)
  · exact (Triple.printed sound goodParams).bind fun _ _ _ _ => .raise reported

/-- A closure that `fn` or `macro` made is called: its parameters can be bound, and the frame it
was made in exists. -/
theorem Respects.call (sound : p.Sound c) {sort : ClosureKind} {params body : Value}
    {outer : FrameId} {place loc : Location} {identity : Identity}
    (goodHead : p.Fine now (.closure sort params body outer place identity))
    (reported : p.reported loc) :
    p.Triple c now (call ev f sort params body outer args loc) p.Fine := by
  obtain ⟨_, _, symbols, older⟩ := goodHead.1.1
  unfold Eval.call
  split
  · refine (respects.evalArguments inside good sound).bind fun now₁ values le₁ goods => ?_
    have bound := triple_bindArguments (c := c) sound .function (goodHead.mono le₁).params symbols
      (le₁.inside older) goods.2 reported
    refine bound.bind fun now₂ inner le₂ new => ?_
    exact respects.evalBody new (goodHead.mono (le₁.trans le₂)).body sound
  · split
    · have bound := triple_bindArguments (c := c) sound .expander goodHead.params symbols older
        good.items reported
      refine bound.bind fun now₁ inner le₁ new => ?_
      have run := respects.evalBody new (goodHead.mono le₁).body sound
      refine run.bind fun now₂ code le₂ goodCode => ?_
      exact respects ((le₁.trans le₂).inside inside) goodCode
    · exact .raise reported

/-! ### All operators -/

theorem Respects.operate (sound : p.Sound c) (fuel : Nat) {op : Operator} {identity : Identity}
    (allowed : p.value (.native op identity)) :
    p.Triple c now (operate ev fuel f op args) p.Fine := by
  cases op with
  | progn => exact respects.evalBody inside good sound
  | makeExpander => exact triple_makeExpander inside good sound
  | loop => exact respects.loop inside good sound fuel
  | quote => exact triple_quote good sound
  | setq => exact respects.setq inside good sound
  | set => exact respects.set inside good sound
  | fn => exact triple_makeFunction inside good sound
  | branch => exact respects.branch inside good sound
  | println => exact respects.println inside good sound
  | print => exact (respects.print inside good sound).weaken fun _ _ _ ended => ended.2
  | cons => exact respects.cons inside good sound
  | car => exact respects.car inside good sound
  | cdr => exact respects.cdr inside good sound
  | fold operation => exact respects.fold inside good sound allowed
  | equal => exact respects.equal inside good sound
  | less => exact respects.less inside good sound

end Operators

/-! ## The evaluator -/

variable {ev : Evaluator} {f : FrameId}

/-- The form of a call is a cell, so what it names can be told if it cannot be called. -/
theorem Respects.apply (respects : p.Respects c ev) (sound : p.Sound c) (fuel : Nat)
    (inside : f < now.frames) {first rest head : Value} {loc : Location}
    (goodForm : p.Fine now (.cell first rest loc)) (goodHead : p.Fine now head) :
    p.Triple c now (apply ev fuel f head rest (.cell first rest loc)) p.Fine := by
  have reported : p.reported loc := goodForm.reported sound.within
  unfold Eval.apply
  split
  · exact respects.operate inside goodForm.rest sound fuel goodHead.value.1
  · exact respects.call inside goodForm.rest sound goodHead reported
  · exact (Triple.printed sound goodForm.first).bind fun _ _ _ _ => .raise reported

theorem Respects.evalStep (respects : p.Respects c ev) (sound : p.Sound c) (fuel : Nat) :
    p.Respects c (evalStep ev fuel) := by
  intro now f expr inside good
  unfold Eval.evalStep
  split
  · next name loc =>
    refine (Triple.lookup f name).bind fun now₁ found _ goods => ?_
    cases found with
    | some b => exact .settle sound (goods b rfl)
    | none => exact .raise (good.reported sound.within)
  · next first rest loc =>
    refine (respects inside good.first).bind fun now₁ head le₁ goodHead => ?_
    exact respects.apply sound fuel (le₁.inside inside) (good.mono le₁) goodHead
  · exact .settle sound good

/-- Evaluation keeps every sound policy. -/
theorem Sound.respects_evaluate (sound : p.Sound c) (fuel : Nat) :
    p.Respects c (evaluate fuel) := by
  induction fuel with
  | zero => exact fun _ _ => .outOfFuel
  | succ fuel ih => exact ih.evalStep sound fuel

/-! ## Without a record -/

/-- The machine is safe after the computation, and what it ended in is allowed. The result may
depend on the number of frames. -/
def Keeps (p : Policy) (n : Nat) (Q : Nat → α → Prop) : Outcome α → Prop
  | .ok a m => p.Safe n m ∧ Q m.store.nextFrame a
  | .error e m => p.Safe n m ∧ p.reported e.loc
  | .fault reason m => p.Safe n m ∧ p.fault reason
  | .exhausted => True

theorem Continues.keeps {Q : Moment → α → Prop} {R : Nat → α → Prop} {o : Outcome α}
    (h : p.Continues now Q o)
    (imp : ∀ later n a, later.frames ≤ n → Q later a → R n a) : p.Keeps now.frames R o := by
  cases o with
  | ok a m =>
    obtain ⟨later, le, safe, result⟩ := h
    exact ⟨safe.safe le.frames, imp later _ a safe.frames result⟩
  | error e m =>
    obtain ⟨later, le, safe, raised⟩ := h
    exact ⟨safe.safe le.frames, raised.2⟩
  | fault reason m =>
    obtain ⟨later, le, safe, allowed⟩ := h
    exact ⟨safe.safe le.frames, allowed⟩
  | exhausted => trivial

/-- A computation that keeps the policy while a record is kept does so without one. -/
theorem Triple.keeps {Q : Moment → α → Prop} {R : Nat → α → Prop} {x : Eval α}
    (h : p.Triple c (.unrecorded n) x Q)
    (imp : ∀ later n a, later.frames ≤ n → Q later a → R n a) {m : Machine} (safe : p.Safe n m)
    {o : Outcome α} (ended : x c m = o) : p.Keeps n R o :=
  (h.continues safe.unrecorded ended).keeps imp

theorem Sound.keeps_evaluate (sound : p.Sound c) (fuel : Nat) (inside : f < n) {expr : Value}
    (good : p.Good n expr) {m : Machine} (safe : p.Safe n m) {o : Outcome Value}
    (ended : evaluate fuel f expr c m = o) : p.Keeps n p.Good o := by
  have triple : p.Triple c (.unrecorded n) (evaluate fuel f expr) p.Fine :=
    sound.respects_evaluate fuel inside good.fine
  exact triple.keeps (fun _ _ _ le fine => fine.good le) safe ended

end MiniLisp.Policy
