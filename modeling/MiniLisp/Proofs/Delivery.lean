import MiniLisp.Proofs.FirstError
import MiniLisp.Proofs.Sessions
import MiniLisp.Sink

/-!
# What printing delivers

Standard output takes each write whole or not at all, and it may refuse any of them. `print` writes
its values one after the other and stops at the first that is refused, so what has been delivered is
the printed forms of the values before that one.

`println` does not stop there: it tries to write its newline in any case, also after an error of its
arguments. The error is still the outcome, but a newline may have been written after it.

* `Context.refusal?`, `Context.Delivers`: which values are taken, as the writes turn out;
* `Eval.writeValues_of_delivers`, `Eval.writeValues_of_refused`: writing values;
* `Eval.printing_delivers`: the result, for both operators;
* `Eval.newline_after_error`: what `println` writes too much.
-/

namespace MiniLisp

/-- Why the `n`-th write does not deliver the value, if it does not. A value whose printed form
needs too long an integer is not written at all. -/
def Context.refusal? (c : Context) (n : Nat) (v : Value) : Option String :=
  if v.hasLongInteger then some Fault.integerTooLong.message else c.sink n v.text

/-- Every value is delivered by a write of its own, the first of them by the `n`-th. -/
def Context.Delivers (c : Context) (n : Nat) (vs : List Value) : Prop :=
  ∀ p ∈ vs.zipIdx n, c.refusal? p.2 p.1 = none

instance (c : Context) (n : Nat) (vs : List Value) : Decidable (c.Delivers n vs) :=
  inferInstanceAs (Decidable (∀ p ∈ vs.zipIdx n, c.refusal? p.2 p.1 = none))

namespace Machine

/-- The machine after the values have been delivered. -/
def delivered (m : Machine) (vs : List Value) : Machine :=
  { m with out := m.out ++ String.join (vs.map Value.text), writes := m.writes + vs.length }

/-- The machine after the value has been refused. The error takes an identity. -/
def refused (m : Machine) (v : Value) : Machine :=
  { m with
    serial := m.serial + 1
    writes := if v.hasLongInteger then m.writes else m.writes + 1 }

theorem delivered_nil (m : Machine) : m.delivered [] = m := by
  simp [delivered]

theorem delivered_cons (m : Machine) (v : Value) (vs : List Value) :
    m.delivered (v :: vs) = (m.delivered [v]).delivered vs := by
  simp [delivered, String.append_assoc, Nat.add_assoc, Nat.add_comm 1]

end Machine

namespace Context

variable {c : Context} {n : Nat}

theorem delivers_nil (c : Context) (n : Nat) : c.Delivers n [] := by
  simp [Delivers]

theorem delivers_cons {v : Value} {vs : List Value} :
    c.Delivers n (v :: vs) ↔ c.refusal? n v = none ∧ c.Delivers (n + 1) vs := by
  simp [Delivers, List.zipIdx_cons]

/-- Values are all delivered, or there is a first one that is refused. -/
theorem delivers_or_refused (c : Context) (n : Nat) (vs : List Value) :
    c.Delivers n vs ∨ ∃ before v after reason, vs = before ++ v :: after ∧ c.Delivers n before ∧
      c.refusal? (n + before.length) v = some reason := by
  induction vs generalizing n with
  | nil => exact .inl (delivers_nil c n)
  | cons v vs ih =>
    cases here : c.refusal? n v with
    | some reason => exact .inr ⟨[], v, vs, reason, rfl, delivers_nil c n, here⟩
    | none =>
      rcases ih (n + 1) with all | ⟨before, w, after, reason, rfl, delivered, refused⟩
      · exact .inl (delivers_cons.mpr ⟨here, all⟩)
      · refine .inr ⟨v :: before, w, after, reason, rfl, delivers_cons.mpr ⟨here, delivered⟩, ?_⟩
        rw [List.length_cons, Nat.add_comm before.length 1, ← Nat.add_assoc]
        exact refused

end Context

namespace Eval

variable {c : Context} {m m₁ : Machine} {v : Value} {vs before : List Value} {reason : String}
  {ev : Evaluator} {f : FrameId} {args : Value} {e : ErrorValue}

/-! ## Writing values -/

theorem attempt_of_none {text : String} (taken : c.sink m.writes text = none) :
    attempt text c m = .ok none { m with out := m.out ++ text, writes := m.writes + 1 } := by
  unfold attempt
  rw [taken]

theorem attempt_of_some {text : String} (refused : c.sink m.writes text = some reason) :
    attempt text c m = .ok (some reason) { m with writes := m.writes + 1 } := by
  unfold attempt
  rw [refused]

theorem writeValue_of_delivered (delivered : c.refusal? m.writes v = none) :
    writeValue v c m = .ok (.nil v.loc) (m.delivered [v]) := by
  unfold Context.refusal? at delivered
  split at delivered
  · cases delivered
  · next short =>
    have machine : m.delivered [v] = { m with out := m.out ++ v.text, writes := m.writes + 1 } := by
      simp [Machine.delivered]
    unfold writeValue
    rw [if_neg short, machine]
    exact bind_of_ok (attempt_of_none delivered)

theorem writeValue_of_refused (refused : c.refusal? m.writes v = some reason) :
    writeValue v c m =
      .error ((Cause.unwritable reason).toError v.loc m.serial) (m.refused v) := by
  unfold Context.refusal? at refused
  unfold writeValue Machine.refused
  split at refused
  · next long =>
    cases refused
    rw [if_pos long, if_pos long]
    rfl
  · next short =>
    rw [if_neg short, if_neg short]
    exact bind_of_ok (attempt_of_some refused)

theorem writeValues_of_delivers (delivers : c.Delivers m.writes vs) :
    writeValues vs c m = .ok () (m.delivered vs) := by
  induction vs generalizing m with
  | nil =>
    rw [m.delivered_nil]
    rfl
  | cons v vs ih =>
    obtain ⟨here, later⟩ := Context.delivers_cons.mp delivers
    rw [m.delivered_cons]
    exact (bind_of_ok (writeValue_of_delivered here)).trans (ih later)

/-- The first value that is refused ends the writing. Those after it are not looked at. -/
theorem writeValues_of_refused (delivers : c.Delivers m.writes before)
    (refused : c.refusal? (m.writes + before.length) v = some reason) (after : List Value) :
    writeValues (before ++ v :: after) c m =
      .error ((Cause.unwritable reason).toError v.loc m.serial)
        ((m.delivered before).refused v) := by
  induction before generalizing m with
  | nil =>
    rw [m.delivered_nil]
    exact error_of_bind (writeValue_of_refused refused)
  | cons w before ih =>
    obtain ⟨here, later⟩ := Context.delivers_cons.mp delivers
    have refusedLater : c.refusal? ((m.delivered [w]).writes + before.length) v = some reason := by
      rw [List.length_cons, Nat.add_comm before.length 1, ← Nat.add_assoc] at refused
      exact refused
    rw [m.delivered_cons]
    exact (bind_of_ok (writeValue_of_delivered here)).trans (ih later refusedLater)

/-! ## The operators -/

/-- The elements of a list that is not proper have no list of values. -/
theorem evalArguments_ne_ok (improper : args.isList = false) (vs : List Value) (m₁ : Machine) :
    evalArguments ev f args c m ≠ .ok vs m₁ := by
  induction args generalizing m vs m₁ with
  | nil => cases improper
  | cell first rest loc _ ih =>
    intro ended
    obtain ⟨v, m₂, -, later⟩ := exists_ok_of_bind ended
    obtain ⟨ws, m₃, evaluated, -⟩ := exists_ok_of_bind later
    exact ih improper ws m₃ evaluated
  | _ => nofun

theorem print_of_delivers (evaluated : evalArguments ev f args c m = .ok vs m₁)
    (delivers : c.Delivers m₁.writes vs) :
    print ev f args c m = .ok (.nil args.loc) (m₁.delivered vs) :=
  (bind_of_ok evaluated).trans (bind_of_ok (writeValues_of_delivers delivers))

theorem print_of_refused {after : List Value}
    (evaluated : evalArguments ev f args c m = .ok (before ++ v :: after) m₁)
    (delivers : c.Delivers m₁.writes before)
    (refused : c.refusal? (m₁.writes + before.length) v = some reason) :
    print ev f args c m =
      .error ((Cause.unwritable reason).toError v.loc m₁.serial)
        ((m₁.delivered before).refused v) :=
  (bind_of_ok evaluated).trans (error_of_bind (writeValues_of_refused delivers refused after))

/-- After `print` has come to its end, `println` ends as the writing of its newline does. -/
theorem println_of_ok (printed : print ev f args c m = .ok v m₁) :
    println ev f args c m = writeNewline args.loc c m₁ := by
  have caught : catchError (print ev f args) c m = .ok (.ok v) m₁ := by
    unfold catchError
    rw [printed]
  exact bind_of_ok caught

theorem newlined_of_none (taken : c.sink m.writes "\n" = none) :
    newlined c m = { m with out := m.out ++ "\n", writes := m.writes + 1 } := by
  unfold newlined
  rw [taken]

theorem newlined_of_some (refused : c.sink m.writes "\n" = some reason) :
    newlined c m = { m with serial := m.serial + 1, writes := m.writes + 1 } := by
  unfold newlined
  rw [refused]

theorem writeNewline_of_none (taken : c.sink m.writes "\n" = none) (loc : Location) :
    writeNewline loc c m = .ok (.nil loc) (newlined c m) := by
  rw [newlined_of_none taken]
  exact bind_of_ok (attempt_of_none taken)

theorem writeNewline_of_some (refused : c.sink m.writes "\n" = some reason) (loc : Location) :
    writeNewline loc c m =
      .error ((Cause.unwritable reason).toError loc m.serial) (newlined c m) := by
  rw [newlined_of_some refused]
  exact bind_of_ok (attempt_of_some refused)

/-- The newline is in the output unless its write is refused. -/
theorem out_newlined_eq_iff (c : Context) (m : Machine) :
    (newlined c m).out = m.out ↔ c.sink m.writes "\n" ≠ none := by
  cases written : c.sink m.writes "\n" with
  | none =>
    rw [newlined_of_none written]
    simp [String.append_eq_left_iff]
  | some reason =>
    rw [newlined_of_some written]
    simp

/-- What `print` and `println` deliver, however the writes turn out.

* An error of the arguments is the outcome, and an improper list is such an error. `print` writes
  nothing, `println` its newline.
* Otherwise the values are delivered up to the first that is refused, and the error is that of the
  refused write. `print` stops there, `println` writes its newline.
* If every value is delivered, the result is nil, unless `println` cannot write its newline.
* The newline is in the output unless its own write is refused. -/
theorem printing_delivers (ev : Evaluator) (f : FrameId) (args : Value) (c : Context)
    (m : Machine) :
    (args.isList = false → ∀ vs m₁, evalArguments ev f args c m ≠ .ok vs m₁) ∧
    (∀ e m₁, evalArguments ev f args c m = .error e m₁ →
      print ev f args c m = .error e m₁ ∧ println ev f args c m = .error e (newlined c m₁)) ∧
    (∀ vs m₁, evalArguments ev f args c m = .ok vs m₁ →
      (c.Delivers m₁.writes vs ∨ ∃ before v after reason, vs = before ++ v :: after ∧
        c.Delivers m₁.writes before ∧
        c.refusal? (m₁.writes + before.length) v = some reason) ∧
      (c.Delivers m₁.writes vs →
        print ev f args c m = .ok (.nil args.loc) (m₁.delivered vs) ∧
        (c.sink (m₁.writes + vs.length) "\n" = none →
          println ev f args c m = .ok (.nil args.loc) (newlined c (m₁.delivered vs))) ∧
        ∀ reason, c.sink (m₁.writes + vs.length) "\n" = some reason →
          println ev f args c m = .error ((Cause.unwritable reason).toError args.loc m₁.serial)
            (newlined c (m₁.delivered vs))) ∧
      ∀ before v after reason, vs = before ++ v :: after → c.Delivers m₁.writes before →
        c.refusal? (m₁.writes + before.length) v = some reason →
        print ev f args c m = .error ((Cause.unwritable reason).toError v.loc m₁.serial)
          ((m₁.delivered before).refused v) ∧
        println ev f args c m = .error ((Cause.unwritable reason).toError v.loc m₁.serial)
          (newlined c ((m₁.delivered before).refused v))) ∧
    ∀ m₁, ((newlined c m₁).out = m₁.out ↔ c.sink m₁.writes "\n" ≠ none) ∧
      (c.sink m₁.writes "\n" = none → (newlined c m₁).out = m₁.out ++ "\n") := by
  refine ⟨evalArguments_ne_ok, fun e m₁ failed => ?_, fun vs m₁ evaluated => ?_, fun m₁ => ?_⟩
  · have printed : print ev f args c m = .error e m₁ := error_of_bind failed
    exact ⟨printed, println_error printed⟩
  · refine ⟨c.delivers_or_refused m₁.writes vs, fun delivers => ?_, ?_⟩
    · have printed := print_of_delivers evaluated delivers
      refine ⟨printed, fun taken => ?_, fun reason refused => ?_⟩
      · exact (println_of_ok printed).trans (writeNewline_of_none taken args.loc)
      · exact (println_of_ok printed).trans (writeNewline_of_some refused args.loc)
    · rintro before v after reason rfl delivers refused
      have printed := print_of_refused evaluated delivers refused
      exact ⟨printed, println_error printed⟩
  · refine ⟨out_newlined_eq_iff c m₁, fun taken => ?_⟩
    rw [newlined_of_none taken]

/-- Standard output takes ASCII text only. -/
def asciiOnly : Context := { Context.ofSettings .unset with sink := Sink.ascii }

/-- The call `(quote word)`. -/
def quoted (word : String) : Value :=
  .ofItems (.nil .unknown) [.symbol "quote" .unknown, .symbol word .unknown]

/-- The arguments `('a 'é 'b)`. -/
def threeWords : Value := .ofItems (.nil .unknown) [quoted "a", quoted "é", quoted "b"]

/-- The arguments `(missing)`. -/
def missingArgument : Value := .ofItems (.nil .unknown) [.symbol "missing" .unknown]

/-- Where `é` is refused, the first word is all that `print` delivers. -/
theorem threeWords_printed :
    (∀ vs m₁, evalArguments (evaluate 3) 0 (.truth .unknown) asciiOnly quoting ≠ .ok vs m₁) ∧
    (∃ e m₁, print (evaluate 3) 0 missingArgument asciiOnly quoting = .error e m₁ ∧
      e.kind = .unboundSymbol ∧ m₁.out = "") ∧
    (∃ m₁, println (evaluate 3) 0 threeWords (.ofSettings .unset) quoting =
      .ok (.nil .unknown) m₁ ∧ m₁.out = "aéb\n") ∧
    ∃ e m₁, print (evaluate 3) 0 threeWords asciiOnly quoting = .error e m₁ ∧
      e.kind = .ioError ∧ m₁.out = "a" ∧ m₁.writes = 2 := by
  let words : List Value := [.symbol "a" .unknown, .symbol "é" .unknown, .symbol "b" .unknown]
  refine ⟨(printing_delivers (evaluate 3) 0 (.truth .unknown) asciiOnly quoting).1 rfl, ?_, ?_, ?_⟩
  · obtain ⟨-, failed, -⟩ :=
      printing_delivers (evaluate 3) 0 missingArgument asciiOnly quoting
    exact ⟨_, _, (failed _ _ rfl).1, rfl, rfl⟩
  · obtain ⟨-, -, delivered, newline⟩ :=
      printing_delivers (evaluate 3) 0 threeWords (.ofSettings .unset) quoting
    obtain ⟨-, all, -⟩ := delivered words quoting rfl
    have taken : (Context.ofSettings .unset).Delivers quoting.writes words := by decide +kernel
    refine ⟨_, (all taken).2.1 rfl, ?_⟩
    rw [(newline _).2 rfl]
    decide +kernel
  · obtain ⟨-, -, delivered, -⟩ := printing_delivers (evaluate 3) 0 threeWords asciiOnly quoting
    obtain ⟨-, -, refused⟩ := delivered words quoting rfl
    have first : asciiOnly.Delivers quoting.writes [.symbol "a" .unknown] := by decide +kernel
    have second : ∃ reason, asciiOnly.refusal? 1 (.symbol "é" .unknown) = some reason := by
      refine Option.isSome_iff_exists.mp ?_
      decide +kernel
    obtain ⟨reason, second⟩ := second
    have printed := (refused [.symbol "a" .unknown] _ [.symbol "b" .unknown] reason rfl first
      second).1
    exact ⟨_, _, printed, rfl, by decide +kernel, by decide +kernel⟩

/-- `println` writes a newline after an error of its arguments, where nothing should be written, and
after a write that failed, where writing should have stopped. -/
theorem newline_after_error :
    (∃ e m₁ m₂,
      evalArguments (evaluate 3) 0 missingArgument (.ofSettings .unset) quoting = .error e m₁ ∧
      println (evaluate 3) 0 missingArgument (.ofSettings .unset) quoting = .error e m₂ ∧
      m₁.out = "" ∧ m₂.out = "\n") ∧
    ∃ e m₂, asciiOnly.refusal? 1 (.symbol "é" .unknown) ≠ none ∧
      evalArguments (evaluate 3) 0 threeWords asciiOnly quoting =
        .ok [.symbol "a" .unknown, .symbol "é" .unknown, .symbol "b" .unknown] quoting ∧
      println (evaluate 3) 0 threeWords asciiOnly quoting = .error e m₂ ∧ m₂.out = "a\n" := by
  refine ⟨⟨_, _, _, rfl, rfl, rfl, rfl⟩, _, _, by decide +kernel, rfl, rfl, ?_⟩
  decide +kernel

end Eval

end MiniLisp
