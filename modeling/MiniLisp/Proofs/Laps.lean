import MiniLisp.Proofs.FirstError

/-!
# Loops as iterations

A loop evaluates its condition, and as long as that gives the truth value, it evaluates its body as
a sequence and comes back. What a loop returns is told by the laps that it went through and by the
evaluation that came last.

* `Eval.Laps`: the laps of a loop, one after the other, each with what it left behind;
* `Eval.Exit`: the ways in which the laps come to an end;
* `Eval.Iterates`: both together, with the number of times that the condition held;
* `Eval.Iterates.unique`: there is at most one iteration;
* `Eval.loop_is_iteration`: the result.
-/

namespace MiniLisp

/-- The computation came to an end of its own, with a result or with an error. -/
def Outcome.Returned {α : Type} : Outcome α → Prop
  | ok .. | error .. => True
  | fault .. | exhausted => False

theorem Outcome.Returned.cases {α : Type} {o : Outcome α} (returned : o.Returned) :
    (∃ a m, o = .ok a m) ∨ ∃ e m, o = .error e m := by
  cases o with
  | ok a m => exact .inl ⟨a, m, rfl⟩
  | error e m => exact .inr ⟨e, m, rfl⟩
  | _ => cases returned

namespace Eval

/-- What returns has returned in its first part. -/
theorem returned_of_bind {α β : Type} {x : Eval α} {k : α → Eval β} {c : Context} {m : Machine}
    (returned : ((x >>= k) c m).Returned) : (x c m).Returned := by
  rw [bind_apply] at returned
  cases first : x c m with
  | ok | error => trivial
  | _ =>
    rw [first] at returned
    exact returned

/-- What a lap of a loop leaves behind: the machine after the condition, and the value and the
machine after the body. -/
structure Lap where
  tested : Machine
  value : Value
  ended : Machine

/-- The value of the last lap. If there is none, it is the given value. -/
def lastValue (initial : Value) (laps : List Lap) : Value :=
  (laps.getLast?.map Lap.value).getD initial

/-- The machine after the last lap. If there is none, it is the given machine. -/
def lastMachine (m : Machine) (laps : List Lap) : Machine :=
  (laps.getLast?.map Lap.ended).getD m

/-- The laps follow one another from the machine on. In each of them the condition evaluates to the
truth value, and after that the body ends without an error. -/
inductive Laps (ev : Evaluator) (c : Context) (f : FrameId) (condition body : Value) :
    Machine → List Lap → Prop
  | none {m : Machine} : Laps ev c f condition body m []
  | next {m : Machine} {test : Value} {lap : Lap} {laps : List Lap} :
      ev f condition c m = .ok test lap.tested → test.isTruth = true →
      evalBody ev f body c lap.tested = .ok lap.value lap.ended →
      Laps ev c f condition body lap.ended laps →
      Laps ev c f condition body m (lap :: laps)

/-- What ends a loop, and with which outcome, after laps that led to the machine and the last value.
The number says how often the condition held once more.

* `done`: the condition gives a value other than the truth value;
* `conditionFailed`: the condition ends in an error;
* `bodyFailed`: the condition holds, and the body ends in an error. -/
inductive Exit (ev : Evaluator) (c : Context) (f : FrameId) (condition body : Value) (m : Machine)
    (last : Value) : Nat → Outcome Value → Prop
  | done {test : Value} {m' : Machine} :
      ev f condition c m = .ok test m' → test.isTruth = false →
      Exit ev c f condition body m last 0 (.ok last m')
  | conditionFailed {e : ErrorValue} {m' : Machine} :
      ev f condition c m = .error e m' → Exit ev c f condition body m last 0 (.error e m')
  | bodyFailed {test : Value} {e : ErrorValue} {m₁ m' : Machine} :
      ev f condition c m = .ok test m₁ → test.isTruth = true →
      evalBody ev f body c m₁ = .error e m' →
      Exit ev c f condition body m last 1 (.error e m')

/-- From the machine on, the condition holds `k` times, the loop goes through the laps, and then it
ends with the outcome. If no lap is there to give a value, the value is the given one. -/
structure Iterates (ev : Evaluator) (c : Context) (f : FrameId) (condition body initial : Value)
    (m : Machine) (k : Nat) (laps : List Lap) (o : Outcome Value) : Prop where
  course : Laps ev c f condition body m laps
  exit : ∃ more, k = laps.length + more ∧
    Exit ev c f condition body (lastMachine m laps) (lastValue initial laps) more o

variable {ev : Evaluator} {c : Context} {f : FrameId} {condition body initial v test : Value}
  {m m₁ m₂ : Machine} {k k' fuel : Nat} {lap : Lap} {laps laps' : List Lap} {o o' : Outcome Value}

theorem lastValue_cons (initial : Value) (lap : Lap) (laps : List Lap) :
    lastValue initial (lap :: laps) = lastValue lap.value laps := by
  unfold lastValue
  rw [List.getLast?_cons]
  cases laps.getLast? <;> rfl

theorem lastMachine_cons (m : Machine) (lap : Lap) (laps : List Lap) :
    lastMachine m (lap :: laps) = lastMachine lap.ended laps := by
  unfold lastMachine
  rw [List.getLast?_cons]
  cases laps.getLast? <;> rfl

/-! ## One lap more -/

theorem Iterates.next (tested : ev f condition c m = .ok test lap.tested)
    (holds : test.isTruth = true)
    (ended : evalBody ev f body c lap.tested = .ok lap.value lap.ended)
    (later : Iterates ev c f condition body lap.value lap.ended k laps o) :
    Iterates ev c f condition body initial m (k + 1) (lap :: laps) o := by
  obtain ⟨more, rfl, exit⟩ := later.exit
  refine ⟨.next tested holds ended later.course, more, by rw [List.length_cons]; omega, ?_⟩
  rw [lastMachine_cons, lastValue_cons]
  exact exit

theorem Iterates.cons_cases
    (h : Iterates ev c f condition body initial m k (lap :: laps) o) :
    ∃ test k', ev f condition c m = .ok test lap.tested ∧ test.isTruth = true ∧
      evalBody ev f body c lap.tested = .ok lap.value lap.ended ∧ k = k' + 1 ∧
      Iterates ev c f condition body lap.value lap.ended k' laps o := by
  obtain ⟨more, rfl, exit⟩ := h.exit
  rw [lastMachine_cons, lastValue_cons] at exit
  cases h.course with
  | next tested holds ended later =>
    exact ⟨_, laps.length + more, tested, holds, ended, by rw [List.length_cons]; omega, later,
      more, rfl, exit⟩

/-! ## There is at most one iteration -/

theorem Exit.unique {last : Value} {more more' : Nat}
    (h : Exit ev c f condition body m last more o)
    (h' : Exit ev c f condition body m last more' o') : more' = more ∧ o' = o := by
  cases h <;> cases h' <;> simp_all

/-- Where there is a lap to go through, no loop ends. -/
theorem Exit.not_lap {last : Value} {more : Nat} (h : Exit ev c f condition body m last more o)
    (tested : ev f condition c m = .ok test m₁) (holds : test.isTruth = true)
    (ended : evalBody ev f body c m₁ = .ok v m₂) : False := by
  cases h <;> simp_all

theorem Iterates.unique (h : Iterates ev c f condition body initial m k laps o)
    (h' : Iterates ev c f condition body initial m k' laps' o') :
    k' = k ∧ laps' = laps ∧ o' = o := by
  induction laps generalizing initial m k k' laps' with
  | nil =>
    obtain ⟨more, rfl, exit⟩ := h.exit
    cases laps' with
    | nil =>
      obtain ⟨more', rfl, exit'⟩ := h'.exit
      obtain ⟨rfl, same⟩ := exit.unique exit'
      exact ⟨rfl, rfl, same⟩
    | cons lap laps' =>
      obtain ⟨_, _, tested, holds, ended, _, _⟩ := h'.cons_cases
      exact (exit.not_lap tested holds ended).elim
  | cons lap laps ih =>
    obtain ⟨_, _, tested, holds, ended, rfl, later⟩ := h.cons_cases
    cases laps' with
    | nil =>
      obtain ⟨_, _, exit'⟩ := h'.exit
      exact (exit'.not_lap tested holds ended).elim
    | cons lap' laps' =>
      obtain ⟨_, _, tested', _, ended', rfl, later'⟩ := h'.cons_cases
      have same : lap' = lap := by
        cases lap
        cases lap'
        simp_all
      subst same
      obtain ⟨rfl, rfl, sameOutcome⟩ := ih later later'
      exact ⟨rfl, rfl, sameOutcome⟩

/-! ## Loops go through iterations -/

/-- After a lap, a loop goes on with the rest of its fuel, and what the lap gave is the last value.
-/
theorem repeatWhile_lap (tested : ev f condition c m = .ok test m₁) (holds : test.isTruth = true)
    (ended : evalBody ev f body c m₁ = .ok v m₂) :
    repeatWhile ev f condition body (fuel + 1) initial c m =
      repeatWhile ev f condition body fuel v c m₂ := by
  rw [repeatWhile, bind_of_ok tested, if_pos holds, bind_of_ok ended]

theorem repeatWhile_exit {more : Nat} (h : Exit ev c f condition body m initial more o) :
    repeatWhile ev f condition body (fuel + 1) initial c m = o := by
  rw [repeatWhile]
  cases h with
  | done tested fails =>
    rw [bind_of_ok tested, if_neg (by rw [fails]; decide)]
    rfl
  | conditionFailed failed => rw [bind_apply, failed]
  | bodyFailed tested holds failed =>
    rw [bind_of_ok tested, if_pos holds, bind_apply, failed]

/-- What stands for the last value makes no difference where the condition does not fail. -/
theorem repeatWhile_initial
    (further : ∀ test m₁, ev f condition c m = .ok test m₁ → test.isTruth = true) (other : Value) :
    repeatWhile ev f condition body fuel initial c m =
      repeatWhile ev f condition body fuel other c m := by
  cases fuel with
  | zero => rfl
  | succ fuel =>
    rw [repeatWhile, repeatWhile]
    refine bind_congr_at rfl fun test m₁ tested => ?_
    rw [if_pos (further test m₁ tested), if_pos (further test m₁ tested)]

/-- An iteration is what a loop returns as soon as it has fuel for all laps and for the end. -/
theorem repeatWhile_of_iterates (h : Iterates ev c f condition body initial m k laps o)
    (enough : laps.length < fuel) :
    repeatWhile ev f condition body fuel initial c m = o := by
  induction laps generalizing initial m k fuel with
  | nil =>
    obtain ⟨fuel, rfl⟩ := Nat.exists_eq_add_of_lt enough
    obtain ⟨_, _, exit⟩ := h.exit
    exact repeatWhile_exit exit
  | cons lap laps ih =>
    obtain ⟨_, _, tested, holds, ended, _, later⟩ := h.cons_cases
    cases fuel with
    | zero => cases enough
    | succ fuel =>
      rw [repeatWhile_lap tested holds ended]
      exact ih later (Nat.lt_of_succ_lt_succ enough)

/-- A loop that returns has gone through an iteration. -/
theorem exists_iterates (returned : o.Returned)
    (run : repeatWhile ev f condition body fuel initial c m = o) :
    ∃ k laps, Iterates ev c f condition body initial m k laps o := by
  subst run
  induction fuel generalizing initial m with
  | zero => cases returned
  | succ fuel ih =>
    have isExit : ∀ {more o}, Exit ev c f condition body m initial more o →
        ∃ k laps, Iterates ev c f condition body initial m k laps
          (repeatWhile ev f condition body (fuel + 1) initial c m) := by
      intro more o exit
      rw [repeatWhile_exit exit]
      exact ⟨_, [], .none, more, rfl, exit⟩
    have bodyReturned := returned
    rw [repeatWhile] at returned
    obtain ⟨test, m₁, tested⟩ | ⟨e, m₁, failed⟩ := (returned_of_bind returned).cases
    · cases holds : test.isTruth with
      | false => exact isExit (.done tested holds)
      | true =>
        rw [bind_of_ok tested, if_pos holds] at returned
        obtain ⟨v, m₂, ended⟩ | ⟨e, m₂, failed⟩ := (returned_of_bind returned).cases
        · rw [bind_of_ok ended] at returned
          obtain ⟨k, laps, later⟩ := ih returned
          rw [repeatWhile_lap tested holds ended]
          exact ⟨k + 1, ⟨m₁, v, m₂⟩ :: laps, later.next tested holds ended⟩
        · exact isExit (.bodyFailed tested holds failed)
    · exact isExit (.conditionFailed failed)

/-- A loop is the iteration of its body.

* What a loop returns, with a value or with an error, comes at the end of exactly one iteration.
* The other way round, an iteration is what the loop returns as soon as it has fuel for it.
* After one lap, a loop goes on as a loop started there. Only if that runs no further time, the
  value of the lap stands in place of its nil. -/
theorem loop_is_iteration (ev : Evaluator) (f : FrameId) (identity : Identity)
    (condition body form : Value) (loc : Location) (c : Context) :
    let run := fun fuel m =>
      apply ev fuel f (.native .loop identity) (.cell condition body loc) form c m
    (∀ fuel m, (run fuel m).Returned →
      ∃ k laps, Iterates ev c f condition body (.nil loc) m k laps (run fuel m) ∧
        ∀ k' laps' o', Iterates ev c f condition body (.nil loc) m k' laps' o' →
          k' = k ∧ laps' = laps ∧ o' = run fuel m) ∧
    (∀ m k laps o, Iterates ev c f condition body (.nil loc) m k laps o →
      ∀ fuel, laps.length < fuel → run fuel m = o) ∧
    ∀ m test m₁ v m₂, ev f condition c m = .ok test m₁ → test.isTruth = true →
      evalBody ev f body c m₁ = .ok v m₂ → ∀ fuel,
      (∀ next m₃, ev f condition c m₂ = .ok next m₃ → next.isTruth = false →
        run (fuel + 1) m₂ = .ok (.nil loc) m₃ ∧ run (fuel + 2) m = .ok v m₃) ∧
      ((∀ next m₃, ev f condition c m₂ = .ok next m₃ → next.isTruth = true) →
        run (fuel + 1) m = run fuel m₂) := by
  intro run
  have run_eq : ∀ fuel m, run fuel m = repeatWhile ev f condition body fuel (.nil loc) c m :=
    fun _ _ => rfl
  refine ⟨fun fuel m returned => ?_, fun m k laps o iterates fuel enough => ?_,
    fun m test m₁ v m₂ tested holds ended fuel => ⟨fun next m₃ last fails => ⟨?_, ?_⟩,
      fun further => ?_⟩⟩
  · obtain ⟨k, laps, iterates⟩ := exists_iterates returned rfl
    exact ⟨k, laps, iterates, fun _ _ _ => iterates.unique⟩
  · exact repeatWhile_of_iterates iterates enough
  · exact repeatWhile_exit (.done last fails)
  · rw [run_eq, repeatWhile_lap tested holds ended]
    exact repeatWhile_exit (.done last fails)
  · rw [run_eq, run_eq, repeatWhile_lap tested holds ended]
    exact repeatWhile_initial further _

/-- A frame that binds `x` to an integer. -/
def counterAt (i : Int) : Machine :=
  ⟨(Store.empty.newFrame none).bind 0 (.symbol "x" .unknown) (.integer i .unknown), 0, "", 0, ""⟩

/-- The condition `(< 2 x)`, which holds if `x` is less than two, with the operator itself in place
of its name. -/
def belowTwo : Value :=
  .ofItems (.nil .unknown) [.native .less 0, .integer 2 .unknown, .symbol "x" .unknown]

/-- The body `(setq x (+ x 1))`, with the operators themselves in place of their names. -/
def increments : Value :=
  let sum := Value.ofItems (.nil .unknown)
    [.native (.fold .add) 0, .symbol "x" .unknown, .integer 1 .unknown]
  .ofItems (.nil .unknown)
    [.ofItems (.nil .unknown) [.native .setq 0, .symbol "x" .unknown, sum]]

/-- The laps of a loop that counts to two. -/
def countingLaps : List Lap :=
  [⟨counterAt 0, .integer 1 .unknown, counterAt 1⟩,
    ⟨counterAt 1, .integer 2 .unknown, counterAt 2⟩]

/-- A loop that counts to two gives what the second of its laps gave. -/
theorem counting_iterates :
    Iterates (evaluate 4) (.ofSettings .unset) 0 belowTwo increments (.nil .unknown) (counterAt 0) 2
        countingLaps (.ok (.integer 2 .unknown) (counterAt 2)) ∧
      ∀ fuel, 2 < fuel →
        apply (evaluate 4) fuel 0 (.native .loop 0) (.cell belowTwo increments .unknown)
            (.nil .unknown) (.ofSettings .unset) (counterAt 0) =
          .ok (.integer 2 .unknown) (counterAt 2) := by
  have iterates : Iterates (evaluate 4) (.ofSettings .unset) 0 belowTwo increments (.nil .unknown)
      (counterAt 0) 2 countingLaps (.ok (.integer 2 .unknown) (counterAt 2)) :=
    ⟨.next rfl (by decide) rfl (.next rfl (by decide) rfl .none), 0, rfl, .done rfl (by decide)⟩
  obtain ⟨-, converse, -⟩ := loop_is_iteration (evaluate 4) 0 0 belowTwo increments (.nil .unknown)
    .unknown (.ofSettings .unset)
  exact ⟨iterates, converse _ _ _ _ iterates⟩

end Eval

end MiniLisp
