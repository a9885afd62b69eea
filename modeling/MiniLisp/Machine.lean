import MiniLisp.Settings
import MiniLisp.Store

/-!
# Computations of the interpreter

A computation (`Eval`) reads a context and changes a machine. The context holds what does not
change while it runs: the settings, the behaviour of standard output, whether diagnostics are
wanted, and the operations of the host. The machine holds the store, the count of identities given
out, and what was written.

A computation ends in one of four ways (`Outcome`):

* `ok`: with a result;
* `error`: with an error value of the language, which ends whatever was waiting for the result;
* `fault`: abandoned for a reason outside the language;
* `exhausted`: out of fuel, so it says nothing about what more fuel would give.

The first three keep the machine, since effects are never undone.
-/

namespace MiniLisp

/-- What a computation may look at but not change. `sink n text` tells why the `n`-th write to
standard output, of the given text, fails, and is `none` if it succeeds. `operations name a b` is
what the host's operation of that name makes of the value so far of a fold and its next operand. -/
structure Context where
  settings : Settings
  sink : Nat → String → Option String
  verbose : Bool
  operations : String → Int → Int → Int

namespace Context

/-- Every write succeeds, diagnostics are not wanted, and no operation of the host changes the value
so far. -/
def ofSettings (settings : Settings) : Context := ⟨settings, fun _ _ => none, false, fun _ a _ => a⟩

end Context

/-- What computations change: the store, the identity to be given out next, the text delivered to
standard output, the number of writes attempted there, and the text written to standard error. -/
structure Machine where
  store : Store
  serial : Identity
  out : String
  writes : Nat
  err : String
deriving DecidableEq

namespace Machine

/-- Nothing stored and nothing written. -/
def initial : Machine := ⟨.empty, 0, "", 0, ""⟩

end Machine

/-- How a computation ends. -/
inductive Outcome (α : Type)
  | ok (result : α) (m : Machine)
  | error (e : ErrorValue) (m : Machine)
  | fault (reason : Fault) (m : Machine)
  | exhausted

/-- A computation with a result of the given type. -/
def Eval (α : Type) : Type := Context → Machine → Outcome α

namespace Eval

/-- Runs the continuation on the result; any other outcome is the outcome of the whole. -/
@[always_inline, inline]
protected def bind {α β : Type} (x : Eval α) (k : α → Eval β) : Eval β := fun c m =>
  match x c m with
  | .ok a m => k a c m
  | .error e m => .error e m
  | .fault reason m => .fault reason m
  | .exhausted => .exhausted

/-- Has a result already and changes nothing. -/
@[always_inline, inline]
protected def pure {α : Type} (a : α) : Eval α := fun _ m => .ok a m

@[always_inline]
instance : Monad Eval where
  pure := Eval.pure
  bind := Eval.bind

@[simp] theorem pure_apply {α : Type} (a : α) (c : Context) (m : Machine) :
    (pure a : Eval α) c m = .ok a m := rfl

theorem bind_apply {α β : Type} (x : Eval α) (k : α → Eval β) (c : Context) (m : Machine) :
    (x >>= k) c m = match x c m with
      | .ok a m => k a c m
      | .error e m => .error e m
      | .fault reason m => .fault reason m
      | .exhausted => .exhausted := rfl

/-! ## Ending a computation -/

/-- Ends with a new error value for the cause, reported at the location. -/
def raise {α : Type} (cause : Cause) (loc : Location) : Eval α := fun _ m =>
  .error (cause.toError loc m.serial) { m with serial := m.serial + 1 }

/-- Abandons the computation. -/
def abandon {α : Type} (reason : Fault) : Eval α := fun _ m => .fault reason m

/-- Out of fuel. -/
def outOfFuel {α : Type} : Eval α := fun _ _ => .exhausted

/-- The result, or the fault that prevents it. -/
def ofExcept {α : Type} : Except Fault α → Eval α
  | .ok a => pure a
  | .error reason => abandon reason

/-- Ends with an error value that exists already. -/
def fail {α : Type} (e : ErrorValue) : Eval α := fun _ m => .error e m

/-- The value as a result. An error value ends the computation, whoever holds it. -/
def settle : Value → Eval Value
  | .error e => fail e
  | v => pure v

/-! ## Going on after the end of a computation -/

/-- The result of a computation, or the error that ended it. -/
def catchError {α : Type} (x : Eval α) : Eval (Except ErrorValue α) := fun c m =>
  match x c m with
  | .ok a m => .ok (.ok a) m
  | .error e m => .ok (.error e) m
  | .fault reason m => .fault reason m
  | .exhausted => .exhausted

/-- The result of a computation, or the fault for which it was abandoned. -/
def catchFault {α : Type} (x : Eval α) : Eval (Except Fault α) := fun c m =>
  match x c m with
  | .ok a m => .ok (.ok a) m
  | .error e m => .error e m
  | .fault reason m => .ok (.error reason) m
  | .exhausted => .exhausted

/-- Runs the second computation after the first even if that ends in an error. An error of the
first is then the outcome, whatever the second one's error. -/
def andAfter {α β : Type} (first : Eval α) (second : Eval β) : Eval β := do
  match ← catchError first with
  | .ok _ => second
  | .error e =>
    let _ ← catchError second
    fail e

/-- The result of a computation as a value, also if it is an error. -/
def asValue (x : Eval Value) : Eval Value := do
  match ← catchError x with
  | .ok v => return v
  | .error e => return .error e

/-! ## The context -/

/-- The settings. -/
def settings : Eval Settings := fun c m => .ok c.settings m

/-- The width of integers, for arithmetic. -/
def width : Eval Nat := fun c m =>
  match c.settings.arithmeticWidth with
  | .ok bits => .ok bits m
  | .error reason => .fault reason m

/-- Diagnostics are wanted. -/
def verbose : Eval Bool := fun c m => .ok c.verbose m

/-! ## The store -/

/-- The present store. -/
def store : Eval Store := fun _ m => .ok m.store m

/-- Changes the store. -/
@[inline]
def modifyStore (change : Store → Store) : Eval Unit := fun _ m =>
  .ok () { m with store := change m.store }

/-- An identity that was not given out before. -/
def freshIdentity : Eval Identity := fun _ m => .ok m.serial { m with serial := m.serial + 1 }

/-- Makes a frame inside the given one. -/
def newFrame (outer : Option FrameId) : Eval FrameId := fun _ m =>
  .ok m.store.nextFrame { m with store := m.store.newFrame outer }

/-- The slot that a name denotes in a frame. -/
def find (f : FrameId) (name : String) : Eval (Option Slot) := fun _ m =>
  .ok (m.store.find? f (some name)) m

/-- The binding that a name denotes in a frame. -/
def lookup (f : FrameId) (name : String) : Eval (Option Binding) := fun _ m =>
  .ok (m.store.lookup? f (some name)) m

/-- Binds a symbol in a frame; the result is the value. -/
def bindSymbol (f : FrameId) (symbol value : Value) : Eval Value := do
  modifyStore fun store => store.bind f symbol value
  return value

/-- Changes the value in a slot; the result is the value. -/
def assign (slot : Slot) (value : Value) : Eval Value := do
  modifyStore fun store => store.assign slot value
  return value

/-! ## Printed forms -/

/-- The printed form of a value, which must not need an integer that is too long to be written. -/
def printed (v : Value) : Eval String := ofExcept v.written

end Eval

end MiniLisp
