import MiniLisp.Proofs.Keeping
import MiniLisp.Proofs.Lookup

/-!
# What an assignment leaves behind

An assignment looks up the slot of its name before it evaluates the value. If the evaluation binds
the name anew in the current frame, the slot is one that the name no longer denotes, and what is
assigned to it is lost.

* `Eval.Assigns`: an assignment by `setq` or by `set`;
* `Eval.Displaced`: the name no longer denotes the slot that was looked up;
* `Eval.assignment_takes_effect`: in every other case the name has the assigned value afterwards;
* `Eval.lost_assignment`: an assignment that is lost.
-/

namespace MiniLisp

namespace Eval

variable {c : Context} {fuel : Nat} {f : FrameId} {name : String} {expr v : Value}
  {m m₀ m₁ m' : Machine}

/-- An assignment of the expression to the name in the frame leads from the machine `m` to `m'`,
with the result `v`. The value is evaluated in the machine `m₀`. -/
inductive Assigns (c : Context) (fuel : Nat) (f : FrameId) (name : String) (expr : Value) :
    Machine → Machine → Value → Machine → Prop
  | setq (symbolLoc l₁ l₂ l₃ : Location) {m m' : Machine} {v : Value} :
      setq (evaluate fuel) f
        (.cell (.symbol name symbolLoc) (.cell expr (.nil l₁) l₂) l₃) c m = .ok v m' →
      Assigns c fuel f name expr m m v m'
  | set {target v : Value} {symbolLoc : Location} (l₁ l₂ l₃ : Location) {m m₀ m' : Machine} :
      evaluate fuel f target c m = .ok (.symbol name symbolLoc) m₀ →
      set (evaluate fuel) f (.cell target (.cell expr (.nil l₁) l₂) l₃) c m = .ok v m' →
      Assigns c fuel f name expr m m₀ v m'

/-- The name has the value in the frame, and evaluates to it. -/
def HasValue (c : Context) (f : FrameId) (name : String) (v : Value) (m : Machine) : Prop :=
  (∃ b, m.store.lookup? f (some name) = some b ∧ b.value = v) ∧
    ∀ fuel loc, evaluate (fuel + 1) f (.symbol name loc) c m = .ok v m

/-- The name denoted a slot in the store `before`, and does not denote that slot in `after`. -/
def Displaced (f : FrameId) (name : String) (before after : Store) : Prop :=
  before.find? f (some name) ≠ none ∧
    after.find? f (some name) ≠ before.find? f (some name)

theorem hasValue_of_lookup? {b : Binding} (found : m.store.lookup? f (some name) = some b)
    (value : b.value = v) (proper : v.isError = false) : HasValue c f name v m := by
  refine ⟨⟨b, found, value⟩, fun fuel loc => ?_⟩
  have looked : lookup f name c m = .ok (some b) m := by
    unfold lookup
    rw [found]
  unfold evaluate evalStep
  dsimp only
  rw [bind_apply, looked]
  show settle b.value c m = .ok v m
  rw [value]
  cases v with
  | error e => cases proper
  | _ => rfl

/-- An assignment evaluates the value, and then binds the name if it denoted no slot before, or else
puts the value into that slot. -/
theorem Assigns.cases (h : Assigns c fuel f name expr m m₀ v m') :
    ∃ m₁, evaluate fuel f expr c m₀ = .ok v m₁ ∧
      ((m₀.store.find? f (some name) = none ∧
        ∃ loc, m'.store = m₁.store.bind f (.symbol name loc) v) ∨
      ∃ slot, m₀.store.find? f (some name) = some slot ∧ m'.store = m₁.store.assign slot v) := by
  have run : ∃ symbolLoc loc,
      assignTarget (evaluate fuel) f (.symbol name symbolLoc) loc expr c m₀ = .ok v m' := by
    cases h with
    | setq symbolLoc l₁ l₂ l₃ ended => exact ⟨symbolLoc, symbolLoc, ended⟩
    | @set target _ symbolLoc l₁ l₂ l₃ _ _ _ given ended =>
      refine ⟨symbolLoc, target.loc, ?_⟩
      change (evaluate fuel f target >>= fun t =>
        assignTarget (evaluate fuel) f t target.loc expr) c m = .ok v m' at ended
      rw [bind_apply, given] at ended
      exact ended
  obtain ⟨symbolLoc, loc, run⟩ := run
  change assignTo (evaluate fuel) f (.symbol name symbolLoc) (m₀.store.find? f (some name)) expr
    c m₀ = .ok v m' at run
  unfold assignTo at run
  rw [bind_apply] at run
  cases value : evaluate fuel f expr c m₀ with
  | error | fault | exhausted => simp [value] at run
  | ok w m₁ =>
    rw [value] at run
    cases denoted : m₀.store.find? f (some name) with
    | none =>
      rw [denoted] at run
      cases run
      exact ⟨m₁, rfl, .inl ⟨rfl, symbolLoc, rfl⟩⟩
    | some slot =>
      rw [denoted] at run
      cases run
      exact ⟨m₁, rfl, .inr ⟨slot, rfl, rfl⟩⟩

/-- An assignment takes effect, unless the evaluation of the value has displaced the name: then the
name is one that the current frame itself has bound anew, and it has whatever the evaluation left
it. -/
theorem assignment_takes_effect (holds : Policy.any.Holds m₀.store)
    (inside : f < m₀.store.nextFrame)
    (good : Policy.any.Good m₀.store.nextFrame expr)
    (assigns : Assigns c fuel f name expr m m₀ v m') (proper : v.isError = false) :
    ∃ m₁, evaluate fuel f expr c m₀ = .ok v m₁ ∧
      (¬ Displaced f name m₀.store m₁.store → HasValue c f name v m') ∧
      (Displaced f name m₀.store m₁.store →
        m₁.store.slotIn? (some name) f ≠ m₀.store.slotIn? (some name) f ∧
        m'.store.lookup? f (some name) = m₁.store.lookup? f (some name)) := by
  obtain ⟨m₁, value, ended⟩ := assigns.cases
  have evolves : m₀.store.Evolves f m₁.store :=
    (evaluate_evolving fuel f expr).run (by rw [value]; rfl)
  have kept := (Policy.sound_any c).keeps_evaluate fuel inside good ⟨Nat.le_refl _, holds⟩ value
  refine ⟨m₁, value, fun placed => ?_, fun displaced => ?_⟩
  · rcases ended with ⟨_, loc, store⟩ | ⟨slot, found, store⟩
    · have inside₁ : f < m₁.store.nextFrame := Nat.lt_of_lt_of_le inside evolves.size_le
      have bound := m₁.store.lookup?_bind_self inside₁ (.symbol name loc) v
      exact hasValue_of_lookup? (by rw [store]; exact bound) rfl proper
    · have still : m₁.store.find? f (some name) = some slot := by
        refine Classical.byContradiction fun moved => placed ⟨by simp [found], ?_⟩
        rw [found]
        exact moved
      obtain ⟨b, held⟩ := kept.1.2.backed.exists_binding? still
      have now := Store.lookup?_assign_of_eq still held v
      exact hasValue_of_lookup? (by rw [store]; exact now) rfl proper
  · rcases ended with ⟨absent, _⟩ | ⟨slot, found, store⟩
    · exact absurd absent displaced.1
    · constructor
      · intro same
        have still := evolves.find?_eq holds.linked inside found same
        exact displaced.2 (still.trans found.symm)
      · rw [store]
        exact Store.lookup?_assign_of_ne (fun now => displaced.2 (now.trans found.symm)) v

/-- A frame that binds `x` to nil. -/
def boundToNil : Machine :=
  ⟨(Store.empty.newFrame none).bind 0 (.symbol "x" .unknown) (.nil .unknown), 0, "", 0, ""⟩

theorem truth_takes_effect :
    ∃ m', Assigns (.ofSettings .unset) 1 0 "x" (.truth .unknown) boundToNil boundToNil
      (.truth .unknown) m' ∧
    HasValue (.ofSettings .unset) 0 "x" (.truth .unknown) m' := by
  have holds : Policy.any.Holds boundToNil.store :=
    (Policy.holds_empty.newFrame (by simp)).bind 0 rfl (Policy.good_nil (Policy.sound_any
      (.ofSettings .unset)).toFair trivial)
  have good : Policy.any.Good boundToNil.store.nextFrame (.truth .unknown) := ⟨trivial, trivial⟩
  have assigns : Assigns (.ofSettings .unset) 1 0 "x" (.truth .unknown) boundToNil boundToNil
      (.truth .unknown) _ :=
    .setq .unknown .unknown .unknown .unknown rfl
  obtain ⟨m₁, value, effect, _⟩ := assignment_takes_effect holds (by decide) good assigns rfl
  cases value
  exact ⟨_, assigns, effect fun displaced => displaced.2 rfl⟩

/-- The expression `(progn (fn x () nil) t)`, with the operators themselves in place of their
names. -/
def redefinition : Value :=
  let definition := Value.ofItems (.nil .unknown)
    [.native .fn 0, .symbol "x" .unknown, .nil .unknown, .nil .unknown]
  .ofItems (.nil .unknown) [.native .progn 1, definition, .truth .unknown]

/-- If the value of `x` is an expression that defines `x` as a function on the way, the assignment
gives back its value, but `x` stays the function. -/
theorem lost_assignment :
    ∃ v m', Assigns (.ofSettings .unset) 5 0 "x" redefinition boundToNil boundToNil v m' ∧
      v.isError = false ∧
      ¬ ∃ b, m'.store.lookup? 0 (some "x") = some b ∧ b.value = v := by
  refine ⟨.truth .unknown, _, .setq .unknown .unknown .unknown .unknown rfl, rfl, ?_⟩
  rintro ⟨b, found, value⟩
  have function : b = ⟨.symbol "x" .unknown,
      .closure .function (.nil .unknown) (.ofItems (.nil .unknown) [.nil .unknown]) 0 .unknown 0⟩ :=
    (Option.some.inj found).symm
  rw [function] at value
  cases value

end Eval

end MiniLisp
