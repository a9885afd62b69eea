import MiniLisp.Proofs.Lockstep

/-!
# Frames that cannot be reached

An evaluation gets at a frame through the frame that it takes place in, through outer frames, and
through closures: those in the expression, and those in the values of a frame that it can get at. It
neither reads nor changes any other frame.

* `Store.Reaches`: the frames that an evaluation can get at;
* `Store.reaches_iff_of_agree`: which frames those are is for those frames to say;
* `Eval.evaluate_encapsulated`: what the other frames hold makes no difference, and stays as it is.
-/

namespace MiniLisp

/-- The frame is within reach of an evaluation of the expression in the frame `f`. -/
inductive Store.Reaches (s : Store) (f : FrameId) (expr : Value) : FrameId → Prop
  | here : Reaches s f expr f
  | outer {g outer : FrameId} {frame : Frame} :
      Reaches s f expr g → s.frame? g = some frame → frame.outer = some outer →
      Reaches s f expr outer
  | code {g : FrameId} : expr.Mentions g → Reaches s f expr g
  | held {g h : FrameId} {frame : Frame} {key : Key} {b : Binding} :
      Reaches s f expr g → s.frame? g = some frame → (key, b) ∈ frame.entries →
      b.value.Mentions h → Reaches s f expr h

namespace Store

variable {s s' : Store} {f g : FrameId} {expr : Value}

/-- Stores that agree on the frames within reach in one have the same frames within reach. -/
theorem reaches_iff_of_agree (agree : ∀ g, s.Reaches f expr g → s'.frame? g = s.frame? g) :
    s'.Reaches f expr g ↔ s.Reaches f expr g := by
  constructor
  · intro reached
    induction reached with
    | here => exact .here
    | @outer g _ _ _ found link ih =>
      rw [agree g ih] at found
      exact .outer ih found link
    | code mentioned => exact .code mentioned
    | @held g _ _ _ _ _ found entry mentioned ih =>
      rw [agree g ih] at found
      exact .held ih found entry mentioned
  · intro reached
    induction reached with
    | here => exact .here
    | @outer g _ _ reached found link ih =>
      rw [← agree g reached] at found
      exact .outer ih found link
    | code mentioned => exact .code mentioned
    | @held g _ _ _ _ reached found entry mentioned ih =>
      rw [← agree g reached] at found
      exact .held ih found entry mentioned

end Store

/-- Runs that start from stores which may differ out of reach. Within reach, and in frames that are
made on the way, they may differ in nothing. -/
def Coupling.outOfReach (s s' : Store) (f : FrameId) (expr : Value) : Coupling where
  located l l' := l' = l
  shared g := s.Reaches f expr g ∨ s.nextFrame ≤ g
  unknown := rfl
  left := s
  right := s'
  fresh := .inr

theorem Coupling.stores_outOfReach {s s' : Store} {f : FrameId} {expr : Value}
    (frames : s'.nextFrame = s.nextFrame)
    (agree : ∀ g, s.Reaches f expr g → s'.frame? g = s.frame? g) :
    (outOfReach s s' f expr).Stores s s' where
  frames := frames
  grown := Nat.le_refl _
  alike := by
    intro g shared
    rcases shared with reached | new
    · rw [agree g reached]
      cases found : s.frame? g with
      | none => exact .none
      | some frame =>
        apply Option.Rel.some
        apply Frame.Alike.of_mentions
        · intro l
          rfl
        · intro outer link
          exact .inl (.outer reached found link)
        · intro key b h entry mentioned
          exact .inl (.held reached found entry mentioned)
    · rw [Store.frame?_eq_none new]
      rw [← frames] at new
      rw [Store.frame?_eq_none new]
      exact .none
  left _ := rfl
  right _ := rfl

namespace Eval

/-- What two runs leave behind that have started from the stores `s` and `s'`: the same output, the
same frames within reach and the same new frames, and every other frame as it was. -/
structure Encapsulated (s s' : Store) (f : FrameId) (expr : Value) (m m' : Machine) : Prop where
  frames : m'.store.nextFrame = m.store.nextFrame
  out : m'.out = m.out
  writes : m'.writes = m.writes
  within {g : FrameId} : s.Reaches f expr g ∨ s.nextFrame ≤ g →
    m'.store.frame? g = m.store.frame? g
  beyond {g : FrameId} : g < s.nextFrame → ¬ s.Reaches f expr g →
    m.store.frame? g = s.frame? g ∧ m'.store.frame? g = s'.frame? g

theorem encapsulated_of_machines {s s' : Store} {f : FrameId} {expr : Value} {m m' : Machine}
    (h : (Coupling.outOfReach s s' f expr).Machines m m') : Encapsulated s s' f expr m m' where
  frames := h.stores.frames
  out := h.out
  writes := h.writes
  within := by
    intro g shared
    have alike := h.stores.alike shared
    generalize m.store.frame? g = frame, m'.store.frame? g = frame' at alike
    cases alike with
    | none => rfl
    | some alike => rw [alike.eq fun _ _ same => same]
  beyond := by
    intro g old unreached
    have unshared : ¬ (Coupling.outOfReach s s' f expr).shared g := by
      rintro (reached | new)
      · exact unreached reached
      · exact Nat.not_lt.mpr new old
    exact ⟨h.stores.left unshared, h.stores.right unshared⟩

/-- Two stores that agree on all frames within reach in one have the same frames within reach.
Evaluation in them ends in the same way, with the same value and the same output. It leaves the same
frames within reach and makes the same new frames, and it leaves every other frame of either store
as it was. -/
theorem evaluate_encapsulated {m : Machine} {s' : Store} {f : FrameId} {expr : Value}
    (frames : s'.nextFrame = m.store.nextFrame)
    (agree : ∀ g, m.store.Reaches f expr g → s'.frame? g = m.store.frame? g) (c : Context)
    (fuel : Nat) :
    (∀ g, s'.Reaches f expr g ↔ m.store.Reaches f expr g) ∧
    Outcome.Both (Encapsulated m.store s' f expr) (fun v v' => v' = v) (fun e e' => e' = e)
      (fun reason reason' => reason' = reason) (evaluate fuel f expr c m)
      (evaluate fuel f expr c { m with store := s' }) := by
  refine ⟨fun g => Store.reaches_iff_of_agree agree, ?_⟩
  let p := Coupling.outOfReach m.store s' f expr
  have same : ∀ l l', p.located l l' → l' = l := fun _ _ eq => eq
  have machines : p.Machines m { m with store := s' } :=
    ⟨Coupling.stores_outOfReach frames agree, rfl, rfl, rfl⟩
  have shared : p.shared f := .inl .here
  have alike : p.Like expr expr := by
    apply Value.Alike.of_mentions
    · intro l
      rfl
    · intro g mentioned
      exact .inl (.code mentioned)
  have ended := (p.agrees_evaluate c fuel shared alike).run m { m with store := s' } machines
  apply ended.imp
  · intro m₁ m₁' related
    exact encapsulated_of_machines related
  · intro v v' related
    exact related.eq same
  · intro e e' related
    exact related.eq same
  · intro reason reason' related
    exact related.eq same

/-- A frame that binds `x`, and one out of its reach that binds `y` to the given value. -/
def twoRoots (hidden : Value) : Machine :=
  let roots := (Store.empty.newFrame none).newFrame none
  let visible := roots.bind 0 (.symbol "x" .unknown) (.truth .unknown)
  ⟨visible.bind 1 (.symbol "y" .unknown) hidden, 0, "", 0, ""⟩

/-- The expression `(setq x nil)`, with the operator itself in place of its name. -/
def clearing : Value :=
  .ofItems (.nil .unknown) [.native .setq 0, .symbol "x" .unknown, .nil .unknown]

theorem clearing_encapsulated :
    (∀ g, (twoRoots (.nil .unknown)).store.Reaches 0 clearing g → g = 0) ∧
      (∀ g, (twoRoots (.truth .unknown)).store.Reaches 0 clearing g ↔
        (twoRoots (.nil .unknown)).store.Reaches 0 clearing g) ∧
      Outcome.Both
        (Encapsulated (twoRoots (.nil .unknown)).store (twoRoots (.truth .unknown)).store 0
          clearing)
        (fun v v' => v' = v) (fun e e' => e' = e) (fun reason reason' => reason' = reason)
        (evaluate 3 0 clearing (.ofSettings .unset) (twoRoots (.nil .unknown)))
        (evaluate 3 0 clearing (.ofSettings .unset) (twoRoots (.truth .unknown))) := by
  have only (g : FrameId) (reached : (twoRoots (.nil .unknown)).store.Reaches 0 clearing g) :
      g = 0 := by
    induction reached with
    | here => rfl
    | outer _ found link ih =>
      subst ih
      cases found
      cases link
    | code mentioned =>
      cases mentioned with
      | first operator => cases operator
      | rest args =>
        cases args with
        | first target => cases target
        | rest last =>
          cases last with
          | first value => cases value
          | rest tail => cases tail
    | held _ found entry mentioned ih =>
      subst ih
      cases found
      cases List.mem_singleton.mp entry
      cases mentioned
  refine ⟨only, ?_⟩
  apply evaluate_encapsulated
  · rfl
  · intro g reached
    rw [only g reached]
    rfl

end Eval

end MiniLisp
