import MiniLisp.Proofs.Composition
import MiniLisp.Proofs.Coupling

/-!
# Output is not seen

Nothing in the language can look at what was written. So if it does not matter either which write
of a run is attempted (`Context.Steady`), evaluations go on in the same way whatever was written
before, and writes between them make no difference to them (`Eval.unseen_evaluate`).
-/

namespace MiniLisp

/-- Whether a write fails depends on nothing but its text. -/
def Context.Steady (c : Context) : Prop := ∀ n n' text, c.sink n text = c.sink n' text

/-- The machines differ in what was written at most. -/
structure Machine.Akin (m m' : Machine) : Prop where
  store : m'.store = m.store
  serial : m'.serial = m.serial

theorem Machine.Akin.refl (m : Machine) : m.Akin m := ⟨rfl, rfl⟩

namespace Eval

/-- From machines that differ in what was written at most, the computation ends in the same way. -/
structure Unseen {α : Type} (x : Eval α) : Prop where
  run {c : Context} {m m' : Machine} : c.Steady → m.Akin m' →
    Outcome.Both Machine.Akin Eq Eq Eq (x c m) (x c m')

variable {α β : Type} {x : Eval α}

theorem Unseen.exists_ok (h : Unseen x) {c : Context} (steady : c.Steady) {m m₁ m' : Machine}
    (akin : m.Akin m') {a : α} (ended : x c m = .ok a m₁) :
    ∃ m₂, x c m' = .ok a m₂ ∧ m₁.Akin m₂ := by
  have both := h.run steady akin
  rw [ended] at both
  generalize x c m' = o at both
  cases both with
  | ok akin same =>
    subst same
    exact ⟨_, rfl, akin⟩

theorem unseen_pure (a : α) : Unseen (pure a) := ⟨fun _ akin => .ok akin rfl⟩

theorem Unseen.bind {k : α → Eval β} (hx : Unseen x) (hk : ∀ a, Unseen (k a)) :
    Unseen (x >>= k) := by
  refine ⟨fun {c m m'} steady akin => ?_⟩
  rw [bind_apply, bind_apply]
  have ended := hx.run steady akin
  generalize x c m = o, x c m' = o' at ended
  cases ended with
  | @ok a _ _ _ akin same =>
    subst same
    exact (hk a).run steady akin
  | error akin same => exact .error akin same
  | fault akin same => exact .fault akin same
  | exhausted => exact .exhausted

theorem unseen_raise (cause : Cause) (loc : Location) : Unseen (raise (α := α) cause loc) := by
  refine ⟨fun {c m m'} _ akin => ?_⟩
  obtain ⟨store, serial⟩ := akin
  unfold raise
  rw [serial]
  exact .error ⟨store, rfl⟩ rfl

theorem unseen_fail (e : ErrorValue) : Unseen (fail (α := α) e) := ⟨fun _ akin => .error akin rfl⟩

theorem unseen_abandon (reason : Fault) : Unseen (abandon (α := α) reason) :=
  ⟨fun _ akin => .fault akin rfl⟩

theorem unseen_printed (v : Value) : Unseen (printed v) := by
  unfold printed
  cases v.written with
  | ok text => exact unseen_pure text
  | error reason => exact unseen_abandon reason

theorem Unseen.catchError (hx : Unseen x) : Unseen (catchError x) := by
  refine ⟨fun {c m m'} steady akin => ?_⟩
  unfold Eval.catchError
  have ended := hx.run steady akin
  generalize x c m = o, x c m' = o' at ended
  cases ended with
  | ok akin same => exact .ok akin (congrArg _ same)
  | error akin same => exact .ok akin (congrArg _ same)
  | fault akin same => exact .fault akin same
  | exhausted => exact .exhausted

theorem unseen_freshIdentity : Unseen freshIdentity := by
  refine ⟨fun {c m m'} _ akin => ?_⟩
  obtain ⟨store, serial⟩ := akin
  unfold freshIdentity
  rw [serial]
  exact .ok ⟨store, rfl⟩ rfl

/-- What is asked of the store alone. -/
theorem unseen_ofStore (ask : Store → α) : Unseen fun _ m => .ok (ask m.store) m :=
  ⟨fun _ akin => .ok akin (congrArg ask akin.store.symm)⟩

theorem unseen_width : Unseen width := by
  refine ⟨fun {c m m'} _ akin => ?_⟩
  unfold width
  cases c.settings.arithmeticWidth with
  | ok bits => exact .ok akin rfl
  | error reason => exact .fault akin rfl

theorem unseen_join (operation : Fold) (a b : Int) : Unseen (join operation a b) := by
  refine ⟨fun {c m m'} _ akin => ?_⟩
  unfold join
  cases operation.join c.operations a b with
  | ok joined => exact .ok akin rfl
  | error reason => exact .fault akin rfl

theorem unseen_modifyStore (change : Store → Store) : Unseen (modifyStore change) :=
  ⟨fun _ akin => .ok ⟨congrArg change akin.store, akin.serial⟩ rfl⟩

theorem unseen_newFrame (outer : Option FrameId) : Unseen (newFrame outer) :=
  ⟨fun _ akin => .ok ⟨congrArg (·.newFrame outer) akin.store, akin.serial⟩
    (congrArg Store.nextFrame akin.store.symm)⟩

theorem unseen_attempt (text : String) : Unseen (attempt text) := by
  refine ⟨fun {c m m'} steady akin => ?_⟩
  unfold attempt
  rw [steady m'.writes m.writes]
  cases c.sink m.writes text with
  | none => exact .ok ⟨akin.store, akin.serial⟩ rfl
  | some reason => exact .ok ⟨akin.store, akin.serial⟩ rfl

theorem unseen_bindArguments (sort : ClosureKind) (params : Value) (outer : FrameId)
    (values : List Value) (loc : Location) :
    Unseen (bindArguments sort params outer values loc) := by
  unfold bindArguments
  dsimp only
  split
  · exact (unseen_newFrame _).bind fun _ => (unseen_modifyStore _).bind fun _ => unseen_pure _
  · exact (unseen_printed params).bind fun _ => unseen_raise _ loc

theorem closed_unseen : Closed fun _ _ x => Unseen x where
  pure := unseen_pure
  bind := .bind
  raise := unseen_raise
  fail := unseen_fail
  abandon := unseen_abandon
  outOfFuel := ⟨fun _ _ => .exhausted⟩
  catchError := .catchError
  freshIdentity := unseen_freshIdentity
  find g name := unseen_ofStore fun s => s.find? g (some name)
  lookup g name := unseen_ofStore fun s => s.lookup? g (some name)
  width := unseen_width
  join := unseen_join
  attempt := unseen_attempt
  bindSymbol _ v := (unseen_modifyStore _).bind fun _ => unseen_pure v
  assign _ v := (unseen_modifyStore _).bind fun _ => unseen_pure v
  inNewFrame sort params outer values loc _ inBody :=
    (unseen_bindArguments sort params outer values loc).bind inBody

/-- What was written before makes no difference to an evaluation. -/
theorem unseen_evaluate (fuel : Nat) (f : FrameId) (expr : Value) :
    Unseen (evaluate fuel f expr) := closed_unseen.evaluate fuel f expr

end Eval

end MiniLisp
