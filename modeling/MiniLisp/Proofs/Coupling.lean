import MiniLisp.Interpreter
import MiniLisp.Proofs.Likeness
import MiniLisp.Proofs.Lookup

/-!
# Two runs side by side

What a computation does cannot depend on what it never looks at. To see what that is, two runs are
followed side by side. A `Coupling` says what they start from and how far they may differ: in the
locations of values, and in all frames that are not shared.

* `Coupling.Stores`, `Coupling.Machines`: two machines in the middle of their runs. The shared
  frames are alike, every other frame is as it was at the start;
* `Outcome.Both`: two endings of one sort;
* `Coupling.Lockstep`: two computations that end alike from any such machines, with a rule for each
  building block of computations.
-/

namespace MiniLisp

/-- Both runs end in the same way, with machines that are related, and so are the results, errors or
faults. -/
inductive Outcome.Both {α β : Type} (machines : Machine → Machine → Prop) (results : α → β → Prop)
    (errors : ErrorValue → ErrorValue → Prop) (faults : Fault → Fault → Prop) :
    Outcome α → Outcome β → Prop
  | ok {a : α} {b : β} {m m' : Machine} :
      machines m m' → results a b → Both machines results errors faults (.ok a m) (.ok b m')
  | error {e e' : ErrorValue} {m m' : Machine} :
      machines m m' → errors e e' → Both machines results errors faults (.error e m) (.error e' m')
  | fault {reason reason' : Fault} {m m' : Machine} :
      machines m m' → faults reason reason' →
      Both machines results errors faults (.fault reason m) (.fault reason' m')
  | exhausted : Both machines results errors faults .exhausted .exhausted

theorem Outcome.Both.imp {α β : Type} {machines machines' : Machine → Machine → Prop}
    {results results' : α → β → Prop} {errors errors' : ErrorValue → ErrorValue → Prop}
    {faults faults' : Fault → Fault → Prop} {o : Outcome α} {o' : Outcome β}
    (h : Both machines results errors faults o o')
    (ofMachines : ∀ m m', machines m m' → machines' m m')
    (ofResults : ∀ a b, results a b → results' a b)
    (ofErrors : ∀ e e', errors e e' → errors' e e')
    (ofFaults : ∀ reason reason', faults reason reason' → faults' reason reason') :
    Both machines' results' errors' faults' o o' := by
  cases h with
  | ok both related => exact .ok (ofMachines _ _ both) (ofResults _ _ related)
  | error both related => exact .error (ofMachines _ _ both) (ofErrors _ _ related)
  | fault both related => exact .fault (ofMachines _ _ both) (ofFaults _ _ related)
  | exhausted => exact .exhausted

/-- Two runs side by side: how far they may differ, and the stores that they start from. Every frame
that is made on the way is shared. -/
structure Coupling extends Likeness where
  left : Store
  right : Store
  fresh {f : FrameId} : left.nextFrame ≤ f → shared f

namespace Coupling

variable {p : Coupling}

/-- Two values that the runs may have in the same place. -/
abbrev Like (p : Coupling) : Value → Value → Prop := Value.Alike p.toLikeness

/-! ## Stores -/

/-- The stores have the same frames. Shared ones are alike, all others as they were at the start. -/
structure Stores (p : Coupling) (s s' : Store) : Prop where
  frames : s'.nextFrame = s.nextFrame
  grown : p.left.nextFrame ≤ s.nextFrame
  alike {f : FrameId} : p.shared f →
    Option.Rel (Frame.Alike p.toLikeness) (s.frame? f) (s'.frame? f)
  left {f : FrameId} : ¬ p.shared f → s.frame? f = p.left.frame? f
  right {f : FrameId} : ¬ p.shared f → s'.frame? f = p.right.frame? f

namespace Stores

variable {s s' t t' : Store} {f : FrameId} {key : Key}

theorem newFrame (h : p.Stores s s') {outer : Option FrameId}
    (outward : ∀ g, outer = some g → p.shared g) :
    p.Stores (s.newFrame outer) (s'.newFrame outer) := by
  have new : p.shared s.nextFrame := p.fresh h.grown
  constructor
  · rw [Store.nextFrame_newFrame, Store.nextFrame_newFrame, h.frames]
  · rw [Store.nextFrame_newFrame]
    exact Nat.le_succ_of_le h.grown
  · intro g shared
    by_cases made : g = s.nextFrame
    · rw [made, Store.frame?_newFrame_self, ← h.frames, Store.frame?_newFrame_self]
      exact .some (.empty outward)
    · rw [Store.frame?_newFrame_of_ne made]
      rw [← h.frames] at made
      rw [Store.frame?_newFrame_of_ne made]
      exact h.alike shared
  · intro g unshared
    have older : g ≠ s.nextFrame := fun same => unshared (same ▸ new)
    rw [Store.frame?_newFrame_of_ne older]
    exact h.left unshared
  · intro g unshared
    have older : g ≠ s'.nextFrame := fun same => unshared (same.trans h.frames ▸ new)
    rw [Store.frame?_newFrame_of_ne older]
    exact h.right unshared

/-- One shared frame is changed in both stores. -/
theorem change (h : p.Stores s s') (shared : p.shared f) {change change' : Frame → Frame}
    (frames : t.nextFrame = s.nextFrame) (frames' : t'.nextFrame = s'.nextFrame)
    (here : ∀ g, t.frame? g = if f = g then (s.frame? g).map change else s.frame? g)
    (here' : ∀ g, t'.frame? g = if f = g then (s'.frame? g).map change' else s'.frame? g)
    (kept : ∀ {frame frame' : Frame}, frame.Alike p.toLikeness frame' →
      (change frame).Alike p.toLikeness (change' frame')) : p.Stores t t' := by
  constructor
  · rw [frames, frames', h.frames]
  · rw [frames]
    exact h.grown
  · intro g sharedG
    rw [here, here']
    have before := h.alike sharedG
    generalize s.frame? g = old, s'.frame? g = old' at before
    split
    · cases before with
      | none => exact .none
      | some alike => exact .some (kept alike)
    · exact before
  · intro g unshared
    have elsewhere : f ≠ g := fun same => unshared (same ▸ shared)
    rw [here, if_neg elsewhere]
    exact h.left unshared
  · intro g unshared
    have elsewhere : f ≠ g := fun same => unshared (same ▸ shared)
    rw [here', if_neg elsewhere]
    exact h.right unshared

theorem bind (h : p.Stores s s') (shared : p.shared f) {symbol symbol' value value' : Value}
    (symbols : p.Like symbol symbol') (values : p.Like value value') :
    p.Stores (s.bind f symbol value) (s'.bind f symbol' value') := by
  apply h.change shared (s.nextFrame_bind f symbol value) (s'.nextFrame_bind f symbol' value')
  · intro g
    exact s.frame?_bind f g symbol value
  · intro g
    exact s'.frame?_bind f g symbol' value'
  · intro frame frame' alike
    exact alike.bind symbols values

theorem bindAll (h : p.Stores s s') (shared : p.shared f)
    {symbols symbols' values values' : List Value}
    (likeSymbols : List.Forall₂ p.Like symbols symbols')
    (likeValues : List.Forall₂ p.Like values values') :
    p.Stores (s.bindAll f symbols values) (s'.bindAll f symbols' values') := by
  induction likeSymbols generalizing s s' values values' with
  | nil => exact h
  | cons likeSymbol _ ih =>
    cases likeValues with
    | nil => exact h
    | cons likeValue likeRest => exact ih (h.bind shared likeSymbol likeValue) likeRest

theorem assign (h : p.Stores s s') {slot : Slot} (shared : p.shared slot.frame)
    {value value' : Value} (values : p.Like value value') :
    p.Stores (s.assign slot value) (s'.assign slot value') := by
  apply h.change shared (s.nextFrame_assign slot value) (s'.nextFrame_assign slot value')
  · intro g
    exact s.frame?_assign slot g value
  · intro g
    exact s'.frame?_assign slot g value'
  · intro frame frame' alike
    exact alike.assign slot.index values

/-! ### Lookup -/

/-- A lookup from a shared frame passes through the same frames, all of them shared. -/
theorem outwardWithin_eq (h : p.Stores s s') (bound : Nat) (shared : p.shared f) :
    s'.outwardWithin bound f = s.outwardWithin bound f ∧
      ∀ g ∈ s.outwardWithin bound f, p.shared g := by
  induction bound generalizing f with
  | zero => exact ⟨rfl, fun g mem => absurd mem List.not_mem_nil⟩
  | succ bound ih =>
    have before := h.alike shared
    have only : ∀ g ∈ [f], p.shared g := by
      intro g mem
      rw [List.mem_singleton.mp mem]
      exact shared
    unfold Store.outwardWithin
    generalize s.frame? f = here, s'.frame? f = here' at before
    cases before with
    | none => exact ⟨rfl, only⟩
    | @some frame frame' alike =>
      rw [Option.bind_some, Option.bind_some, alike.outer]
      cases link : frame.outer with
      | none => exact ⟨rfl, only⟩
      | some outer =>
        obtain ⟨same, sharedOuter⟩ := ih (alike.outward link)
        dsimp only
        rw [same]
        refine ⟨rfl, fun g mem => ?_⟩
        rcases List.mem_cons.mp mem with rfl | mem
        · exact shared
        · exact sharedOuter g mem

theorem slotIn?_eq (h : p.Stores s s') (shared : p.shared f) :
    s'.slotIn? key f = s.slotIn? key f := by
  have before := h.alike shared
  unfold Store.slotIn? Frame.slot?
  generalize s.frame? f = here, s'.frame? f = here' at before
  cases before with
  | none => rfl
  | some alike => rw [Option.bind_some, Option.bind_some, alike.names]

theorem find?_eq (h : p.Stores s s') (shared : p.shared f) : s'.find? f key = s.find? f key := by
  obtain ⟨same, sharedAll⟩ := h.outwardWithin_eq s.frames.size shared
  have size : s'.frames.size = s.frames.size := h.frames
  unfold Store.find? Store.outward
  rw [size, same]
  apply Store.findSome?_slotIn?_eq
  intro g mem
  exact h.slotIn?_eq (sharedAll g mem)

theorem shared_of_find? (h : p.Stores s s') (shared : p.shared f) {slot : Slot}
    (found : s.find? f key = some slot) : p.shared slot.frame :=
  (h.outwardWithin_eq s.frames.size shared).2 slot.frame (Store.exists_named found).1

theorem lookup? (h : p.Stores s s') (shared : p.shared f) :
    Option.Rel (Binding.Alike p.toLikeness) (s.lookup? f key) (s'.lookup? f key) := by
  unfold Store.lookup?
  rw [h.find?_eq shared]
  cases found : s.find? f key with
  | none => exact .none
  | some slot =>
    obtain ⟨_, frame, frameFound, named⟩ := Store.exists_named found
    have before := h.alike (h.shared_of_find? shared found)
    rw [Option.bind_some, Option.bind_some]
    unfold Store.binding?
    rw [frameFound] at before ⊢
    generalize s'.frame? slot.frame = here' at before
    cases before with
    | some alike => exact alike.named named

end Stores

/-! ## Computations -/

/-- The machines have such stores, have given out the same identities and have written the same to
standard output. -/
structure Machines (p : Coupling) (m m' : Machine) : Prop where
  stores : p.Stores m.store m'.store
  serial : m'.serial = m.serial
  out : m'.out = m.out
  writes : m'.writes = m.writes

/-- Two endings of the same sort, in related machines, with related results, like errors or like
faults. -/
abbrev Ends {α β : Type} (p : Coupling) (R : α → β → Prop) : Outcome α → Outcome β → Prop :=
  Outcome.Both p.Machines R (ErrorValue.Alike p.toLikeness) (Fault.Alike p.toLikeness)

/-- From related machines both computations end in the same way. -/
structure Lockstep {α β : Type} (p : Coupling) (c : Context) (R : α → β → Prop) (x : Eval α)
    (y : Eval β) : Prop where
  run (m m' : Machine) : p.Machines m m' → p.Ends R (x c m) (y c m')

namespace Lockstep

variable {α β γ δ : Type} {c : Context} {R : α → β → Prop} {S : γ → δ → Prop} {f : FrameId}
  {l l' : Location} {v v' : Value}

theorem pure {a : α} {b : β} (related : R a b) : p.Lockstep c R (Pure.pure a) (Pure.pure b) := by
  constructor
  intro m m' machines
  exact .ok machines related

theorem bind {x : Eval α} {y : Eval β} {k : α → Eval γ} {k' : β → Eval δ}
    (first : p.Lockstep c R x y) (later : ∀ a b, R a b → p.Lockstep c S (k a) (k' b)) :
    p.Lockstep c S (x >>= k) (y >>= k') := by
  constructor
  intro m m' machines
  rw [Eval.bind_apply, Eval.bind_apply]
  have ended := first.run m m' machines
  generalize x c m = o, y c m' = o' at ended
  cases ended with
  | ok machines related => exact (later _ _ related).run _ _ machines
  | error machines alike => exact .error machines alike
  | fault machines alike => exact .fault machines alike
  | exhausted => exact .exhausted

theorem raise (cause : Cause) (loc : p.located l l') :
    p.Lockstep c R (Eval.raise cause l) (Eval.raise cause l') := by
  constructor
  intro m m' machines
  have next : m'.serial + 1 = m.serial + 1 := congrArg (· + 1) machines.serial
  exact .error ⟨machines.stores, next, machines.out, machines.writes⟩
    ⟨rfl, rfl, machines.serial, loc⟩

/-- What an error says of a value is its kind. -/
theorem raiseKind (cause : Kind → Cause) (alike : p.Like v v') (loc : p.located l l') :
    p.Lockstep c R (Eval.raise (cause v.kind) l) (Eval.raise (cause v'.kind) l') := by
  rw [alike.kind_eq]
  exact .raise (cause v.kind) loc

theorem fail {e e' : ErrorValue} (alike : e.Alike p.toLikeness e') :
    p.Lockstep c R (Eval.fail e) (Eval.fail e') := by
  constructor
  intro m m' machines
  exact .error machines alike

theorem abandon {reason reason' : Fault} (alike : reason.Alike p.toLikeness reason') :
    p.Lockstep c R (Eval.abandon reason) (Eval.abandon reason') := by
  constructor
  intro m m' machines
  exact .fault machines alike

theorem outOfFuel : p.Lockstep c R Eval.outOfFuel Eval.outOfFuel := by
  constructor
  intro m m' machines
  exact .exhausted

theorem ofExcept {result : Except Fault α} :
    p.Lockstep c (fun a b => b = a) (Eval.ofExcept result) (Eval.ofExcept result) := by
  cases result with
  | ok a => exact .pure rfl
  | error reason => exact .abandon (.same reason)

theorem catchError {x : Eval α} {y : Eval β} (h : p.Lockstep c R x y) :
    p.Lockstep c (AlikeExcept (ErrorValue.Alike p.toLikeness) R) (Eval.catchError x)
      (Eval.catchError y) := by
  constructor
  intro m m' machines
  unfold Eval.catchError
  have ended := h.run m m' machines
  generalize x c m = o, y c m' = o' at ended
  cases ended with
  | ok machines related => exact .ok machines (.ok related)
  | error machines alike => exact .ok machines (.error alike)
  | fault machines alike => exact .fault machines alike
  | exhausted => exact .exhausted

theorem andAfter {x : Eval α} {y : Eval β} {x' : Eval γ} {y' : Eval δ} (first : p.Lockstep c R x y)
    (second : p.Lockstep c S x' y') : p.Lockstep c S (Eval.andAfter x x') (Eval.andAfter y y') := by
  apply first.catchError.bind
  intro ended ended' caught
  cases caught with
  | ok _ => exact second
  | error alike =>
    apply second.catchError.bind
    intro _ _ _
    exact .fail alike

/-- A value is a result; an error ends both computations. -/
theorem settle (alike : p.Like v v') : p.Lockstep c p.Like (Eval.settle v) (Eval.settle v') := by
  cases alike with
  | error e => exact .fail e
  | nil l => exact .pure (.nil l)
  | truth l => exact .pure (.truth l)
  | symbol name l => exact .pure (.symbol name l)
  | integer i l => exact .pure (.integer i l)
  | cell first rest l => exact .pure (.cell first rest l)
  | closure sort identity params body frame l =>
    exact .pure (.closure sort identity params body frame l)
  | native op identity => exact .pure (.native op identity)

theorem settings : p.Lockstep c (fun a b => b = a) Eval.settings Eval.settings := by
  constructor
  intro m m' machines
  exact .ok machines rfl

theorem width : p.Lockstep c (fun a b => b = a) Eval.width Eval.width := by
  constructor
  intro m m' machines
  unfold Eval.width
  cases c.settings.arithmeticWidth with
  | ok bits => exact .ok machines rfl
  | error reason => exact .fault machines (.same reason)

theorem join (operation : Fold) (a b : Int) :
    p.Lockstep c (fun i i' => i' = i) (Eval.join operation a b) (Eval.join operation a b) := by
  constructor
  intro m m' machines
  exact ofExcept.run m m' machines

theorem printed (alike : p.Like v v') :
    p.Lockstep c (fun a b => b = a) (Eval.printed v) (Eval.printed v') := by
  unfold Eval.printed
  rw [alike.written_eq]
  exact .ofExcept

/-! ### The store -/

theorem freshIdentity :
    p.Lockstep c (fun a b => b = a) Eval.freshIdentity Eval.freshIdentity := by
  constructor
  intro m m' machines
  have next : m'.serial + 1 = m.serial + 1 := congrArg (· + 1) machines.serial
  exact .ok ⟨machines.stores, next, machines.out, machines.writes⟩ machines.serial

theorem modifyStore {change change' : Store → Store}
    (kept : ∀ s s', p.Stores s s' → p.Stores (change s) (change' s')) :
    p.Lockstep c (fun _ _ => True) (Eval.modifyStore change) (Eval.modifyStore change') := by
  constructor
  intro m m' machines
  have stores := kept m.store m'.store machines.stores
  exact .ok ⟨stores, machines.serial, machines.out, machines.writes⟩ trivial

/-- The new frame is shared. -/
theorem newFrame {outer : FrameId} (shared : p.shared outer) :
    p.Lockstep c (fun g g' => g' = g ∧ p.shared g) (Eval.newFrame (some outer))
      (Eval.newFrame (some outer)) := by
  constructor
  intro m m' machines
  have stores : p.Stores (m.store.newFrame (some outer)) (m'.store.newFrame (some outer)) := by
    apply machines.stores.newFrame
    intro g same
    rw [← Option.some.inj same]
    exact shared
  exact .ok ⟨stores, machines.serial, machines.out, machines.writes⟩
    ⟨machines.stores.frames, p.fresh machines.stores.grown⟩

theorem find (shared : p.shared f) (name : String) :
    p.Lockstep c (fun a b => b = a ∧ ∀ slot, a = some slot → p.shared slot.frame)
      (Eval.find f name) (Eval.find f name) := by
  constructor
  intro m m' machines
  refine .ok machines ⟨machines.stores.find?_eq shared, ?_⟩
  intro slot found
  exact machines.stores.shared_of_find? shared found

theorem lookup (shared : p.shared f) (name : String) :
    p.Lockstep c (Option.Rel (Binding.Alike p.toLikeness)) (Eval.lookup f name)
      (Eval.lookup f name) := by
  constructor
  intro m m' machines
  exact .ok machines (machines.stores.lookup? shared)

theorem bindSymbol (shared : p.shared f) {symbol symbol' : Value} (symbols : p.Like symbol symbol')
    (alike : p.Like v v') :
    p.Lockstep c p.Like (Eval.bindSymbol f symbol v) (Eval.bindSymbol f symbol' v') := by
  apply (Lockstep.modifyStore fun s s' stores => stores.bind shared symbols alike).bind
  intro _ _ _
  exact .pure alike

theorem assign {slot : Slot} (shared : p.shared slot.frame) (alike : p.Like v v') :
    p.Lockstep c p.Like (Eval.assign slot v) (Eval.assign slot v') := by
  apply (Lockstep.modifyStore fun s s' stores => stores.assign shared alike).bind
  intro _ _ _
  exact .pure alike

/-! ### Output -/

theorem attempt (text : String) :
    p.Lockstep c (fun a b => b = a) (Eval.attempt text) (Eval.attempt text) := by
  constructor
  intro m m' machines
  have out : m'.out ++ text = m.out ++ text := congrArg (· ++ text) machines.out
  unfold Eval.attempt
  rw [machines.writes]
  cases c.sink m.writes text with
  | none => exact .ok ⟨machines.stores, machines.serial, out, rfl⟩ rfl
  | some reason => exact .ok ⟨machines.stores, machines.serial, machines.out, rfl⟩ rfl

theorem write (text : String) (loc : p.located l l') :
    p.Lockstep c p.Like (Eval.write text l) (Eval.write text l') := by
  apply (Lockstep.attempt text).bind
  rintro _ refusal rfl
  cases refusal with
  | none => exact .pure (.nil loc)
  | some reason => exact .raise (.unwritable reason) loc

theorem writeValue (alike : p.Like v v') :
    p.Lockstep c p.Like (Eval.writeValue v) (Eval.writeValue v') := by
  unfold Eval.writeValue
  rw [alike.hasLongInteger_eq, alike.text_eq]
  split
  · exact .raise _ alike.loc
  · exact .write v.text alike.loc

/-- What is written to standard error may differ. -/
theorem log (source line line' : String) :
    p.Lockstep c (fun _ _ => True) (Eval.log source line) (Eval.log source line') := by
  constructor
  intro m m' machines
  show p.Ends _ ((if c.verbose then _ else _ : Eval Unit) c m)
    ((if c.verbose then _ else _ : Eval Unit) c m')
  cases c.verbose with
  | false => exact .ok machines trivial
  | true =>
    exact .ok ⟨machines.stores, machines.serial, machines.out, machines.writes⟩ trivial

end Lockstep

end Coupling

end MiniLisp
