import MiniLisp.Proofs.Composition

/-!
# Where evaluation defines names

An evaluation may add names to the frame it takes place in, and to frames that it makes. Every
other frame keeps its names, each at the slot where it was; only the values in the slots may change.

* `Frame.Extends`, `Frame.Retains`: what may happen to the current frame, and to any other;
* `Store.Evolves`: both together, for a whole store;
* `Eval.Evolving`: computations that change a store in this way only, a property that evaluations
  inherit from what they are composed of;
* `Eval.evaluate_scoped`: every evaluation is one of them, and so is the running of a body.
-/

namespace MiniLisp

variable {α : Type}

/-! ## Frames -/

namespace Frame

/-- The names of the frame, in order. -/
def keys (frame : Frame) : List Key := frame.names.map Prod.fst

/-- The second frame is the first one after names were added at the end or bound anew. -/
structure Extends (old new : Frame) : Prop where
  outer : new.outer = old.outer
  keys : old.keys <+: new.keys

/-- The second frame is the first one except for the values in its slots. -/
structure Retains (old new : Frame) : Prop where
  outer : new.outer = old.outer
  names : new.names = old.names
  symbols : new.slots.map Binding.symbol = old.slots.map Binding.symbol

theorem Extends.refl (frame : Frame) : frame.Extends frame := ⟨rfl, List.prefix_rfl⟩

theorem Extends.trans {a b c : Frame} (h : a.Extends b) (h' : b.Extends c) : a.Extends c :=
  ⟨h'.outer.trans h.outer, h.keys.trans h'.keys⟩

theorem Retains.refl (frame : Frame) : frame.Retains frame := ⟨rfl, rfl, rfl⟩

theorem Retains.trans {a b c : Frame} (h : a.Retains b) (h' : b.Retains c) : a.Retains c :=
  ⟨h'.outer.trans h.outer, h'.names.trans h.names, h'.symbols.trans h.symbols⟩

theorem Retains.extends {a b : Frame} (h : a.Retains b) : a.Extends b := by
  have same : a.keys = b.keys := congrArg (List.map Prod.fst) h.names.symm
  exact ⟨h.outer, [], by rw [List.append_nil, same]⟩

theorem keys_bind (frame : Frame) (symbol value : Value) :
    (frame.bind symbol value).keys =
      if symbol.name? ∈ frame.keys then frame.keys else frame.keys ++ [symbol.name?] :=
  map_fst_place symbol.name? frame.slots.size frame.names

/-- Binding a symbol adds its name at the end or leaves the names as they are. -/
theorem extends_bind (frame : Frame) (symbol value : Value) :
    frame.Extends (frame.bind symbol value) := by
  refine ⟨rfl, ?_⟩
  rw [keys_bind]
  split
  · exact List.prefix_rfl
  · exact List.prefix_append _ _

theorem retains_assign (frame : Frame) (slot : Nat) (value : Value) :
    frame.Retains (frame.assign slot value) := by
  refine ⟨rfl, rfl, Array.ext_getElem? fun index => ?_⟩
  simp only [assign, Array.getElem?_map, Array.getElem?_modify]
  split
  · cases frame.slots[index]? <;> rfl
  · rfl

end Frame

/-! ## Stores -/

namespace Store

/-- No frame is lost, names are added to the frame `f` only, and no other frame binds a name
anew. -/
structure Evolves (f : FrameId) (s s' : Store) : Prop where
  own {frame : Frame} : s.frame? f = some frame →
    ∃ frame', s'.frame? f = some frame' ∧ frame.Extends frame'
  other {g : FrameId} {frame : Frame} : g ≠ f → s.frame? g = some frame →
    ∃ frame', s'.frame? g = some frame' ∧ frame.Retains frame'

namespace Evolves

variable {f : FrameId} {s s' s'' : Store}

theorem refl (f : FrameId) (s : Store) : s.Evolves f s :=
  ⟨fun found => ⟨_, found, .refl _⟩, fun _ found => ⟨_, found, .refl _⟩⟩

theorem trans (h : s.Evolves f s') (h' : s'.Evolves f s'') : s.Evolves f s'' := by
  refine ⟨fun found => ?_, fun ne found => ?_⟩
  · obtain ⟨frame', found', kept⟩ := h.own found
    obtain ⟨frame'', found'', kept'⟩ := h'.own found'
    exact ⟨frame'', found'', kept.trans kept'⟩
  · obtain ⟨frame', found', kept⟩ := h.other ne found
    obtain ⟨frame'', found'', kept'⟩ := h'.other ne found'
    exact ⟨frame'', found'', kept.trans kept'⟩

/-- What happens in a frame that was not there before changes no names of those that were, since the
new frame is none of them. -/
theorem trans_new {inner : FrameId} (h : s.Evolves f s') (new : s.frame? inner = none)
    (h' : s'.Evolves inner s'') : s.Evolves f s'' := by
  have old {g : FrameId} {frame : Frame} (found : s.frame? g = some frame) : g ≠ inner := by
    rintro rfl
    rw [new] at found
    cases found
  refine ⟨fun found => ?_, fun ne found => ?_⟩
  · obtain ⟨frame', found', kept⟩ := h.own found
    obtain ⟨frame'', found'', kept'⟩ := h'.other (old found) found'
    exact ⟨frame'', found'', kept.trans kept'.extends⟩
  · obtain ⟨frame', found', kept⟩ := h.other ne found
    obtain ⟨frame'', found'', kept'⟩ := h'.other (old found) found'
    exact ⟨frame'', found'', kept.trans kept'⟩

theorem exists_extends (h : s.Evolves f s') {g : FrameId} {frame : Frame}
    (found : s.frame? g = some frame) :
    ∃ frame', s'.frame? g = some frame' ∧ frame.Extends frame' := by
  by_cases same : g = f
  · subst same
    exact h.own found
  · obtain ⟨frame', found', kept⟩ := h.other same found
    exact ⟨frame', found', kept.extends⟩

end Evolves

theorem frame?_bind_self {s : Store} {f : FrameId} {frame : Frame} (found : s.frame? f = some frame)
    (symbol value : Value) :
    (s.bind f symbol value).frame? f = some (frame.bind symbol value) := by
  rw [frame?_bind, if_pos rfl, found]
  rfl

theorem evolves_bind (s : Store) (f : FrameId) (symbol value : Value) :
    s.Evolves f (s.bind f symbol value) := by
  refine ⟨fun {frame} found => ?_, fun {g frame} ne found => ?_⟩
  · exact ⟨_, frame?_bind_self found symbol value, frame.extends_bind symbol value⟩
  · refine ⟨frame, ?_, .refl frame⟩
    rw [frame?_bind, if_neg ne.symm, found]

theorem evolves_assign (s : Store) (f : FrameId) (slot : Slot) (value : Value) :
    s.Evolves f (s.assign slot value) := by
  have retained {g : FrameId} {frame : Frame} (found : s.frame? g = some frame) :
      ∃ frame', (s.assign slot value).frame? g = some frame' ∧ frame.Retains frame' := by
    rw [frame?_assign, found]
    split
    · exact ⟨frame.assign slot.index value, rfl, frame.retains_assign slot.index value⟩
    · exact ⟨frame, rfl, .refl frame⟩
  refine ⟨fun found => ?_, fun _ found => retained found⟩
  obtain ⟨frame', found', kept⟩ := retained found
  exact ⟨frame', found', kept.extends⟩

theorem frame?_nextFrame (s : Store) : s.frame? s.nextFrame = none := by
  simp [frame?, nextFrame]

theorem evolves_newFrame (s : Store) (f : FrameId) (outer : Option FrameId) :
    s.Evolves f (s.newFrame outer) := by
  have same {g : FrameId} {frame : Frame} (found : s.frame? g = some frame) :
      (s.newFrame outer).frame? g = some frame := by
    rw [frame?_newFrame_of_ne ?_, found]
    rintro rfl
    rw [frame?_nextFrame] at found
    cases found
  exact ⟨fun found => ⟨_, same found, .refl _⟩, fun _ found => ⟨_, same found, .refl _⟩⟩

theorem evolves_bindAll (s : Store) (f : FrameId) (symbols values : List Value) :
    s.Evolves f (s.bindAll f symbols values) := by
  unfold bindAll
  induction symbols.zip values generalizing s with
  | nil => exact .refl f s
  | cons pair pairs ih => exact (s.evolves_bind f pair.1 pair.2).trans (ih _)

/-- Binding parameters in a new frame changes no names of the frames before. -/
theorem evolves_newFrame_bindAll (s : Store) (f outer : FrameId) (symbols values : List Value) :
    s.Evolves f ((s.newFrame (some outer)).bindAll s.nextFrame symbols values) :=
  (s.evolves_newFrame f (some outer)).trans_new s.frame?_nextFrame
    (evolves_bindAll _ s.nextFrame symbols values)

/-! ### Lookup -/

/-- Frames that keep their outer links are passed through as before. -/
theorem Evolves.outwardWithin_prefix {f : FrameId} {s s' : Store} (h : s.Evolves f s')
    {bound bound' : Nat} (le : bound ≤ bound') (g : FrameId) :
    s.outwardWithin bound g <+: s'.outwardWithin bound' g := by
  induction bound generalizing bound' g with
  | zero => exact List.nil_prefix
  | succ bound ih =>
    obtain ⟨more, rfl⟩ := Nat.exists_eq_add_of_le' le
    rw [← Nat.add_assoc]
    unfold outwardWithin
    rw [List.cons_prefix_cons]
    refine ⟨rfl, ?_⟩
    cases found : s.frame? g with
    | none => exact List.nil_prefix
    | some frame =>
      obtain ⟨frame', found', kept⟩ := h.exists_extends found
      rw [found', Option.bind_some, Option.bind_some, kept.outer]
      cases frame.outer with
      | none => exact List.nil_prefix
      | some outer => exact ih (Nat.le_add_left _ _) outer

theorem Evolves.size_le {f : FrameId} {s s' : Store} (h : s.Evolves f s') :
    s.frames.size ≤ s'.frames.size := by
  cases size : s.frames.size with
  | zero => exact Nat.zero_le _
  | succ last =>
    have inside : last < s.frames.size := by omega
    obtain ⟨frame', found', _⟩ := h.exists_extends (Array.getElem?_eq_getElem inside)
    obtain ⟨inside', _⟩ := Array.getElem?_eq_some_iff.mp found'
    exact inside'

theorem isSome_slotIn? {s : Store} {key : Key} {f : FrameId} :
    (s.slotIn? key f).isSome = true ↔ ∃ frame, s.frame? f = some frame ∧ key ∈ frame.keys := by
  unfold slotIn? Frame.slot? Frame.keys
  cases s.frame? f with
  | none => simp
  | some frame => simp [List.lookup_isSome_iff, List.mem_map]

/-- A name that is bound as seen from some frame stays so. -/
theorem Evolves.isSome_find? {f : FrameId} {s s' : Store} (h : s.Evolves f s') {g : FrameId}
    {key : Key} (bound : (s.find? g key).isSome = true) : (s'.find? g key).isSome = true := by
  unfold find? at bound ⊢
  rw [List.findSome?_isSome_iff] at bound ⊢
  obtain ⟨place, passed, here⟩ := bound
  obtain ⟨frame, found, mem⟩ := isSome_slotIn?.mp here
  obtain ⟨frame', found', kept⟩ := h.exists_extends found
  refine ⟨place, (h.outwardWithin_prefix h.size_le g).subset passed, ?_⟩
  exact isSome_slotIn?.mpr ⟨frame', found', kept.keys.subset mem⟩

end Store

/-! ## Computations -/

namespace Eval

/-- However the computation ends, it has changed names in the frame `f` only. -/
abbrev Evolving (f : FrameId) (x : Eval α) : Prop :=
  Leaves (fun f m m' => m.store.Evolves f m'.store) f x

theorem changing_evolves : Changing fun f m m' => m.store.Evolves f m'.store where
  refl f m := .refl f m.store
  trans := .trans
  counted f m := .refl f m.store
  written f m _ := .refl f m.store
  bind f m := m.store.evolves_bind f
  assign f m := m.store.evolves_assign f
  inNewFrame f m outer symbols values _ inside :=
    (m.store.evolves_newFrame_bindAll f outer symbols values).trans_new m.store.frame?_nextFrame
      inside

/-- Parameters are bound in a frame that was not there before. -/
theorem bindArguments_new (f : FrameId) {sort : ClosureKind} {params : Value}
    {outer inner : FrameId} {values : List Value} {loc : Location} {c : Context} {m m₁ : Machine}
    (h : bindArguments sort params outer values loc c m = .ok inner m₁) :
    m.store.frame? inner = none ∧ m.store.Evolves f m₁.store := by
  rcases bindArguments_cases sort params outer values loc c m with
    bound | ⟨e, failed⟩ | ⟨reason, failed⟩
  · rw [bound] at h
    cases h
    exact ⟨m.store.frame?_nextFrame,
      m.store.evolves_newFrame_bindAll f outer params.items values⟩
  · rw [failed] at h
    cases h
  · rw [failed] at h
    cases h

/-! ## The evaluator -/

/-- The evaluator changes names in the frame only where it evaluates. -/
def Scoped (ev : Evaluator) : Prop := ∀ (f : FrameId) (expr : Value), Evolving f (ev f expr)

theorem Scoped.evalBody {ev : Evaluator} (hev : Scoped ev) (f : FrameId) (body : Value) :
    Evolving f (evalBody ev f body) := changing_evolves.closed.evalBody hev f body

theorem evaluate_evolving (fuel : Nat) : Scoped (evaluate fuel) := changing_evolves.evaluate fuel

/-- An evaluation that ends, in whatever way, adds names to the frame it takes place in and to no
other frame, so what a name is bound to as seen from a frame never gets lost. The running of a body
in the frame of its parameters changes no names of any earlier frame, those of its caller and of
its definition among them. -/
theorem evaluate_scoped (c : Context) (fuel : Nat) (m : Machine) :
    (∀ (f : FrameId) (expr : Value) (m' : Machine),
      (evaluate fuel f expr c m).machine? = some m' →
        m.store.Evolves f m'.store ∧
        ∀ (g : FrameId) (key : Key), (m.store.find? g key).isSome = true →
          (m'.store.find? g key).isSome = true) ∧
    ∀ (sort : ClosureKind) (params body : Value) (outer inner : FrameId) (values : List Value)
      (loc : Location) (m₁ m' : Machine),
      bindArguments sort params outer values loc c m = .ok inner m₁ →
      (evalBody (evaluate fuel) inner body c m₁).machine? = some m' →
      ∀ (g : FrameId) (frame : Frame), m.store.frame? g = some frame →
        ∃ frame', m'.store.frame? g = some frame' ∧ frame.Retains frame' := by
  refine ⟨fun f expr m' ended => ?_, ?_⟩
  · have evolves := (evaluate_evolving fuel f expr).run ended
    exact ⟨evolves, fun g key bound => evolves.isSome_find? bound⟩
  · intro sort params body outer inner values loc m₁ m' bound ended g frame found
    obtain ⟨new, evolves⟩ := bindArguments_new inner bound
    have inBody := ((evaluate_evolving fuel).evalBody inner body).run ended
    refine (evolves.trans inBody).other ?_ found
    rintro rfl
    rw [new] at found
    cases found

/-- A root frame that binds `setq`, and an empty frame inside it. -/
def nestedFrames : Machine :=
  let root := (Store.empty.newFrame none).bind 0 (.symbol "setq" .unknown) (.native .setq 0)
  ⟨root.newFrame (some 0), 1, "", 0, ""⟩

/-- The expression `(setq y nil)`. -/
def assignment : Value :=
  .ofItems (.nil .unknown) [.symbol "setq" .unknown, .symbol "y" .unknown, .nil .unknown]

theorem nestedFrames_scoped :
    (∃ m', (evaluate 5 1 assignment (.ofSettings .unset) nestedFrames).machine? = some m' ∧
      nestedFrames.store.Evolves 1 m'.store) ∧
    ∃ (m₁ m' : Machine),
      bindArguments .function (.ofItems (.nil .unknown) [.symbol "x" .unknown]) 0 [.truth .unknown]
        .unknown (.ofSettings .unset) nestedFrames = .ok 2 m₁ ∧
      (evalBody (evaluate 5) 2 (.ofItems (.nil .unknown) [assignment]) (.ofSettings .unset)
        m₁).machine? = some m' ∧
      ∀ (g : FrameId) (frame : Frame), nestedFrames.store.frame? g = some frame →
        ∃ frame', m'.store.frame? g = some frame' ∧ frame.Retains frame' := by
  have scopes := evaluate_scoped (.ofSettings .unset) 5 nestedFrames
  refine ⟨⟨_, rfl, (scopes.1 1 assignment _ rfl).1⟩, _, _, rfl, rfl, ?_⟩
  exact scopes.2 .function (.ofItems (.nil .unknown) [.symbol "x" .unknown])
    (.ofItems (.nil .unknown) [assignment]) 0 2 [.truth .unknown] .unknown _ _ rfl rfl

end Eval

end MiniLisp
