import Mathlib.Data.List.Chain
import MiniLisp.Proofs.Lookup

/-!
# The tree of frames

Each frame but the root has a frame around it (`Store.outer?`), which is older, so the frames are a
tree and a lookup goes from its frame to the root and ends there.

* `Store.Nested`: the root, and no other frame, has no frame around it, which evaluations keep
  (`Eval.changing_nested`);
* `Store.Older`: the frame around a frame is older, which bounds every lookup: `Store.outward_eq`
  and `Store.find?_eq` are its recursion without the bound;
* `Store.outward_ends`: a lookup passes from each frame to the one around it, down to the root.
-/

namespace MiniLisp

namespace Store

variable {s : Store} {f g root : FrameId} {key : Key}

theorem outer?_bind (s : Store) (f g : FrameId) (symbol value : Value) :
    (s.bind f symbol value).outer? g = s.outer? g := by
  unfold outer?
  rw [frame?_bind]
  split
  · cases s.frame? g <;> rfl
  · rfl

theorem outer?_bindAll (s : Store) (f g : FrameId) (symbols values : List Value) :
    (s.bindAll f symbols values).outer? g = s.outer? g := by
  unfold bindAll
  induction symbols.zip values generalizing s with
  | nil => rfl
  | cons pair pairs ih => rw [List.foldl_cons, ih, outer?_bind]

theorem outer?_newFrame (s : Store) (outer : Option FrameId) (g : FrameId) :
    (s.newFrame outer).outer? g = if g = s.nextFrame then outer else s.outer? g := by
  unfold outer?
  split
  · next new =>
    rw [new, frame?_newFrame_self]
    rfl
  · next old => rw [frame?_newFrame_of_ne old]

/-! ## The root -/

/-- The root exists, and it is the only frame without a frame around it. -/
structure Nested (root : FrameId) (s : Store) : Prop where
  inside : root < s.nextFrame
  outer {f : FrameId} : f < s.nextFrame → (s.outer? f = none ↔ f = root)

theorem Nested.bind (h : s.Nested root) (f : FrameId) (symbol value : Value) :
    (s.bind f symbol value).Nested root := by
  constructor
  · rw [nextFrame_bind]
    exact h.inside
  · intro g inside
    rw [nextFrame_bind] at inside
    rw [outer?_bind]
    exact h.outer inside

theorem Nested.assign (h : s.Nested root) (slot : Slot) (value : Value) :
    (s.assign slot value).Nested root := by
  constructor
  · rw [nextFrame_assign]
    exact h.inside
  · intro g inside
    rw [nextFrame_assign] at inside
    rw [outer?_assign]
    exact h.outer inside

theorem Nested.newFrame (h : s.Nested root) (outer : FrameId) :
    (s.newFrame (some outer)).Nested root := by
  constructor
  · rw [nextFrame_newFrame]
    exact Nat.lt_succ_of_lt h.inside
  · intro g inside
    rw [nextFrame_newFrame] at inside
    rw [outer?_newFrame]
    split
    · next new =>
      subst new
      have young : s.nextFrame ≠ root := Nat.ne_of_gt h.inside
      simp [young]
    · next old => exact h.outer (Nat.lt_of_le_of_ne (Nat.le_of_lt_succ inside) old)

theorem Nested.bindAll (h : s.Nested root) (f : FrameId) (symbols values : List Value) :
    (s.bindAll f symbols values).Nested root := by
  constructor
  · rw [nextFrame_bindAll]
    exact h.inside
  · intro g inside
    rw [nextFrame_bindAll] at inside
    rw [outer?_bindAll]
    exact h.outer inside

/-- The only frame of a store is its root. -/
theorem nested_newFrame_empty : (empty.newFrame none).Nested 0 := by
  constructor
  · exact Nat.zero_lt_one
  · intro f inside
    have first : f = 0 := Nat.lt_one_iff.mp inside
    subst first
    exact ⟨fun _ => rfl, fun _ => rfl⟩

end Store

theorem Eval.changing_nested (root : FrameId) :
    Changing fun _ m m' => m.store.Nested root → m'.store.Nested root where
  refl _ _ := id
  trans first second := second ∘ first
  counted _ _ := id
  written _ _ _ := id
  bind f _ symbol value h := h.bind f symbol value
  assign _ _ slot value h := h.assign slot value
  inNewFrame _ _ outer symbols values _ inside h :=
    inside ((h.newFrame outer).bindAll _ symbols values)

namespace Store

variable {s : Store} {f g root : FrameId} {key : Key}

/-! ## Lookup -/

/-- The frame around a frame is older. -/
def Older (s : Store) : Prop := ∀ f g, s.outer? f = some g → g < f

/-- A lookup never comes to its bound. -/
theorem Older.outwardWithin_eq (older : s.Older) {bound bound' : Nat} (enough : f < bound)
    (enough' : f < bound') : s.outwardWithin bound f = s.outwardWithin bound' f := by
  induction bound generalizing f bound' with
  | zero => exact absurd enough (Nat.not_lt_zero f)
  | succ bound ih =>
    obtain ⟨bound', rfl⟩ := Nat.exists_eq_succ_of_ne_zero (Nat.ne_zero_of_lt enough')
    unfold outwardWithin
    cases link : (s.frame? f).bind Frame.outer with
    | none => rfl
    | some g =>
      have below : g < f := older f g link
      have rest : s.outwardWithin bound g = s.outwardWithin bound' g :=
        ih (Nat.lt_of_lt_of_le below (Nat.le_of_lt_succ enough))
          (Nat.lt_of_lt_of_le below (Nat.le_of_lt_succ enough'))
      show f :: s.outwardWithin bound g = f :: s.outwardWithin bound' g
      rw [rest]

/-- A lookup passes through its frame, and then through those that a lookup in the frame around it
passes through. -/
theorem Older.outward_eq (older : s.Older) (inside : f < s.nextFrame) :
    s.outward f = f :: match s.outer? f with
      | none => []
      | some g => s.outward g := by
  have inside' : f < s.frames.size := inside
  have more := older.outwardWithin_eq inside' (Nat.lt_succ_of_lt inside')
  show s.outwardWithin s.frames.size f = _
  rw [more]
  rfl

/-- A name is looked up in the frame, and if it is not bound there, in the frame around it. -/
theorem Older.find?_eq (older : s.Older) (inside : f < s.nextFrame) :
    s.find? f key = match s.slotIn? key f, s.outer? f with
      | some slot, _ => some slot
      | none, some g => s.find? g key
      | none, none => none := by
  unfold find?
  rw [older.outward_eq inside, List.findSome?_cons]
  cases s.slotIn? key f with
  | some slot => rfl
  | none => cases s.outer? f <;> rfl

/-- From the frame each next one is the frame around the one before and older than it, and the last
one is the root. -/
structure EndsAt (s : Store) (root : FrameId) (passed : List FrameId) : Prop where
  linked : passed.IsChain fun f g => s.outer? f = some g
  older : passed.Pairwise fun f g => g < f
  last : passed.getLast? = some root

/-- A lookup passes from each frame to the one around it, down to the root. The induction is on the
number of the frame, since the frame around it has a smaller one. -/
theorem outward_ends (nested : s.Nested root) (older : s.Older) (inside : f < s.nextFrame) :
    s.EndsAt root (s.outward f) ∧ ∀ g ∈ s.outward f, g ≤ f := by
  induction f using Nat.strongRecOn with
  | ind f ih =>
    rw [older.outward_eq inside]
    cases link : s.outer? f with
    | none =>
      have atRoot : f = root := (nested.outer inside).mp link
      refine ⟨⟨.singleton f, List.pairwise_singleton _ f, by rw [atRoot]; rfl⟩, ?_⟩
      intro g mem
      exact Nat.le_of_eq (List.mem_singleton.mp mem)
    | some g =>
      have below : g < f := older f g link
      have insideOuter : g < s.nextFrame := Nat.lt_trans below inside
      obtain ⟨⟨linked, descending, last⟩, atMost⟩ := ih g below insideOuter
      obtain ⟨more, passed⟩ := outward_eq_cons insideOuter
      dsimp only
      refine ⟨⟨?_, ?_, ?_⟩, ?_⟩
      · rw [passed] at linked ⊢
        exact linked.cons_cons link
      · exact List.pairwise_cons.mpr
          ⟨fun h mem => Nat.lt_of_le_of_lt (atMost h mem) below, descending⟩
      · rw [passed] at last ⊢
        rwa [List.getLast?_cons_cons]
      · intro h mem
        rcases List.mem_cons.mp mem with rfl | mem
        · exact Nat.le_refl h
        · exact Nat.le_trans (atMost h mem) (Nat.le_of_lt below)

end Store

end MiniLisp
