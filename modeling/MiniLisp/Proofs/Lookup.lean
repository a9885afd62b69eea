import MiniLisp.Proofs.Scoping

/-!
# Lookup after a change

What a name denotes, and what it denotes after a slot has been assigned to, or a symbol has been
bound in the frame of the lookup.

* `Store.exists_named`: the slot that a name denotes has that name in its frame;
* `Store.Backed`, `Store.Linked`: what names and outer links refer to exists;
* `Store.find?_assign`, `Store.binding?_assign`, `Store.lookup?_assign_of_eq`: an assignment changes
  one binding and no slot that a name denotes;
* `Store.slotIn?_bind`, `Store.binding?_bind`, `Store.lookup?_bind_self`: a symbol that was bound is
  found in its frame, in a new slot;
* `Store.Evolves.find?_eq`: where only the frame of the lookup can have got names, a name that
  this frame binds as before denotes what it denoted.
-/

namespace MiniLisp

theorem Frame.mem_names_of_slot? {frame : Frame} {key : Key} {index : Nat}
    (found : frame.slot? key = some index) : (key, index) ∈ frame.names := by
  obtain ⟨before, after, names, _⟩ := List.lookup_eq_some_iff.mp found
  rw [names]
  exact List.mem_append_right before List.mem_cons_self

/-- Every name of the frame has a slot. -/
def Frame.Backed (frame : Frame) : Prop :=
  ∀ (key : Key) (index : Nat), (key, index) ∈ frame.names → index < frame.slots.size

namespace Store

variable {s s' : Store} {f : FrameId} {key : Key}

/-- The frame around a frame. -/
def outer? (s : Store) (f : FrameId) : Option FrameId := (s.frame? f).bind Frame.outer

/-- The slot that a name denotes is in a frame that the lookup passes through, under that name. -/
theorem exists_named {slot : Slot} (found : s.find? f key = some slot) :
    slot.frame ∈ s.outward f ∧
      ∃ frame, s.frame? slot.frame = some frame ∧ (key, slot.index) ∈ frame.names := by
  obtain ⟨inner, g, outer, passed, here, _⟩ := List.findSome?_eq_some_iff.mp found
  obtain ⟨frame, frameFound, placed⟩ := Option.bind_eq_some_iff.mp here
  obtain ⟨index, named, rfl⟩ := Option.map_eq_some_iff.mp placed
  refine ⟨?_, frame, frameFound, Frame.mem_names_of_slot? named⟩
  rw [passed]
  exact List.mem_append_right inner List.mem_cons_self

/-- Every name has a slot in its frame. -/
def Backed (s : Store) : Prop := ∀ f frame, s.frame? f = some frame → frame.Backed

/-- Every outer frame exists. -/
def Linked (s : Store) : Prop := ∀ f g, s.outer? f = some g → g < s.nextFrame

/-- The slot that a name denotes holds something. -/
theorem Backed.exists_binding? (backed : s.Backed) {slot : Slot}
    (found : s.find? f key = some slot) : ∃ b, s.binding? slot = some b := by
  obtain ⟨_, frame, frameFound, named⟩ := exists_named found
  have held := Array.getElem?_eq_getElem (backed _ frame frameFound key _ named)
  unfold binding?
  rw [frameFound]
  exact ⟨_, held⟩

/-- Frames that bind a name to the same slots are looked through with the same result. -/
theorem findSome?_slotIn?_eq {gs : List FrameId}
    (same : ∀ g ∈ gs, s'.slotIn? key g = s.slotIn? key g) :
    gs.findSome? (s'.slotIn? key) = gs.findSome? (s.slotIn? key) := by
  induction gs with
  | nil => rfl
  | cons g gs ih =>
    have later := ih fun h mem => same h (List.mem_cons_of_mem g mem)
    rw [List.findSome?_cons, List.findSome?_cons, same g List.mem_cons_self, later]

/-- Where no frame that a lookup passes through has got another frame around it, the lookup goes the
same way. -/
theorem outwardWithin_congr {bound : Nat}
    (same : ∀ g ∈ s.outwardWithin bound f, s'.outer? g = s.outer? g) :
    s'.outwardWithin bound f = s.outwardWithin bound f := by
  induction bound generalizing f with
  | zero => rfl
  | succ bound ih =>
    have here : (s'.frame? f).bind Frame.outer = (s.frame? f).bind Frame.outer :=
      same f List.mem_cons_self
    unfold outwardWithin at same ⊢
    rw [here]
    cases link : (s.frame? f).bind Frame.outer with
    | none => rfl
    | some outer =>
      rw [link] at same
      dsimp only
      rw [ih fun g mem => same g (List.mem_cons_of_mem f mem)]

/-! ## Assignment -/

theorem outer?_assign (s : Store) (slot : Slot) (g : FrameId) (value : Value) :
    (s.assign slot value).outer? g = s.outer? g := by
  unfold outer?
  rw [frame?_assign]
  split
  · cases s.frame? g <;> rfl
  · rfl

theorem slotIn?_assign (s : Store) (slot : Slot) (value : Value) (key : Key) :
    (s.assign slot value).slotIn? key = s.slotIn? key := by
  funext f
  unfold slotIn?
  rw [frame?_assign]
  split
  · cases s.frame? f <;> rfl
  · rfl

theorem find?_assign (s : Store) (slot : Slot) (value : Value) (f : FrameId) (key : Key) :
    (s.assign slot value).find? f key = s.find? f key := by
  have size : (s.assign slot value).frames.size = s.frames.size := s.nextFrame_assign slot value
  unfold find? outward
  rw [size, outwardWithin_congr fun g _ => s.outer?_assign slot g value, slotIn?_assign]

theorem binding?_assign (s : Store) (slot other : Slot) (value : Value) :
    (s.assign slot value).binding? other =
      if slot = other then (s.binding? other).map fun b => { b with value }
      else s.binding? other := by
  unfold binding?
  rw [frame?_assign]
  by_cases inFrame : slot.frame = other.frame
  · rw [if_pos inFrame]
    cases s.frame? other.frame with
    | none => split <;> rfl
    | some frame =>
      simp only [Option.map_some, Option.bind_some, Frame.assign, Array.getElem?_modify]
      by_cases index : slot.index = other.index
      · have same : slot = other := by
          cases slot
          cases other
          simp_all
        rw [if_pos index, if_pos same]
      · have differs : slot ≠ other := fun same => index (congrArg Slot.index same)
        rw [if_neg index, if_neg differs]
  · have differs : slot ≠ other := fun same => inFrame (congrArg Slot.frame same)
    rw [if_neg inFrame, if_neg differs]

/-- A name that denotes the slot denotes the new value. -/
theorem lookup?_assign_of_eq {slot : Slot} {b : Binding} (found : s.find? f key = some slot)
    (held : s.binding? slot = some b) (value : Value) :
    (s.assign slot value).lookup? f key = some { b with value } := by
  unfold lookup?
  rw [find?_assign, found, Option.bind_some, binding?_assign, if_pos rfl, held]
  rfl

/-- A name that does not denote the slot denotes what it denoted. -/
theorem lookup?_assign_of_ne {slot : Slot} (elsewhere : s.find? f key ≠ some slot)
    (value : Value) : (s.assign slot value).lookup? f key = s.lookup? f key := by
  unfold lookup?
  rw [find?_assign]
  cases found : s.find? f key with
  | none => rfl
  | some other =>
    have differs : slot ≠ other := fun same => elsewhere (found.trans (congrArg some same.symm))
    rw [Option.bind_some, Option.bind_some, binding?_assign, if_neg differs]

/-! ## Binding -/

/-- A lookup begins in its own frame. -/
theorem outward_eq_cons (inside : f < s.nextFrame) : ∃ outer, s.outward f = f :: outer := by
  unfold outward
  cases size : s.frames.size with
  | zero =>
    unfold nextFrame at inside
    rw [size] at inside
    exact absurd inside (Nat.not_lt_zero f)
  | succ bound => exact ⟨_, rfl⟩

theorem exists_frame? (inside : f < s.nextFrame) : ∃ frame, s.frame? f = some frame :=
  ⟨s.frames[f], Array.getElem?_eq_getElem inside⟩

theorem frame?_eq_none (outside : s.nextFrame ≤ f) : s.frame? f = none :=
  Array.getElem?_eq_none outside

/-- A frame in which a symbol was bound has the symbol's name at a new slot. -/
theorem slotIn?_bind {frame : Frame} (found : s.frame? f = some frame) (symbol value : Value)
    (key : Key) (g : FrameId) :
    (s.bind f symbol value).slotIn? key g =
      if g = f ∧ key = symbol.name? then some ⟨f, frame.slots.size⟩ else s.slotIn? key g := by
  unfold slotIn? Frame.slot?
  rw [frame?_bind]
  by_cases own : g = f
  · subst own
    rw [if_pos rfl, found]
    show ((Frame.place symbol.name? frame.slots.size frame.names).lookup key).map _ = _
    by_cases named : key = symbol.name?
    · rw [if_pos ⟨rfl, named⟩, named, Frame.lookup_place_self]
      rfl
    · rw [if_neg fun both => named both.2, Frame.lookup_place_of_ne named]
      rfl
  · rw [if_neg (Ne.symm own), if_neg fun both => own both.1]

/-- The new slot of a frame in which a symbol was bound holds the value, and the others hold what
they held. -/
theorem binding?_bind {frame : Frame} (found : s.frame? f = some frame) (symbol value : Value)
    (slot : Slot) :
    (s.bind f symbol value).binding? slot =
      if slot = ⟨f, frame.slots.size⟩ then some ⟨symbol, value⟩ else s.binding? slot := by
  obtain ⟨g, index⟩ := slot
  unfold binding?
  rw [frame?_bind]
  by_cases own : f = g
  · subst own
    rw [if_pos rfl, found]
    show (frame.slots.push ⟨symbol, value⟩)[index]? = _
    rw [Array.getElem?_push]
    simp
  · have elsewhere : (⟨g, index⟩ : Slot) ≠ ⟨f, frame.slots.size⟩ := fun same =>
      own (congrArg Slot.frame same).symm
    rw [if_neg own, if_neg elsewhere]

theorem lookup?_bind_self (inside : f < s.nextFrame) (symbol value : Value) :
    (s.bind f symbol value).lookup? f symbol.name? = some ⟨symbol, value⟩ := by
  obtain ⟨frame, found⟩ := exists_frame? inside
  have here : f < (s.bind f symbol value).nextFrame := by
    rw [nextFrame_bind]
    exact inside
  obtain ⟨outer, passed⟩ := outward_eq_cons here
  unfold lookup? find?
  rw [passed, List.findSome?_cons, slotIn?_bind found, if_pos ⟨rfl, rfl⟩, Option.bind_some,
    binding?_bind found, if_pos rfl]

/-! ## Lookup in a store that has evolved -/

/-- A lookup passes through frames that exist. -/
theorem Linked.outward_inside (linked : s.Linked) (inside : f < s.nextFrame) :
    ∀ g ∈ s.outward f, g < s.nextFrame := by
  unfold outward
  generalize s.frames.size = bound
  induction bound generalizing f with
  | zero => exact fun g mem => absurd mem List.not_mem_nil
  | succ bound ih =>
    intro g mem
    unfold outwardWithin at mem
    rcases List.mem_cons.mp mem with rfl | mem
    · exact inside
    · cases link : (s.frame? f).bind Frame.outer with
      | none => simp [link] at mem
      | some outer =>
        rw [link] at mem
        exact ih (linked f outer link) g mem

/-- Frames other than the one where names may have been added bind each name as before. -/
theorem Evolves.slotIn?_eq (h : s.Evolves f s') {g : FrameId} (ne : g ≠ f)
    (inside : g < s.nextFrame) : s'.slotIn? key g = s.slotIn? key g := by
  obtain ⟨frame, found⟩ := exists_frame? inside
  obtain ⟨frame', found', kept⟩ := h.other ne found
  unfold slotIn? Frame.slot?
  rw [found, found', Option.bind_some, Option.bind_some, kept.names]

/-- A name denotes the slot that it denoted before, unless the frame of the lookup has bound it
anew. -/
theorem Evolves.find?_eq (h : s.Evolves f s') (linked : s.Linked) (inside : f < s.nextFrame)
    {slot : Slot} (found : s.find? f key = some slot)
    (unbound : s'.slotIn? key f = s.slotIn? key f) : s'.find? f key = some slot := by
  have same : ∀ g ∈ s.outward f, s'.slotIn? key g = s.slotIn? key g := by
    intro g mem
    by_cases own : g = f
    · rw [own, unbound]
    · exact h.slotIn?_eq own (linked.outward_inside inside g mem)
  obtain ⟨later, passed⟩ := h.outwardWithin_prefix h.size_le f
  unfold find? outward
  rw [← passed, List.findSome?_append]
  show ((s.outward f).findSome? (s'.slotIn? key)).or _ = _
  rw [findSome?_slotIn?_eq same]
  show (s.find? f key).or _ = _
  rw [found]
  rfl

end Store

theorem Policy.Holds.backed {p : Policy} {s : Store} (h : p.Holds s) : s.Backed := by
  intro f frame found key index mem
  obtain ⟨b, inSlot, _⟩ := (h f frame found).named mem
  exact (Array.getElem?_eq_some_iff.mp inSlot).1

theorem Policy.Holds.linked {p : Policy} {s : Store} (h : p.Holds s) : s.Linked := by
  intro f g link
  obtain ⟨frame, found, outer⟩ := Option.bind_eq_some_iff.mp link
  have inside : f < s.nextFrame := (Array.getElem?_eq_some_iff.mp found).1
  exact Nat.lt_trans ((h f frame found).outer outer) inside

end MiniLisp
