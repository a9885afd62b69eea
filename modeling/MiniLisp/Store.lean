import MiniLisp.Printed

/-!
# Frames and bindings

A frame binds names and may have an outer frame, where a name that it does not bind is looked up
next. The store holds every frame that was ever made.

A name is bound to a *slot*. Assignment changes the value in the slot, so all that found the slot
see it. Binding a name anew makes a new slot and leaves the old one to whoever still refers to it,
which is why a frame keeps all its slots. The name keeps its place among the names of the frame.

* `Store.outward`: the frames that a lookup passes through, innermost first;
* `Store.find?`: the slot that a name denotes in a frame;
* `Store.bind`, `Store.assign`, `Store.newFrame`: the three changes.
-/

namespace MiniLisp

/-- A slot's symbol and its present value. -/
structure Binding where
  symbol : Value
  value : Value
deriving DecidableEq

/-- What a frame keeps a binding under: the name of its symbol. Values without a name, which a
hand-made parameter list may hold, share one key. -/
abbrev Key := Option String

/-- The text of a key. -/
def Key.text (key : Key) : String := key.getD "None"

namespace Binding

/-- The binding as a diagnostic text. -/
def inspect (b : Binding) : Except Fault String := do
  let value ← b.value.inspect
  return "Binding(" ++ Key.text b.symbol.name? ++ "=" ++ value ++ ")"

end Binding

/-- A frame: its names in the order in which they were first bound, each with the number of its
slot; all slots; and the outer frame. -/
structure Frame where
  names : List (Key × Nat)
  slots : Array Binding
  outer : Option FrameId
deriving DecidableEq

namespace Frame

/-- A frame without names. -/
def empty (outer : Option FrameId) : Frame := ⟨[], #[], outer⟩

/-- The number of the slot that a key is bound to. -/
def slot? (frame : Frame) (key : Key) : Option Nat := frame.names.lookup key

/-- Puts a key at a slot. A new key goes to the end, a known one keeps its place. -/
def place (key : Key) (slot : Nat) : List (Key × Nat) → List (Key × Nat)
  | [] => [(key, slot)]
  | (k, s) :: rest => if k == key then (k, slot) :: rest else (k, s) :: place key slot rest

/-- After a key is put at a slot, it is found there. -/
theorem lookup_place_self (key : Key) (slot : Nat) (names : List (Key × Nat)) :
    (place key slot names).lookup key = some slot := by
  induction names with
  | nil => simp [place]
  | cons entry rest ih =>
    obtain ⟨k, s⟩ := entry
    by_cases same : k = key
    · simp [place, same]
    · have differs : (key == k) = false := by simpa using Ne.symm same
      simp [place, same, List.lookup_cons, differs, ih]

/-- Every other key is found where it was. -/
theorem lookup_place_of_ne {key other : Key} (ne : other ≠ key) (slot : Nat)
    (names : List (Key × Nat)) : (place key slot names).lookup other = names.lookup other := by
  induction names with
  | nil =>
    have differs : (other == key) = false := by simpa using ne
    simp [place, List.lookup_cons, differs]
  | cons entry rest ih =>
    obtain ⟨k, s⟩ := entry
    by_cases same : k = key
    · subst same
      have differs : (other == k) = false := by simpa using ne
      simp [place, List.lookup_cons, differs]
    · simp [place, same, List.lookup_cons, ih]

/-- The keys keep their order, and a new key comes last. -/
theorem map_fst_place (key : Key) (slot : Nat) (names : List (Key × Nat)) :
    (place key slot names).map Prod.fst =
      if key ∈ names.map Prod.fst then names.map Prod.fst else names.map Prod.fst ++ [key] := by
  induction names with
  | nil => simp [place]
  | cons entry rest ih =>
    by_cases same : entry.1 = key
    · simp [place, same]
    · have differs : ¬ key = entry.1 := Ne.symm same
      by_cases present : key ∈ rest.map Prod.fst
      · rw [if_pos present] at ih
        simp [place, same, ih, present]
      · rw [if_neg present] at ih
        simp [place, same, ih, present, differs]

/-- Binds a symbol to a new slot that holds the value. -/
def bind (frame : Frame) (symbol value : Value) : Frame :=
  { frame with
    names := place symbol.name? frame.slots.size frame.names
    slots := frame.slots.push ⟨symbol, value⟩ }

/-- Changes the value in a slot. -/
def assign (frame : Frame) (slot : Nat) (value : Value) : Frame :=
  { frame with slots := frame.slots.modify slot fun b => { b with value } }

/-- The keys with their bindings, in order. -/
def entries (frame : Frame) : List (Key × Binding) :=
  frame.names.filterMap fun (key, slot) => frame.slots[slot]?.map (key, ·)

/-- The keys with the printed forms of their values, in order. -/
def listing (frame : Frame) : Except Fault (List (Key × String)) :=
  frame.entries.mapM fun (key, b) => do
    let text ← b.value.written
    return (key, text)

/-- The bindings between braces. -/
def entriesText (frame : Frame) : Except Fault String := do
  let entries ← frame.listing
  return "\x7b" ++ ", ".intercalate (entries.map fun (key, text) => key.text ++ ": " ++ text) ++
    "\x7d"

end Frame

/-- The place of a binding in the store. -/
structure Slot where
  frame : FrameId
  index : Nat
deriving DecidableEq

/-- All frames, numbered in the order in which they were made. -/
structure Store where
  frames : Array Frame
deriving DecidableEq

namespace Store

/-- A store without frames. -/
def empty : Store := ⟨#[]⟩

/-- The frame of the given number. -/
def frame? (store : Store) (f : FrameId) : Option Frame := store.frames[f]?

/-- The number that the next frame gets. -/
def nextFrame (store : Store) : FrameId := store.frames.size

/-- Adds a frame without names. Its number is `nextFrame`. -/
def newFrame (store : Store) (outer : Option FrameId) : Store :=
  ⟨store.frames.push (Frame.empty outer)⟩

/-- Binds a symbol in a frame. -/
def bind (store : Store) (f : FrameId) (symbol value : Value) : Store :=
  ⟨store.frames.modify f fun frame => frame.bind symbol value⟩

/-- Binds symbols to values in a frame, in order, as far as there are both. -/
def bindAll (store : Store) (f : FrameId) (symbols values : List Value) : Store :=
  (symbols.zip values).foldl (fun store (symbol, value) => store.bind f symbol value) store

/-- Changes the value in a slot. -/
def assign (store : Store) (slot : Slot) (value : Value) : Store :=
  ⟨store.frames.modify slot.frame fun frame => frame.assign slot.index value⟩

/-! ### The frames after a change -/

theorem frame?_newFrame_self (store : Store) (outer : Option FrameId) :
    (store.newFrame outer).frame? store.nextFrame = some (Frame.empty outer) := by
  simp [newFrame, frame?, nextFrame]

theorem frame?_newFrame_of_ne {store : Store} {f : FrameId} (ne : f ≠ store.nextFrame)
    (outer : Option FrameId) : (store.newFrame outer).frame? f = store.frame? f := by
  simp only [newFrame, frame?, nextFrame] at *
  rw [Array.getElem?_push, if_neg ne]

theorem frame?_bind (store : Store) (f g : FrameId) (symbol value : Value) :
    (store.bind f symbol value).frame? g =
      if f = g then (store.frame? g).map (·.bind symbol value) else store.frame? g := by
  simp only [bind, frame?, Array.getElem?_modify]

theorem frame?_assign (store : Store) (slot : Slot) (g : FrameId) (value : Value) :
    (store.assign slot value).frame? g =
      if slot.frame = g then (store.frame? g).map (·.assign slot.index value)
      else store.frame? g := by
  simp only [assign, frame?, Array.getElem?_modify]

/-! ### Lookup -/

/-- The frame and the frames outside it, at most `bound` of them. -/
def outwardWithin (store : Store) : (bound : Nat) → FrameId → List FrameId
  | 0, _ => []
  | bound + 1, f => f :: match (store.frame? f).bind Frame.outer with
    | none => []
    | some outer => store.outwardWithin bound outer

/-- The frame and the frames outside it, innermost first. Links that do not lead back pass through
each frame at most once, so the number of frames bounds their number. -/
def outward (store : Store) (f : FrameId) : List FrameId :=
  store.outwardWithin store.frames.size f

/-- The slot of a key in one frame. -/
def slotIn? (store : Store) (key : Key) (f : FrameId) : Option Slot :=
  (store.frame? f).bind fun frame => (frame.slot? key).map (⟨f, ·⟩)

/-- The slot that a key denotes in a frame: that of the innermost frame which binds it. -/
def find? (store : Store) (f : FrameId) (key : Key) : Option Slot :=
  (store.outward f).findSome? (store.slotIn? key)

/-- The binding in a slot. -/
def binding? (store : Store) (slot : Slot) : Option Binding :=
  (store.frame? slot.frame).bind (·.slots[slot.index]?)

/-- The binding that a key denotes in a frame. -/
def lookup? (store : Store) (f : FrameId) (key : Key) : Option Binding :=
  (store.find? f key).bind store.binding?

/-- The bindings of a frame, with a hint at an outer frame if there is one. -/
def frameText (store : Store) (f : FrameId) : Except Fault String :=
  match store.frame? f with
  | none => .ok ""
  | some frame => do
    let entries ← frame.entriesText
    return entries ++ if frame.outer.isSome then " -> ..." else ""

/-- The bindings of a frame and of all frames outside it. -/
def chainText (store : Store) (f : FrameId) : Except Fault String := do
  let frames ← ((store.outward f).filterMap store.frame?).mapM Frame.entriesText
  return "<Environment chain: " ++ " -> ".intercalate frames ++ ">"

end Store

end MiniLisp
