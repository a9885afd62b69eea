import Mathlib.Data.List.Forall2
import MiniLisp.Proofs.Policy

/-!
# Likeness

Two values are alike if they differ in the locations of their parts at most, and refer to the same
frames. How far locations may differ, and which frames may be referred to, is for a `Likeness` to
say.

* `Value.Alike`, `ErrorValue.Alike`, `Fault.Alike`: values, errors and faults that are alike;
* `Value.Alike.written_eq` and its neighbours: whatever an evaluation asks of a value, its location
  apart, has one answer for values that are alike;
* `Frame.Alike`: frames that bind the same names to values that are alike, with a lemma for each
  change of a frame.
-/

namespace MiniLisp

/-- How far two values may differ: the locations that may stand for each other, and the frames that
both values may refer to. -/
structure Likeness where
  located : Location → Location → Prop
  shared : FrameId → Prop
  unknown : located .unknown .unknown

/-- The likeness of values that may refer to any frame. -/
def Likeness.anyFrame (r : Likeness) : Likeness := { r with shared := fun _ => True }

/-- Two errors differ in their locations at most. -/
structure ErrorValue.Alike (r : Likeness) (e e' : ErrorValue) : Prop where
  kind : e'.kind = e.kind
  message : e'.message = e.message
  identity : e'.identity = e.identity
  loc : r.located e.loc e'.loc

/-- Two faults differ in the location of a syntax error at most. -/
inductive Fault.Alike (r : Likeness) : Fault → Fault → Prop
  | same (reason : Fault) : Alike r reason reason
  | syntaxError (problem : SyntaxProblem) {l l' : Location} :
      r.located l l' → Alike r (.syntaxError problem l) (.syntaxError problem l')

/-- Two values differ in the locations of their parts at most, and every closure in them was made in
a shared frame. -/
inductive Value.Alike (r : Likeness) : Value → Value → Prop
  | nil {l l' : Location} : r.located l l' → Alike r (.nil l) (.nil l')
  | truth {l l' : Location} : r.located l l' → Alike r (.truth l) (.truth l')
  | symbol (name : String) {l l' : Location} :
      r.located l l' → Alike r (.symbol name l) (.symbol name l')
  | integer (i : Int) {l l' : Location} :
      r.located l l' → Alike r (.integer i l) (.integer i l')
  | cell {first first' rest rest' : Value} {l l' : Location} :
      Alike r first first' → Alike r rest rest' → r.located l l' →
      Alike r (.cell first rest l) (.cell first' rest' l')
  | closure (sort : ClosureKind) {params params' body body' : Value} {frame : FrameId}
      {l l' : Location} (identity : Identity) :
      Alike r params params' → Alike r body body' → r.shared frame → r.located l l' →
      Alike r (.closure sort params body frame l identity)
        (.closure sort params' body' frame l' identity)
  | native (op : Operator) (identity : Identity) :
      Alike r (.native op identity) (.native op identity)
  | error {e e' : ErrorValue} : e.Alike r e' → Alike r (.error e) (.error e')

/-- Both are results that are related, or both are errors that are. -/
inductive AlikeExcept {ε α β : Type} (errors : ε → ε → Prop) (results : α → β → Prop) :
    Except ε α → Except ε β → Prop
  | ok {a : α} {b : β} : results a b → AlikeExcept errors results (.ok a) (.ok b)
  | error {e e' : ε} : errors e e' → AlikeExcept errors results (.error e) (.error e')

namespace Value

variable {r : Likeness} {v v' : Value}

/-- The frame is referred to by a closure in the value. -/
inductive Mentions (g : FrameId) : Value → Prop
  | here {sort : ClosureKind} {params body : Value} {loc : Location} {identity : Identity} :
      Mentions g (.closure sort params body g loc identity)
  | params {sort : ClosureKind} {params body : Value} {frame : FrameId} {loc : Location}
      {identity : Identity} :
      Mentions g params → Mentions g (.closure sort params body frame loc identity)
  | body {sort : ClosureKind} {params body : Value} {frame : FrameId} {loc : Location}
      {identity : Identity} :
      Mentions g body → Mentions g (.closure sort params body frame loc identity)
  | first {first rest : Value} {loc : Location} :
      Mentions g first → Mentions g (.cell first rest loc)
  | rest {first rest : Value} {loc : Location} :
      Mentions g rest → Mentions g (.cell first rest loc)

namespace Alike

/-- A value is like itself if all frames that it refers to are shared. -/
theorem of_mentions (same : ∀ l, r.located l l) (mentions : ∀ g, v.Mentions g → r.shared g) :
    v.Alike r v := by
  induction v with
  | nil l => exact .nil (same l)
  | truth l => exact .truth (same l)
  | symbol name l => exact .symbol name (same l)
  | integer i l => exact .integer i (same l)
  | cell first rest l ihFirst ihRest =>
    have alikeFirst := ihFirst fun g inside => mentions g (.first inside)
    have alikeRest := ihRest fun g inside => mentions g (.rest inside)
    exact .cell alikeFirst alikeRest (same l)
  | closure sort params body frame l identity ihParams ihBody =>
    have alikeParams := ihParams fun g inside => mentions g (.params inside)
    have alikeBody := ihBody fun g inside => mentions g (.body inside)
    exact .closure sort identity alikeParams alikeBody (mentions frame .here) (same l)
  | native op identity => exact .native op identity
  | error e => exact .error ⟨rfl, rfl, rfl, same e.loc⟩

theorem refl (same : ∀ l, r.located l l) (v : Value) : v.Alike r.anyFrame v :=
  of_mentions (r := r.anyFrame) same fun _ _ => trivial

theorem anyFrame (h : v.Alike r v') : v.Alike r.anyFrame v' := by
  induction h with
  | nil l => exact .nil l
  | truth l => exact .truth l
  | symbol name l => exact .symbol name l
  | integer i l => exact .integer i l
  | cell _ _ l ihFirst ihRest => exact .cell ihFirst ihRest l
  | closure sort identity _ _ _ l ihParams ihBody =>
    exact .closure sort identity ihParams ihBody trivial l
  | native op identity => exact .native op identity
  | error e => exact .error ⟨e.kind, e.message, e.identity, e.loc⟩

theorem loc (h : v.Alike r v') : r.located v.loc v'.loc := by
  cases h with
  | nil l | truth l => exact l
  | symbol _ l | integer _ l => exact l
  | cell _ _ l => exact l
  | closure _ _ _ _ _ l => exact l
  | native => exact r.unknown
  | error e => exact e.loc

/-! ### What does not depend on locations -/

theorem kind_eq (h : v.Alike r v') : v'.kind = v.kind := by cases h <;> rfl

theorem isSymbol_eq (h : v.Alike r v') : v'.isSymbol = v.isSymbol := by cases h <;> rfl

theorem isTruth_eq (h : v.Alike r v') : v'.isTruth = v.isTruth := by cases h <;> rfl

theorem name?_eq (h : v.Alike r v') : v'.name? = v.name? := by cases h <;> rfl

theorem isList_eq (h : v.Alike r v') : v'.isList = v.isList := by
  induction h with
  | cell _ _ _ _ ihRest => exact ihRest
  | _ => rfl

theorem items (h : v.Alike r v') : List.Forall₂ (Value.Alike r) v.items v'.items := by
  induction h with
  | cell first _ _ _ ihRest => exact .cons first ihRest
  | _ => exact .nil

theorem hasLongInteger_eq (h : v.Alike r v') : v'.hasLongInteger = v.hasLongInteger := by
  induction h with
  | cell _ _ _ ihFirst ihRest =>
    unfold hasLongInteger
    rw [ihFirst, ihRest]
  | _ => rfl

/-- The printed form, as an item of a list and as its tail. -/
theorem chars_eq (h : v.Alike r v') : v'.chars = v.chars ∧ v'.tailChars = v.tailChars := by
  induction h with
  | cell _ _ _ ihFirst ihRest =>
    have first := ihFirst.1
    have rest := ihRest.2
    simp only [chars, tailChars, first, rest, and_self]
  | error e =>
    have message := e.message
    simp only [chars, tailChars, wordChars, message, and_self]
  | _ => exact ⟨rfl, rfl⟩

theorem text_eq (h : v.Alike r v') : v'.text = v.text := by
  unfold text
  rw [h.chars_eq.1]

theorem written_eq (h : v.Alike r v') : v'.written = v.written := by
  unfold written
  rw [h.hasLongInteger_eq, h.text_eq]

end Alike

end Value

/-! ## Where locations have to be the same -/

section Same

variable {r : Likeness} (same : ∀ l l', r.located l l' → l' = l)
include same

theorem ErrorValue.Alike.eq {e e' : ErrorValue} (h : e.Alike r e') : e' = e := by
  obtain ⟨kind, message, loc, identity⟩ := e
  obtain ⟨kind', message', loc', identity'⟩ := e'
  obtain ⟨rfl, rfl, rfl, locs⟩ := h
  rw [same loc loc' locs]

theorem Fault.Alike.eq {reason reason' : Fault} (h : reason.Alike r reason') :
    reason' = reason := by
  cases h with
  | same => rfl
  | syntaxError problem loc => rw [same _ _ loc]

theorem Value.Alike.eq {v v' : Value} (h : v.Alike r v') : v' = v := by
  induction h with
  | nil l | truth l => rw [same _ _ l]
  | symbol _ l | integer _ l => rw [same _ _ l]
  | cell _ _ l ihFirst ihRest => rw [same _ _ l, ihFirst, ihRest]
  | closure _ _ _ _ _ l ihParams ihBody => rw [same _ _ l, ihParams, ihBody]
  | native => rfl
  | error e => rw [e.eq same]

end Same

/-! ## Frames -/

/-- Two bindings of values that are alike. What the symbols are is asked for nowhere. -/
structure Binding.Alike (r : Likeness) (b b' : Binding) : Prop where
  symbol : b.symbol.Alike r.anyFrame b'.symbol
  value : b.value.Alike r b'.value

/-- Two frames bind the same names, in the same slots, to values that are alike. A slot that no name
denotes any more may refer to any frame. -/
structure Frame.Alike (r : Likeness) (frame frame' : Frame) : Prop where
  names : frame'.names = frame.names
  outer : frame'.outer = frame.outer
  outward {g : FrameId} : frame.outer = some g → r.shared g
  slots (index : Nat) :
    Option.Rel (Binding.Alike r.anyFrame) frame.slots[index]? frame'.slots[index]?
  named {key : Key} {index : Nat} : (key, index) ∈ frame.names →
    Option.Rel (Binding.Alike r) frame.slots[index]? frame'.slots[index]?

theorem Binding.Alike.anyFrame {r : Likeness} {b b' : Binding} (h : b.Alike r b') :
    b.Alike r.anyFrame b' := ⟨h.symbol, h.value.anyFrame⟩

namespace Frame.Alike

variable {r : Likeness} {frame frame' : Frame}

theorem empty {outer : Option FrameId} (outward : ∀ g, outer = some g → r.shared g) :
    (Frame.empty outer).Alike r (Frame.empty outer) where
  names := rfl
  outer := rfl
  outward found := outward _ found
  slots index := by
    show Option.Rel _ (#[] : Array Binding)[index]? (#[] : Array Binding)[index]?
    rw [Array.getElem?_empty]
    exact .none
  named mem := absurd mem List.not_mem_nil

/-- A frame is like itself if its outer frame, and all frames that the values of its names refer to,
are shared. -/
theorem of_mentions (same : ∀ l, r.located l l) (outward : ∀ g, frame.outer = some g → r.shared g)
    (mentions : ∀ key b g, (key, b) ∈ frame.entries → b.value.Mentions g → r.shared g) :
    frame.Alike r frame where
  names := rfl
  outer := rfl
  outward found := outward _ found
  slots index := by
    cases frame.slots[index]? with
    | none => exact .none
    | some b => exact .some ⟨.refl same b.symbol, .refl same b.value⟩
  named := by
    intro key index mem
    cases held : frame.slots[index]? with
    | none => exact .none
    | some b =>
      have entry : (key, b) ∈ frame.entries := by
        refine List.mem_filterMap.mpr ⟨(key, index), mem, ?_⟩
        show frame.slots[index]?.map (key, ·) = some (key, b)
        rw [held]
        rfl
      exact .some ⟨.refl same b.symbol, .of_mentions same fun g => mentions key b g entry⟩

theorem size_eq (h : frame.Alike r frame') : frame'.slots.size = frame.slots.size := by
  have past := h.slots frame.slots.size
  have past' := h.slots frame'.slots.size
  rw [Array.getElem?_eq_none (Nat.le_refl _)] at past past'
  have below : frame'.slots.size ≤ frame.slots.size := by
    cases found : frame'.slots[frame.slots.size]? with
    | none => exact Array.getElem?_eq_none_iff.mp found
    | some b =>
      rw [found] at past
      cases past
  have above : frame.slots.size ≤ frame'.slots.size := by
    cases found : frame.slots[frame'.slots.size]? with
    | none => exact Array.getElem?_eq_none_iff.mp found
    | some b =>
      rw [found] at past'
      cases past'
  exact Nat.le_antisymm below above

/-- A symbol is bound in both frames. -/
theorem bind (h : frame.Alike r frame') {symbol symbol' value value' : Value}
    (symbols : symbol.Alike r symbol') (values : value.Alike r value') :
    (frame.bind symbol value).Alike r (frame'.bind symbol' value') := by
  have new : Binding.Alike r ⟨symbol, value⟩ ⟨symbol', value'⟩ := ⟨symbols.anyFrame, values⟩
  have pushed {q : Likeness} {index : Nat}
      (fresh : Binding.Alike q ⟨symbol, value⟩ ⟨symbol', value'⟩)
      (old : index ≠ frame.slots.size →
        Option.Rel (Binding.Alike q) frame.slots[index]? frame'.slots[index]?) :
      Option.Rel (Binding.Alike q) (frame.bind symbol value).slots[index]?
        (frame'.bind symbol' value').slots[index]? := by
    simp only [Frame.bind, Array.getElem?_push, h.size_eq]
    split
    · exact .some fresh
    · next older => exact old older
  refine ⟨?_, h.outer, h.outward, fun index => ?_, fun {key index} mem => ?_⟩
  · show place symbol'.name? frame'.slots.size frame'.names = place symbol.name? _ frame.names
    rw [symbols.name?_eq, h.size_eq, h.names]
  · exact pushed new.anyFrame fun _ => h.slots index
  · refine pushed new fun older => ?_
    rcases mem_place mem with placed | mem
    · cases placed
      exact absurd rfl older
    · exact h.named mem

/-- A slot is assigned to in both frames. -/
theorem assign (h : frame.Alike r frame') (slot : Nat) {value value' : Value}
    (values : value.Alike r value') :
    (frame.assign slot value).Alike r (frame'.assign slot value') := by
  have changed {q : Likeness} {index : Nat} (fresh : value.Alike q value')
      (old : Option.Rel (Binding.Alike q) frame.slots[index]? frame'.slots[index]?) :
      Option.Rel (Binding.Alike q) (frame.assign slot value).slots[index]?
        (frame'.assign slot value').slots[index]? := by
    simp only [Frame.assign, Array.getElem?_modify]
    split
    · generalize frame.slots[index]? = b, frame'.slots[index]? = b' at old
      cases old with
      | none => exact .none
      | some old => exact .some ⟨old.symbol, fresh⟩
    · exact old
  exact ⟨h.names, h.outer, h.outward, fun index => changed values.anyFrame (h.slots index),
    fun mem => changed values (h.named mem)⟩

/-- Where locations have to be the same, so have frames. -/
theorem eq (same : ∀ l l', r.located l l' → l' = l) (h : frame.Alike r frame') :
    frame' = frame := by
  have slots : frame'.slots = frame.slots := by
    refine Array.ext_getElem? fun index => ?_
    have here := h.slots index
    generalize frame.slots[index]? = b, frame'.slots[index]? = b' at here
    cases here with
    | none => rfl
    | @some b b' alike =>
      obtain ⟨symbol, value⟩ := b
      obtain ⟨symbol', value'⟩ := b'
      have symbols : symbol' = symbol := Value.Alike.eq (r := r.anyFrame) same alike.symbol
      have values : value' = value := Value.Alike.eq (r := r.anyFrame) same alike.value
      rw [symbols, values]
  obtain ⟨names, slots₁, outer⟩ := frame
  obtain ⟨names', slots₂, outer'⟩ := frame'
  cases slots
  cases h.names
  cases h.outer
  rfl

end Frame.Alike

end MiniLisp
