import MiniLisp.Interpreter

/-!
# Policies

Many properties of the interpreter have one form: whatever a store holds has some property in all
its parts, and so has whatever an evaluation returns. A `Policy` is such a property. It says which
values may occur, where values may stand that the interpreter makes, which integers they may hold,
where errors may be reported, and which faults may end an evaluation.

* `Policy.Fair`, `Policy.Sound`: what the operators do by themselves is in accord with the policy,
  the making of closures apart or included;
* `Policy.Good`: a value all of whose parts are allowed, with closures as `fn` and `macro` make
  them;
* `Policy.Holds`: a well-formed store of good values;
* `Policy.any`: the policy that demands no more than that.
-/

namespace MiniLisp

namespace Value

/-- The property holds of the value and of all its parts: the halves of cells, and the parameters
and bodies of closures. -/
def Every (p : Value → Prop) : Value → Prop
  | cell first rest loc => p (cell first rest loc) ∧ first.Every p ∧ rest.Every p
  | closure sort params body frame loc identity =>
    p (closure sort params body frame loc identity) ∧ params.Every p ∧ body.Every p
  | nil loc => p (nil loc)
  | truth loc => p (truth loc)
  | symbol name loc => p (symbol name loc)
  | integer i loc => p (integer i loc)
  | native op identity => p (native op identity)
  | error e => p (error e)

theorem Every.self {p : Value → Prop} {v : Value} (h : v.Every p) : p v := by
  cases v with
  | cell | closure => exact h.1
  | _ => exact h

theorem Every.imp {p q : Value → Prop} (pq : ∀ v, p v → q v) {v : Value} (h : v.Every p) :
    v.Every q := by
  induction v with
  | cell first rest loc ihFirst ihRest => exact ⟨pq _ h.1, ihFirst h.2.1, ihRest h.2.2⟩
  | closure sort params body frame loc identity ihParams ihBody =>
    exact ⟨pq _ h.1, ihParams h.2.1, ihBody h.2.2⟩
  | _ => exact pq _ h

theorem Every.items {p : Value → Prop} {v : Value} (h : v.Every p) :
    ∀ w ∈ v.items, w.Every p := by
  induction v with
  | cell first rest loc _ ihRest =>
    intro w mem
    rcases List.mem_cons.mp mem with rfl | mem
    · exact h.2.1
    · exact ihRest h.2.2 w mem
  | _ => exact fun w mem => absurd mem List.not_mem_nil

/-- The value is nil or a cell, which is what lists are made of. -/
def isLink : Value → Bool
  | nil _ => true
  | cell .. => true
  | _ => false

/-- The value is no closure, or one that `fn` or `macro` can have made in a store of `n` frames. -/
def Made (n : Nat) : Value → Prop
  | closure _ params body frame _ _ =>
    params.isList = true ∧ body.isList = true ∧ (∀ v ∈ params.items, v.isSymbol = true) ∧ frame < n
  | _ => True

theorem Made.mono {n n' : Nat} (le : n ≤ n') {v : Value} (h : v.Made n) : v.Made n' := by
  cases v with
  | closure => exact ⟨h.1, h.2.1, h.2.2.1, Nat.lt_of_lt_of_le h.2.2.2 le⟩
  | _ => trivial

end Value

/-- What may occur: as a part of a value, as an integer, as the place of a value that the
interpreter makes, as the place that an error is reported at, and as a fault. -/
structure Policy where
  value : Value → Prop
  integer : Int → Prop
  place : Location → Prop
  reported : Location → Prop
  fault : Fault → Prop

/-- What the operators make is allowed, given that what they get is. Nothing is said of closures. -/
structure Policy.Fair (p : Policy) (c : Context) : Prop where
  place_of {v : Value} : p.value v → v.isLink = true → p.place v.loc
  reported_of {v : Value} : p.value v → p.reported v.loc
  integer_of {i : Int} {loc : Location} : p.value (.integer i loc) → p.integer i
  nil {loc : Location} : p.place loc → p.value (.nil loc)
  truth {loc : Location} : p.place loc → p.value (.truth loc)
  symbol {loc : Location} (name : String) : p.place loc → p.value (.symbol name loc)
  integer {i : Int} {loc : Location} : p.integer i → p.place loc → p.value (.integer i loc)
  cell {loc : Location} (first rest : Value) : p.place loc → p.value (.cell first rest loc)
  zero : p.integer 0
  wrapped {bits : Nat} (i : Int) : c.settings.arithmeticWidth = .ok bits →
    p.integer (Width.wrap bits i)
  fitting {bits : Nat} {i : Int} : c.settings.readingWidth = .ok bits →
    Width.fits bits i = true → p.integer i
  widthless {reason : Fault} : c.settings.arithmeticWidth = .error reason → p.fault reason
  unjoined {operation : Fold} {identity : Identity} {a b : Int} {reason : Fault} :
    p.value (.native (.fold operation) identity) → (operation.refusesZero = true → b ≠ 0) →
      operation.join c.operations a b = .error reason → p.fault reason
  unwritten {v : Value} : v.Every p.value → v.hasLongInteger = true → p.fault .integerTooLong

/-- What the operators make is allowed, given that what they get is, and closures are allowed
whatever their identities. -/
structure Policy.Sound (p : Policy) (c : Context) : Prop extends p.Fair c where
  closure {loc : Location} (sort : ClosureKind) (params body : Value) (frame : FrameId)
    (identity : Identity) : p.place loc → p.value (.closure sort params body frame loc identity)

namespace Policy

variable {p : Policy} {c : Context} {n n' : Nat}

/-! ## Good values -/

/-- Every part of the value is allowed, and every closure in it is well-formed and refers to one of
`n` frames. -/
def Good (p : Policy) (n : Nat) (v : Value) : Prop :=
  v.Every fun part => part.Made n ∧ p.value part

theorem Good.mono (le : n ≤ n') {v : Value} (h : p.Good n v) : p.Good n' v :=
  Value.Every.imp (fun _ both => ⟨both.1.mono le, both.2⟩) h

/-- A policy that allows more values has more good values. -/
theorem Good.imp {q : Policy} {v : Value} (h : p.Good n v) (more : ∀ v, p.value v → q.value v) :
    q.Good n v := Value.Every.imp (fun part both => ⟨both.1, more part both.2⟩) h

theorem Good.value {v : Value} (h : p.Good n v) : p.value v := (Value.Every.self h).2

theorem Good.every {v : Value} (h : p.Good n v) : v.Every p.value :=
  Value.Every.imp (fun _ both => both.2) h

theorem Good.items {v : Value} (h : p.Good n v) : ∀ w ∈ v.items, p.Good n w :=
  Value.Every.items h

theorem Good.first {first rest : Value} {loc : Location} (h : p.Good n (.cell first rest loc)) :
    p.Good n first := h.2.1

theorem Good.rest {first rest : Value} {loc : Location} (h : p.Good n (.cell first rest loc)) :
    p.Good n rest := h.2.2

theorem Good.params {sort : ClosureKind} {params body : Value} {frame : FrameId} {loc : Location}
    {identity : Identity} (h : p.Good n (.closure sort params body frame loc identity)) :
    p.Good n params := h.2.1

theorem Good.body {sort : ClosureKind} {params body : Value} {frame : FrameId} {loc : Location}
    {identity : Identity} (h : p.Good n (.closure sort params body frame loc identity)) :
    p.Good n body := h.2.2

theorem Good.place (fair : p.Fair c) {v : Value} (h : p.Good n v) (link : v.isLink = true) :
    p.place v.loc := fair.place_of h.value link

theorem Good.reported (fair : p.Fair c) {v : Value} (h : p.Good n v) : p.reported v.loc :=
  fair.reported_of h.value

theorem good_nil (fair : p.Fair c) {loc : Location} (place : p.place loc) :
    p.Good n (.nil loc) := ⟨trivial, fair.nil place⟩

theorem good_truth (fair : p.Fair c) {loc : Location} (place : p.place loc) :
    p.Good n (.truth loc) := ⟨trivial, fair.truth place⟩

theorem good_symbol (fair : p.Fair c) (name : String) {loc : Location} (place : p.place loc) :
    p.Good n (.symbol name loc) := ⟨trivial, fair.symbol name place⟩

theorem good_integer (fair : p.Fair c) {i : Int} (allowed : p.integer i) {loc : Location}
    (place : p.place loc) : p.Good n (.integer i loc) := ⟨trivial, fair.integer allowed place⟩

theorem good_cell (fair : p.Fair c) {first rest : Value} (hFirst : p.Good n first)
    (hRest : p.Good n rest) {loc : Location} (place : p.place loc) :
    p.Good n (.cell first rest loc) := ⟨⟨trivial, fair.cell first rest place⟩, hFirst, hRest⟩

/-! ## Stores of good values -/

/-- The frame of the given number, in a store of `n` frames, is well-formed: the frame around it is
older, each name is that of a slot's symbol, and the slots hold good values. -/
structure HoldsIn (p : Policy) (n : Nat) (f : FrameId) (frame : Frame) : Prop where
  outer {outer : FrameId} : frame.outer = some outer → outer < f
  named {key : Key} {index : Nat} : (key, index) ∈ frame.names →
    ∃ b, frame.slots[index]? = some b ∧ b.symbol.name? = key
  symbol {index : Nat} {b : Binding} : frame.slots[index]? = some b → b.symbol.isSymbol = true
  value {index : Nat} {b : Binding} : frame.slots[index]? = some b → p.Good n b.value

/-- Every frame of the store is well-formed. -/
def Holds (p : Policy) (s : Store) : Prop :=
  ∀ (f : FrameId) (frame : Frame), s.frame? f = some frame → p.HoldsIn s.nextFrame f frame

namespace HoldsIn

variable {f : FrameId} {frame : Frame}

theorem mono (le : n ≤ n') (h : p.HoldsIn n f frame) : p.HoldsIn n' f frame :=
  { h with value := fun found => (h.value found).mono le }

theorem empty {outer : Option FrameId} (older : ∀ g, outer = some g → g < f) :
    p.HoldsIn n f (Frame.empty outer) where
  outer := older _
  named mem := by simp [Frame.empty] at mem
  symbol found := by simp [Frame.empty] at found
  value found := by simp [Frame.empty] at found

end HoldsIn

end Policy

theorem Frame.mem_place {key : Key} {slot : Nat} {entry : Key × Nat} {names : List (Key × Nat)}
    (h : entry ∈ place key slot names) : entry = (key, slot) ∨ entry ∈ names := by
  induction names with
  | nil => exact .inl (List.mem_singleton.mp h)
  | cons first rest ih =>
    unfold place at h
    split at h
    · next same =>
      rcases List.mem_cons.mp h with rfl | mem
      · exact .inl (by rw [eq_of_beq same])
      · exact .inr (List.mem_cons_of_mem _ mem)
    · rcases List.mem_cons.mp h with rfl | mem
      · exact .inr List.mem_cons_self
      · exact (ih mem).imp_right (List.mem_cons_of_mem _)

namespace Policy

variable {p : Policy} {n : Nat} {f : FrameId}

theorem HoldsIn.bind {frame : Frame} (h : p.HoldsIn n f frame) {symbol value : Value}
    (isSymbol : symbol.isSymbol = true) (good : p.Good n value) :
    p.HoldsIn n f (frame.bind symbol value) := by
  have slots {index : Nat} {b : Binding}
      (found : (frame.bind symbol value).slots[index]? = some b) :
      frame.slots[index]? = some b ∨ b = ⟨symbol, value⟩ := by
    simp only [Frame.bind, Array.getElem?_push] at found
    split at found
    · exact .inr (Option.some.inj found).symm
    · exact .inl found
  refine ⟨h.outer, fun {key index} mem => ?_, fun {index b} found => ?_, fun {index b} found => ?_⟩
  · rcases Frame.mem_place mem with new | mem
    · obtain ⟨rfl, rfl⟩ := Prod.mk.inj new
      exact ⟨⟨symbol, value⟩, by simp [Frame.bind], rfl⟩
    · obtain ⟨b, found, name⟩ := h.named mem
      have inside : index ≠ frame.slots.size := by
        rintro rfl
        simp at found
      refine ⟨b, ?_, name⟩
      simpa only [Frame.bind, Array.getElem?_push, if_neg inside] using found
  · rcases slots found with found | rfl
    · exact h.symbol found
    · exact isSymbol
  · rcases slots found with found | rfl
    · exact h.value found
    · exact good

theorem HoldsIn.assign {frame : Frame} (h : p.HoldsIn n f frame) (slot : Nat) {value : Value}
    (good : p.Good n value) : p.HoldsIn n f (frame.assign slot value) := by
  have slots (index : Nat) : (frame.assign slot value).slots[index]? =
      if slot = index then frame.slots[index]?.map fun b => { b with value }
      else frame.slots[index]? := Array.getElem?_modify
  refine ⟨h.outer, fun {key index} mem => ?_, fun {index b} found => ?_, fun {index b} found => ?_⟩
  · obtain ⟨b, found, name⟩ := h.named mem
    rw [slots, found]
    split
    · exact ⟨{ b with value }, rfl, name⟩
    · exact ⟨b, rfl, name⟩
  · rw [slots] at found
    split at found
    · obtain ⟨old, before, rfl⟩ := Option.map_eq_some_iff.mp found
      exact h.symbol (b := old) before
    · exact h.symbol found
  · rw [slots] at found
    split at found
    · obtain ⟨old, before, rfl⟩ := Option.map_eq_some_iff.mp found
      exact good
    · exact h.value found

/-! ## The three changes of a store -/

theorem holds_empty : p.Holds .empty := by
  intro f frame found
  simp [Store.frame?, Store.empty] at found

end Policy

namespace Store

/-- The property holds of all parts of what the slots hold, whether a name still refers to them or
not. -/
def Every (p : Value → Prop) (s : Store) : Prop :=
  ∀ (f : FrameId) (frame : Frame) (index : Nat) (b : Binding), s.frame? f = some frame →
    frame.slots[index]? = some b → b.value.Every p

end Store

namespace Policy

variable {p : Policy} {s : Store}

theorem Holds.every (h : p.Holds s) : s.Every p.value :=
  fun f frame _ _ frameFound slotFound => ((h f frame frameFound).value slotFound).every

end Policy

namespace Store

@[simp] theorem nextFrame_newFrame (s : Store) (outer : Option FrameId) :
    (s.newFrame outer).nextFrame = s.nextFrame + 1 := by simp [newFrame, nextFrame]

@[simp] theorem nextFrame_bind (s : Store) (f : FrameId) (symbol value : Value) :
    (s.bind f symbol value).nextFrame = s.nextFrame := by simp [bind, nextFrame]

@[simp] theorem nextFrame_assign (s : Store) (slot : Slot) (value : Value) :
    (s.assign slot value).nextFrame = s.nextFrame := by simp [assign, nextFrame]

@[simp] theorem nextFrame_bindAll (s : Store) (f : FrameId) (symbols values : List Value) :
    (s.bindAll f symbols values).nextFrame = s.nextFrame := by
  unfold bindAll
  induction symbols.zip values generalizing s with
  | nil => rfl
  | cons pair pairs ih => rw [List.foldl_cons, ih, nextFrame_bind]

end Store

namespace Policy

variable {p : Policy} {s : Store}

theorem Holds.newFrame (h : p.Holds s) {outer : Option FrameId}
    (older : ∀ g, outer = some g → g < s.nextFrame) : p.Holds (s.newFrame outer) := by
  intro f frame found
  by_cases new : f = s.nextFrame
  · subst new
    rw [Store.frame?_newFrame_self] at found
    cases found
    exact .empty older
  · rw [Store.frame?_newFrame_of_ne new] at found
    exact (h f frame found).mono (by simp)

theorem Holds.bind (h : p.Holds s) (f : FrameId) {symbol value : Value}
    (isSymbol : symbol.isSymbol = true) (good : p.Good s.nextFrame value) :
    p.Holds (s.bind f symbol value) := by
  intro g frame found
  rw [Store.frame?_bind] at found
  rw [Store.nextFrame_bind]
  split at found
  · obtain ⟨old, before, rfl⟩ := Option.map_eq_some_iff.mp found
    exact (h g old before).bind isSymbol good
  · exact h g frame found

theorem Holds.assign (h : p.Holds s) (slot : Slot) {value : Value}
    (good : p.Good s.nextFrame value) : p.Holds (s.assign slot value) := by
  intro g frame found
  rw [Store.frame?_assign] at found
  rw [Store.nextFrame_assign]
  split at found
  · obtain ⟨old, before, rfl⟩ := Option.map_eq_some_iff.mp found
    exact (h g old before).assign slot.index good
  · exact h g frame found

theorem Holds.bindAll (h : p.Holds s) (f : FrameId) {symbols values : List Value}
    (areSymbols : ∀ v ∈ symbols, v.isSymbol = true) (good : ∀ v ∈ values, p.Good s.nextFrame v) :
    p.Holds (s.bindAll f symbols values) := by
  unfold Store.bindAll
  have allowed : ∀ pair ∈ symbols.zip values,
      pair.1.isSymbol = true ∧ p.Good s.nextFrame pair.2 := fun pair mem =>
    ⟨areSymbols _ (List.of_mem_zip mem).1, good _ (List.of_mem_zip mem).2⟩
  generalize symbols.zip values = pairs at allowed
  clear areSymbols good
  induction pairs generalizing s with
  | nil => exact h
  | cons pair later ih =>
    obtain ⟨isSymbol, good⟩ := allowed pair List.mem_cons_self
    refine ih (h.bind f isSymbol good) fun other mem => ?_
    rw [Store.nextFrame_bind]
    exact allowed other (List.mem_cons_of_mem pair mem)

/-- What a name is bound to is good. -/
theorem Holds.lookup? (h : p.Holds s) {f : FrameId} {key : Key} {b : Binding}
    (found : s.lookup? f key = some b) : p.Good s.nextFrame b.value := by
  obtain ⟨slot, _, inSlot⟩ := Option.bind_eq_some_iff.mp found
  obtain ⟨frame, frameFound, bindingFound⟩ := Option.bind_eq_some_iff.mp inSlot
  exact (h _ frame frameFound).value bindingFound

theorem Holds.imp {q : Policy} (h : p.Holds s) (more : ∀ v, p.value v → q.value v) : q.Holds s :=
  fun f frame found =>
    { h f frame found with value := fun inSlot => ((h f frame found).value inSlot).imp more }

/-! ## The weakest policy -/

/-- Whatever is made of well-formed closures may occur, and whatever else may happen. -/
def any : Policy where
  value _ := True
  integer _ := True
  place _ := True
  reported _ := True
  fault _ := True

theorem sound_any (c : Context) : any.Sound c where
  place_of _ _ := trivial
  reported_of _ := trivial
  integer_of _ := trivial
  nil _ := trivial
  truth _ := trivial
  symbol _ _ := trivial
  integer _ _ := trivial
  cell _ _ _ := trivial
  closure _ _ _ _ _ _ := trivial
  zero := trivial
  wrapped _ _ := trivial
  fitting _ _ := trivial
  widthless _ := trivial
  unjoined _ _ _ := trivial
  unwritten _ _ := trivial

end Policy

end MiniLisp
