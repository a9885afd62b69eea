import Mathlib.Data.List.Induction
import MiniLisp.Proofs.Expansion
import MiniLisp.Proofs.WellFormed

/-!
# What parameters are bound to

A call binds the parameters, in order, in a frame of its own. A parameter that occurs again is bound
again: it keeps its place among the names of the frame and gets the later argument.

* `Frame.keys_bindAll`, `Frame.binding?_bindAll`: the names of a frame in which symbols were bound,
  and what the frame binds them to;
* `Store.Gains`: the store has one more frame, and is otherwise the same;
* `Store.Gains.find?_eq`, `Store.Gains.lookup?_eq`: what that frame does not bind is looked up in
  the one around it, with the result from before;
* `Eval.parameters_bound`: the result, for both kinds of closures.
-/

namespace MiniLisp

/-! ## The frame of a call -/

namespace Frame

variable {frame : Frame} {key : Key}

/-- Binds the symbols of the pairs to their values, in order. -/
def bindAll (frame : Frame) (pairs : List (Value × Value)) : Frame :=
  pairs.foldl (fun frame (symbol, value) => frame.bind symbol value) frame

/-- The binding of a key in the frame. -/
def binding? (frame : Frame) (key : Key) : Option Binding :=
  (frame.slot? key).bind fun index => frame.slots[index]?

theorem backed_empty (outer : Option FrameId) : (empty outer).Backed :=
  fun _ _ mem => absurd mem List.not_mem_nil

theorem Backed.bind (backed : frame.Backed) (symbol value : Value) :
    (frame.bind symbol value).Backed := by
  intro key index mem
  show index < (frame.slots.push ⟨symbol, value⟩).size
  rw [Array.size_push]
  rcases mem_place mem with new | mem
  · rw [(Prod.mk.inj new).2]
    exact Nat.lt_succ_self _
  · exact Nat.lt_succ_of_lt (backed key index mem)

theorem binding?_bind_self (frame : Frame) (symbol value : Value) :
    (frame.bind symbol value).binding? symbol.name? = some ⟨symbol, value⟩ := by
  show ((place symbol.name? frame.slots.size frame.names).lookup symbol.name?).bind _ = _
  rw [lookup_place_self]
  exact Array.getElem?_push_size

theorem Backed.binding?_bind_of_ne (backed : frame.Backed) {symbol : Value} (value : Value)
    (ne : key ≠ symbol.name?) : (frame.bind symbol value).binding? key = frame.binding? key := by
  show ((place symbol.name? frame.slots.size frame.names).lookup key).bind _ =
    (frame.names.lookup key).bind _
  rw [lookup_place_of_ne ne]
  cases named : frame.names.lookup key with
  | none => rfl
  | some index =>
    have old : index < frame.slots.size := backed key index (mem_names_of_slot? named)
    show (frame.slots.push ⟨symbol, value⟩)[index]? = frame.slots[index]?
    rw [Array.getElem?_push_lt old, Array.getElem?_eq_getElem old]

/-- The names are those of the symbols, without repetition, in the order in which they first
occur. -/
theorem keys_bindAll (outer : Option FrameId) (pairs : List (Value × Value)) :
    ((empty outer).bindAll pairs).keys = (pairs.map (·.1.name?)).eraseDups := by
  induction pairs using List.reverseRecOn with
  | nil => rfl
  | append_singleton pairs pair ih =>
    have last : (empty outer).bindAll (pairs ++ [pair]) =
        ((empty outer).bindAll pairs).bind pair.1 pair.2 := List.foldl_append
    rw [last, keys_bind, ih, List.map_append, List.eraseDups_append]
    by_cases again : pair.1.name? ∈ pairs.map (·.1.name?)
    · rw [if_pos (List.mem_eraseDups.mpr again)]
      simp [List.removeAll, again]
    · rw [if_neg (List.mem_eraseDups.not.mpr again)]
      simp [List.removeAll, again, List.eraseDups_cons]

theorem keys_bindAll_zip (outer : Option FrameId) {symbols values : List Value}
    (counts : symbols.length = values.length) :
    ((empty outer).bindAll (symbols.zip values)).keys = (symbols.map Value.name?).eraseDups := by
  have firsts : (symbols.zip values).map Prod.fst = symbols :=
    List.map_fst_zip (Nat.le_of_eq counts)
  have names : (symbols.zip values).map (·.1.name?) = symbols.map Value.name? := by
    rw [← congrArg (List.map Value.name?) firsts, List.map_map]
    rfl
  rw [keys_bindAll, names]

/-- A key that no symbol has is bound as before. -/
theorem Backed.binding?_bindAll_of_ne (backed : frame.Backed) {pairs : List (Value × Value)}
    (ne : ∀ pair ∈ pairs, pair.1.name? ≠ key) :
    (frame.bindAll pairs).binding? key = frame.binding? key := by
  induction pairs generalizing frame with
  | nil => rfl
  | cons pair pairs ih =>
    have first : key ≠ pair.1.name? := Ne.symm (ne pair List.mem_cons_self)
    have later := ih (backed.bind pair.1 pair.2) fun other mem =>
      ne other (List.mem_cons_of_mem pair mem)
    exact later.trans (backed.binding?_bind_of_ne pair.2 first)

/-- A name is bound to the value of the last symbol that has it. -/
theorem Backed.binding?_bindAll (backed : frame.Backed) {pairs : List (Value × Value)} {i : Nat}
    {symbol value : Value} (here : pairs[i]? = some (symbol, value))
    (last : ∀ j pair, i < j → pairs[j]? = some pair → pair.1.name? ≠ symbol.name?) :
    (frame.bindAll pairs).binding? symbol.name? = some ⟨symbol, value⟩ := by
  induction pairs generalizing frame i with
  | nil => cases here
  | cons pair pairs ih =>
    have backed' := backed.bind pair.1 pair.2
    cases i with
    | zero =>
      cases here
      have others : ∀ other ∈ pairs, other.1.name? ≠ symbol.name? := by
        intro other mem
        obtain ⟨j, found⟩ := List.getElem?_of_mem mem
        exact last (j + 1) other (Nat.succ_pos j) found
      have later := backed'.binding?_bindAll_of_ne others
      exact later.trans (frame.binding?_bind_self symbol value)
    | succ i =>
      refine ih backed' here fun j other later found => ?_
      exact last (j + 1) other (Nat.succ_lt_succ later) found

theorem outer_bindAll (frame : Frame) (pairs : List (Value × Value)) :
    (frame.bindAll pairs).outer = frame.outer := by
  unfold bindAll
  induction pairs generalizing frame with
  | nil => rfl
  | cons pair pairs ih => exact ih (frame.bind pair.1 pair.2)

end Frame

/-! ## The store with the frame -/

namespace Store

variable {s s' : Store} {f outer : FrameId} {frame : Frame} {key : Key}

theorem frame?_bindAll (s : Store) (f g : FrameId) (symbols values : List Value) :
    (s.bindAll f symbols values).frame? g =
      if f = g then (s.frame? g).map (·.bindAll (symbols.zip values)) else s.frame? g := by
  unfold bindAll Frame.bindAll
  induction symbols.zip values generalizing s with
  | nil =>
    show s.frame? g = if f = g then (s.frame? g).map id else s.frame? g
    rw [Option.map_id_fun, id, ite_self]
  | cons pair pairs ih =>
    rw [List.foldl_cons, ih, frame?_bind]
    split
    · cases s.frame? g <;> rfl
    · rfl

/-- The second store is the first one with one more frame, inside the given one. -/
structure Gains (s : Store) (outer : FrameId) (frame : Frame) (s' : Store) : Prop where
  size : s'.nextFrame = s.nextFrame + 1
  old {f : FrameId} : f ≠ s.nextFrame → s'.frame? f = s.frame? f
  new : s'.frame? s.nextFrame = some frame
  outer : frame.outer = some outer

theorem gains_bindAll (s : Store) (outer : FrameId) (symbols values : List Value) :
    s.Gains outer ((Frame.empty (some outer)).bindAll (symbols.zip values))
      ((s.newFrame (some outer)).bindAll s.nextFrame symbols values) where
  size := by rw [nextFrame_bindAll, nextFrame_newFrame]
  old ne := by rw [frame?_bindAll, if_neg (Ne.symm ne), frame?_newFrame_of_ne ne]
  new := by
    rw [frame?_bindAll, if_pos rfl, frame?_newFrame_self]
    rfl
  outer := Frame.outer_bindAll ..

/-- A lookup in the new frame goes on as a lookup in the frame around it went before. -/
theorem Gains.outward_eq (gains : s.Gains outer frame s') (linked : s.Linked)
    (inside : outer < s.nextFrame) : s'.outward s.nextFrame = s.nextFrame :: s.outward outer := by
  have size : s'.frames.size = s.frames.size + 1 := gains.size
  have next : (s'.frame? s.nextFrame).bind Frame.outer = some outer := by
    rw [gains.new]
    exact gains.outer
  have same : ∀ g ∈ s.outwardWithin s.frames.size outer, s'.outer? g = s.outer? g := by
    intro g mem
    have before : g < s.nextFrame := linked.outward_inside inside g mem
    unfold outer?
    rw [gains.old (Nat.ne_of_lt before)]
  unfold outward
  rw [size, outwardWithin, next]
  dsimp only
  rw [outwardWithin_congr same]

/-- What the new frame does not bind denotes what it denoted in the frame around it. -/
theorem Gains.find?_eq (gains : s.Gains outer frame s') (linked : s.Linked)
    (inside : outer < s.nextFrame) (unbound : key ∉ frame.keys) :
    s'.find? s.nextFrame key = s.find? outer key := by
  have notHere : s'.slotIn? key s.nextFrame = none := by
    refine Option.not_isSome_iff_eq_none.mp fun bound => ?_
    obtain ⟨frame', found, mem⟩ := isSome_slotIn?.mp bound
    rw [gains.new] at found
    cases found
    exact unbound mem
  have same : ∀ g ∈ s.outward outer, s'.slotIn? key g = s.slotIn? key g := by
    intro g mem
    have before : g < s.nextFrame := linked.outward_inside inside g mem
    unfold slotIn?
    rw [gains.old (Nat.ne_of_lt before)]
  unfold find?
  rw [gains.outward_eq linked inside, List.findSome?_cons, notHere]
  exact findSome?_slotIn?_eq same

theorem Gains.lookup?_eq (gains : s.Gains outer frame s') (linked : s.Linked)
    (inside : outer < s.nextFrame) (unbound : key ∉ frame.keys) :
    s'.lookup? s.nextFrame key = s.lookup? outer key := by
  unfold lookup?
  rw [gains.find?_eq linked inside unbound]
  cases denoted : s.find? outer key with
  | none => rfl
  | some slot =>
    have before := linked.outward_inside inside _ (exists_named denoted).1
    rw [Option.bind_some, Option.bind_some]
    unfold binding?
    rw [gains.old (Nat.ne_of_lt before)]

/-- What a frame binds is found there, whatever the frames around it bind. -/
theorem lookup?_of_binding? (found : s.frame? f = some frame) {b : Binding}
    (bound : frame.binding? key = some b) : s.lookup? f key = some b := by
  obtain ⟨index, named, held⟩ := Option.bind_eq_some_iff.mp bound
  have inside : f < s.nextFrame := (Array.getElem?_eq_some_iff.mp found).1
  obtain ⟨later, passed⟩ := outward_eq_cons inside
  have here : s.slotIn? key f = some ⟨f, index⟩ := by
    unfold slotIn?
    rw [found, Option.bind_some, named]
    rfl
  unfold lookup? find?
  rw [passed, List.findSome?_cons, here, Option.bind_some]
  unfold binding?
  rw [found]
  exact held

end Store

/-! ## Calls -/

/-- The printed form of a list of symbols is never too long. -/
theorem Value.written_of_symbols {v : Value} (list : v.isList = true)
    (symbols : ∀ p ∈ v.items, p.isSymbol = true) : v.written = .ok v.text := by
  have short : v.hasLongInteger = false := by
    induction v with
    | cell first rest loc _ ihRest =>
      obtain ⟨name, l, rfl⟩ := exists_symbol (symbols first List.mem_cons_self)
      exact ihRest list fun p mem => symbols p (List.mem_cons_of_mem _ mem)
    | integer => cases list
    | _ => rfl
  unfold written
  rw [short]
  rfl

namespace Eval

variable {params : Value} {outer : FrameId} {m : Machine}

/-- Symbols can always be written, so a wrong number of arguments is refused without a fault. -/
theorem bindArguments_eq_error {values : List Value} (list : params.isList = true)
    (symbols : ∀ p ∈ params.items, p.isSymbol = true)
    (counts : params.items.length ≠ values.length) (sort : ClosureKind) (outer : FrameId)
    (loc : Location) (c : Context) (m : Machine) :
    bindArguments sort params outer values loc c m =
      .error ((Cause.parameterCount sort.kind params.text params.items.length
        values.length).toError loc m.serial) { m with serial := m.serial + 1 } := by
  unfold bindArguments printed
  rw [if_neg (beq_iff_eq.not.mpr counts), Value.written_of_symbols list symbols]
  rfl

/-- Parameters, which are a proper list of symbols, are bound to arguments if there are as many of
them, and otherwise refused. For functions and expanders alike:

* A wrong number of arguments, and nothing else, ends in an error. It says how many are expected and
  how many there are; no frame is made, and the store stays as it was.
* The right number leads to one more frame, inside the frame of the closure. Its names are those of
  the parameters, without repetition, in the order in which they first occur. Each is bound to the
  argument at its last occurrence, and this is what it denotes in the frame, whatever the frames
  around bind it to. Any other name denotes what it denotes in the frame of the closure. -/
theorem parameters_bound (list : params.isList = true)
    (symbols : ∀ p ∈ params.items, p.isSymbol = true) (linked : m.store.Linked)
    (inside : outer < m.store.nextFrame) (sort : ClosureKind) (values : List Value)
    (loc : Location) (c : Context) :
    ((∃ e m', bindArguments sort params outer values loc c m = .error e m' ∧
        e.kind = .arityError ∧ m'.store = m.store) ↔ params.items.length ≠ values.length) ∧
    (params.items.length ≠ values.length →
      bindArguments sort params outer values loc c m =
        .error ((Cause.parameterCount sort.kind params.text params.items.length
          values.length).toError loc m.serial) { m with serial := m.serial + 1 }) ∧
    (params.items.length = values.length →
      ∃ frame s', bindArguments sort params outer values loc c m =
          .ok m.store.nextFrame { m with store := s' } ∧
        m.store.Gains outer frame s' ∧
        frame.keys = (params.items.map Value.name?).eraseDups ∧
        (∀ (i : Nat) (p v : Value), params.items[i]? = some p → values[i]? = some v →
          (∀ (j : Nat) (q : Value), i < j → params.items[j]? = some q → q.name? ≠ p.name?) →
          frame.binding? p.name? = some ⟨p, v⟩ ∧
          s'.lookup? m.store.nextFrame p.name? = some ⟨p, v⟩) ∧
        ∀ key, key ∉ params.items.map Value.name? →
          s'.find? m.store.nextFrame key = m.store.find? outer key ∧
          s'.lookup? m.store.nextFrame key = m.store.lookup? outer key) := by
  have refused (counts : params.items.length ≠ values.length) :=
    bindArguments_eq_error list symbols counts sort outer loc c m
  have accepted (counts : params.items.length = values.length) :=
    bindArguments_eq_ok sort outer loc counts c m
  refine ⟨⟨?_, fun counts => ⟨_, _, refused counts, rfl, rfl⟩⟩, refused, fun counts => ?_⟩
  · rintro ⟨e, m', failed, _⟩ counts
    rw [accepted counts] at failed
    cases failed
  · have gains := m.store.gains_bindAll outer params.items values
    have keys := Frame.keys_bindAll_zip (some outer) counts
    refine ⟨_, _, accepted counts, gains, keys, ?_, fun key other => ?_⟩
    · intro i p v param value last
      have here : (params.items.zip values)[i]? = some (p, v) :=
        List.getElem?_zip_eq_some.mpr ⟨param, value⟩
      have bound := (Frame.backed_empty (some outer)).binding?_bindAll here
        fun j pair later found =>
          last j pair.1 later (List.getElem?_zip_eq_some.mp found).1
      exact ⟨bound, Store.lookup?_of_binding? gains.new bound⟩
    · have unbound : key ∉ ((Frame.empty (some outer)).bindAll (params.items.zip values)).keys := by
        rw [keys]
        exact List.mem_eraseDups.not.mpr other
      exact ⟨gains.find?_eq linked inside unbound, gains.lookup?_eq linked inside unbound⟩

/-- A frame that binds `x` to nil and `z` to true. -/
def namesOutside : Machine :=
  let root := (Store.empty.newFrame none).bind 0 (.symbol "x" .unknown) (.nil .unknown)
  ⟨root.bind 0 (.symbol "z" .unknown) (.truth .unknown), 0, "", 0, ""⟩

/-- The list `(x y x)`. -/
def repeatedParameter : Value :=
  .ofItems (.nil .unknown) [.symbol "x" .unknown, .symbol "y" .unknown, .symbol "x" .unknown]

/-- Of three arguments, the last one is what `x` denotes; `z` denotes what it denotes outside. One
argument is refused. -/
theorem repeatedParameter_bound :
    (∃ (frame : Frame) (s' : Store), bindArguments .function repeatedParameter 0
        [.integer 1 .unknown, .integer 2 .unknown, .integer 3 .unknown] .unknown
        (.ofSettings .unset) namesOutside = .ok 1 { namesOutside with store := s' } ∧
      frame.keys = [some "x", some "y"] ∧
      s'.lookup? 1 (some "x") = some ⟨.symbol "x" .unknown, .integer 3 .unknown⟩ ∧
      s'.lookup? 1 (some "z") = namesOutside.store.lookup? 0 (some "z")) ∧
    ∃ e m', bindArguments .expander repeatedParameter 0 [.integer 1 .unknown] .unknown
      (.ofSettings .unset) namesOutside = .error e m' ∧
      e.kind = .arityError ∧ m'.store = namesOutside.store := by
  have fair := (Policy.sound_any (.ofSettings .unset)).toFair
  have holds : Policy.any.Holds namesOutside.store :=
    ((Policy.holds_empty.newFrame (by simp)).bind 0 rfl (Policy.good_nil fair trivial)).bind 0 rfl
      (Policy.good_truth fair trivial)
  have list : repeatedParameter.isList = true := rfl
  have inside : 0 < namesOutside.store.nextFrame := by decide
  have bound (sort : ClosureKind) (values : List Value) :=
    parameters_bound list (by decide) holds.linked inside sort values .unknown (.ofSettings .unset)
  obtain ⟨frame, s', ended, _, keys, params, others⟩ := (bound .function
    [.integer 1 .unknown, .integer 2 .unknown, .integer 3 .unknown]).2.2 rfl
  refine ⟨⟨frame, s', ended, keys.trans (by decide), ?_, ?_⟩, (bound .expander _).1.mpr (by decide)⟩
  · refine (params 2 _ _ rfl rfl fun j q later param => ?_).2
    have outside : repeatedParameter.items.length ≤ j := later
    rw [List.getElem?_eq_none outside] at param
    cases param
  · exact (others (some "z") (by decide)).2

end Eval

end MiniLisp
