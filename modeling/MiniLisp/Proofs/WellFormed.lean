import MiniLisp.Proofs.FrameTree

/-!
# Well-formed stores

Whatever an interpreter was called with and whatever the calls ended in, its frames are a tree, each
name is bound to a symbol of that name, and each closure is one that `fn` or `macro` can have made:
its parameters are symbols, its body is a proper list, and its frame exists.

So a lookup comes to an end at the root, and the body of a closure never runs into an improper tail.
-/

namespace MiniLisp

/-- Every closure in the value has a proper list of symbols for its parameters, a proper list for
its body, and one of the first `n` frames. -/
def Value.WellFormed (n : Nat) (v : Value) : Prop := v.Every (·.Made n)

/-- The frames are a tree, each name is bound to a symbol of that name, and what the slots hold is
well-formed. -/
structure Store.WellFormed (root : FrameId) (s : Store) : Prop where
  inside : root < s.nextFrame
  outermost : s.outer? root = none
  outer {f : FrameId} : f < s.nextFrame → f ≠ root → ∃ g, s.outer? f = some g ∧ g < f
  named {f : FrameId} {frame : Frame} {key : Key} {index : Nat} : s.frame? f = some frame →
    (key, index) ∈ frame.names → ∃ name loc value, key = some name ∧
      frame.slots[index]? = some ⟨.symbol name loc, value⟩
  slot {f : FrameId} {frame : Frame} {index : Nat} {b : Binding} : s.frame? f = some frame →
    frame.slots[index]? = some b →
      b.symbol.WellFormed s.nextFrame ∧ b.value.WellFormed s.nextFrame

/-! ## The policy -/

theorem Policy.Good.wellFormed {p : Policy} {n : Nat} {v : Value} (h : p.Good n v) :
    v.WellFormed n :=
  Value.Every.imp (fun _ both => both.1) h

theorem Policy.any_allows (call : Call) : any.Allows call :=
  ⟨sound_any call.context, fun _ _ => trivial, fun _ => trivial⟩

theorem Policy.Holds.older {p : Policy} {s : Store} (h : p.Holds s) : s.Older := by
  intro f g link
  obtain ⟨frame, found, outer⟩ := Option.bind_eq_some_iff.mp link
  exact (h f frame found).outer outer

theorem Value.exists_symbol {v : Value} (h : v.isSymbol = true) :
    ∃ name loc, v = .symbol name loc := by
  cases v with
  | symbol name loc => exact ⟨name, loc, rfl⟩
  | _ => cases h

theorem Policy.Holds.wellFormed {p : Policy} {s : Store} (h : p.Holds s) {root : FrameId}
    (nested : s.Nested root) : s.WellFormed root where
  inside := nested.inside
  outermost := (nested.outer nested.inside).mpr rfl
  outer {f} inside inner := by
    obtain ⟨g, link⟩ := Option.ne_none_iff_exists'.mp fun none =>
      inner ((nested.outer inside).mp none)
    exact ⟨g, link, h.older f g link⟩
  named {f frame key index} found mem := by
    have frameHolds := h f frame found
    obtain ⟨⟨symbol, value⟩, inSlot, keyed⟩ := frameHolds.named mem
    obtain ⟨name, loc, rfl⟩ := Value.exists_symbol (frameHolds.symbol inSlot)
    exact ⟨name, loc, value, keyed.symm, inSlot⟩
  slot {f frame index b} found inSlot := by
    have frameHolds := h f frame found
    refine ⟨?_, (frameHolds.value inSlot).wellFormed⟩
    obtain ⟨name, loc, eq⟩ := Value.exists_symbol (frameHolds.symbol inSlot)
    rw [eq]
    trivial

/-! ## Nesting -/

theorem Eval.nested_of_newRoot {c : Context} {root : FrameId} {m : Machine}
    (made : newRoot c .initial = .ok root m) : m.store.Nested root := by
  have first : newFrame none c .initial =
      .ok 0 { Machine.initial with store := Store.empty.newFrame none } := rfl
  unfold newRoot at made
  rw [bind_apply, first] at made
  dsimp only at made
  rw [bind_apply] at made
  split at made
  · next bound =>
    cases made
    have kept := (changing_nested 0).leaves_bindStandard (f := 0) fun _ _ _ => id
    exact kept.run (by rw [bound]; rfl) Store.nested_newFrame_empty
  all_goals cases made

theorem nested_of_reached {calls : List Call} {root : FrameId} {m : Machine}
    (h : Reached calls root m) : m.store.Nested root := by
  induction h with
  | start made => exact Eval.nested_of_newRoot made
  | @call _ root _ _ call _ ended ih =>
    have kept := (Eval.changing_nested root).leaves_evalText (f := root) (fun _ _ _ => id)
      call.fuel call.text call.source
    exact kept.run ended ih

/-! ## Bodies -/

namespace Eval

/-- Evaluates expressions in order; the result is the last value. There has to be one. -/
def evalInOrder (ev : Evaluator) (f : FrameId) (loc : Location) : List Value → Eval Value
  | [] => raise .emptyBody loc
  | [expr] => ev f expr
  | expr :: next :: later => do
    let _ ← ev f expr
    evalInOrder ev f loc (next :: later)

theorem evalThen_eq_inOrder (ev : Evaluator) (f : FrameId) (loc : Location) (expr : Value)
    {rest : Value} (list : rest.isList = true) :
    evalThen ev f expr rest = evalInOrder ev f loc (expr :: rest.items) := by
  induction rest generalizing expr with
  | nil => rfl
  | cell first rest _ _ ih =>
    show (ev f expr >>= fun _ => evalThen ev f first rest) = _
    rw [ih first list]
    rfl
  | _ => cases list

/-- A proper list is evaluated element by element, and nothing comes after the last one. -/
theorem evalBody_eq_inOrder (ev : Evaluator) (f : FrameId) {body : Value}
    (list : body.isList = true) : evalBody ev f body = evalInOrder ev f body.loc body.items := by
  cases body with
  | nil => rfl
  | cell first rest loc => exact evalThen_eq_inOrder ev f loc first list
  | _ => cases list

end Eval

/-! ## Histories -/

/-- Whatever texts were run and whatever they ended in, the store is well-formed. A lookup, from any
frame, goes from each frame to the one around it and ends at the root: the name is looked for in the
frame, and if it is not bound there, in the frame around it. The result of any text that is run next
is well-formed too, and the body of a well-formed closure is evaluated element by element. -/
theorem wellFormed_of_reached {calls : List Call} {root : FrameId} {m : Machine}
    (h : Reached calls root m) :
    m.store.WellFormed root ∧
    (∀ f, f < m.store.nextFrame → m.store.EndsAt root (m.store.outward f) ∧
      ∀ key, m.store.find? f key = match m.store.slotIn? key f, m.store.outer? f with
        | some slot, _ => some slot
        | none, some g => m.store.find? g key
        | none, none => none) ∧
    (∀ (call : Call) (v : Value) (m' : Machine), call.run root m = .ok v m' →
      v.WellFormed m'.store.nextFrame) ∧
    ∀ (n : Nat) (sort : ClosureKind) (params body : Value) (outer : FrameId) (loc : Location)
      (identity : Identity),
      (Value.closure sort params body outer loc identity).WellFormed n →
      ∀ (ev : Evaluator) (f : FrameId),
        Eval.evalBody ev f body = Eval.evalInOrder ev f body.loc body.items := by
  have safe := Policy.safe_of_reached (p := .any) h (fun _ _ _ => trivial) fun call _ =>
    Policy.any_allows call
  have nested := nested_of_reached h
  have older := safe.2.older
  refine ⟨safe.2.wellFormed nested, fun f inside => ?_, fun call v m' ended => ?_, ?_⟩
  · exact ⟨(Store.outward_ends nested older inside).1, fun key => older.find?_eq inside⟩
  · have kept := (Policy.any_allows call).keeps (Nat.lt_succ_self root) safe ended
    rcases kept.2 with rfl | good
    · trivial
    · exact good.wellFormed
  · intro n sort params body outer loc identity wellFormed ev f
    exact Eval.evalBody_eq_inOrder ev f wellFormed.1.2.1

/-- A function that makes functions, an expander that builds one of them into a list, a call of it
that goes wrong in a frame of its own, and a text that breaks off. -/
def nestedClosures : List Call :=
  let call (text : String) : Call := ⟨.ofSettings .unset, 20, text.toList, "calls"⟩
  [call "(setq l (cons (outer f) l)) (", call "((outer 1) (car 2))",
    call "(setq l ((macro (x) (cons cons (cons x (quote (nil))))) (outer 1)))",
    call "(fn outer (x) (fn (y) (+ x y)))"]

theorem nestedClosures_wellFormed :
    ∃ (root : FrameId) (m : Machine), Reached nestedClosures root m ∧
      m.store.WellFormed root := by
  have ends : (replay (.ofSettings .unset) nestedClosures).isSome = true := by decide +kernel
  obtain ⟨⟨root, m⟩, replayed⟩ := Option.isSome_iff_exists.mp ends
  have reached := reached_of_replay replayed
  exact ⟨root, m, reached, (wellFormed_of_reached reached).1⟩

end MiniLisp
