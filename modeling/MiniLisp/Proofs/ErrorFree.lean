import MiniLisp.Proofs.Histories

/-!
# Errors are never stored

Error values evaluate to themselves, so one operator that forgot to look for them would be enough
to let them into data. None does: whatever calls a history consists of, and whatever they ended in,
no error is in the store, and none is in a result.
-/

namespace MiniLisp

/-- Neither the value nor any part of it is an error. -/
def Value.ErrorFree (v : Value) : Prop := v.Every fun part => part.isError = false

/-- No slot of any frame, whether a name still refers to it or not, holds an error. -/
def Store.ErrorFree (s : Store) : Prop :=
  ∀ (f : FrameId) (frame : Frame) (index : Nat) (b : Binding), s.frame? f = some frame →
    frame.slots[index]? = some b → b.symbol.ErrorFree ∧ b.value.ErrorFree

/-- Anything but errors may occur, and whatever else may happen. -/
def Policy.errorFree : Policy where
  value v := v.isError = false
  integer _ := True
  place _ := True
  reported _ := True
  fault _ := True

theorem Policy.sound_errorFree (c : Context) : errorFree.Sound c where
  place_of _ _ := trivial
  reported_of _ := trivial
  integer_of _ := trivial
  nil _ := rfl
  truth _ := rfl
  symbol _ _ := rfl
  integer _ _ := rfl
  cell _ _ _ := rfl
  closure _ _ _ _ _ _ := rfl
  zero := trivial
  wrapped _ _ := trivial
  fitting _ _ := trivial
  widthless _ := trivial
  unjoined _ _ _ := trivial
  unwritten _ _ := trivial

theorem Policy.errorFree_allows (call : Call) : errorFree.Allows call :=
  ⟨sound_errorFree call.context, fun _ _ => trivial, fun _ => trivial⟩

theorem Policy.Holds.storeErrorFree {s : Store} (h : errorFree.Holds s) : s.ErrorFree := by
  intro f frame index b frameFound slotFound
  have wellFormed := h f frame frameFound
  refine ⟨?_, (wellFormed.value slotFound).every⟩
  have isSymbol := wellFormed.symbol slotFound
  cases symbol : b.symbol with
  | symbol => rfl
  | _ => simp [symbol, Value.isSymbol] at isSymbol

/-- Whatever texts were run and whatever they ended in, no error is in the store. No error is in the
result of any text that is run next, nor in the value of a form that is evaluated in any frame. -/
theorem errorFree_of_reached {calls : List Call} {root : FrameId} {m : Machine}
    (h : Reached calls root m) :
    m.store.ErrorFree ∧
    (∀ (call : Call) (v : Value) (m' : Machine), call.run root m = .ok v m' → v.ErrorFree) ∧
    ∀ (c : Context) (fuel : Nat) (f : FrameId) (text : List Char) (source : String) (line : Int),
      f < m.store.nextFrame → ∀ form ∈ (readText c.settings.readingWidth text source line).forms,
      ∀ (v : Value) (m' : Machine), Eval.evaluate fuel f form c m = .ok v m' →
        v.ErrorFree ∧ m'.store.ErrorFree := by
  have safe := Policy.safe_of_reached h (fun _ _ _ => rfl) fun call _ =>
    Policy.errorFree_allows call
  refine ⟨safe.2.storeErrorFree, fun call v m' ended => ?_, ?_⟩
  · have kept := (Policy.errorFree_allows call).keeps (Nat.lt_succ_self root) safe ended
    rcases kept.2 with rfl | good
    · rfl
    · exact good.every
  · intro c fuel f text source line inside form mem v m' ended
    have sound := Policy.sound_errorFree c
    have good : Policy.errorFree.Good m.store.nextFrame form :=
      Policy.good_readText sound.toFair (fun _ _ => trivial) form mem
    have kept := sound.keeps_evaluate fuel inside good ⟨Nat.le_refl _, safe.2⟩ ended
    exact ⟨kept.2.every, kept.1.2.storeErrorFree⟩

/-- A definition, a failure among arguments, and a text that breaks off. -/
def threeCalls : List Call :=
  let call (text : String) : Call := ⟨.ofSettings .unset, 20, text.toList, "calls"⟩
  [call "(setq c (cons f f)) (", call "(setq c (cons 1 (/ 1 0)))",
    call "(fn f (x) (car (quote (x))))"]

theorem threeCalls_errorFree :
    ∃ (root : FrameId) (m : Machine), Reached threeCalls root m ∧ m.store.ErrorFree := by
  have ends : (replay (.ofSettings .unset) threeCalls).isSome = true := by decide +kernel
  obtain ⟨⟨root, m⟩, replayed⟩ := Option.isSome_iff_exists.mp ends
  have reached := reached_of_replay replayed
  exact ⟨root, m, reached, (errorFree_of_reached reached).1⟩

end MiniLisp
