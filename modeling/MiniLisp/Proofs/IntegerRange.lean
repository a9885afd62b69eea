import Mathlib.Algebra.Group.Int.Defs
import MiniLisp.Proofs.FaultFree

/-!
# Integers keep to the width

Only the reader and the folds make integers: the reader refuses a literal that the width has no room
for, and each step of a fold is wrapped. The integers that a fold takes over unchanged, zero and a
single argument, have the width already. So while the width stays the same, every integer anywhere
has it: in the forms that are read, in what the store holds, in every result.
-/

namespace MiniLisp

/-- An integer is in the range of two's complement with the given number of bits. -/
def Value.InRange (bits : Nat) : Value → Prop
  | .integer i _ => -2 ^ (bits - 1) ≤ i ∧ i ≤ 2 ^ (bits - 1) - 1
  | _ => True

theorem Width.natCast_modulus (bits : Nat) : (modulus bits : Int) = 2 ^ bits := by
  show ((2 ^ bits : Nat) : Int) = 2 ^ bits
  rw [Int.natCast_pow]
  rfl

theorem Width.fits_iff_pow {bits : Nat} {i : Int} :
    fits bits i = true ↔ -2 ^ (bits - 1) ≤ i ∧ i ≤ 2 ^ (bits - 1) - 1 := by
  rw [fits_iff, low, high, natCast_modulus]

namespace Policy

/-- Integers have the width; any other value may occur, and whatever else may happen. -/
def inRange (bits : Nat) : Policy where
  value := Value.InRange bits
  integer i := Width.fits bits i = true
  place _ := True
  reported _ := True
  fault _ := True

theorem sound_inRange {c : Context} {bits : Nat} (width : c.settings.width = .ok bits) :
    (inRange bits).Sound c where
  place_of _ _ := trivial
  reported_of _ := trivial
  integer_of allowed := Width.fits_iff_pow.mpr allowed
  nil _ := trivial
  truth _ := trivial
  symbol _ _ := trivial
  integer fits _ := Width.fits_iff_pow.mp fits
  cell _ _ _ := trivial
  closure _ _ _ _ _ _ := trivial
  zero := Width.fits_zero bits
  wrapped i asked := Width.fits_wrap_of_width width asked i
  fitting asked fits := by
    rwa [Settings.widthWithRoom_unique width asked] at fits
  widthless _ := trivial
  unjoined _ _ _ := trivial
  unwritten _ _ := trivial

theorem inRange_allows {call : Call} {bits : Nat}
    (width : call.context.settings.width = .ok bits) : (inRange bits).Allows call :=
  ⟨sound_inRange width, fun _ _ => trivial, fun _ => trivial⟩

end Policy

/-- While the width stays the same, every integer that the store holds, as part of whatever value,
is in its range. So is every integer in a form of a text that is run next, in the result of any of
its forms and in what the store holds then, and in the result of the text. -/
theorem inRange_of_reached {calls : List Call} {root : FrameId} {m : Machine}
    (h : Reached calls root m) {bits : Nat}
    (widths : ∀ call ∈ calls, call.context.settings.width = .ok bits) :
    m.store.Every (Value.InRange bits) ∧
    ∀ call : Call, call.context.settings.width = .ok bits →
      let forms := (readText call.context.settings.readingWidth call.text call.source 1).forms
      (∀ form ∈ forms, form.Every (Value.InRange bits)) ∧
      (∀ front, front <+: forms → ∀ v m', Eval.evalForms (Eval.evaluate call.fuel) root
        (.nil .unknown) front call.context m = .ok v m' →
          v.Every (Value.InRange bits) ∧ m'.store.Every (Value.InRange bits)) ∧
      ∀ v m', call.run root m = .ok v m' → v.Every (Value.InRange bits) := by
  have safe := Policy.safe_of_reached h (fun _ _ _ => trivial) fun call mem =>
    Policy.inRange_allows (widths call mem)
  have inside := Nat.lt_succ_self root
  refine ⟨safe.2.every, fun call width => ?_⟩
  have allows := Policy.inRange_allows width
  refine ⟨fun form mem => ?_, fun front begins v m' ended => ?_, fun v m' ended => ?_⟩
  · exact (Policy.good_readText (n := 0) allows.sound.toFair allows.place form mem).every
  · have kept := allows.keeps_forms inside (fun w mem => begins.subset mem) safe ended
    exact ⟨Policy.every_of_result kept.2 trivial, kept.1.2.every⟩
  · have kept := allows.keeps inside safe ended
    exact Policy.every_of_result kept.2 trivial

/-- Eight bits. -/
def narrow : Context := .ofSettings { Settings.unset with intBits := some "8" }

/-- A sum and a product that overflow, the negation of the least integer, and a literal that is too
large. -/
def overflowingCalls : List Call :=
  let call (text : String) : Call := ⟨narrow, 20, text.toList, "calls"⟩
  [call "(setq l (cons (f 2) l)) 128", call "(setq l (cons (- 0 -128) (quote (-7 . x))))",
    call "(fn f (n) (* n 100 (+ 127 1)))"]

theorem overflowingCalls_inRange :
    ∃ (root : FrameId) (m : Machine), Reached overflowingCalls root m ∧
      m.store.Every (Value.InRange 8) := by
  have ends : (replay narrow overflowingCalls).isSome = true := by decide +kernel
  obtain ⟨⟨root, m⟩, replayed⟩ := Option.isSome_iff_exists.mp ends
  have reached := reached_of_replay replayed
  have width : narrow.settings.width = .ok 8 := rfl
  have widths : ∀ call ∈ overflowingCalls, call.context.settings.width = .ok 8 := by
    intro call mem
    simp only [overflowingCalls, List.mem_cons, List.not_mem_nil, or_false] at mem
    rcases mem with rfl | rfl | rfl <;> exact width
  exact ⟨root, m, reached, (inRange_of_reached reached widths).1⟩

end MiniLisp
