import Mathlib.Data.Int.ModEq
import MiniLisp.Proofs.IntegerRange

/-!
# Integers as residues

Each class of integers modulo two to the power of the width has one member in the range of the
width, and wrapping takes an integer to that member of its class. So it makes no difference whether
the operands of a sum, a difference or a product are wrapped before or the result is afterwards.

* `Width.Represents`: an integer in the range stands for another one;
* `Width.represents_wrap`, `Width.Represents.eq`: the wrapped integer does, and no other one;
* `Width.wrap_congr`: wrapping depends on the class alone.
-/

namespace MiniLisp.Width

/-- The integer is in the range of two's complement with the given number of bits. -/
def InRange (bits : Nat) (i : Int) : Prop := -2 ^ (bits - 1) ≤ i ∧ i ≤ 2 ^ (bits - 1) - 1

instance (bits : Nat) (i : Int) : Decidable (InRange bits i) :=
  inferInstanceAs (Decidable (_ ∧ _))

/-- The integer `i` is in the range of the width, and congruent to `x` modulo two to the power of
the width. -/
structure Represents (bits : Nat) (x i : Int) : Prop where
  inRange : InRange bits i
  congruent : i ≡ x [ZMOD 2 ^ bits]

variable {bits : Nat} {x y i j : Int}

/-- The range holds as many integers as there are classes. -/
theorem two_pow_eq (pos : 0 < bits) : (2 : Int) ^ bits = 2 ^ (bits - 1) + 2 ^ (bits - 1) := by
  rw [← natCast_modulus, ← natCast_modulus, ← Int.natCast_add, ← Nat.mul_two, ← modulus_succ,
    Nat.sub_add_cancel pos]

theorem inRange_wrap (pos : 0 < bits) (x : Int) : InRange bits (wrap bits x) :=
  fits_iff_pow.mp (fits_wrap pos x)

theorem wrap_of_inRange (has : InRange bits i) : wrap bits i = i := if_pos (fits_iff_pow.mpr has)

theorem wrap_modEq (pos : 0 < bits) (x : Int) : wrap bits x ≡ x [ZMOD 2 ^ bits] := by
  rw [wrap_eq_bmod pos, ← natCast_modulus]
  exact Int.bmod_emod

theorem represents_wrap (pos : 0 < bits) (x : Int) : Represents bits x (wrap bits x) :=
  ⟨inRange_wrap pos x, wrap_modEq pos x⟩

/-- No two integers in the range represent the same one, since they lie less than the whole range
apart. -/
theorem Represents.eq (pos : 0 < bits) (h : Represents bits x i) (h' : Represents bits x j) :
    i = j := by
  have same : i ≡ j [ZMOD 2 ^ bits] := h.congruent.trans h'.congruent.symm
  obtain ⟨k, apart⟩ := same.symm.dvd
  have size := two_pow_eq pos
  obtain ⟨least, greatest⟩ := h.inRange
  obtain ⟨least', greatest'⟩ := h'.inRange
  have above : 2 ^ bits * (-1) < 2 ^ bits * k := by omega
  have below : 2 ^ bits * k < 2 ^ bits * 1 := by omega
  have some : (0 : Int) ≤ 2 ^ bits := by omega
  have atLeast : -1 < k := Int.lt_of_mul_lt_mul_left above some
  have atMost : k < 1 := Int.lt_of_mul_lt_mul_left below some
  have zero : k = 0 := by omega
  rw [zero, Int.mul_zero] at apart
  omega

theorem wrap_eq_iff (pos : 0 < bits) : wrap bits x = i ↔ Represents bits x i := by
  constructor
  · rintro rfl
    exact represents_wrap pos x
  · exact (represents_wrap pos x).eq pos

/-- Two integers of one class are wrapped to the same one. -/
theorem wrap_congr (pos : 0 < bits) (same : x ≡ y [ZMOD 2 ^ bits]) : wrap bits x = wrap bits y :=
  (wrap_eq_iff pos).mpr ⟨inRange_wrap pos y, (wrap_modEq pos y).trans same.symm⟩

theorem wrap_wrap_add (pos : 0 < bits) (x y : Int) :
    wrap bits (wrap bits x + y) = wrap bits (x + y) :=
  wrap_congr pos ((wrap_modEq pos x).add_right y)

theorem wrap_wrap_sub (pos : 0 < bits) (x y : Int) :
    wrap bits (wrap bits x - y) = wrap bits (x - y) :=
  wrap_congr pos ((wrap_modEq pos x).sub_right y)

theorem wrap_sub_wrap (pos : 0 < bits) (x y : Int) :
    wrap bits (x - wrap bits y) = wrap bits (x - y) :=
  wrap_congr pos ((wrap_modEq pos y).sub_left x)

theorem wrap_wrap_mul (pos : 0 < bits) (x y : Int) :
    wrap bits (wrap bits x * y) = wrap bits (x * y) :=
  wrap_congr pos ((wrap_modEq pos x).mul_right y)

end MiniLisp.Width
