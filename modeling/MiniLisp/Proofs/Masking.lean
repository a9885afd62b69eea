import Mathlib.Data.Int.Bitwise
import MiniLisp.Proofs.Folding

/-!
# Wrapping by bits

A machine brings an integer to a width by keeping its lowest bits. These spell a natural number
below the modulus, and if the highest of them is set, the modulus is subtracted. An integer of any
size has such bits: a negative one is taken in two's complement, with ones without end on its left.

* `Width.lowBits_eq_emod`: keeping the lowest bits takes the remainder modulo the power of two;
* `Width.represents_masked`: the result is in the range, and congruent to the integer;
* `Width.masked_eq_wrap`: so it is the wrapped integer;
* `Width.wrapping_reduces`: what wrapping does at any width.
-/

namespace MiniLisp.Width

variable {bits : Nat} {i : Int}

/-- The lowest bits of an integer, as many as the width has. -/
def lowBits (bits : Nat) (i : Int) : Int := Int.land i ((1 : Int) <<< bits - 1)

/-- The integer that the lowest bits spell in two's complement: the highest of them is its sign. -/
def masked (bits : Nat) (i : Int) : Int :=
  if lowBits bits i >>> (bits - 1) ≠ 0 then lowBits bits i - (1 : Int) <<< bits
  else lowBits bits i

/-! ## The lowest bits -/

theorem one_shiftLeft (bits : Nat) : (1 : Int) <<< bits = 2 ^ bits := by
  rw [Int.shiftLeft_eq, Int.one_mul]

theorem two_pow_pos (n : Nat) : (0 : Int) < 2 ^ n := Int.pow_pos (by decide)

/-- As many ones as the width has bits. -/
theorem mask_eq_natCast (bits : Nat) : (1 : Int) <<< bits - 1 = ((2 ^ bits - 1 : Nat) : Int) := by
  rw [one_shiftLeft, Int.natCast_sub Nat.one_le_two_pow]
  rfl

/-- Ones without those of another number are the complement of its lowest bits. -/
theorem ldiff_ones (bits n : Nat) : Nat.ldiff (2 ^ bits - 1) n = 2 ^ bits - (n % 2 ^ bits + 1) := by
  refine Nat.eq_of_testBit_eq fun k => ?_
  rw [Nat.testBit_ldiff, Nat.testBit_two_pow_sub_one,
    Nat.testBit_two_pow_sub_succ (Nat.mod_lt n (Nat.two_pow_pos bits)), Nat.testBit_mod_two_pow]
  cases decide (k < bits) <;> simp

theorem lowBits_eq_emod (bits : Nat) (i : Int) : lowBits bits i = i % 2 ^ bits := by
  unfold lowBits
  rw [mask_eq_natCast]
  cases i with
  | ofNat n =>
    show ((n &&& (2 ^ bits - 1) : Nat) : Int) = n % 2 ^ bits
    rw [Nat.and_two_pow_sub_one_eq_mod]
    push_cast
    rfl
  | negSucc n =>
    have below : n % 2 ^ bits + 1 ≤ 2 ^ bits := Nat.mod_lt n (Nat.two_pow_pos bits)
    show ((Nat.ldiff (2 ^ bits - 1) n : Nat) : Int) = _
    rw [ldiff_ones, Int.negSucc_emod n (two_pow_pos bits), Int.natCast_sub below]
    push_cast
    omega

/-! ## The highest bit is the sign -/

theorem shiftRight_eq_zero_iff {n : Nat} (nonneg : 0 ≤ i) : i >>> n = 0 ↔ i < 2 ^ n := by
  have shifted : i >>> n = i / 2 ^ n := Int.shiftRight_eq_div_pow i n
  rw [shifted]
  constructor
  · intro zero
    refine Int.not_le.mp fun least => ?_
    have one : 1 ≤ i / 2 ^ n := Int.le_ediv_of_mul_le (two_pow_pos n) (by omega)
    omega
  · exact Int.ediv_eq_zero_of_lt nonneg

theorem represents_masked (pos : 0 < bits) (i : Int) : Represents bits i (masked bits i) := by
  have size := two_pow_eq pos
  have modulusPos := two_pow_pos bits
  have least := Int.emod_nonneg i (Int.ne_of_gt modulusPos)
  have below := Int.emod_lt_of_pos i modulusPos
  unfold masked
  rw [one_shiftLeft, lowBits_eq_emod]
  split
  · next signed =>
    rw [ne_eq, shiftRight_eq_zero_iff least] at signed
    refine ⟨⟨by omega, by omega⟩, ?_⟩
    exact (Int.sub_modulus_modEq_iff.mpr rfl).trans (Int.mod_modEq i (2 ^ bits))
  · next unsigned =>
    rw [ne_eq, not_not, shiftRight_eq_zero_iff least] at unsigned
    exact ⟨⟨by omega, by omega⟩, Int.mod_modEq i (2 ^ bits)⟩

theorem masked_eq_wrap (pos : 0 < bits) (i : Int) : masked bits i = wrap bits i :=
  ((wrap_eq_iff pos).mpr (represents_masked pos i)).symm

/-- Wrapping is reduction modulo two to the power of the width.

* It keeps the lowest bits and takes the highest of them for the sign.
* The result is the one integer between the bounds of the width that is congruent to the integer.
* Integers between the bounds, and no others, are left as they are, so wrapping again does nothing.
* A sum, a difference and a product are wrapped to the same whether their operands are or not.
* Arithmetic wraps to the width that is set, unless there is no room for so large a width. -/
theorem wrapping_reduces (two_le : 2 ≤ bits) :
    (∀ i, masked bits i = wrap bits i) ∧
    (low bits = -2 ^ (bits - 1) ∧ high bits = 2 ^ (bits - 1) - 1) ∧
    (∀ i j, wrap bits i = j ↔ (low bits ≤ j ∧ j ≤ high bits) ∧ j ≡ i [ZMOD 2 ^ bits]) ∧
    (∀ i, wrap bits i = i ↔ low bits ≤ i ∧ i ≤ high bits) ∧
    (∀ i, wrap bits (wrap bits i) = wrap bits i) ∧
    (∀ x y, wrap bits (x + y) = wrap bits (wrap bits x + wrap bits y) ∧
      wrap bits (x - y) = wrap bits (wrap bits x - wrap bits y) ∧
      wrap bits (x * y) = wrap bits (wrap bits x * wrap bits y)) ∧
    ∀ s : Settings, s.width = .ok bits → s.arithmeticWidth = .ok bits ∨
      Settings.memoryBound < bits ∧ ∃ reason : Fault,
        (reason = .outOfMemory ∨ reason = .widthTooLarge) ∧ s.arithmeticWidth = .error reason := by
  have pos : 0 < bits := Nat.lt_of_lt_of_le (by decide) two_le
  have bounds : low bits = -2 ^ (bits - 1) ∧ high bits = 2 ^ (bits - 1) - 1 := by
    simp only [low, high, natCast_modulus, and_self]
  have between (j : Int) : low bits ≤ j ∧ j ≤ high bits ↔ InRange bits j := by
    rw [bounds.1, bounds.2]
    rfl
  have same := wrap_modEq pos
  refine ⟨masked_eq_wrap pos, bounds, fun i j => ?_, fun i => ?_,
    fun i => wrap_of_inRange (inRange_wrap pos i), fun x y => ⟨?_, ?_, ?_⟩,
    fun s width => Settings.arithmeticWidth_cases width⟩
  · rw [wrap_eq_iff pos, between]
    exact ⟨fun h => ⟨h.inRange, h.congruent⟩, fun h => ⟨h.1, h.2⟩⟩
  · rw [between]
    exact ⟨fun fixed => fixed ▸ inRange_wrap pos i, wrap_of_inRange⟩
  · exact (wrap_congr pos ((same x).add (same y))).symm
  · exact (wrap_congr pos ((same x).sub (same y))).symm
  · exact (wrap_congr pos ((same x).mul (same y))).symm

/-- In eight bits the integers at both ends of the range stay, and the ones beside them change
ends. -/
theorem eightBits_reduced :
    wrap 8 127 = 127 ∧ masked 8 128 = -128 ∧ wrap 8 (-128) = -128 ∧ masked 8 (-129) = 127 ∧
      narrow.settings.arithmeticWidth = .ok 8 := by
  obtain ⟨byBits, -, -, fixed, -, -, room⟩ := wrapping_reduces (show 2 ≤ 8 by decide)
  refine ⟨(fixed 127).mpr (by decide), (byBits 128).trans (by decide),
    (fixed (-128)).mpr (by decide), (byBits (-129)).trans (by decide), ?_⟩
  rcases room narrow.settings rfl with asked | ⟨large, -⟩
  · exact asked
  · exact absurd large (by decide)

end MiniLisp.Width
