import MiniLisp.Fault

/-!
# Integers of fixed width

Arithmetic is on signed integers of a fixed number of bits, in two's complement. `wrap bits i` is
the integer in `[low bits, high bits]` that is congruent to `i` modulo `modulus bits`.

The powers of two that these bounds are made of may be far larger than the integers themselves, so
they are left alone where the size of an integer already tells that it has the width. That makes no
difference to the results (`fits_iff`, `wrap_eq_bmod`).
-/

namespace MiniLisp.Width

/-- The number of integers of the width: two to the power of its bits. -/
def modulus (bits : Nat) : Nat := Nat.pow 2 bits

/-- The least integer of the width. -/
def low (bits : Nat) : Int := -(modulus (bits - 1) : Int)

/-- The greatest integer of the width. -/
def high (bits : Nat) : Int := (modulus (bits - 1) : Int) - 1

/-- The integer is so short that it has the width, whatever its sign. -/
def isShort (bits : Nat) (i : Int) : Bool := i.natAbs.log2 + 1 < bits

/-- The integer has the width. -/
def fits (bits : Nat) (i : Int) : Bool := isShort bits i || (low bits ≤ i && i ≤ high bits)

/-- The integer of the width that is congruent to `i` modulo `modulus bits`. -/
def wrap (bits : Nat) (i : Int) : Int := if fits bits i then i else i.bmod (modulus bits)

/-- A bound of a width of more bits than this has more than `Text.digitLimit` digits, since four
bits hold more than a digit. -/
def writableWidth : Nat := 4 * Text.digitLimit

/-- The least and the greatest integer of the width in decimal, unless they are too long. -/
def rangeTexts (bits : Nat) : Except Fault (String × String) :=
  if writableWidth < bits || Text.tooLongToWrite (low bits) then .error .integerTooLong
  else .ok (Text.decimal (low bits), Text.decimal (high bits))

/-- A greater width has more integers. -/
theorem modulus_mono {a b : Nat} (h : a ≤ b) : modulus a ≤ modulus b :=
  Nat.pow_le_pow_right (by decide) h

/-- One more bit doubles the number of integers. -/
theorem modulus_succ (bits : Nat) : modulus (bits + 1) = modulus bits * 2 := rfl

/-- A short integer lies below the modulus of the width without its sign bit. -/
theorem natAbs_lt_of_isShort {bits : Nat} {i : Int} (h : isShort bits i = true) :
    i.natAbs < modulus (bits - 1) := by
  have short : i.natAbs.log2 + 1 < bits := of_decide_eq_true h
  have below : i.natAbs < modulus (i.natAbs.log2 + 1) := Nat.lt_log2_self
  exact Nat.lt_of_lt_of_le below (modulus_mono (by omega))

/-- An integer has the width if and only if it lies between the bounds. -/
theorem fits_iff {bits : Nat} {i : Int} : fits bits i = true ↔ low bits ≤ i ∧ i ≤ high bits := by
  simp only [fits, Bool.or_eq_true, Bool.and_eq_true, decide_eq_true_eq]
  constructor
  · rintro (short | between)
    · have below := natAbs_lt_of_isShort short
      unfold low high
      omega
    · exact between
  · exact Or.inr

/-- Wrapping takes the balanced remainder, also of an integer that has the width. -/
theorem wrap_eq_bmod {bits : Nat} (h : 0 < bits) (i : Int) :
    wrap bits i = i.bmod (modulus bits) := by
  unfold wrap
  split
  · next has =>
    obtain ⟨least, greatest⟩ := fits_iff.1 has
    have double : modulus bits = modulus (bits - 1) * 2 := by
      rw [← modulus_succ, Nat.sub_add_cancel h]
    unfold low at least
    unfold high at greatest
    exact (Int.bmod_eq_of_le_mul_two (by omega) (by omega)).symm
  · rfl

end MiniLisp.Width
