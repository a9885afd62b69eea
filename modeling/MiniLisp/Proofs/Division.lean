import Mathlib.Algebra.BigOperators.Ring.List
import MiniLisp.Proofs.Folding

/-!
# Division

The quotient of two integers is rounded toward zero. In the range of the width it is in the range
again, with one exception: the least integer divided by minus one is one above the greatest, and is
wrapped to the least integer again. If a division never comes to that, it is exact division by the
product of all divisors.

* `IsTruncated`: the quotient rounded toward zero, by what remains;
* `Width.QuotientStep`, `Width.quotientStep_wrapped`: one step of a division;
* `Width.exact_of_never`: a whole division, if no step of it overflows;
* `Eval.division_is_truncated`: the result.
-/

namespace MiniLisp

/-! ## Rounding toward zero -/

/-- The quotient of `a` by `n` rounded toward zero is `q`: what remains is less than the divisor,
and it has the sign of `a` if there is anything. -/
def IsTruncated (a n q : Int) : Prop :=
  ∃ r, a = q * n + r ∧ r.natAbs < n.natAbs ∧ (r = 0 ∨ r.sign = a.sign)

theorem truncatingQuotient_eq_tdiv (a n : Int) : truncatingQuotient a n = a.tdiv n := by
  have absolute : (a.natAbs : Int) / n.natAbs = (a.natAbs : Int).tdiv n.natAbs :=
    Int.natCast_tdiv_eq_ediv.symm
  unfold truncatingQuotient
  rw [absolute]
  by_cases negative : a < 0 <;> by_cases negative' : n < 0
  · rw [Int.ofNat_natAbs_of_nonpos (Int.le_of_lt negative),
      Int.ofNat_natAbs_of_nonpos (Int.le_of_lt negative'), Int.neg_tdiv_neg]
    simp [negative, negative']
  · rw [Int.ofNat_natAbs_of_nonpos (Int.le_of_lt negative),
      Int.natAbs_of_nonneg (Int.not_lt.mp negative'), Int.neg_tdiv]
    simp [negative, negative']
  · rw [Int.natAbs_of_nonneg (Int.not_lt.mp negative),
      Int.ofNat_natAbs_of_nonpos (Int.le_of_lt negative'), Int.tdiv_neg]
    simp [negative, negative']
  · rw [Int.natAbs_of_nonneg (Int.not_lt.mp negative),
      Int.natAbs_of_nonneg (Int.not_lt.mp negative')]
    simp [negative, negative']

theorem isTruncated_tdiv (a : Int) {n : Int} (nonzero : n ≠ 0) : IsTruncated a n (a.tdiv n) := by
  refine ⟨a.tmod n, (Int.tdiv_mul_add_tmod a n).symm, ?_, ?_⟩
  · rw [Int.natAbs_tmod]
    exact Nat.mod_lt _ (Int.natAbs_pos.mpr nonzero)
  · rw [← Int.sign_eq_zero_iff_zero, Int.sign_tmod]
    split
    · exact .inl rfl
    · exact .inr rfl

/-- There is only one such quotient: the remainders of two have one sign, so they are less than the
divisor apart. -/
theorem IsTruncated.eq {a n q q' : Int} (h : IsTruncated a n q) (h' : IsTruncated a n q') :
    q = q' := by
  obtain ⟨r, whole, small, sign⟩ := h
  obtain ⟨r', whole', small', sign'⟩ := h'
  have apart : (q - q') * n = r' - r := by
    rw [Int.sub_mul]
    omega
  have near : (r' - r).natAbs < n.natAbs := by
    rcases Int.lt_trichotomy a 0 with negative | rfl | positive
    · rw [Int.sign_eq_neg_one_of_neg negative] at sign sign'
      simp only [Int.sign_eq_neg_one_iff_neg] at sign sign'
      omega
    · simp only [Int.sign_zero, Int.sign_eq_zero_iff_zero, or_self] at sign sign'
      omega
    · rw [Int.sign_eq_one_of_pos positive] at sign sign'
      simp only [Int.sign_eq_one_iff_pos] at sign sign'
      omega
  have divides : n ∣ r' - r := ⟨q - q', by rw [← apart, Int.mul_comm]⟩
  have zero := Int.eq_zero_of_dvd_of_natAbs_lt_natAbs divides near
  rw [zero] at apart
  rcases Int.mul_eq_zero.mp apart with same | none
  · omega
  · subst none
    exact absurd small (Nat.not_lt_zero _)

theorem tdiv_tdiv (a n d : Int) : (a.tdiv n).tdiv d = a.tdiv (n * d) := by
  have natural (x y z : Nat) : ((x : Int).tdiv y).tdiv z = (x : Int).tdiv (y * z) := by
    rw [← Int.ofNat_tdiv, ← Int.ofNat_tdiv, ← Int.natCast_mul, ← Int.ofNat_tdiv,
      Nat.div_div_eq_div_mul]
  obtain ⟨x, rfl | rfl⟩ := Int.eq_nat_or_neg a <;>
    obtain ⟨y, rfl | rfl⟩ := Int.eq_nat_or_neg n <;>
    obtain ⟨z, rfl | rfl⟩ := Int.eq_nat_or_neg d <;>
    simp only [Int.neg_tdiv, Int.tdiv_neg, Int.neg_mul, Int.mul_neg, Int.neg_neg, natural]

/-! ## Steps -/

namespace Width

variable {bits : Nat} {a d n : Int} {ns : List Int}

/-- The least integer of the width divided by minus one. -/
def Overflows (bits : Nat) (a d : Int) : Prop := a = -2 ^ (bits - 1) ∧ d = -1

/-- A division of `a` by `d` comes to `q`: where it overflows, to `a` again, and anywhere else to
the quotient rounded toward zero, as it is before it is wrapped. -/
structure QuotientStep (bits : Nat) (a d q : Int) : Prop where
  again : Overflows bits a d → q = a
  exact : ¬ Overflows bits a d → IsTruncated a d q ∧ FoldRule.quotient.join a d = .ok q

theorem inRange_tdiv (has : InRange bits a) (nonzero : d ≠ 0) (fits : ¬ Overflows bits a d) :
    InRange bits (a.tdiv d) := by
  obtain ⟨least, greatest⟩ := has
  unfold InRange
  by_cases one : d = 1
  · rw [one, Int.tdiv_one]
    exact ⟨least, greatest⟩
  by_cases minusOne : d = -1
  · have above : a ≠ -2 ^ (bits - 1) := fun minimum => fits ⟨minimum, minusOne⟩
    rw [minusOne, Int.tdiv_neg, Int.tdiv_one]
    omega
  · -- any other divisor halves the integer at least
    have smaller : (a.tdiv d).natAbs ≤ a.natAbs / 2 := by
      rw [Int.natAbs_tdiv]
      exact Nat.div_le_div_left (by omega) (by decide)
    omega

theorem wrap_quotient_of_not_overflows (has : InRange bits a) (nonzero : d ≠ 0)
    (fits : ¬ Overflows bits a d) : wrapped bits truncatingQuotient a d = a.tdiv d := by
  rw [wrapped, truncatingQuotient_eq_tdiv]
  exact wrap_of_inRange (inRange_tdiv has nonzero fits)

theorem wrap_quotient_of_overflows (pos : 0 < bits) (overflows : Overflows bits a d) :
    wrapped bits truncatingQuotient a d = a := by
  obtain ⟨rfl, rfl⟩ := overflows
  have some : (0 : Int) < 2 ^ (bits - 1) := Int.pow_pos (by decide)
  rw [wrapped, truncatingQuotient_eq_tdiv, Int.tdiv_neg, Int.tdiv_one, Int.neg_neg,
    wrap_eq_iff pos]
  refine ⟨⟨Int.le_refl _, by omega⟩, Int.modEq_iff_dvd.mpr ?_⟩
  rw [two_pow_eq pos, Int.sub_neg]

theorem quotientStep_wrapped (pos : 0 < bits) (has : InRange bits a) (nonzero : d ≠ 0) :
    QuotientStep bits a d (wrapped bits truncatingQuotient a d) where
  again overflows := wrap_quotient_of_overflows pos overflows
  exact fits := by
    rw [wrap_quotient_of_not_overflows has nonzero fits]
    refine ⟨isTruncated_tdiv a nonzero, ?_⟩
    rw [FoldRule.join, if_neg nonzero, truncatingQuotient_eq_tdiv]

/-- If no step overflows, dividing by one integer after the other is dividing by their product. -/
theorem exact_of_never (has : InRange bits n) (nonzero : 0 ∉ ns)
    (never : ∀ before d, before ++ [d] <+: ns →
      ¬ Overflows bits (before.foldl (wrapped bits truncatingQuotient) n) d) :
    ns.foldl (wrapped bits truncatingQuotient) n = n.tdiv ns.prod := by
  induction ns generalizing n with
  | nil => rw [List.foldl_nil, List.prod_nil, Int.tdiv_one]
  | cons d ns ih =>
    have nonzero' : d ≠ 0 := fun zero => nonzero (zero ▸ List.mem_cons_self)
    have fits : ¬ Overflows bits n d := never [] d ⟨ns, rfl⟩
    have first := wrap_quotient_of_not_overflows has nonzero' fits
    rw [List.foldl_cons, List.prod_cons, ← tdiv_tdiv, first]
    refine ih (inRange_tdiv has nonzero' fits) (fun zero => nonzero (List.mem_cons_of_mem d zero))
      fun before k begins => ?_
    have later := never (d :: before) k (List.cons_prefix_cons.mpr ⟨rfl, begins⟩)
    rwa [List.foldl_cons, first] at later

end Width

/-! ## Whole divisions -/

namespace Eval

variable {c : Context} {m m₁ : Machine} {ev : Evaluator} {f : FrameId} {args : Value}
  {vs : List Value} {n d : Int} {ns before after : List Int} {bits : Nat}

theorem accumulates_divide (room : ns ≠ [] → c.settings.arithmeticWidth = .ok bits)
    (nonzero : 0 ∉ ns) (n : Int) :
    Accumulates c .divide n ns (ns.foldl (Width.wrapped bits truncatingQuotient) n) := by
  have apart : ∀ d ∈ ns, d ≠ 0 := fun d mem zero => nonzero (zero ▸ mem)
  have joins : ∀ a, ∀ d ∈ ns, Fold.divide.join c.operations a d = .ok (truncatingQuotient a d) :=
    fun a d mem => if_neg (apart d mem)
  exact accumulates_foldl room (fun d mem _ => apart d mem) joins n

section Fold

variable (evaluated : evalArguments ev f args c m = .ok vs m₁) (integers : AreIntegers vs (n :: ns))
include evaluated integers

/-- The first divisor that is zero is refused. -/
theorem fold_divide_of_zero (split : ns = before ++ 0 :: after) (nonzero : 0 ∉ before)
    (room : before ≠ [] → c.settings.arithmeticWidth = .ok bits) :
    fold ev .divide f args c m = raise .divisionByZero args.loc c m₁ := by
  subst split
  have joining := accumulates_divide room nonzero n args.loc (0 :: after) m₁
  exact (fold_apply evaluated integers .divide).trans (error_of_bind joining)

theorem fold_divide_of_mem_zero (room : ns ≠ [] → c.settings.arithmeticWidth = .ok bits)
    (zero : 0 ∈ ns) :
    fold ev .divide f args c m = raise .divisionByZero args.loc c m₁ := by
  obtain ⟨before, after, split, nonzero⟩ := List.eq_append_cons_of_mem zero
  exact fold_divide_of_zero evaluated integers split nonzero
    fun _ => room (List.ne_nil_of_mem zero)

/-- Without a zero among the divisors there is a quotient. -/
theorem fold_divide (room : ns ≠ [] → c.settings.arithmeticWidth = .ok bits) (nonzero : 0 ∉ ns) :
    fold ev .divide f args c m =
      .ok (.integer (ns.foldl (Width.wrapped bits truncatingQuotient) n) args.loc) m₁ :=
  fold_of_accumulates evaluated integers (accumulates_divide room nonzero n)

/-- If there is no room for the width, the first divisor is one too many. -/
theorem fold_divide_of_fault {reason : Fault}
    (asked : c.settings.arithmeticWidth = .error reason) (some : ns = d :: after) :
    (d = 0 → fold ev .divide f args c m = raise .divisionByZero args.loc c m₁) ∧
    (d ≠ 0 → fold ev .divide f args c m = .fault reason m₁) := by
  constructor
  · rintro rfl
    have split : ns = [] ++ 0 :: after := some
    have room : ([] : List Int) ≠ [] → c.settings.arithmeticWidth = .ok 0 :=
      fun several => absurd rfl several
    exact fold_divide_of_zero evaluated integers split List.not_mem_nil room
  · intro nonzero
    subst some
    exact fold_of_fault evaluated integers (fun _ => nonzero) (if_neg nonzero) asked

end Fold

/-- A divisor in front of which no divisor is zero takes the fold one step further. -/
theorem quotientStep_of_prefix (pos : 0 < bits) (inRange : Width.InRange bits n)
    (room : ns ≠ [] → c.settings.arithmeticWidth = .ok bits) (begins : before ++ [d] <+: ns)
    (nonzero : 0 ∉ before ++ [d]) :
    ∃ a q, Accumulates c .divide n before a ∧ Accumulates c .divide n (before ++ [d]) q ∧
      Width.InRange bits a ∧ Width.InRange bits q ∧ Width.QuotientStep bits a d q := by
  have asked := room (begins.ne_nil (by simp))
  have has (operands : List Int) :
      Width.InRange bits (operands.foldl (Width.wrapped bits truncatingQuotient) n) :=
    Width.inRange_foldl pos inRange operands
  have earlier : 0 ∉ before := fun zero => nonzero (List.mem_append_left [d] zero)
  have divisor : d ≠ 0 := fun zero => nonzero (by simp [zero])
  refine ⟨_, _, accumulates_divide (fun _ => asked) earlier n,
    accumulates_divide (fun _ => asked) nonzero n, has before, has (before ++ [d]), ?_⟩
  rw [List.foldl_append]
  exact Width.quotientStep_wrapped pos (has before) divisor

/-- If no step overflows, the whole division is rounded toward zero once. -/
theorem isTruncated_of_never (inRange : Width.InRange bits n)
    (room : ns ≠ [] → c.settings.arithmeticWidth = .ok bits) (nonzero : 0 ∉ ns)
    (never : ∀ before d a, before ++ [d] <+: ns → Accumulates c .divide n before a →
      ¬ Width.Overflows bits a d) :
    IsTruncated n ns.prod (ns.foldl (Width.wrapped bits truncatingQuotient) n) := by
  have product : ns.prod ≠ 0 := by
    rwa [Ne, List.prod_eq_zero_iff]
  rw [Width.exact_of_never inRange nonzero]
  · exact isTruncated_tdiv n product
  · intro before d begins
    have asked := room (begins.ne_nil (by simp))
    have earlier : 0 ∉ before := fun zero =>
      nonzero (begins.subset (List.mem_append_left [d] zero))
    exact never before d _ begins (accumulates_divide (fun _ => asked) earlier n)

/-- Division is exact and rounded toward zero, except that it may overflow in one way.

* It reports a division by zero if and only if some divisor is zero.
* Otherwise it has a result. If at no step the least integer is divided by minus one, that is the
  quotient of the first integer by the product of all divisors, rounded toward zero.
* Each step, as far as there is no zero, gives the least integer again where it divides the least
  integer by minus one. Any other step gives the quotient rounded toward zero, without wrapping it.
* If there is no room for so large a width, the first divisor is refused or is one too many.
* Two integers have at most one quotient rounded toward zero. -/
theorem division_is_truncated (width : c.settings.width = .ok bits)
    (evaluated : evalArguments ev f args c m = .ok vs m₁) (integers : AreIntegers vs (n :: ns))
    (inRange : Width.InRange bits n) :
    ((ns ≠ [] → c.settings.arithmeticWidth = .ok bits) →
      ((∃ e m₂, fold ev .divide f args c m = .error e m₂ ∧ e.kind = .divisionByZero) ↔ 0 ∈ ns) ∧
      (0 ∈ ns → fold ev .divide f args c m = raise .divisionByZero args.loc c m₁) ∧
      (0 ∉ ns → ∃ q, fold ev .divide f args c m = .ok (.integer q args.loc) m₁ ∧
        Accumulates c .divide n ns q ∧ Width.InRange bits q ∧
        ((∀ before d a, before ++ [d] <+: ns → Accumulates c .divide n before a →
            ¬ Width.Overflows bits a d) →
          IsTruncated n ns.prod q)) ∧
      ∀ before d, before ++ [d] <+: ns → 0 ∉ before ++ [d] → ∃ a q,
        Accumulates c .divide n before a ∧ Accumulates c .divide n (before ++ [d]) q ∧
        Width.InRange bits a ∧ Width.InRange bits q ∧ Width.QuotientStep bits a d q) ∧
    (c.settings.arithmeticWidth = .ok bits ∨
      Settings.memoryBound < bits ∧ ∃ reason, (reason = .outOfMemory ∨ reason = .widthTooLarge) ∧
        ∀ d after, ns = d :: after →
          (d = 0 → fold ev .divide f args c m = raise .divisionByZero args.loc c m₁) ∧
          (d ≠ 0 → fold ev .divide f args c m = .fault reason m₁)) ∧
    ∀ a d q q', IsTruncated a d q → IsTruncated a d q' → q = q' := by
  have pos : 0 < bits := Nat.lt_of_lt_of_le (by decide) (Settings.two_le_of_width width)
  refine ⟨fun room => ⟨⟨?_, fun zero => ?_⟩, ?_, fun nonzero => ?_,
      fun before d begins nonzero => ?_⟩, ?_, fun a d q q' h h' => h.eq h'⟩
  · rintro ⟨e, m₂, refused, -⟩
    by_contra nonzero
    rw [fold_divide evaluated integers room nonzero] at refused
    cases refused
  · exact ⟨_, _, fold_divide_of_mem_zero evaluated integers room zero, rfl⟩
  · exact fold_divide_of_mem_zero evaluated integers room
  · exact ⟨_, fold_divide evaluated integers room nonzero, accumulates_divide room nonzero n,
      Width.inRange_foldl pos inRange ns, isTruncated_of_never inRange room nonzero⟩
  · exact quotientStep_of_prefix pos inRange room begins nonzero
  · rcases Settings.arithmeticWidth_cases width with asked | ⟨large, reason, which, asked⟩
    · exact .inl asked
    · exact .inr ⟨large, reason, which, fun d after some =>
        fold_divide_of_fault evaluated integers asked some⟩

/-- In eight bits -128 divided by 3 and -5 is the quotient by -15. Divided by -1 it is -128 again,
and the zero after that is refused. -/
theorem eightBits_division :
    (∃ q, fold (evaluate 1) .divide 0 (integerArguments [-128, 3, -5]) narrow .initial =
        .ok (.integer q .unknown) .initial ∧ IsTruncated (-128) (-15) q) ∧
    Accumulates narrow .divide (-128) [-1] (-128) ∧
    ∃ e m₂, fold (evaluate 1) .divide 0 (integerArguments [-128, -1, 0]) narrow .initial =
      .error e m₂ ∧ e.kind = .divisionByZero := by
  have width : narrow.settings.width = .ok 8 := rfl
  refine ⟨?_, ?_⟩
  · obtain ⟨divided, -, -⟩ := division_is_truncated width
      (evalArguments_integerArguments 0 [-128, 3, -5] narrow .initial)
      (areIntegers_integerValues _) (by decide)
    obtain ⟨-, -, quotient, -⟩ := divided fun _ => rfl
    obtain ⟨q, result, -, -, exact⟩ := quotient (by decide)
    refine ⟨q, result, exact fun before d a begins _ overflows => ?_⟩
    have others : ∀ k ∈ ([3, -5] : List Int), k ≠ -1 := by decide
    exact others d (begins.subset (List.mem_append_right before List.mem_cons_self)) overflows.2
  · obtain ⟨divided, -, -⟩ := division_is_truncated width
      (evalArguments_integerArguments 0 [-128, -1, 0] narrow .initial)
      (areIntegers_integerValues _) (by decide)
    obtain ⟨refused, -, -, steps⟩ := divided fun _ => rfl
    obtain ⟨a, q, start, next, -, -, step⟩ := steps [] (-1) ⟨[0], rfl⟩ (by decide)
    have first : a = -128 := start.eq fun _ _ _ => rfl
    subst first
    have last : q = -128 := step.again ⟨rfl, rfl⟩
    subst last
    exact ⟨next, refused.mpr (by decide)⟩

end Eval

end MiniLisp
