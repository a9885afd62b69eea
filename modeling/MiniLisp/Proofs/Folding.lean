import Mathlib.Algebra.BigOperators.Group.List.Basic
import MiniLisp.Proofs.FirstError
import MiniLisp.Proofs.Residues

/-!
# Folds of integers

A fold evaluates all its arguments before it joins the first two of them, so a value that is no
integer is reported however far the joining would have got. After that it wraps each intermediate
result. For sums, differences and products this comes to the same as wrapping once, at the end.

* `Eval.AreIntegers`: values that a fold accepts;
* `Eval.integers_of_other`: the first value that is none;
* `Eval.Accumulates`: what a fold has come to after some of its operands;
* `Eval.accumulates_foldl`, `Width.foldl_wrap`: wrapping at each step, and once;
* `Settings.arithmeticWidth_cases`: the width may be too large for the memory;
* `Eval.arithmetic_is_modular`: the result.
-/

namespace MiniLisp

namespace Width

variable {bits : Nat} {op : Int → Int → Int}

/-- An operation whose result is brought to the width. -/
def wrapped (bits : Nat) (op : Int → Int → Int) (a n : Int) : Int := wrap bits (op a n)

theorem inRange_foldl (pos : 0 < bits) {x : Int} (has : InRange bits x) (ns : List Int) :
    InRange bits (ns.foldl (wrapped bits op) x) := by
  induction ns generalizing x with
  | nil => exact has
  | cons n ns ih => exact ih (inRange_wrap pos (op x n))

/-- A fold that wraps at each step comes to the wrapped result of the fold that never does, if it
makes no difference to a step whether what it starts from is wrapped. -/
theorem foldl_wrap (unaffected : ∀ a n, wrap bits (op (wrap bits a) n) = wrap bits (op a n))
    (x : Int) (ns : List Int) :
    ns.foldl (wrapped bits op) (wrap bits x) = wrap bits (ns.foldl op x) := by
  induction ns generalizing x with
  | nil => rfl
  | cons n ns ih =>
    rw [List.foldl_cons, List.foldl_cons, wrapped, unaffected]
    exact ih (op x n)

end Width

/-- The width that is set is the width of arithmetic, unless it is so large that there is no room
for a power of two with as many bits. -/
theorem Settings.arithmeticWidth_cases {s : Settings} {bits : Nat} (width : s.width = .ok bits) :
    s.arithmeticWidth = .ok bits ∨ memoryBound < bits ∧ ∃ reason : Fault,
      (reason = .outOfMemory ∨ reason = .widthTooLarge) ∧ s.arithmeticWidth = .error reason := by
  simp only [arithmeticWidth, widthWithRoom, width, bind, Except.bind, id]
  by_cases address : addressBound < bits
  · have memory : memoryBound < bits := Nat.lt_trans (by decide) address
    rw [if_pos address]
    exact .inr ⟨memory, _, .inr rfl, rfl⟩
  · rw [if_neg address]
    by_cases memory : memoryBound < bits
    · rw [if_pos memory]
      exact .inr ⟨memory, _, .inl rfl, rfl⟩
    · rw [if_neg memory]
      exact .inl rfl

namespace Eval

variable {c : Context} {m m₁ : Machine} {ev : Evaluator} {f : FrameId} {args v : Value}
  {vs before after : List Value} {n : Int} {ns is : List Int} {operation : Fold} {bits : Nat}

/-! ## Arguments that are integers -/

/-- The values are the given integers, wherever they are located. -/
def AreIntegers (vs : List Value) (ns : List Int) : Prop :=
  List.Forall₂ (fun v n => ∃ loc, v = .integer n loc) vs ns

/-- All values are integers, or there is a first one that is not. -/
theorem areIntegers_or_other (vs : List Value) :
    (∃ ns, AreIntegers vs ns) ∨ ∃ before is v after, vs = before ++ v :: after ∧
      AreIntegers before is ∧ v.kind ≠ .integer := by
  induction vs with
  | nil => exact .inl ⟨[], .nil⟩
  | cons v vs ih =>
    by_cases isInteger : v.kind = .integer
    · obtain ⟨n, loc, rfl⟩ : ∃ n loc, v = .integer n loc := by
        cases v with
        | integer n loc => exact ⟨n, loc, rfl⟩
        | closure sort => cases sort <;> cases isInteger
        | _ => cases isInteger
      rcases ih with ⟨ns, integers⟩ | ⟨before, is, other, after, rfl, integers, differs⟩
      · exact .inl ⟨n :: ns, .cons ⟨loc, rfl⟩ integers⟩
      · exact .inr ⟨.integer n loc :: before, n :: is, other, after, rfl,
          .cons ⟨loc, rfl⟩ integers, differs⟩
    · exact .inr ⟨[], [], v, vs, rfl, .nil, isInteger⟩

theorem integers_of_areIntegers (h : AreIntegers vs ns) (operator : String) (c : Context)
    (m : Machine) : integers operator vs c m = .ok ns m := by
  induction h with
  | nil => rfl
  | cons isInteger _ ih =>
    obtain ⟨loc, rfl⟩ := isInteger
    exact bind_of_ok ih

/-- The first value that is no integer is reported, whatever comes after it. -/
theorem integers_of_other (h : AreIntegers before is) (differs : v.kind ≠ .integer)
    (after : List Value) (operator : String) (c : Context) (m : Machine) :
    integers operator (before ++ v :: after) c m =
      raise (.notNumeric operator v.kind) v.loc c m := by
  induction h with
  | nil =>
    cases v with
    | integer => exact absurd rfl differs
    | _ => rfl
  | cons isInteger _ ih =>
    obtain ⟨loc, rfl⟩ := isInteger
    exact error_of_bind ih

/-! ## Joining -/

/-- Starting from `n`, a fold has come to `a` after the given operands, whatever follows them. -/
def Accumulates (c : Context) (operation : Fold) (n : Int) (operands : List Int) (a : Int) : Prop :=
  ∀ loc after m,
    joinAll operation loc n (operands ++ after) c m = joinAll operation loc a after c m

theorem Accumulates.joinAll {a : Int} (h : Accumulates c operation n ns a) (loc : Location)
    (m : Machine) : Eval.joinAll operation loc n ns c m = .ok a m := by
  have whole := h loc [] m
  rwa [List.append_nil] at whole

theorem Accumulates.eq {a a' : Int} (h : Accumulates c operation n ns a)
    (h' : Accumulates c operation n ns a') : a = a' := by
  have same := (h.joinAll .unknown .initial).symm.trans (h'.joinAll .unknown .initial)
  cases same
  rfl

theorem join_of_ok {a b joined : Int} (joins : operation.join c.operations a b = .ok joined)
    (m : Machine) : join operation a b c m = .ok joined m := by
  unfold join
  rw [joins]
  rfl

/-- A fold wraps at each step, if it accepts all operands and there is room for the width. -/
theorem accumulates_foldl {op : Int → Int → Int}
    (room : ns ≠ [] → c.settings.arithmeticWidth = .ok bits)
    (accepted : ∀ n ∈ ns, operation.refusesZero = true → n ≠ 0)
    (joins : ∀ a, ∀ n ∈ ns, operation.join c.operations a n = .ok (op a n)) (n : Int) :
    Accumulates c operation n ns (ns.foldl (Width.wrapped bits op) n) := by
  intro loc after m
  induction ns generalizing n with
  | nil => rfl
  | cons k ns ih =>
    have asked := room (List.cons_ne_nil k ns)
    have takes : ¬ (operation.refusesZero && k == 0) = true := by
      simpa using accepted k List.mem_cons_self
    have wide : width c m = .ok bits m := by
      unfold width
      rw [asked]
    rw [List.cons_append]
    conv => lhs; unfold joinAll
    rw [if_neg takes]
    refine (bind_of_ok (join_of_ok (joins n k List.mem_cons_self) m)).trans ?_
    refine (bind_of_ok wide).trans ?_
    exact ih (fun _ => asked) (fun i mem => accepted i (List.mem_cons_of_mem k mem))
      (fun a i mem => joins a i (List.mem_cons_of_mem k mem)) _

/-! ## Folds -/

section Fold

variable (evaluated : evalArguments ev f args c m = .ok vs m₁)
include evaluated

/-- A fold of integers ends as the joining of all of them does. -/
theorem fold_apply (h : AreIntegers vs (n :: ns)) (operation : Fold) :
    fold ev operation f args c m =
      (joinAll operation args.loc n ns >>= fun i => pure (.integer i args.loc)) c m₁ := by
  have integers : evalIntegers ev operation.name f args c m = .ok (n :: ns) m₁ :=
    (bind_of_ok evaluated).trans (integers_of_areIntegers h operation.name c m₁)
  exact bind_of_ok integers

/-- A fold of integers has the result that it has come to after all of them. -/
theorem fold_of_accumulates (h : AreIntegers vs (n :: ns)) {i : Int}
    (accumulates : Accumulates c operation n ns i) :
    fold ev operation f args c m = .ok (.integer i args.loc) m₁ :=
  (fold_apply evaluated h operation).trans (bind_of_ok (accumulates.joinAll args.loc m₁))

theorem fold_of_none (none : vs = []) (operation : Fold) :
    fold ev operation f args c m = .ok (.integer 0 args.loc) m₁ := by
  subst none
  have integers : evalIntegers ev operation.name f args c m = .ok [] m₁ := bind_of_ok evaluated
  exact bind_of_ok integers

/-- Whatever the fold, the first value that is no integer is what it reports. -/
theorem fold_of_other (split : vs = before ++ v :: after) (h : AreIntegers before is)
    (differs : v.kind ≠ .integer) (operation : Fold) :
    fold ev operation f args c m = raise (.notNumeric operation.name v.kind) v.loc c m₁ := by
  subst split
  have refused := (bind_of_ok evaluated).trans
    (integers_of_other h differs after operation.name c m₁)
  exact error_of_bind refused

/-- Where there is no room for the width, two operands are too many. -/
theorem fold_of_fault {n' : Int} {reason : Fault} (h : AreIntegers vs (n :: n' :: ns))
    (accepted : operation.refusesZero = true → n' ≠ 0) {joined : Int}
    (joins : operation.join c.operations n n' = .ok joined)
    (asked : c.settings.arithmeticWidth = .error reason) :
    fold ev operation f args c m = .fault reason m₁ := by
  have abandoned : width c m₁ = .fault reason m₁ := by
    unfold width
    rw [asked]
  have takes : ¬ (operation.refusesZero && n' == 0) = true := by
    simpa using accepted
  have joining : joinAll operation args.loc n (n' :: ns) c m₁ = .fault reason m₁ := by
    unfold joinAll
    rw [if_neg takes]
    exact (bind_of_ok (join_of_ok joins m₁)).trans (fault_of_bind abandoned)
  exact (fold_apply evaluated h operation).trans (fault_of_bind joining)

end Fold

/-! ## Sums, differences and products -/

theorem foldl_add (x : Int) (ns : List Int) : ns.foldl (· + ·) x = x + ns.sum := by
  induction ns generalizing x with
  | nil => simp
  | cons n ns ih => rw [List.foldl_cons, ih, List.sum_cons, Int.add_assoc]

theorem foldl_sub (x : Int) (ns : List Int) : ns.foldl (· - ·) x = x - ns.sum := by
  induction ns generalizing x with
  | nil => simp
  | cons n ns ih => rw [List.foldl_cons, ih, List.sum_cons, Int.sub_sub]

theorem foldl_mul (x : Int) (ns : List Int) : ns.foldl (· * ·) x = x * ns.prod := by
  induction ns generalizing x with
  | nil => simp
  | cons n ns ih => rw [List.foldl_cons, ih, List.prod_cons, Int.mul_assoc]

section Wrapped

variable (evaluated : evalArguments ev f args c m = .ok vs m₁) (h : AreIntegers vs (n :: ns))
  (inRange : Width.InRange bits n) (room : ns ≠ [] → c.settings.arithmeticWidth = .ok bits)
  (pos : 0 < bits)
include evaluated h inRange room

/-- If wrapping early makes no difference, a fold of integers is the wrapped result of joining them
without a bound. -/
theorem fold_eq_wrap {op : Int → Int → Int}
    (unaffected : ∀ a n, Width.wrap bits (op (Width.wrap bits a) n) = Width.wrap bits (op a n))
    (accepts : operation.refusesZero = false)
    (joins : ∀ a n, operation.join c.operations a n = .ok (op a n)) :
    fold ev operation f args c m =
      .ok (.integer (Width.wrap bits (ns.foldl op n)) args.loc) m₁ := by
  have accepted : ∀ k ∈ ns, operation.refusesZero = true → k ≠ 0 := by simp [accepts]
  have accumulates := accumulates_foldl room accepted (fun a k _ => joins a k) n
  have wrapped := Width.foldl_wrap unaffected n ns
  rw [Width.wrap_of_inRange inRange] at wrapped
  rw [wrapped] at accumulates
  exact fold_of_accumulates evaluated h accumulates

include pos

theorem fold_add : fold ev .add f args c m =
    .ok (.integer (Width.wrap bits (n :: ns).sum) args.loc) m₁ := by
  rw [List.sum_cons, ← foldl_add]
  exact fold_eq_wrap evaluated h inRange room (Width.wrap_wrap_add pos) rfl fun _ _ => rfl

theorem fold_subtract : fold ev .subtract f args c m =
    .ok (.integer (Width.wrap bits (n - ns.sum)) args.loc) m₁ := by
  rw [← foldl_sub]
  exact fold_eq_wrap evaluated h inRange room (Width.wrap_wrap_sub pos) rfl fun _ _ => rfl

theorem fold_multiply : fold ev .multiply f args c m =
    .ok (.integer (Width.wrap bits (n :: ns).prod) args.loc) m₁ := by
  rw [List.prod_cons, ← foldl_mul]
  exact fold_eq_wrap evaluated h inRange room (Width.wrap_wrap_mul pos) rfl fun _ _ => rfl

end Wrapped

/-- Sums and products are the same in any order. -/
theorem fold_of_perm (evaluated : evalArguments ev f args c m = .ok vs m₁)
    (integers : AreIntegers vs is) (perm : is.Perm (n :: ns))
    (inRange : ∀ i ∈ n :: ns, Width.InRange bits i)
    (room : ns ≠ [] → c.settings.arithmeticWidth = .ok bits) (pos : 0 < bits) :
    fold ev .add f args c m =
      .ok (.integer (Width.wrap bits (n :: ns).sum) args.loc) m₁ ∧
    fold ev .multiply f args c m =
      .ok (.integer (Width.wrap bits (n :: ns).prod) args.loc) m₁ := by
  cases is with
  | nil => cases perm.nil_eq
  | cons i is =>
    have first := inRange i (perm.mem_iff.mp List.mem_cons_self)
    have room' : is ≠ [] → c.settings.arithmeticWidth = .ok bits := by
      intro several
      refine room fun one => several ?_
      have length := perm.length_eq
      rw [one] at length
      exact List.length_eq_zero_iff.mp (Nat.succ.inj length)
    rw [← perm.sum_eq, ← perm.prod_eq]
    exact ⟨fold_add evaluated integers first room' pos,
      fold_multiply evaluated integers first room' pos⟩

/-- Arithmetic that wraps at each step is exact arithmetic modulo two to the power of the width.

* Every integer is represented by one integer of the range.
* Integers in the range have a sum, a difference and a product that represent the exact ones. The
  difference is that of the first integer and the sum of the others, be that wrapped or not.
* In any other order, and wherever they come from, they have the same sum and the same product.
* Without arguments the result is zero.
* If there is no room for so large a width, two or more integers are not joined.
* If some value is no integer, any fold reports the first such value, whatever the others are. -/
theorem arithmetic_is_modular (width : c.settings.width = .ok bits)
    (evaluated : evalArguments ev f args c m = .ok vs m₁) :
    (∀ x, ∃! i, Width.Represents bits x i) ∧
    (∀ n ns, AreIntegers vs (n :: ns) → (∀ i ∈ n :: ns, Width.InRange bits i) →
      (ns ≠ [] → c.settings.arithmeticWidth = .ok bits) →
      ∃ sum difference product,
        (fold ev .add f args c m = .ok (.integer sum args.loc) m₁ ∧
          Width.Represents bits (n :: ns).sum sum) ∧
        (fold ev .subtract f args c m = .ok (.integer difference args.loc) m₁ ∧
          Width.Represents bits (n - ns.sum) difference ∧
          ∀ others, Width.Represents bits ns.sum others →
            Width.Represents bits (n - others) difference) ∧
        (fold ev .multiply f args c m = .ok (.integer product args.loc) m₁ ∧
          Width.Represents bits (n :: ns).prod product) ∧
        ∀ ev' f' args' m' vs' m₁' ns', evalArguments ev' f' args' c m' = .ok vs' m₁' →
          AreIntegers vs' ns' → ns'.Perm (n :: ns) →
          fold ev' .add f' args' c m' = .ok (.integer sum args'.loc) m₁' ∧
          fold ev' .multiply f' args' c m' = .ok (.integer product args'.loc) m₁') ∧
    (vs = [] → ∀ operation, fold ev operation f args c m = .ok (.integer 0 args.loc) m₁) ∧
    (c.settings.arithmeticWidth = .ok bits ∨
      Settings.memoryBound < bits ∧ ∃ reason, (reason = .outOfMemory ∨ reason = .widthTooLarge) ∧
        ∀ n n' ns, AreIntegers vs (n :: n' :: ns) →
          ∀ operation ∈ [Fold.add, .subtract, .multiply],
            fold ev operation f args c m = .fault reason m₁) ∧
    ((∃ ns, AreIntegers vs ns) ∨ ∃ before is v after, vs = before ++ v :: after ∧
      AreIntegers before is ∧ v.kind ≠ .integer) ∧
    ∀ before is v after, vs = before ++ v :: after → AreIntegers before is → v.kind ≠ .integer →
      ∀ operation, fold ev operation f args c m =
        raise (.notNumeric operation.name v.kind) v.loc c m₁ := by
  have pos : 0 < bits := Nat.lt_of_lt_of_le (by decide) (Settings.two_le_of_width width)
  have represents := Width.represents_wrap pos
  refine ⟨fun x => ⟨_, represents x, fun i h => h.eq pos (represents x)⟩,
    fun n ns integers inRange room => ?_, fold_of_none evaluated, ?_, areIntegers_or_other vs,
    fun before is v after split h differs => fold_of_other evaluated split h differs⟩
  · have first := inRange n List.mem_cons_self
    refine ⟨_, _, _, ⟨fold_add evaluated integers first room pos, represents _⟩,
      ⟨fold_subtract evaluated integers first room pos, represents _, fun others wrapped => ?_⟩,
      ⟨fold_multiply evaluated integers first room pos, represents _⟩, ?_⟩
    · rw [← (Width.wrap_eq_iff pos).mpr wrapped, ← Width.wrap_eq_iff pos, Width.wrap_sub_wrap pos]
    · intro ev' f' args' m' vs' m₁' ns' evaluated' integers' perm
      exact fold_of_perm evaluated' integers' perm inRange room pos
  · rcases Settings.arithmeticWidth_cases width with asked | ⟨large, reason, which, asked⟩
    · exact .inl asked
    · refine .inr ⟨large, reason, which, fun n n' ns integers operation mem => ?_⟩
      have accepts : operation.refusesZero = false ∧
          ∃ joined, operation.join c.operations n n' = .ok joined := by
        simp only [List.mem_cons, List.not_mem_nil, or_false] at mem
        rcases mem with rfl | rfl | rfl
        · exact ⟨rfl, _, rfl⟩
        · exact ⟨rfl, _, rfl⟩
        · exact ⟨rfl, _, rfl⟩
      obtain ⟨accepts, joined, joins⟩ := accepts
      exact fold_of_fault evaluated integers (by simp [accepts]) joins asked

/-- The given integers as values, without a location. -/
def integerValues (ns : List Int) : List Value := ns.map fun n => .integer n .unknown

/-- The arguments of the given integers. -/
def integerArguments (ns : List Int) : Value := .ofItems (.nil .unknown) (integerValues ns)

theorem areIntegers_integerValues (ns : List Int) : AreIntegers (integerValues ns) ns := by
  induction ns with
  | nil => exact .nil
  | cons n ns ih => exact .cons ⟨.unknown, rfl⟩ ih

theorem evalArguments_integerArguments (f : FrameId) (ns : List Int) (c : Context) (m : Machine) :
    evalArguments (evaluate 1) f (integerArguments ns) c m = .ok (integerValues ns) m := by
  induction ns with
  | nil => rfl
  | cons n ns ih => exact bind_of_ok ih

/-- In eight bits the sum of 100, 100 and -128 is 72 in any order, though 100 and 100 overflow. A
value that is no integer is reported even if a zero follows. -/
theorem eightBits_modular :
    (∃ sum, fold (evaluate 1) .add 0 (integerArguments [100, 100, -128]) narrow .initial =
        .ok (.integer sum .unknown) .initial ∧
      fold (evaluate 1) .add 0 (integerArguments [-128, 100, 100]) narrow .initial =
        .ok (.integer sum .unknown) .initial ∧
      Width.Represents 8 72 sum) ∧
    ∃ e m₁, fold (evaluate 1) .multiply 0
        (.cell (.integer 2 .unknown) (.cell (.truth ⟨"text", 1, 6⟩) (integerArguments [0]) .unknown)
          .unknown) narrow .initial = .error e m₁ ∧
      e.kind = .typeError ∧ e.loc = ⟨"text", 1, 6⟩ := by
  have width : narrow.settings.width = .ok 8 := rfl
  constructor
  · have evaluated := evalArguments_integerArguments 0 [100, 100, -128] narrow .initial
    obtain ⟨-, folded, -⟩ := arithmetic_is_modular width evaluated
    obtain ⟨sum, _, _, ⟨added, represents⟩, -, -, anyOrder⟩ :=
      folded 100 [100, -128] (areIntegers_integerValues _) (by decide) fun _ => rfl
    have again := anyOrder _ _ _ _ _ _ _
      (evalArguments_integerArguments 0 [-128, 100, 100] narrow .initial)
      (areIntegers_integerValues _) (by decide)
    exact ⟨sum, added, again.1, represents⟩
  · have evaluated : evalArguments (evaluate 1) 0
        (.cell (.integer 2 .unknown) (.cell (.truth ⟨"text", 1, 6⟩) (integerArguments [0]) .unknown)
          .unknown) narrow .initial =
        .ok (integerValues [2] ++ .truth ⟨"text", 1, 6⟩ :: integerValues [0]) .initial := rfl
    obtain ⟨-, -, -, -, -, refused⟩ := arithmetic_is_modular width evaluated
    exact ⟨_, _, refused _ [2] _ _ rfl (areIntegers_integerValues [2]) (by decide) .multiply, rfl,
      rfl⟩

end Eval

end MiniLisp
