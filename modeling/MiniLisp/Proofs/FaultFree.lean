import MiniLisp.Proofs.Histories

/-!
# Evaluation ends in values

A fault abandons an evaluation for a reason outside the language: an invalid width, an integer too
long to be written, a division by zero that nobody refused, a call of something that is no cell.
With a width that is set and small enough, none of them can happen, whatever shape the expressions
have: an evaluation that ends does so with a value, be it an error value.

* `Policy.ofWidth`: the integers have the width and the native operators are standard; any other
  value may occur anywhere;
* `Policy.sound_ofWidth`: the operators keep to that and cause no fault;
* `Width.le_of_writable`, `Width.writable_of_le`: how small a width is small enough;
* `Eval.evaluate_ends_in_value`: the result.
-/

namespace MiniLisp

namespace Width

variable {bits : Nat}

/-- A wrapped integer has the width. -/
theorem fits_wrap (pos : 0 < bits) (i : Int) : fits bits (wrap bits i) = true := by
  rw [fits_iff, wrap_eq_bmod pos]
  have double : modulus bits = modulus (bits - 1) * 2 := by
    rw [← modulus_succ, Nat.sub_add_cancel pos]
  have some : 0 < modulus (bits - 1) := Nat.pow_pos (by decide)
  have least := Int.le_bmod (x := i) (m := modulus bits) (by omega)
  have greatest := Int.bmod_lt (x := i) (m := modulus bits) (by omega)
  rw [double] at least greatest ⊢
  unfold low high
  omega

theorem fits_zero (bits : Nat) : fits bits 0 = true := by
  have some : 0 < modulus (bits - 1) := Nat.pow_pos (by decide)
  rw [fits_iff]
  unfold low high
  omega

/-- If every integer of the width can be written, the width is not far above four bits for each
digit that may be written. -/
theorem le_of_writable (writable : ∀ i, fits bits i = true → Text.tooLongToWrite i = false) :
    bits ≤ writableWidth + 1 := by
  have some : 0 < modulus (bits - 1) := Nat.pow_pos (by decide)
  have has : fits bits (low bits) = true := by
    rw [fits_iff]
    unfold low high
    omega
  have short : ¬ Text.writingBound ≤ (low bits).natAbs := of_decide_eq_false (writable _ has)
  have size : (low bits).natAbs = 2 ^ (bits - 1) := by
    unfold low
    rw [Int.natAbs_neg, Int.natAbs_natCast]
    rfl
  have worth (digits : Nat) : Nat.pow 10 digits ≤ 2 ^ (4 * digits) := by
    rw [Nat.pow_mul]
    exact Nat.pow_le_pow_left (by decide) digits
  have bound : Text.writingBound ≤ 2 ^ writableWidth := by
    unfold Text.writingBound writableWidth
    exact worth Text.digitLimit
  rw [size, Nat.not_le] at short
  have below : bits - 1 < writableWidth :=
    (Nat.pow_lt_pow_iff_right (by decide)).mp (Nat.lt_of_lt_of_le short bound)
  omega

/-- Every integer can be written if the width is at most three bits for each digit that may be
written. -/
theorem writable_of_le (pos : 0 < bits) (small : bits ≤ 3 * Text.digitLimit) {i : Int}
    (has : fits bits i = true) : Text.tooLongToWrite i = false := by
  have worth (digits : Nat) : modulus (3 * digits) ≤ Nat.pow 10 digits := by
    show 2 ^ (3 * digits) ≤ 10 ^ digits
    rw [Nat.pow_mul]
    exact Nat.pow_le_pow_left (by decide) digits
  have double : modulus bits = modulus (bits - 1) * 2 := by
    rw [← modulus_succ, Nat.sub_add_cancel pos]
  have some : 0 < modulus (bits - 1) := Nat.pow_pos (by decide)
  obtain ⟨least, greatest⟩ := fits_iff.mp has
  have below : i.natAbs < modulus bits := by
    unfold low at least
    unfold high at greatest
    omega
  have bound : modulus bits ≤ Text.writingBound := by
    unfold Text.writingBound
    exact Nat.le_trans (modulus_mono small) (worth Text.digitLimit)
  exact decide_eq_false (Nat.not_le.mpr (Nat.lt_of_lt_of_le below bound))

end Width

/-- There is one width, wherever there is room for it. -/
theorem Settings.widthWithRoom_unique {s : Settings} {bits bits' : Nat} {exponent : Nat → Nat}
    (width : s.width = .ok bits) (asked : s.widthWithRoom exponent = .ok bits') : bits' = bits := by
  have same := (width_of_widthWithRoom asked).symm.trans width
  cases same
  rfl

/-- Whatever arithmetic wraps has the width. -/
theorem Width.fits_wrap_of_width {s : Settings} {bits bits' : Nat} (width : s.width = .ok bits)
    (asked : s.arithmeticWidth = .ok bits') (i : Int) : fits bits (wrap bits' i) = true := by
  rw [Settings.widthWithRoom_unique width asked]
  exact fits_wrap (Nat.lt_of_lt_of_le (by decide) (Settings.two_le_of_width width)) i

/-- There is room for a power of two with as many bits as a writable width has. -/
theorem Settings.arithmeticWidth_of_width {s : Settings} {bits : Nat} (width : s.width = .ok bits)
    (small : bits ≤ Width.writableWidth + 1) : s.arithmeticWidth = .ok bits := by
  have room : bits ≤ memoryBound := Nat.le_trans small (by decide)
  have address : bits ≤ addressBound := Nat.le_trans small (by decide)
  simp only [arithmeticWidth, widthWithRoom, width, bind, Except.bind, id]
  rw [if_neg (Nat.not_lt.mpr address), if_neg (Nat.not_lt.mpr room)]
  rfl

/-- A standard fold joins any two integers, unless it would have refused the second one. -/
theorem Fold.join_of_standard {operation : Fold}
    (standard : Operator.fold operation ∈ Operator.standard)
    (operations : String → Int → Int → Int) {a b : Int}
    (accepted : operation.refusesZero = true → b ≠ 0) :
    ∃ i, operation.join operations a b = .ok i := by
  have four : operation = .add ∨ operation = .subtract ∨ operation = .multiply ∨
      operation = .divide := by
    simpa [Operator.standard] using standard
  rcases four with rfl | rfl | rfl | rfl
  · exact ⟨a + b, rfl⟩
  · exact ⟨a - b, rfl⟩
  · exact ⟨a * b, rfl⟩
  · have nonzero : b ≠ 0 := accepted rfl
    exact ⟨truncatingQuotient a b, if_neg nonzero⟩

namespace Policy

/-- Integers have the width and native operators are standard; any other value may occur, errors
among them. No fault may end an evaluation. -/
def ofWidth (bits : Nat) : Policy where
  value
    | .integer i _ => Width.fits bits i = true
    | .native op _ => op ∈ Operator.standard
    | _ => True
  integer i := Width.fits bits i = true
  place _ := True
  reported _ := True
  fault _ := False

/-- Where all integers of the width can be written, no value holds one that cannot. -/
theorem not_hasLongInteger {bits : Nat}
    (writable : ∀ i, Width.fits bits i = true → Text.tooLongToWrite i = false) {v : Value}
    (allowed : v.Every (ofWidth bits).value) : v.hasLongInteger = false := by
  induction v with
  | integer i loc => exact writable i allowed
  | cell first rest loc ihFirst ihRest =>
    unfold Value.hasLongInteger
    rw [ihFirst allowed.2.1, ihRest allowed.2.2]
    rfl
  | _ => rfl

theorem sound_ofWidth {c : Context} {bits : Nat} (width : c.settings.width = .ok bits)
    (writable : ∀ i, Width.fits bits i = true → Text.tooLongToWrite i = false) :
    (ofWidth bits).Sound c where
  place_of _ _ := trivial
  reported_of _ := trivial
  integer_of allowed := allowed
  nil _ := trivial
  truth _ := trivial
  symbol _ _ := trivial
  integer allowed _ := allowed
  cell _ _ _ := trivial
  closure _ _ _ _ _ _ := trivial
  zero := Width.fits_zero bits
  wrapped i asked := Width.fits_wrap_of_width width asked i
  fitting asked fits := by
    rwa [Settings.widthWithRoom_unique width asked] at fits
  widthless asked := by
    rw [Settings.arithmeticWidth_of_width width (Width.le_of_writable writable)] at asked
    cases asked
  unjoined standard accepted failed := by
    obtain ⟨i, joined⟩ := Fold.join_of_standard standard c.operations accepted
    rw [joined] at failed
    cases failed
  unwritten allowed long := by
    rw [not_hasLongInteger writable allowed] at long
    cases long

end Policy

namespace Eval

/-- Whatever the shape of the expression and of what is stored, an evaluation that ends does so with
a value or an error value and not with a fault, and leaves a store of which the same is true. -/
theorem evaluate_ends_in_value {c : Context} {bits : Nat} (width : c.settings.width = .ok bits)
    (writable : ∀ i, Width.fits bits i = true → Text.tooLongToWrite i = false) {m : Machine}
    (holds : (Policy.ofWidth bits).Holds m.store) {f : FrameId} (inside : f < m.store.nextFrame)
    {expr : Value} (good : (Policy.ofWidth bits).Good m.store.nextFrame expr) (fuel : Nat) :
    (∃ v m', evaluate fuel f expr c m = .ok v m' ∧ (Policy.ofWidth bits).Holds m'.store ∧
      (Policy.ofWidth bits).Good m'.store.nextFrame v) ∨
    (∃ e m', evaluate fuel f expr c m = .error e m' ∧ (Policy.ofWidth bits).Holds m'.store) ∨
    evaluate fuel f expr c m = .exhausted := by
  have sound := Policy.sound_ofWidth width writable
  have kept := sound.keeps_evaluate fuel inside good ⟨Nat.le_refl _, holds⟩ rfl
  cases ended : evaluate fuel f expr c m with
  | ok v m' =>
    rw [ended] at kept
    exact .inl ⟨v, m', rfl, kept.1.2, kept.2⟩
  | error e m' =>
    rw [ended] at kept
    exact .inr (.inl ⟨e, m', rfl, kept.1.2⟩)
  | fault reason m' =>
    rw [ended] at kept
    exact kept.2.elim
  | exhausted => exact .inr (.inr rfl)

/-! ## Root frames -/

theorem exists_bindOperators (f : FrameId) (ops : List Operator) (c : Context) (m : Machine) :
    ∃ m', bindOperators f ops c m = .ok () m' := by
  induction ops generalizing m with
  | nil => exact ⟨m, rfl⟩
  | cons op ops ih => exact ih _

/-- A root frame can always be made. -/
theorem exists_newRoot (c : Context) (m : Machine) : ∃ root m', newRoot c m = .ok root m' := by
  let opened : Machine := { m with store := m.store.newFrame none }
  obtain ⟨m', bound⟩ := exists_bindOperators m.store.nextFrame Operator.standard c opened
  have logged (source line : String) : ∃ m'', log source line c m' = .ok () m'' := by
    unfold log
    rw [bind_apply]
    show ∃ m'', (if c.verbose then _ else _ : Eval Unit) c m' = .ok () m''
    cases c.verbose with
    | false => exact ⟨m', rfl⟩
    | true => exact ⟨_, rfl⟩
  obtain ⟨m'', noted⟩ := logged operatorLog
    ("registered " ++ Text.decimal Operator.standard.length ++ " native operators")
  have made : newFrame none c m = .ok m.store.nextFrame opened := rfl
  have standard : bindStandard m.store.nextFrame c opened = .ok () m'' := by
    unfold bindStandard
    rw [bind_apply, bound]
    exact noted
  refine ⟨m.store.nextFrame, m'', ?_⟩
  unfold newRoot
  rw [bind_apply, made]
  dsimp only
  rw [bind_apply, standard]
  rfl

/-- The expression `(println (/ 7 0) (car . 5) . t)`: a division by zero, and two calls with
arguments that are no list. -/
def malformedCall : Value :=
  let word (name : String) : Value := .symbol name .unknown
  let seven : Value := .integer 7 .unknown
  let division := Value.ofItems (.nil .unknown) [word "/", seven, .integer 0 .unknown]
  .ofItems (.truth .unknown)
    [word "println", division, .cell (word "car") (.integer 5 .unknown) .unknown]

theorem malformedCall_ends_in_value :
    ∃ (root : FrameId) (m : Machine), newRoot (.ofSettings .unset) .initial = .ok root m ∧
      ((∃ v m', evaluate 9 root malformedCall (.ofSettings .unset) m = .ok v m' ∧
        (Policy.ofWidth 32).Holds m'.store ∧ (Policy.ofWidth 32).Good m'.store.nextFrame v) ∨
      (∃ e m', evaluate 9 root malformedCall (.ofSettings .unset) m = .error e m' ∧
        (Policy.ofWidth 32).Holds m'.store) ∨
      evaluate 9 root malformedCall (.ofSettings .unset) m = .exhausted) := by
  have writable (i : Int) (has : Width.fits 32 i = true) : Text.tooLongToWrite i = false :=
    Width.writable_of_le (by decide) (by decide) has
  have natives : ∀ op ∈ Operator.standard, ∀ identity,
      (Policy.ofWidth 32).value (.native op identity) := fun _ standard _ => standard
  obtain ⟨root, m, made⟩ := exists_newRoot (.ofSettings .unset) .initial
  have safe := Policy.safe_of_reached (.start made) natives fun _ mem => absurd mem List.not_mem_nil
  have good : (Policy.ofWidth 32).Good m.store.nextFrame malformedCall := by
    simp [malformedCall, Value.ofItems, Policy.Good, Value.Every, Value.Made, Policy.ofWidth,
      Width.fits_iff, Width.low, Width.high, Width.modulus]
  exact ⟨root, m, made, evaluate_ends_in_value rfl writable safe.2 safe.1 good 9⟩

end Eval

end MiniLisp
