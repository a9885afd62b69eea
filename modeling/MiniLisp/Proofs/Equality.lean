import MiniLisp.Proofs.Layout
import MiniLisp.Proofs.Quotation

/-!
# Structural equality

Two values are structurally equal if the same is left of them once all locations are erased.
Closures, native operators and errors are equal to themselves only, so what is left of them is a
label, which tells who they are. Their identities are such labels for the values of a run
(`distinguishes_of_reached`).

* `Outline`, `Value.outline`: what is left of a value;
* `Value.same_iff_outline`: structural equality compares outlines;
* `Value.Alike.digest_eq`, `Value.alike_of_same`: structurally equal values differ in locations at
  most, which neither their digests nor their printed forms depend on;
* `Value.same_is_congruence`: the result.
-/

namespace MiniLisp

/-- What is left of a value: its structure, and labels in the places where it has none. -/
inductive Outline (ι : Type)
  | nil
  | truth
  | symbol (name : String)
  | integer (i : Int)
  | cell (first rest : Outline ι)
  | leaf (label : ι)
deriving DecidableEq

namespace Value

/-- The value without its locations, and with labels in place of closures, native operators and
errors. -/
def outline {ι : Type} (label : Value → ι) : Value → Outline ι
  | nil _ => .nil
  | truth _ => .truth
  | symbol name _ => .symbol name
  | integer i _ => .integer i
  | cell first rest _ => .cell (first.outline label) (rest.outline label)
  | v => .leaf (label v)

/-- The closures, native operators and errors in a value, those inside a closure apart. -/
def leaves : Value → List Value
  | nil _ | truth _ | symbol .. | integer .. => []
  | cell first rest _ => first.leaves ++ rest.leaves
  | v => [v]

/-- The label tells the leaves of two values apart. -/
def Distinguishes {ι : Type} (label : Value → ι) (a b : Value) : Prop :=
  ∀ p ∈ a.leaves, ∀ q ∈ b.leaves, label p = label q → p = q

variable {ι : Type} {label : Value → ι} {a b c d : Value}

/-! ## Equality of outlines -/

theorem outline_eq_of_same (label : Value → ι) (equal : a.same b = true) :
    a.outline label = b.outline label := by
  induction a generalizing b with
  | cell first rest _ ihFirst ihRest =>
    cases b with
    | cell first' rest' _ =>
      obtain ⟨equalFirst, equalRest⟩ := (Bool.and_eq_true _ _).mp equal
      rw [outline, outline, ihFirst equalFirst, ihRest equalRest]
    | _ => cases equal
  | closure | native | error => rw [eq_of_beq equal]
  | nil | truth | symbol | integer => cases b <;> simp_all [same, outline]

/-- Only a leaf leaves a label, and the label is its own. -/
theorem leaf_of_outline {l : ι} (left : a.outline label = .leaf l) :
    label a = l ∧ a ∈ a.leaves := by
  cases a with
  | closure | native | error => exact ⟨Outline.leaf.inj left, List.mem_singleton_self _⟩
  | _ => cases left

theorem same_of_outline_eq (tells : Distinguishes label a b)
    (equal : a.outline label = b.outline label) : a.same b = true := by
  induction a generalizing b with
  | cell first rest _ ihFirst ihRest =>
    cases b with
    | cell first' rest' _ =>
      obtain ⟨equalFirst, equalRest⟩ := Outline.cell.inj equal
      have sameFirst : first.same first' = true := by
        refine ihFirst (fun p left q right => ?_) equalFirst
        exact tells p (List.mem_append_left _ left) q (List.mem_append_left _ right)
      have sameRest : rest.same rest' = true := by
        refine ihRest (fun p left q right => ?_) equalRest
        exact tells p (List.mem_append_right _ left) q (List.mem_append_right _ right)
      exact (Bool.and_eq_true _ _).mpr ⟨sameFirst, sameRest⟩
    | _ => cases equal
  | closure | native | error =>
    obtain ⟨labels, inside⟩ := leaf_of_outline equal.symm
    exact beq_of_eq (tells _ (List.mem_singleton_self _) b inside labels.symm)
  | nil | truth | symbol | integer =>
    cases b <;> cases equal
    simp [same]

/-- Structural equality compares outlines, for labels that tell the leaves apart. -/
theorem same_iff_outline (tells : Distinguishes label a b) :
    a.same b = true ↔ a.outline label = b.outline label :=
  ⟨outline_eq_of_same label, same_of_outline_eq tells⟩

/-- A leaf that is its own label is told apart from all others. -/
theorem distinguishes_id (a b : Value) : Distinguishes id a b := fun _ _ _ _ equal => equal

/-! ## What structurally equal values have in common -/

/-- Structurally equal values differ in their locations at most. -/
theorem alike_of_same (equal : a.same b = true) : a.Alike Coupling.anyLocation.toLikeness b := by
  have outlines := outline_eq_of_same id equal
  clear equal
  induction a generalizing b with
  | cell first rest _ ihFirst ihRest =>
    cases b with
    | cell first' rest' _ =>
      obtain ⟨equalFirst, equalRest⟩ := Outline.cell.inj outlines
      exact .cell (ihFirst equalFirst) (ihRest equalRest) trivial
    | _ => cases outlines
  | closure | native | error =>
    obtain ⟨itself, -⟩ := leaf_of_outline outlines.symm
    subst itself
    exact .refl (r := Coupling.anyLocation.toLikeness) (fun _ => trivial) _
  | nil | truth | symbol | integer =>
    cases b <;> cases outlines
    constructor
    trivial

theorem Alike.digest_eq {r : Likeness} {v v' : Value} (h : v.Alike r v') :
    v'.digest = v.digest := by
  induction h with
  | cell _ _ _ ihFirst ihRest => rw [digest, digest, ihFirst, ihRest]
  | error e => rw [digest, digest, e.identity]
  | _ => rfl

/-- Structural equality is a congruence, and neither digests nor printed forms tell structurally
equal values apart.

Two values are structurally equal if and only if the same tree is left of them when all locations
are erased, and each closure, native operator and error stands for itself. It may be replaced by its
identity as well, if no two of them share one. -/
theorem same_is_congruence (a b : Value) :
    (a.same b = true ↔ a.outline id = b.outline id) ∧
    (a.same b = true → a.outline identity? = b.outline identity?) ∧
    (Distinguishes identity? a b → a.outline identity? = b.outline identity? →
      a.same b = true) ∧
    a.same a = true ∧
    (a.same b = true → b.same a = true) ∧
    (∀ c, a.same b = true → b.same c = true → a.same c = true) ∧
    (∀ c d l l', a.same b = true → c.same d = true → (cell a c l).same (cell b d l') = true) ∧
    (a.same b = true → b.digest = a.digest ∧ b.text = a.text ∧ b.written = a.written) := by
  have outlines (a b : Value) := same_iff_outline (distinguishes_id a b)
  refine ⟨outlines a b, outline_eq_of_same identity?, same_of_outline_eq, same_self a,
    fun equal => ?_, fun c first second => ?_, fun c d l l' firsts rests => ?_, fun equal => ?_⟩
  · rw [outlines] at equal ⊢
    exact equal.symm
  · rw [outlines] at first second ⊢
    exact first.trans second
  · rw [outlines] at firsts rests ⊢
    rw [outline, outline, firsts, rests]
  · have alike := alike_of_same equal
    exact ⟨alike.digest_eq, alike.text_eq, alike.written_eq⟩

/-- A list of an empty function of the given identity and a native operator, located at a column. -/
def functionThenOperator (identity : Identity) (column : Int) : Value :=
  let function := closure .function (.nil .unknown) (.nil .unknown) 0 .unknown identity
  .cell function (.cell (.native .car 0) (.nil .unknown) .unknown) ⟨"text", 1, column⟩

/-- Lists of one function and one operator are structurally equal wherever they are located, and
lists of two functions are not, even though they print alike. -/
theorem functions_are_told_apart :
    Distinguishes identity? (functionThenOperator 1 1) (functionThenOperator 1 7) ∧
    (functionThenOperator 1 1).same (functionThenOperator 1 7) = true ∧
    Distinguishes identity? (functionThenOperator 1 1) (functionThenOperator 2 1) ∧
    (functionThenOperator 1 1).same (functionThenOperator 2 1) = false ∧
    (functionThenOperator 2 1).text = (functionThenOperator 1 1).text := by
  have one : Distinguishes identity? (functionThenOperator 1 1) (functionThenOperator 1 7) := by
    unfold Distinguishes
    decide
  have two : Distinguishes identity? (functionThenOperator 1 1) (functionThenOperator 2 1) := by
    unfold Distinguishes
    decide
  obtain ⟨-, -, same, -⟩ := same_is_congruence (functionThenOperator 1 1) (functionThenOperator 1 7)
  obtain ⟨-, outlines, -⟩ :=
    same_is_congruence (functionThenOperator 1 1) (functionThenOperator 2 1)
  refine ⟨one, same one rfl, two, ?_, rfl⟩
  rw [Bool.eq_false_iff]
  intro equal
  exact absurd (outlines equal) (by decide)

end Value

end MiniLisp
