import MiniLisp.ErrorValue
import MiniLisp.Operator

/-!
# Values

Code and data are of one type. A list is a chain of cells; it is proper if it ends in nil. Each
value carries a location, native operators excepted.

A closure keeps the number of the frame it was made in (`FrameId`), so values do not contain the
store. Closures, native operators and errors carry an identity, because they are equal only to
themselves.
-/

namespace MiniLisp

/-- The number of a frame in the store. -/
abbrev FrameId := Nat

/-- The two kinds of closures. A function receives the values of its arguments. An expander
receives them as they stand and produces code, which is evaluated in its place. -/
inductive ClosureKind
  | function
  | expander
deriving DecidableEq, Repr

/-- The kind of the closures of this sort. -/
def ClosureKind.kind : ClosureKind → Kind
  | function => .function
  | expander => .expander

/-- A value of the language. -/
inductive Value
  | nil (loc : Location)
  | truth (loc : Location)
  | symbol (name : String) (loc : Location)
  | integer (i : Int) (loc : Location)
  | cell (first rest : Value) (loc : Location)
  | closure (sort : ClosureKind) (params body : Value) (frame : FrameId) (loc : Location)
      (identity : Identity)
  | native (op : Operator) (identity : Identity)
  | error (e : ErrorValue)
deriving DecidableEq

namespace Value

instance : Inhabited Value := ⟨nil .unknown⟩

/-- The kind of a value. -/
def kind : Value → Kind
  | nil _ => .nil
  | truth _ => .truth
  | symbol .. => .symbol
  | integer .. => .integer
  | cell .. => .cell
  | closure sort .. => sort.kind
  | native .. => .native
  | error _ => .error

/-- The location of a value. -/
def loc : Value → Location
  | nil l => l
  | truth l => l
  | symbol _ l => l
  | integer _ l => l
  | cell _ _ l => l
  | closure _ _ _ _ l _ => l
  | native .. => .unknown
  | error e => e.loc

/-- The name of a symbol or a native operator. Other values have none. -/
def name? : Value → Option String
  | symbol name _ => some name
  | native op _ => some op.name
  | _ => none

/-- Only the value `t` counts as true. -/
def isTruth : Value → Bool
  | truth _ => true
  | _ => false

/-- The value is an error. -/
def isError : Value → Bool
  | error _ => true
  | _ => false

/-- The value is a symbol. -/
def isSymbol : Value → Bool
  | symbol .. => true
  | _ => false

/-! ## Lists -/

/-- The first halves of a chain of cells, up to the first value that is no cell. -/
def items : Value → List Value
  | cell first rest _ => first :: rest.items
  | _ => []

/-- The value is nil or a chain of cells that ends in nil. -/
def isList : Value → Bool
  | nil _ => true
  | cell _ rest _ => rest.isList
  | _ => false

/-- The chain of cells of some items before a given tail. Each cell is located where its item is. -/
def ofItems (tail : Value) : List Value → Value
  | [] => tail
  | v :: vs => cell v (ofItems tail vs) v.loc

@[simp] theorem items_ofItems (tail : Value) (vs : List Value) :
    (ofItems tail vs).items = vs ++ tail.items := by
  induction vs with
  | nil => rfl
  | cons v vs ih => simp [ofItems, items, ih]

@[simp] theorem isList_ofItems (tail : Value) (vs : List Value) :
    (ofItems tail vs).isList = tail.isList := by
  induction vs with
  | nil => rfl
  | cons v vs ih => simp [ofItems, isList, ih]

/-! ## Equality -/

/-- Structural equality, which ignores locations. Closures, native operators and errors have no
structure: they are equal only to themselves. Values are compared whatever their depth, since the
stack of the host is left out (`Settings`). -/
def same : Value → Value → Bool
  | nil _, nil _ => true
  | truth _, truth _ => true
  | symbol a _, symbol b _ => a == b
  | integer a _, integer b _ => a == b
  | cell a b _, cell c d _ => same a c && same b d
  | a@(closure ..), b => a == b
  | a@(native ..), b => a == b
  | a@(error _), b => a == b
  | _, _ => false

/-- A number that is the same for structurally equal values. -/
def digest : Value → UInt64
  | nil _ => 3
  | truth _ => 5
  | symbol name _ => mixHash 7 (hash name)
  | integer i _ => mixHash 11 (hash i)
  | cell first rest _ => mixHash 13 (mixHash first.digest rest.digest)
  | closure _ _ _ _ _ identity => mixHash 17 (hash identity)
  | native _ identity => mixHash 19 (hash identity)
  | error e => mixHash 23 (hash e.identity)

end Value

end MiniLisp
